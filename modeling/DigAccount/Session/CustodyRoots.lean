import DigAccount.Foundation.OrderedMap
import DigAccount.Session.AccountStore

namespace DigAccount

open Interleaving Interleaving.Protocol Occupancy DigSession KeychainBackend

theorem startsWith_iff {pattern s : String} :
    startsWith pattern s = true ↔ ∃ rest, s = pattern ++ rest := by
  rw [startsWith, List.isPrefixOf_iff_prefix]
  constructor
  · rintro ⟨rest, hrest⟩
    refine ⟨String.ofList rest, String.ext ?_⟩
    rw [String.toList_append, String.toList_ofList, hrest]
  · rintro ⟨rest, rfl⟩
    rw [String.toList_append]
    exact List.prefix_append _ _

theorem blobKey_injective {id other : String} (h : blobKey id = blobKey other) : id = other := by
  have hlists := congrArg String.toList h
  rw [blobKey, blobKey, String.toList_append, String.toList_append] at hlists
  exact String.ext (List.append_cancel_left hlists)

section Turns

variable {β α : Type} [KeychainBackend β] {P : KeychainAccess β → Prop}
  {p : Reads (KeychainAccess β) KeychainAnswer α}
  {post : List (Σ q : KeychainAccess β, KeychainAnswer q) → α → Prop}

def untimed (accesses : List (Σ q : KeychainAccess β, TurnAnswer q)) :
    List (Σ q : KeychainAccess β, KeychainAnswer q) :=
  accesses.map fun x => ⟨x.1, x.2.1⟩

omit [KeychainBackend β] in
theorem mem_untimed {accesses : List (Σ q : KeychainAccess β, TurnAnswer q)}
    {q : KeychainAccess β} {answer : KeychainAnswer q} (h : ⟨q, answer⟩ ∈ untimed accesses) :
    ∃ n, ⟨q, (answer, n)⟩ ∈ accesses := by
  obtain ⟨⟨q, answer, n⟩, hmem, hsame⟩ := List.mem_map.1 h
  cases hsame
  exact ⟨n, hmem⟩

omit [KeychainBackend β] in
theorem onTurns_asks (h : p.Asks P) : (onTurns p).Asks P := h.lift

omit [KeychainBackend β] in
theorem onTurns_ensures (h : p.Ensures post []) :
    (onTurns p).Ensures (fun accesses a => post (untimed accesses) a) [] :=
  h.lift fun _ (answer : TurnAnswer _) => answer.1

end Turns

section Custody

variable [DigSession]

def Permitted (asked : StoreCall → Prop) : KeychainAccess Blob → Prop
  | .holds _ | .read _ | .list _ => True
  | .writeNew key blob => ∀ id, key = blobKey id → ∃ password draw root entropy,
      asked (.enroll id password draw root) ∧ root.accountRoot = .ok entropy ∧
        Seals password entropy blob
  | .delete key => ∀ id, key = blobKey id → asked (.delete id)

theorem permitted_of_looks {asked : StoreCall → Prop} {q : KeychainAccess Blob} (h : q.Looks) :
    Permitted asked q := by
  cases q with
  | holds key => trivial
  | read key => trivial
  | list namePrefix => trivial
  | writeNew key blob => exact h.elim
  | delete key => exact h.elim

variable [KeychainBackend Blob]

def Frees (op : Σ q : KeychainAccess Blob, KeychainAnswer q) (key : String) : Prop :=
  op.1 = .delete key

def Leaves (op : Σ q : KeychainAccess Blob, KeychainAnswer q) (key : String) (blob : Blob) : Prop :=
  op.1 = .writeNew key blob ∨ op.1 = .delete key ∧ Scrubbed blob

namespace Keychain

structure Custody (asked : StoreCall → Prop) (start : Store Blob) (m : Keychain Blob) : Prop where
  taken : ∀ turn ∈ m.turns, ∃ s q, Permitted asked q ∧ turn = turnOf s q
  joined : ∀ id, Joined (blobKey id) (blobAt start (blobKey id)) m.turns
    (blobAt m.store (blobKey id))

variable {asked : StoreCall → Prop} {start : Store Blob} {m : Keychain Blob}
  {q : KeychainAccess Blob} {key : String} {blob : Blob} {n : Nat}

theorem custody_opened : Custody asked start (opened start) := by
  refine ⟨fun turn hturn => ?_, fun id => rfl⟩
  exact absurd hturn List.not_mem_nil

theorem Custody.perform (h : Custody asked start m) (hq : Permitted asked q) :
    Custody asked start (m.perform q).2 := by
  refine ⟨fun turn hturn => ?_, fun id => joined_concat.2 ⟨h.joined id, rfl⟩⟩
  rcases List.mem_append.1 hturn with hold | hnew
  · exact h.taken turn hold
  · exact ⟨m.store, q, hq, List.mem_singleton.1 hnew⟩

theorem Custody.disturb {change : Store Blob → Store Blob} (h : Custody asked start m)
    (hchange : LeavesAccounts change) : Custody asked start (m.disturb change) := by
  refine ⟨h.taken, fun id => ?_⟩
  rw [Keychain.disturb, hchange]
  exact h.joined id

def audit (asked : StoreCall → Prop) (start : Store Blob) :
    Audit (Keychain Blob) (KeychainAccess Blob) TurnAnswer Nat where
  perform := Keychain.perform
  Inv := Custody asked start
  Rely m later := m.turns <+: later.turns
  Guard _ _ := True
  rely_refl _ := List.prefix_refl _
  rely_trans _ _ _ h h' := h.trans h'
  Permit := Permitted asked
  Fact x m := ∃ turn, m.turns[x.2.2]? = some turn ∧ turn.op = ⟨x.1, x.2.1⟩
  Takes x turn := x.2.2 = turn
  Spent m turn := turn < m.turns.length
  kept _ _ h hq _ := h.perform hq
  relied _ _ := List.prefix_append _ _
  held m q _ := ⟨turnOf m.store q, List.getElem?_concat_length, rfl⟩
  fact_rely x m later h hlater := by
    obtain ⟨turn, hturn, hop⟩ := h
    obtain ⟨newer, hnewer⟩ := hlater
    refine ⟨turn, ?_, hop⟩
    rw [← hnewer, List.getElem?_append_left (List.getElem?_eq_some_iff.1 hturn).1, hturn]
  spent_rely _ _ _ h hlater := Nat.lt_of_lt_of_le h hlater.length_le
  takes_fresh m q turn _ h := by
    subst h
    refine ⟨Nat.lt_irrefl _, ?_⟩
    rw [Keychain.perform, List.length_append]
    exact Nat.lt_succ_self _

theorem fills_turnOf [LawfulBackend Blob] (s : Store Blob) (q : KeychainAccess Blob)
    (key : String) : Fills Leaves (turnOf s q) key := by
  intro blob hafter
  have look : q.Looks → blobAt s key = some blob := fun hlooks => by
    rw [← LawfulBackend.looks s q hlooks]
    exact hafter
  cases q with
  | holds other => exact .inl (look trivial)
  | read other => exact .inl (look trivial)
  | list namePrefix => exact .inl (look trivial)
  | writeNew other written =>
      by_cases hkey : key = other
      · subst hkey
        rcases LawfulBackend.writeNew_own s key written with hsame | hwritten
        · exact .inl (hsame.symm.trans hafter)
        · cases hwritten.symm.trans hafter
          exact .inr (.inl rfl)
      · exact .inl ((LawfulBackend.writeNew_else s other written key hkey).symm.trans hafter)
  | delete other =>
      by_cases hkey : key = other
      · subst hkey
        rcases LawfulBackend.delete_own s key blob hafter with hheld | hscrubbed
        · exact .inl hheld
        · exact .inr (.inr ⟨rfl, hscrubbed⟩)
      · exact .inl ((LawfulBackend.delete_else s other key hkey).symm.trans hafter)

theorem keeps_turnOf [LawfulBackend Blob] (atomic : writeNewExclusivity Blob = .atomic)
    (s : Store Blob) (q : KeychainAccess Blob) (key : String) :
    Keeps Frees (turnOf s q) key := by
  intro blob hbefore
  have look : q.Looks → blobAt (KeychainBackend.perform s q).2 key = some blob := fun hlooks => by
    rw [LawfulBackend.looks s q hlooks]
    exact hbefore
  cases q with
  | holds other => exact .inl (look trivial)
  | read other => exact .inl (look trivial)
  | list namePrefix => exact .inl (look trivial)
  | writeNew other written =>
      by_cases hkey : key = other
      · subst hkey
        exact .inl (LawfulBackend.writeNew_exclusive atomic s key written blob hbefore).2
      · exact .inl ((LawfulBackend.writeNew_else s other written key hkey).trans hbefore)
  | delete other =>
      by_cases hkey : key = other
      · subst hkey
        exact .inr rfl
      · exact .inl ((LawfulBackend.delete_else s other key hkey).trans hbefore)

theorem Custody.fills [LawfulBackend Blob] (h : Custody asked start m) (key : String) :
    ∀ turn ∈ m.turns, Fills Leaves turn key := by
  intro turn hturn
  obtain ⟨s, q, -, rfl⟩ := h.taken turn hturn
  exact fills_turnOf s q key

theorem Custody.keeps [LawfulBackend Blob] (atomic : writeNewExclusivity Blob = .atomic)
    (h : Custody asked start m) (key : String) : ∀ turn ∈ m.turns, Keeps Frees turn key := by
  intro turn hturn
  obtain ⟨s, q, -, rfl⟩ := h.taken turn hturn
  exact keeps_turnOf atomic s q key

theorem Custody.turn (h : Custody asked start m) {answer : KeychainAnswer q}
    (hfact : (audit asked start).Fact ⟨q, (answer, n)⟩ m) :
    ∃ s, m.turns[n]? = some (turnOf s q) ∧ (KeychainBackend.perform s q).1 = answer := by
  obtain ⟨turn, hturn, hop⟩ := hfact
  obtain ⟨s, other, -, rfl⟩ := h.taken turn (List.mem_of_getElem? hturn)
  obtain ⟨rfl, hanswer⟩ := Sigma.mk.inj hop
  exact ⟨s, hturn, eq_of_heq hanswer⟩

end Keychain

namespace AccountStore

open Keychain

variable {asked : StoreCall → Prop} {start : Store Blob} {m : Keychain Blob} {id : String}
  {password : Password} {draw : Draw} {root : EnrolmentRoot} {blob : Blob} {seed : Seed} {n : Nat}

def Transcript : (call : StoreCall) → List (Σ q : KeychainAccess Blob, KeychainAnswer q) →
    StoreAnswer call → Prop
  | .isEnrolled id, accesses, .ok known => ⟨.holds (blobKey id), .ok known⟩ ∈ accesses
  | .enroll id password _ root, accesses, .ok seed => ∃ entropy blob,
      root.accountRoot = .ok entropy ∧ seed = expand entropy ∧ Seals password entropy blob ∧
        ⟨.writeNew (blobKey id) blob, .ok ()⟩ ∈ accesses
  | .enroll id _ _ _, accesses, .error (.alreadyExists named) =>
      named = id ∧ ⟨.holds (blobKey id), .ok true⟩ ∈ accesses
  | .unlock id password, accesses, .ok seed => ∃ blob,
      Opens password blob seed ∧ ⟨.read (blobKey id), .ok blob⟩ ∈ accesses
  | .unlock id _, accesses, .error (.notFound named)
  | .delete id, accesses, .error (.notFound named) =>
      named = id ∧ ⟨.holds (blobKey id), .ok false⟩ ∈ accesses
  | .delete id, accesses, .ok () => ⟨.delete (blobKey id), .ok ()⟩ ∈ accesses
  | _, _, _ => True

omit [KeychainBackend Blob] in
theorem isEnrolled_asks : Reads.Asks (Permitted asked) (isEnrolled id) :=
  Fallible.asks_mapError ⟨trivial, fun _ => trivial⟩

omit [KeychainBackend Blob] in
theorem asks_ifEnrolled {α : Type} {standing absent : StoreCode α}
    (hstanding : Reads.Asks (Permitted asked) standing)
    (habsent : Reads.Asks (Permitted asked) absent) :
    Reads.Asks (Permitted asked)
      ((do
        let known ← isEnrolled id
        if known then standing else absent) : StoreCode α) := by
  refine Fallible.asks_attempt isEnrolled_asks fun known => ?_
  cases known with
  | false => exact habsent
  | true => exact hstanding

theorem unlock_asks [LawfulSession] : Reads.Asks (Permitted asked) (unlock id password) :=
  asks_ifEnrolled (Fallible.asks_mapError
    ((LawfulSession.unlock_asks _ password).imp fun _ => permitted_of_looks)) trivial

omit [KeychainBackend Blob] in
theorem permitted_of_enrols (hasked : asked (.enroll id password draw root))
    {q : KeychainAccess Blob} (h : Enrols (blobKey id) password root.accountRoot q) :
    Permitted asked q := by
  rcases h with hlooks | ⟨entropy, blob, hroot, hseals, rfl⟩
  · exact permitted_of_looks hlooks
  · intro other hother
    obtain rfl := blobKey_injective hother
    exact ⟨password, draw, root, entropy, hasked, hroot, hseals⟩

theorem code_asks [LawfulSession] (call : StoreCall) (hasked : asked call) :
    (code call).Asks (Permitted asked) := by
  cases call with
  | isEnrolled id => exact isEnrolled_asks
  | unlock id password => exact unlock_asks
  | list =>
      exact Fallible.asks_attempt (Fallible.asks_mapError ⟨trivial, fun _ => trivial⟩)
        fun _ => trivial
  | delete id =>
      refine asks_ifEnrolled (Fallible.asks_mapError ⟨fun other hother => ?_, fun _ => trivial⟩)
        trivial
      exact blobKey_injective hother ▸ hasked
  | enroll id password draw root =>
      cases root with
      | entropy entropy =>
          exact asks_ifEnrolled trivial (Fallible.asks_mapError
            ((LawfulSession.enroll_asks draw _ password entropy).imp
              fun _ => permitted_of_enrols hasked))
      | phrase words =>
          exact asks_ifEnrolled trivial (Fallible.asks_mapError
            ((LawfulSession.restore_asks draw _ password words).imp
              fun _ => permitted_of_enrols hasked))

omit [KeychainBackend Blob] in
theorem ensures_ifEnrolled {α : Type} {standing absent : StoreCode α}
    {post : List (Σ q : KeychainAccess Blob, KeychainAnswer q) →
      Except AccountStoreError α → Prop}
    (hfault : ∀ trace why, post trace (.error (.backend why)))
    (hstanding : Reads.Ensures post [⟨.holds (blobKey id), .ok true⟩] standing)
    (habsent : Reads.Ensures post [⟨.holds (blobKey id), .ok false⟩] absent) :
    Reads.Ensures post []
      ((do
        let known ← isEnrolled id
        if known then standing else absent) : StoreCode α) := by
  intro known
  rcases known with why | known
  · exact hfault _ why
  · cases known with
    | false => exact habsent
    | true => exact hstanding

omit [KeychainBackend Blob] in
theorem sealed_ensures {p : Reads (KeychainAccess Blob) KeychainAnswer (Except String Seed)}
    (h : p.Ensures (SealedBy (blobKey id) password root.accountRoot) [])
    {past : List (Σ q : KeychainAccess Blob, KeychainAnswer q)} :
    Reads.Ensures (Transcript (.enroll id password draw root)) past
      (Fallible.mapError .session p) := by
  refine Fallible.ensures_mapError ((h.resume past).mono fun trace result hresult => ?_)
  obtain ⟨newer, hsealed, rfl⟩ := hresult
  cases result with
  | error e => trivial
  | ok seed =>
      obtain ⟨entropy, blob, hroot, hseed, hseals, hwritten⟩ := hsealed seed rfl
      exact ⟨entropy, blob, hroot, hseed, hseals, List.mem_append_left _ hwritten⟩

theorem opened_ensures [LawfulSession]
    {past : List (Σ q : KeychainAccess Blob, KeychainAnswer q)} :
    Reads.Ensures (Transcript (.unlock id password)) past
      (Fallible.mapError .session (unlockMasterSeed (blobKey id) password)) := by
  refine Fallible.ensures_mapError
    (((LawfulSession.unlock_ensures _ password).resume past).mono fun trace result hresult => ?_)
  obtain ⟨newer, hopened, rfl⟩ := hresult
  cases result with
  | error e => trivial
  | ok seed =>
      obtain ⟨blob, hopens, hread⟩ := hopened seed rfl
      exact ⟨blob, hopens, List.mem_append_left _ hread⟩

theorem code_ensures [LawfulSession] (call : StoreCall) :
    (code call).Ensures (Transcript call) [] := by
  cases call with
  | isEnrolled id =>
      refine fun known => ?_
      cases known with
      | error e => trivial
      | ok known => exact List.mem_cons_self ..
  | list => exact Reads.ensures_of_forall (fun _ _ => trivial) _ _
  | unlock id password =>
      exact ensures_ifEnrolled (fun _ _ => trivial) opened_ensures ⟨rfl, List.mem_cons_self ..⟩
  | delete id =>
      refine ensures_ifEnrolled (fun _ _ => trivial) (fun result => ?_)
        ⟨rfl, List.mem_cons_self ..⟩
      cases result with
      | error e => trivial
      | ok done => exact List.mem_cons_self ..
  | enroll id password draw root =>
      cases root with
      | entropy entropy =>
          exact ensures_ifEnrolled (fun _ _ => trivial) ⟨rfl, List.mem_cons_self ..⟩
            (sealed_ensures (LawfulSession.enroll_ensures ..))
      | phrase words =>
          exact ensures_ifEnrolled (fun _ _ => trivial) ⟨rfl, List.mem_cons_self ..⟩
            (sealed_ensures (LawfulSession.restore_ensures ..))

def Saw (m : Keychain Blob) (accesses : List (Σ q : KeychainAccess Blob, TurnAnswer q))
    (id : String) (known : Bool) : Prop :=
  ∃ n turn, ⟨.holds (blobKey id), (.ok known, n)⟩ ∈ accesses ∧ m.turns[n]? = some turn ∧
    (turn.before (blobKey id)).isSome = known

def Sealed (m : Keychain Blob) (id : String) (blob : Blob) (n : Nat) : Prop :=
  ∃ turn, m.turns[n]? = some turn ∧ turn.before (blobKey id) = none ∧
    turn.after (blobKey id) = some blob

def Deleted (m : Keychain Blob) (id : String) (n : Nat) : Prop :=
  ∃ turn, m.turns[n]? = some turn ∧ Frees turn.op (blobKey id)

def Enrolled (asked : StoreCall → Prop) (start : Store Blob) (m : Keychain Blob) (id : String)
    (password : Password) (blob : Blob) (seed : Seed) (n : Nat) : Prop :=
  Opens password blob seed ∧
    (∃ turn, m.turns[n]? = some turn ∧ turn.before (blobKey id) = some blob) ∧
    (blobAt start (blobKey id) = some blob ∨
      ∃ draw root entropy k earlier, asked (.enroll id password draw root) ∧
        root.accountRoot = .ok entropy ∧ Seals password entropy blob ∧ seed = expand entropy ∧
          k < n ∧ m.turns[k]? = some earlier ∧ earlier.op.1 = .writeNew (blobKey id) blob)

theorem enrolled_of_read [LawfulBackend Blob] [LawfulSession] (h : Custody asked start m)
    (hread : (audit asked start).Fact ⟨.read (blobKey id), (.ok blob, n)⟩ m)
    (hopens : Opens password blob seed) : Enrolled asked start m id password blob seed n := by
  obtain ⟨s, hturn, hanswer⟩ := h.turn hread
  have hheld : (turnOf s (.read (blobKey id))).before (blobKey id) = some blob :=
    LawfulBackend.read_ok s _ blob hanswer
  refine ⟨hopens, ⟨_, hturn, hheld⟩, ?_⟩
  rcases held_before (h.joined id) (h.fills (blobKey id)) hturn hheld with
    hstart | ⟨k, earlier, hk, hearlier, hwritten | ⟨-, hscrubbed⟩⟩
  · exact .inl hstart
  · obtain ⟨s, q, hpermitted, rfl⟩ := h.taken earlier (List.mem_of_getElem? hearlier)
    cases hwritten
    obtain ⟨sealing, draw, root, entropy, hasked, hroot, hseals⟩ := hpermitted id rfl
    obtain ⟨rfl, rfl⟩ := LawfulSession.opens_sealed _ _ _ _ _ hopens hseals
    exact .inr ⟨draw, root, entropy, k, _, hasked, hroot, hseals, rfl, hk, hearlier, rfl⟩
  · exact absurd hscrubbed (LawfulSession.scrubbed_closed _ _ _ hopens)

theorem saw_of_holds [LawfulBackend Blob] (h : Custody asked start m)
    {accesses : List (Σ q : KeychainAccess Blob, TurnAnswer q)}
    (facts : ∀ x ∈ accesses, (audit asked start).Fact x m) {known : Bool}
    (hknown : ⟨.holds (blobKey id), .ok known⟩ ∈ untimed accesses) : Saw m accesses id known := by
  obtain ⟨n, hmem⟩ := mem_untimed hknown
  obtain ⟨s, hturn, hanswer⟩ := h.turn (facts _ hmem)
  exact ⟨n, _, hmem, hturn, LawfulBackend.holds_ok s _ known hanswer⟩

variable {w : AttendedStore} {actions : List (Action StoreCall (Store Blob → Store Blob))}

def CalledIn (actions : List (Action StoreCall (Store Blob → Store Blob))) (call : StoreCall) :
    Prop :=
  ∃ thread, .call thread call ∈ actions

theorem run_keeps [LawfulSession]
    (foreign : ∀ change, .disturb change ∈ actions → LeavesAccounts change)
    (h : PartialMachine.run next (.idle (.opened start)) actions = some w) :
    Custody (CalledIn actions) start w.system.shared ∧
      (∀ reply ∈ w.replies, Transcript reply.call (untimed reply.accesses) reply.answer ∧
        ∀ x ∈ reply.accesses, (audit (CalledIn actions) start).Fact x w.system.shared) ∧
      w.replies.Pairwise fun later earlier => ∀ x ∈ later.accesses, ∀ y ∈ earlier.accesses,
        ∀ turn, x.2.2 = turn → ¬ y.2.2 = turn :=
  (audit (CalledIn actions) start).outcome_of_run
    (fun thread call hcall => ⟨onTurns_asks (code_asks call ⟨thread, hcall⟩),
      onTurns_ensures (code_ensures call)⟩)
    (fun change hchange _ hm => hm.disturb (foreign change hchange))
    (fun _ _ => List.prefix_refl _) custody_opened (fun _ _ _ _ _ _ _ => trivial) h

theorem custody_root_never_overwritten [LawfulBackend Blob] [LawfulSession]
    (atomic : writeNewExclusivity Blob = .atomic)
    (foreign : ∀ change, .disturb change ∈ actions → LeavesAccounts change)
    (h : PartialMachine.run next (.idle (.opened start)) actions = some w) :
    (∀ id password draw root accesses seed,
      ⟨.enroll id password draw root, accesses, .ok seed⟩ ∈ w.replies →
        ∃ entropy blob n, root.accountRoot = .ok entropy ∧ seed = expand entropy ∧
          Seals password entropy blob ∧ ⟨.writeNew (blobKey id) blob, (.ok (), n)⟩ ∈ accesses ∧
          Sealed w.system.shared id blob n ∧
          (blobAt w.system.shared.store (blobKey id) = some blob ∨
            ∃ m, n < m ∧ Deleted w.system.shared id m)) ∧
      (w.replies.Pairwise fun later earlier => ∀ id blob other (n m : Nat),
        ⟨.writeNew (blobKey id) blob, (.ok (), n)⟩ ∈ later.accesses →
          ⟨.writeNew (blobKey id) other, (.ok (), m)⟩ ∈ earlier.accesses → n ≠ m ∧
            ∃ j, min n m < j ∧ j < max n m ∧ Deleted w.system.shared id j) ∧
      (∀ id n, Deleted w.system.shared id n → CalledIn actions (.delete id)) ∧
      (∀ id blob, blobAt start (blobKey id) = some blob →
        blobAt w.system.shared.store (blobKey id) = some blob ∨
          ∃ n, Deleted w.system.shared id n) ∧
      (∀ id password accesses seed, ⟨.unlock id password, accesses, .ok seed⟩ ∈ w.replies →
        ∃ blob n, ⟨.read (blobKey id), (.ok blob, n)⟩ ∈ accesses ∧
          Enrolled (CalledIn actions) start w.system.shared id password blob seed n) ∧
      ∀ reply ∈ w.replies, match reply with
        | ⟨.isEnrolled id, accesses, .ok known⟩ => Saw w.system.shared accesses id known
        | ⟨.enroll id _ _ _, accesses, .error (.alreadyExists named)⟩ =>
            named = id ∧ Saw w.system.shared accesses id true
        | ⟨.unlock id _, accesses, .error (.notFound named)⟩
        | ⟨.delete id, accesses, .error (.notFound named)⟩ =>
            named = id ∧ Saw w.system.shared accesses id false
        | ⟨.delete id, accesses, .ok ()⟩ => ∃ n turn,
            ⟨.delete (blobKey id), (.ok (), n)⟩ ∈ accesses ∧
              w.system.shared.turns[n]? = some turn ∧ turn.after (blobKey id) = none
        | _ => True := by
  obtain ⟨hcustody, hreplies, honce⟩ := run_keeps foreign h
  have hkeeps := hcustody.keeps atomic
  -- a completed create-if-absent found its key empty, or exclusivity had refused it
  have created : ∀ reply ∈ w.replies, ∀ id blob (n : Nat),
      ⟨.writeNew (blobKey id) blob, (.ok (), n)⟩ ∈ reply.accesses →
        Sealed w.system.shared id blob n := by
    intro reply hreply id blob n hwritten
    obtain ⟨s, hturn, hanswer⟩ := hcustody.turn ((hreplies reply hreply).2 _ hwritten)
    refine ⟨_, hturn, ?_, LawfulBackend.writeNew_ok s _ blob hanswer⟩
    refine Option.eq_none_iff_forall_ne_some.2 fun held hheld => ?_
    exact (LawfulBackend.writeNew_exclusive atomic s _ blob held hheld).1 hanswer
  refine ⟨fun id password draw root accesses seed hreply => ?_, ?_,
    fun id n hdeleted => ?_,
    fun id blob hstart => stands_or_freed (hstart ▸ hcustody.joined id) (hkeeps _),
    fun id password accesses seed hreply => ?_, fun reply hreply => ?_⟩
  · obtain ⟨⟨entropy, blob, hroot, hseed, hseals, hwritten⟩, -⟩ := hreplies _ hreply
    obtain ⟨n, hmem⟩ := mem_untimed hwritten
    have hsealed := created _ hreply id blob n hmem
    refine ⟨entropy, blob, n, hroot, hseed, hseals, hmem, hsealed, ?_⟩
    obtain ⟨turn, hturn, -, hafter⟩ := hsealed
    rcases stands_after (hcustody.joined id) (hkeeps _) hturn hafter with
      hstands | ⟨m, later, hm, hlater⟩
    · exact .inl hstands
    · exact .inr ⟨m, hm, later, hlater⟩
  · refine honce.imp_of_mem fun {later earlier} hlater hearlier hdistinct => ?_
    intro id blob other n m hwritten hprior
    have hne : n ≠ m := fun hsame => hdistinct _ hwritten _ hprior n rfl hsame.symm
    obtain ⟨turn, hturn, hbefore, hafter⟩ := created later hlater id blob n hwritten
    obtain ⟨first, hfirst, hempty, hleft⟩ := created earlier hearlier id other m hprior
    refine ⟨hne, ?_⟩
    rcases Nat.lt_or_gt_of_ne hne with hlt | hgt
    · obtain ⟨j, freeing, hj⟩ :=
        freed_between (hcustody.joined id) (hkeeps _) hturn hafter hfirst hempty hlt
      exact ⟨j, by omega, by omega, freeing, hj.2.2⟩
    · obtain ⟨j, freeing, hj⟩ :=
        freed_between (hcustody.joined id) (hkeeps _) hfirst hleft hturn hbefore hgt
      exact ⟨j, by omega, by omega, freeing, hj.2.2⟩
  · obtain ⟨turn, hturn, hfrees⟩ := hdeleted
    obtain ⟨s, q, hpermitted, rfl⟩ := hcustody.taken turn (List.mem_of_getElem? hturn)
    cases hfrees
    exact hpermitted id rfl
  · obtain ⟨⟨blob, hopens, hread⟩, hfacts⟩ := hreplies _ hreply
    obtain ⟨n, hmem⟩ := mem_untimed hread
    exact ⟨blob, n, hmem, enrolled_of_read hcustody (hfacts _ hmem) hopens⟩
  · obtain ⟨htranscript, hfacts⟩ := hreplies reply hreply
    split
    · exact saw_of_holds hcustody hfacts htranscript
    · exact ⟨htranscript.1, saw_of_holds hcustody hfacts htranscript.2⟩
    · exact ⟨htranscript.1, saw_of_holds hcustody hfacts htranscript.2⟩
    · exact ⟨htranscript.1, saw_of_holds hcustody hfacts htranscript.2⟩
    · obtain ⟨n, hmem⟩ := mem_untimed htranscript
      obtain ⟨s, hturn, hanswer⟩ := hcustody.turn (hfacts _ hmem)
      exact ⟨n, _, hmem, hturn, LawfulBackend.delete_ok s _ hanswer⟩
    · trivial

end AccountStore

end Custody

section Example

abbrev memoryBackend (β : Type) : KeychainBackend β where
  Store := List (String × β)
  perform blobs
    | .holds key => (.ok (OrderedMap.get blobs key).isSome, blobs)
    | .read key =>
        match OrderedMap.get blobs key with
        | some blob => (.ok blob, blobs)
        | none => (.error "no blob under this key", blobs)
    | .writeNew key blob =>
        match OrderedMap.get blobs key with
        | some _ => (.error "a blob already exists under this key", blobs)
        | none => (.ok (), (key, blob) :: blobs)
    | .list namePrefix => (.ok ((blobs.map Prod.fst).filter (startsWith namePrefix)), blobs)
    | .delete key => (.ok (), OrderedMap.erase blobs key)
  blobAt := OrderedMap.get
  Scrubbed _ := False
  writeNewExclusivity := .atomic

theorem memoryBackend_lawful (β : Type) : letI := memoryBackend β; LawfulBackend β := by
  let _ := memoryBackend β
  refine ⟨fun s key known h => Except.ok.inj h, fun s key blob h => ?_, fun s q hlooks => ?_,
    fun s key blob h => ?_, fun s key blob => ?_, fun s key blob other hother => ?_,
    fun _ s key blob held hheld => ?_, fun s key _ => ?_, fun s key blob h => ?_,
    fun s key other hother => ?_⟩
  · simp only [KeychainBackend.perform] at h
    split at h
    · rename_i hget
      cases h
      exact hget
    · cases h
  · cases q with
    | holds key => rfl
    | list namePrefix => rfl
    | read key =>
        simp only [KeychainBackend.perform]
        split
        · rfl
        · rfl
    | writeNew key blob => exact hlooks.elim
    | delete key => exact hlooks.elim
  · simp only [KeychainBackend.perform] at h ⊢
    split at h
    · cases h
    · rename_i hfree
      simp only [blobAt, hfree, OrderedMap.get_cons, if_true]
  · simp only [KeychainBackend.perform]
    split
    · exact .inl rfl
    · right
      simp only [blobAt, OrderedMap.get_cons, if_true]
  · simp only [KeychainBackend.perform]
    split
    · rfl
    · simp only [blobAt, OrderedMap.get_cons, if_neg (Ne.symm hother)]
  · have hheld : OrderedMap.get s key = some held := hheld
    simp only [KeychainBackend.perform, hheld]
    refine ⟨fun hok => ?_, hheld⟩
    cases hok
  · simp only [KeychainBackend.perform, blobAt, OrderedMap.get_erase, if_true]
  · simp only [KeychainBackend.perform, blobAt, OrderedMap.get_erase, if_true] at h
    cases h
  · simp only [KeychainBackend.perform, blobAt, OrderedMap.get_erase, if_neg hother]

abbrev plainSession : DigSession where
  Password := String
  Draw := Nat
  Entropy := Nat
  Blob := String × Nat × Nat
  Seed := Nat
  expand entropy := entropy * 2
  entropyOfPhrase phrase := .ok phrase.length
  Seals password entropy blob := blob.1 = password ∧ blob.2.2 = entropy
  Opens password blob seed := blob.1 = password ∧ seed = blob.2.2 * 2
  enrollMasterSeed draw key password entropy :=
    .ask (.writeNew key (password, draw, entropy)) fun written =>
      .ret (written.map fun () => entropy * 2)
  enrollFromRecoveryPhrase draw key password phrase :=
    .ask (.writeNew key (password, draw, phrase.length)) fun written =>
      .ret (written.map fun () => phrase.length * 2)
  unlockMasterSeed key presented :=
    .ask (.read key) fun
      | .error why => .ret (.error why)
      | .ok blob =>
          .ret (if blob.1 = presented then .ok (blob.2.2 * 2) else .error "wrong password")

theorem plainSession_lawful :
    letI := plainSession; letI := memoryBackend Blob; LawfulSession := by
  let _ := plainSession
  let _ := memoryBackend Blob
  have seals : ∀ (draw entropy : Nat) (key password : String),
      Reads.Ensures (A := KeychainAnswer) (SealedBy key password (.ok entropy)) []
        (.ask (.writeNew key (password, draw, entropy)) fun written =>
          .ret (written.map fun () => entropy * 2)) := by
    intro draw entropy key password written seed hseed
    cases written with
    | error why => cases hseed
    | ok done =>
        cases hseed
        exact ⟨entropy, _, rfl, rfl, ⟨rfl, rfl⟩, List.mem_cons_self ..⟩
  refine ⟨fun draw key password entropy =>
      ⟨.inr ⟨entropy, _, rfl, ⟨rfl, rfl⟩, rfl⟩, fun _ => trivial⟩,
    fun draw key password entropy => seals draw entropy key password,
    fun draw key password phrase => ⟨.inr ⟨_, _, rfl, ⟨rfl, rfl⟩, rfl⟩, fun _ => trivial⟩,
    fun draw key password phrase => seals draw phrase.length key password,
    fun key password => ⟨trivial, fun blob => ?_⟩, fun key password blob => ?_, ?_, nofun⟩
  · cases blob with
    | error why => trivial
    | ok blob => trivial
  · cases blob with
    | error why => exact fun seed hseed => by cases hseed
    | ok blob =>
        intro seed hseed
        split at hseed
        · rename_i hsame
          cases hseed
          exact ⟨blob, ⟨hsame, rfl⟩, List.mem_cons_self ..⟩
        · cases hseed
  · rintro presented password entropy blob seed ⟨rfl, rfl⟩ ⟨rfl, rfl⟩
    exact ⟨rfl, rfl⟩

def withSettings {β : Type} (blob : β) (blobs : List (String × β)) : List (String × β) :=
  ("settings", blob) :: OrderedMap.erase blobs "settings"

theorem leavesAccounts_withSettings {β : Type} (blob : β) :
    letI := memoryBackend β; @LeavesAccounts β _ (withSettings blob) := by
  let _ := memoryBackend β
  intro blobs id
  have hkey : "settings" ≠ blobKey id := fun hsame => by
    have hstarts := startsWith_iff.2 ⟨id, hsame⟩
    revert hstarts
    decide
  simp only [blobAt, withSettings, OrderedMap.get_cons, OrderedMap.get_erase, if_neg hkey,
    if_neg (Ne.symm hkey)]

def enrolmentActions :
    letI := plainSession; letI := memoryBackend Blob
    List (Interleaving.Action StoreCall (Store Blob → Store Blob)) :=
  letI := plainSession
  letI := memoryBackend Blob
  [.call 0 (.enroll "desk" "a" (3 : Nat) (.entropy (5 : Nat))),
    .call 1 (.enroll "desk" "b" (4 : Nat) (.phrase "legal winner")),
    .step 0, .step 1, .step 1, .step 1, .step 0, .step 0, .call 0 (.unlock "desk" "b"),
    .disturb (withSettings ("", 0, 0)), .step 0, .step 0, .step 0, .call 2 (.delete "desk"),
    .step 2, .step 2, .step 2, .call 0 (.enroll "desk" "a" (6 : Nat) (.entropy (5 : Nat))),
    .step 0, .step 0, .step 0, .call 1 .list, .step 1, .step 1]

theorem custody_root_never_overwritten_desk :
    letI := plainSession
    letI := memoryBackend Blob
    ∃ w, PartialMachine.run AccountStore.next (.idle (.opened [])) enrolmentActions = some w ∧
      w.replies.length = 6 ∧
      w.system.shared.store =
        [("account.desk", "a", (6 : Nat), (5 : Nat)), ("settings", "", 0, 0)] ∧
      (∀ id n, AccountStore.Deleted w.system.shared id n →
        AccountStore.CalledIn enrolmentActions (.delete id)) ∧
      w.replies.Pairwise fun later earlier => ∀ id blob other (n m : Nat),
        ⟨.writeNew (blobKey id) blob, (.ok (), n)⟩ ∈ later.accesses →
          ⟨.writeNew (blobKey id) other, (.ok (), m)⟩ ∈ earlier.accesses → n ≠ m ∧
            ∃ j, min n m < j ∧ j < max n m ∧ AccountStore.Deleted w.system.shared id j := by
  let _ := plainSession
  let _ := memoryBackend Blob
  have : LawfulBackend Blob := memoryBackend_lawful _
  have : LawfulSession := plainSession_lawful
  have hsummary : (PartialMachine.run AccountStore.next (.idle (.opened [])) enrolmentActions).map
      (fun w => (w.replies.length, (w.system.shared.store : List (String × String × Nat × Nat)))) =
        some (6, [("account.desk", "a", 6, 5), ("settings", "", 0, 0)]) := by
    decide +kernel
  obtain ⟨w, hrun, hsame⟩ := Option.map_eq_some_iff.1 hsummary
  obtain ⟨hlength, hstore⟩ := Prod.mk.inj hsame
  have foreign : ∀ change, .disturb change ∈ enrolmentActions → LeavesAccounts change := by
    intro change hchange
    simp only [enrolmentActions, List.mem_cons, List.not_mem_nil, or_false, reduceCtorEq,
      false_or, Interleaving.Action.disturb.injEq] at hchange
    subst hchange
    exact leavesAccounts_withSettings _
  obtain ⟨-, honce, hdeleted, -⟩ :=
    AccountStore.custody_root_never_overwritten rfl foreign hrun
  exact ⟨w, hrun, hlength, hstore, hdeleted, honce⟩

end Example

end DigAccount
