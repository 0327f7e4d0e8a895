import DigAccount.Foundation.Replies

namespace Reads

variable {Q : Type} {A : Q → Type} {α β : Type}

def Asks (P : Q → Prop) : Reads Q A α → Prop
  | ret _ => True
  | ask q next => P q ∧ ∀ answer, Asks P (next answer)

def Ensures (post : List (Σ q, A q) → α → Prop) : List (Σ q, A q) → Reads Q A α → Prop
  | past, ret value => post past value
  | past, ask q next => ∀ answer, Ensures post (⟨q, answer⟩ :: past) (next answer)

variable {P : Q → Prop} {p : Reads Q A α} {f : α → Reads Q A β} {past : List (Σ q, A q)}
  {post : List (Σ q, A q) → α → Prop} {after : List (Σ q, A q) → β → Prop}

theorem Asks.bind (hp : p.Asks P) (hf : ∀ a, (f a).Asks P) : (p.bind f).Asks P := by
  induction p with
  | ret value => exact hf value
  | ask q next ih => exact ⟨hp.1, fun answer => ih answer (hp.2 answer)⟩

theorem Asks.imp {P' : Q → Prop} (h : p.Asks P) (himp : ∀ q, P q → P' q) : p.Asks P' := by
  induction p with
  | ret value => trivial
  | ask q next ih => exact ⟨himp q h.1, fun answer => ih answer (h.2 answer)⟩

theorem asks_of_forall (h : ∀ q, P q) (p : Reads Q A α) : p.Asks P := by
  induction p with
  | ret value => trivial
  | ask q next ih => exact ⟨h q, fun answer => ih answer⟩

theorem Ensures.mono {weaker : List (Σ q, A q) → α → Prop} (h : p.Ensures post past)
    (hpost : ∀ trace a, post trace a → weaker trace a) : p.Ensures weaker past := by
  induction p generalizing past with
  | ret value => exact hpost past value h
  | ask q next ih => exact fun answer => ih answer (h answer)

theorem Ensures.bind (h : p.Ensures (fun trace a => (f a).Ensures after trace) past) :
    (p.bind f).Ensures after past := by
  induction p generalizing past with
  | ret value => exact h
  | ask q next ih => exact fun answer => ih answer (h answer)

theorem ensures_of_forall (h : ∀ trace a, post trace a) (p : Reads Q A α)
    (past : List (Σ q, A q)) : p.Ensures post past := by
  induction p generalizing past with
  | ret value => exact h past value
  | ask q next ih => exact fun answer => ih answer _

theorem Ensures.suffix (h : p.Ensures post past) :
    p.Ensures (fun trace a => post trace a ∧ past <:+ trace) past := by
  induction p generalizing past with
  | ret value => exact ⟨h, List.suffix_refl _⟩
  | ask q next ih =>
      exact fun answer => (ih answer (h answer)).mono fun trace a hafter =>
        ⟨hafter.1, (List.suffix_cons _ _).trans hafter.2⟩

theorem Ensures.asked (h : p.Ensures post past) (hasks : p.Asks P) (hpast : ∀ x ∈ past, P x.1) :
    p.Ensures (fun trace a => post trace a ∧ ∀ x ∈ trace, P x.1) past := by
  induction p generalizing past with
  | ret value => exact ⟨h, hpast⟩
  | ask q next ih =>
      intro answer
      refine ih answer (h answer) (hasks.2 answer) fun x hx => ?_
      rcases List.mem_cons.1 hx with rfl | hold
      · exact hasks.1
      · exact hpast x hold

theorem Asks.lift {Q' : Type} {A' : Q' → Type} {embed : Q → Q'}
    {answer : ∀ q, A' (embed q) → A q} {P' : Q' → Prop} (h : p.Asks fun q => P' (embed q)) :
    (p.lift embed answer).Asks P' := by
  induction p with
  | ret value => trivial
  | ask q next ih => exact ⟨h.1, fun a => ih _ (h.2 _)⟩

theorem Ensures.resume_from (h : p.Ensures post past) (older : List (Σ q, A q)) :
    p.Ensures (fun trace a => ∃ newer, post newer a ∧ trace = newer ++ older) (past ++ older) := by
  induction p generalizing past with
  | ret value => exact ⟨past, h, rfl⟩
  | ask q next ih => exact fun answer => ih answer (h answer)

theorem Ensures.resume (h : p.Ensures post []) (older : List (Σ q, A q)) :
    p.Ensures (fun trace a => ∃ newer, post newer a ∧ trace = newer ++ older) older :=
  h.resume_from older

section Erase

variable {B : Q → Type} (erase : ∀ q, B q → A q)

theorem Ensures.lift_from (h : p.Ensures post past) (told : List (Σ q, B q))
    (htold : told.map (fun x => ⟨x.1, erase x.1 x.2⟩) = past) :
    (p.lift (fun q => q) erase).Ensures
      (fun trace a => post (trace.map fun x => ⟨x.1, erase x.1 x.2⟩) a) told := by
  induction p generalizing past told with
  | ret value =>
      subst htold
      exact h
  | ask q next ih =>
      refine fun answer => ih _ (h (erase q answer)) _ ?_
      rw [List.map_cons, htold]

theorem Ensures.lift (h : p.Ensures post []) :
    (p.lift (fun q => q) erase).Ensures
      (fun trace a => post (trace.map fun x => ⟨x.1, erase x.1 x.2⟩) a) [] :=
  h.lift_from erase [] rfl

end Erase

end Reads

namespace Fallible

open Reads

variable {Q : Type} {A : Q → Type} {α β δ ε : Type} {P : Q → Prop} {past : List (Σ q, A q)}

theorem asks_attempt {p : Fallible Q A ε α} {f : α → Fallible Q A ε β} (hp : Reads.Asks P p)
    (hf : ∀ a, Reads.Asks P (f a)) : Reads.Asks P (p.attempt f) := by
  refine Reads.Asks.bind hp fun result => ?_
  cases result with
  | error e => trivial
  | ok a => exact hf a

theorem asks_mapError {f : δ → ε} {p : Reads Q A (Except δ α)} (hp : p.Asks P) :
    Reads.Asks P (mapError f p) :=
  hp.bind fun _ => trivial

theorem ensures_attempt {p : Fallible Q A ε α} {f : α → Fallible Q A ε β}
    {post : List (Σ q, A q) → Except ε β → Prop}
    (h : Reads.Ensures (fun trace result => (∀ e, result = .error e → post trace (.error e)) ∧
      ∀ a, result = .ok a → Reads.Ensures post trace (f a)) past p) :
    Reads.Ensures post past (p.attempt f) := by
  refine Reads.Ensures.bind (h.mono fun trace result hresult => ?_)
  cases result with
  | error e => exact hresult.1 e rfl
  | ok a => exact hresult.2 a rfl

theorem ensures_mapError {f : δ → ε} {p : Reads Q A (Except δ α)}
    {post : List (Σ q, A q) → Except ε α → Prop}
    (h : p.Ensures (fun trace result => post trace (result.mapError f)) past) :
    Reads.Ensures post past (mapError f p) :=
  Reads.Ensures.bind h

end Fallible

namespace Interleaving

variable {σ Q ι ε κ : Type} {A : Q → Type} {ρ : ι → Type}

structure Transcribed (Q : Type) (A : Q → Type) (ρ : ι → Type) where
  call : ι
  accesses : List (Σ q, A q)
  answer : ρ call

def transcribed (code : (call : ι) → Reads Q A (ρ call)) (call : ι) :
    Reads Q A (Transcribed Q A ρ) :=
  Reads.bind (code call).traced fun (accesses, answer) => .ret ⟨call, accesses, answer⟩

structure Audit (σ Q : Type) (A : Q → Type) (κ : Type) extends Protocol σ Q A where
  Permit : Q → Prop
  Fact : (Σ q, A q) → σ → Prop
  Takes : (Σ q, A q) → κ → Prop
  Spent : σ → κ → Prop
  kept : ∀ s q, Inv s → Permit q → Guard s q → Inv (perform s q).2
  relied : ∀ s q, Rely s (perform s q).2
  held : ∀ s q, Inv s → Fact ⟨q, (perform s q).1⟩ (perform s q).2
  fact_rely : ∀ x s t, Fact x s → Rely s t → Fact x t
  spent_rely : ∀ s t c, Spent s c → Rely s t → Spent t c
  takes_fresh : ∀ s q c, Inv s → Takes ⟨q, (perform s q).1⟩ c →
    ¬ Spent s c ∧ Spent (perform s q).2 c

namespace Audit

variable (U : Audit σ Q A κ)

def Certified (post : (call : ι) → List (Σ q, A q) → ρ call → Prop)
    (reply : Transcribed Q A ρ) (s : σ) : Prop :=
  post reply.call reply.accesses reply.answer ∧ ∀ x ∈ reply.accesses, U.Fact x s

def tickets : Tickets σ Q A (Transcribed Q A ρ) κ where
  perform := U.perform
  Inv := U.Inv
  spent := U.Spent
  grants reply c := ∃ x ∈ reply.accesses, U.Takes x c

variable {U} {post : (call : ι) → List (Σ q, A q) → ρ call → Prop}
  {code : (call : ι) → Reads Q A (ρ call)} {disturb : ε → σ → σ}

theorem upholds_tracedFrom {α : Type} {p : Reads Q A α} {past : List (Σ q, A q)}
    {post : List (Σ q, A q) → α → Prop} (hasks : p.Asks U.Permit) (hensures : p.Ensures post past)
    {s : σ} (hpast : ∀ x ∈ past, U.Fact x s) :
    U.Upholds (fun traced t => post traced.1 traced.2 ∧ ∀ x ∈ traced.1, U.Fact x t)
      (p.tracedFrom past) s := by
  induction p generalizing past s with
  | ret value => exact ⟨hensures, hpast⟩
  | ask q next ih =>
      intro t hinv hrely hguard
      have hown := U.relied t q
      refine ⟨U.kept t q hinv hasks.1 hguard, hown,
        ih _ (hasks.2 _) (hensures _) fun x hx => ?_⟩
      rcases List.mem_cons.1 hx with rfl | hold
      · exact U.held t q hinv
      · exact U.fact_rely x s _ (hpast x hold) (U.rely_trans _ _ _ hrely hown)

theorem upholds_transcribed {call : ι} (hasks : (code call).Asks U.Permit)
    (hensures : (code call).Ensures (post call) []) (s : σ) :
    U.Upholds (U.Certified post) (transcribed code call) s :=
  Protocol.Upholds.bind ((upholds_tracedFrom hasks hensures nofun).mono fun _ _ h => h)

theorem owning_tracedFrom {α : Type} {p : Reads Q A α} {past : List (Σ q, A q)} {held : κ → Prop}
    (hpast : ∀ c, (∃ x ∈ past, U.Takes x c) → held c) :
    (U.tickets (ρ := ρ)).Owning
      (fun held traced => ∀ c, (∃ x ∈ traced.1, U.Takes x c) → held c) held
      (p.tracedFrom past) := by
  induction p generalizing past held with
  | ret value => exact hpast
  | ask q next ih =>
      intro s hinv
      refine ih _ fun c ⟨x, hx, htakes⟩ => ?_
      rcases List.mem_cons.1 hx with rfl | hold
      · exact .inr (U.takes_fresh s q c hinv htakes)
      · exact .inl (hpast c ⟨x, hold, htakes⟩)

theorem entitled_transcribed (call : ι) (held : κ → Prop) :
    (U.tickets (ρ := ρ)).Entitled held (transcribed code call) :=
  Tickets.Owning.bind (owning_tracedFrom fun _ ⟨_, hx, _⟩ => (List.not_mem_nil hx).elim)

section Run

variable {start : σ} {w : Attended σ Q A (Transcribed Q A ρ)} {actions : List (Action ι ε)}

theorem keeps_of_run
    (calls : ∀ thread call, .call thread call ∈ actions →
      (code call).Asks U.Permit ∧ (code call).Ensures (post call) [])
    (disturbs : ∀ event, .disturb event ∈ actions → ∀ s, U.Inv s → U.Inv (disturb event s))
    (reliable : ∀ event s, U.Rely s (disturb event s)) (hstart : U.Inv start)
    (guarded : PartialMachine.Meets (Attended.next U.perform (transcribed code) disturb)
      (fun v action => U.Guarded v.system action) (.idle start) actions)
    (h : PartialMachine.run (Attended.next U.perform (transcribed code) disturb) (.idle start)
      actions = some w) :
    U.Answering (U.Certified post) w ∧ ∃ owners, U.tickets.Custody owners w := by
  have preserves : ∀ v action v', (U.Answering (U.Certified post) v ∧
        ∃ owners, U.tickets.Custody owners v) →
      (U.Guarded v.system action ∧ action ∈ actions) →
      Attended.next U.perform (transcribed code) disturb v action = some v' →
      U.Answering (U.Certified post) v' ∧ ∃ owners, U.tickets.Custody owners v' := by
    rintro v action v' ⟨hanswering, owners, hcustody⟩ ⟨hguarded, haction⟩ hstep
    have stable : ∀ reply s t, U.Certified post reply s → U.Rely s t → U.Certified post reply t :=
      fun reply s t ⟨hpost, hfacts⟩ hrely =>
        ⟨hpost, fun x hx => U.fact_rely x s t (hfacts x hx) hrely⟩
    constructor
    · refine hanswering.next_of_called stable (fun thread call hcall s _ => ?_)
        (fun event hevent s hs => ⟨disturbs event (hevent ▸ haction) s hs, reliable event s⟩)
        hguarded hstep
      obtain ⟨hasks, hensures⟩ := calls thread call (hcall ▸ haction)
      exact upholds_transcribed hasks hensures s
    · exact hcustody.next (fun call => entitled_transcribed call _)
        (fun s q c hspent => U.spent_rely s _ c hspent (U.relied s q))
        (fun event s c hspent => U.spent_rely s _ c hspent (reliable event s))
        hanswering.inv hstep
  have both : PartialMachine.Meets (Attended.next U.perform (transcribed code) disturb)
      (fun v action => U.Guarded v.system action ∧ action ∈ actions) (.idle start) actions :=
    fun done action hdone v hrun => ⟨guarded done action hdone v hrun,
      PartialMachine.mem_of_snoc hdone⟩
  exact PartialMachine.invariant_of_meets preserves
    ⟨Protocol.answering_idle hstart, _, Tickets.custody_idle _⟩ both (List.prefix_refl _) h

theorem outcome_of_run
    (calls : ∀ thread call, .call thread call ∈ actions →
      (code call).Asks U.Permit ∧ (code call).Ensures (post call) [])
    (disturbs : ∀ event, .disturb event ∈ actions → ∀ s, U.Inv s → U.Inv (disturb event s))
    (reliable : ∀ event s, U.Rely s (disturb event s)) (hstart : U.Inv start)
    (guarded : PartialMachine.Meets (Attended.next U.perform (transcribed code) disturb)
      (fun v action => U.Guarded v.system action) (.idle start) actions)
    (h : PartialMachine.run (Attended.next U.perform (transcribed code) disturb) (.idle start)
      actions = some w) :
    U.Inv w.system.shared ∧ (∀ reply ∈ w.replies, U.Certified post reply w.system.shared) ∧
      w.replies.Pairwise fun later earlier => ∀ x ∈ later.accesses, ∀ y ∈ earlier.accesses,
        ∀ c, U.Takes x c → ¬ U.Takes y c := by
  obtain ⟨hanswering, owners, hcustody⟩ :=
    keeps_of_run calls disturbs reliable hstart guarded h
  refine ⟨hanswering.inv, hanswering.replied, hcustody.once.imp fun honce x hx y hy c hc hc' => ?_⟩
  exact honce c ⟨x, hx, hc⟩ ⟨y, hy, hc'⟩

end Run

end Audit

section Parts

variable {I : Type} [DecidableEq I] {σ Q κ : I → Type} {A : ∀ i, Q i → Type}

abbrev PartAnswer (A : ∀ i, Q i → Type) (q : Σ i, Q i) : Type := A q.1 q.2

def performPart (perform : ∀ i, σ i → (q : Q i) → A i q × σ i) (s : ∀ i, σ i) (q : Σ i, Q i) :
    PartAnswer A q × ∀ i, σ i :=
  ((perform q.1 (s q.1) q.2).1, Function.update s q.1 (perform q.1 (s q.1) q.2).2)

def onPart {α : Type} (i : I) (p : Reads (Q i) (A i) α) : Reads (Σ i, Q i) (PartAnswer A) α :=
  p.lift (Sigma.mk i) fun _ answer => answer

theorem performPart_same {perform : ∀ i, σ i → (q : Q i) → A i q × σ i} {s : ∀ i, σ i} {i : I}
    {q : Q i} : (performPart perform s ⟨i, q⟩).2 i = (perform i (s i) q).2 :=
  Function.update_self ..

def Audit.parts (U : ∀ i, Audit (σ i) (Q i) (A i) (κ i)) :
    Audit (∀ i, σ i) (Σ i, Q i) (PartAnswer A) (Σ i, κ i) where
  perform := performPart fun i => (U i).perform
  Inv s := ∀ i, (U i).Inv (s i)
  Rely s t := ∀ i, (U i).Rely (s i) (t i)
  Guard s q := (U q.1).Guard (s q.1) q.2
  rely_refl s i := (U i).rely_refl (s i)
  rely_trans s t u h h' i := (U i).rely_trans (s i) (t i) (u i) (h i) (h' i)
  Permit q := (U q.1).Permit q.2
  Fact x s := (U x.1.1).Fact ⟨x.1.2, x.2⟩ (s x.1.1)
  Takes x c := ∃ k, c = ⟨x.1.1, k⟩ ∧ (U x.1.1).Takes ⟨x.1.2, x.2⟩ k
  Spent s c := (U c.1).Spent (s c.1) c.2
  kept s q hinv hpermit hguard := (Function.forall_update_iff s fun i t => (U i).Inv t).2
    ⟨(U q.1).kept _ _ (hinv q.1) hpermit hguard, fun j _ => hinv j⟩
  relied s q := (Function.forall_update_iff s fun i t => (U i).Rely (s i) t).2
    ⟨(U q.1).relied _ _, fun j _ => (U j).rely_refl _⟩
  held := by
    rintro s ⟨i, q⟩ hinv
    rw [performPart_same]
    exact (U i).held _ _ (hinv i)
  fact_rely x s t h hrely := (U x.1.1).fact_rely _ _ _ h (hrely x.1.1)
  spent_rely s t c h hrely := (U c.1).spent_rely _ _ _ h (hrely c.1)
  takes_fresh := by
    rintro s ⟨i, q⟩ c hinv ⟨k, rfl, htakes⟩
    rw [performPart_same]
    exact (U i).takes_fresh _ _ _ (hinv i) htakes

section Update

variable {U : ∀ i, Audit (σ i) (Q i) (A i) (κ i)} {s : ∀ i, σ i} {i : I} {t : σ i}

theorem parts_inv_update (h : (Audit.parts U).Inv s) (ht : (U i).Inv t) :
    (Audit.parts U).Inv (Function.update s i t) :=
  (Function.forall_update_iff s fun i t => (U i).Inv t).2 ⟨ht, fun j _ => h j⟩

theorem parts_rely_update (ht : (U i).Rely (s i) t) :
    (Audit.parts U).Rely s (Function.update s i t) :=
  (Function.forall_update_iff s fun i t => (U i).Rely (s i) t).2
    ⟨ht, fun j _ => (U j).rely_refl _⟩

end Update

section Frame

variable {ι ε : Type} {ρ : ι → Type} {perform : ∀ i, σ i → (q : Q i) → A i q × σ i}
  {code : (call : ι) → Reads (Σ i, Q i) (PartAnswer A) (ρ call)}
  {disturb : ε → (∀ i, σ i) → ∀ i, σ i} {start : ∀ i, σ i} {i : I}
  {w : Attended (∀ i, σ i) (Σ i, Q i) (PartAnswer A)
    (Transcribed (Σ i, Q i) (PartAnswer A) ρ)} {actions : List (Action ι ε)}

theorem unchanged_of_run
    (calls : ∀ thread call, .call thread call ∈ actions → (code call).Asks fun q => q.1 ≠ i)
    (disturbs : ∀ event, .disturb event ∈ actions → ∀ s, disturb event s i = s i)
    (h : PartialMachine.run (Attended.next (performPart perform) (transcribed code) disturb)
      (.idle start) actions = some w) : w.system.shared i = start i := by
  have elsewhere : ∀ {α : Type} (p : Reads (Σ i, Q i) (PartAnswer A) α) past,
      (p.Asks fun q => q.1 ≠ i) → (p.tracedFrom past).Asks fun q => q.1 ≠ i := by
    intro α p
    induction p with
    | ret value => exact fun _ _ => trivial
    | ask q next ih => exact fun past hp => ⟨hp.1, fun answer => ih answer _ (hp.2 answer)⟩
  have preserves : ∀ action ∈ actions, ∀ v v', (v.system.shared i = start i ∧
        ∀ thread p, v.system.threads thread = some p → p.Asks fun q => q.1 ≠ i) →
      Attended.next (performPart perform) (transcribed code) disturb v action = some v' →
      v'.system.shared i = start i ∧
        ∀ thread p, v'.system.threads thread = some p → p.Asks fun q => q.1 ≠ i := by
    rintro action haction v v' ⟨hsame, hthreads⟩ hstep
    have hupdate : ∀ thread running, (∀ p, running = some p → p.Asks fun q => q.1 ≠ i) →
        ∀ other p, Function.update v.system.threads thread running other = some p →
          p.Asks fun q => q.1 ≠ i := by
      intro thread running hrunning other p hp
      by_cases hother : other = thread
      · subst hother
        rw [Function.update_self] at hp
        exact hrunning p hp
      · rw [Function.update_of_ne hother] at hp
        exact hthreads other p hp
    cases Attended.moves_of_next hstep with
    | call _ =>
        refine ⟨hsame, hupdate _ _ fun p hp => ?_⟩
        cases hp
        exact (elsewhere _ _ (calls _ _ haction)).bind fun _ => trivial
    | reply _ =>
        refine ⟨hsame, hupdate _ _ fun p hp => ?_⟩
        cases hp
    | access hask =>
        have hasks := hthreads _ _ hask
        refine ⟨?_, hupdate _ _ fun p hp => ?_⟩
        · exact (Function.update_of_ne (Ne.symm hasks.1) ..).trans hsame
        · cases hp
          exact hasks.2 _
    | disturb => exact ⟨(disturbs _ haction _).trans hsame, hthreads⟩
  exact (PartialMachine.run_invariant preserves ⟨rfl, fun _ _ hp => by cases hp⟩ h).1

end Frame

omit [DecidableEq I] in
theorem asks_onPart {α : Type} {i : I} {p : Reads (Q i) (A i) α} {P : (Σ i, Q i) → Prop}
    (h : p.Asks fun q => P ⟨i, q⟩) : (onPart i p).Asks P :=
  Reads.Asks.lift h

omit [DecidableEq I] in
theorem ensures_onPart_from {α : Type} {i : I} {p : Reads (Q i) (A i) α} {past : List (Σ q, A i q)}
    {post : List (Σ q, A i q) → α → Prop} (h : p.Ensures post past)
    (older : List (Σ q : Σ i, Q i, PartAnswer A q)) :
    (onPart i p).Ensures (fun trace a => ∃ newer, post newer a ∧
      trace = newer.map (fun x => ⟨⟨i, x.1⟩, x.2⟩) ++ older)
      (past.map (fun x => ⟨⟨i, x.1⟩, x.2⟩) ++ older) := by
  induction p generalizing past with
  | ret value => exact ⟨past, h, rfl⟩
  | ask q next ih => exact fun answer => ih answer (h answer)

omit [DecidableEq I] in
theorem ensures_onPart {α : Type} {i : I} {p : Reads (Q i) (A i) α}
    {post : List (Σ q, A i q) → α → Prop} (h : p.Ensures post [])
    (older : List (Σ q : Σ i, Q i, PartAnswer A q)) :
    (onPart i p).Ensures (fun trace a => ∃ newer, post newer a ∧
      trace = newer.map (fun x => ⟨⟨i, x.1⟩, x.2⟩) ++ older) older :=
  ensures_onPart_from h older

end Parts

end Interleaving
