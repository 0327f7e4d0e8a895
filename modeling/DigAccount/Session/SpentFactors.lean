import DigAccount.Session.Unlock

namespace DigAccount

open Interleaving DigSession

namespace TotpMemory

def audit : Audit TotpMemory TotpAccess TotpAnswer Nat where
  toProtocol := protocol
  Permit _ := True
  Fact
    | ⟨.takeGuard counter, (result, _)⟩, m => (counter, result.isOk) ∈ m.taken
    | _, _ => True
  Takes
    | ⟨.takeGuard taken, (.ok (), _)⟩, counter => taken = counter
    | _, _ => False
  Spent m counter := counter ∈ acceptedCounters m.taken
  kept s q hs _ _ := by
    cases q with
    | unixSeconds => exact hs
    | takeGuard counter => exact (hs.takeGuard counter).1
  relied s q := by
    cases q with
    | unixSeconds => exact List.suffix_refl _
    | takeGuard counter =>
        simp only [protocol, perform, takeGuard]
        split
        · exact List.suffix_cons _ _
        · exact List.suffix_cons _ _
  held s q _ := by
    cases q with
    | unixSeconds => trivial
    | takeGuard counter =>
        simp only [protocol, perform, takeGuard]
        split
        · exact List.mem_cons_self ..
        · exact List.mem_cons_self ..
  fact_rely x s t h hrely := by
    obtain ⟨q, answer⟩ := x
    cases q with
    | unixSeconds => trivial
    | takeGuard counter => exact List.IsSuffix.subset hrely h
  spent_rely s t counter h hrely := (List.IsSuffix.sublist hrely).filterMap _ |>.subset h
  takes_fresh s q counter hs h := by
    cases q with
    | unixSeconds => cases h
    | takeGuard taken =>
        rcases takeGuard_cases hs taken with ⟨-, hrefused⟩ | ⟨habove, hgranted⟩
        · simp only [protocol, perform, hrefused] at h
        · simp only [protocol, perform, hgranted] at h ⊢
          subst h
          exact ⟨fun hspent => (habove taken hspent).false, List.mem_cons_self ..⟩

end TotpMemory

namespace PasskeyMemory

def audit (initial : Nat) : Audit PasskeyMemory PasskeyAccess PasskeyAnswer Bytes where
  toProtocol := protocol initial
  Permit _ := True
  Fact
    | ⟨.consume challenge reading, .ok ()⟩, m => .spent challenge reading ∈ m.log
    | ⟨.advance challenge count, .ok ()⟩, m => ∃ stored, .counted challenge stored count ∈ m.log
    | _, _ => True
  Takes
    | ⟨.consume presented _, .ok ()⟩, challenge => presented = challenge
    | _, _ => False
  Spent m := SpentIn m.log
  kept _ _ hs _ hfresh := hs.perform hfresh
  relied := extends_perform
  held s q _ := by
    cases q with
    | unixSeconds => trivial
    | issue challenge expiresAt => trivial
    | consume presented now =>
        rcases s.consume_cases presented now with hrefused | ⟨expiresAt, -, -, hspent⟩
        · simp only [protocol, perform, hrefused]
        · simp only [protocol, perform, hspent]
          exact List.mem_cons_self ..
    | advance challenge count =>
        rcases s.advance_cases challenge count with hrefused | ⟨-, hcounted⟩
        · simp only [protocol, perform, hrefused]
        · simp only [protocol, perform, hcounted]
          exact ⟨_, List.mem_cons_self ..⟩
  fact_rely x s t h hrely := by
    obtain ⟨q, answer⟩ := x
    cases q with
    | unixSeconds => trivial
    | issue challenge expiresAt => trivial
    | consume presented now =>
        cases answer with
        | error e => trivial
        | ok done => exact List.IsSuffix.subset hrely h
    | advance challenge count =>
        cases answer with
        | error e => trivial
        | ok done =>
            obtain ⟨stored, hcounted⟩ := h
            exact ⟨stored, List.IsSuffix.subset hrely hcounted⟩
  spent_rely _ _ _ h hrely := h.mono hrely
  takes_fresh s q challenge hs h := by
    cases q with
    | unixSeconds => cases h
    | issue challenge expiresAt => cases h
    | advance challenge count => cases h
    | consume presented now =>
        rcases s.consume_cases presented now with hrefused | ⟨expiresAt, hout, -, hspent⟩
        · simp only [protocol, perform, hrefused] at h
        · simp only [protocol, perform, hspent] at h ⊢
          subst h
          exact ⟨(hs.outstanding _ _ hout).2, now, List.mem_cons_self ..⟩

end PasskeyMemory

theorem TotpFactor.check_ensures [TotpLite] (factor : TotpFactor) (presented : Bytes) :
    Reads.Ensures (fun trace result => result = .ok () → ∃ now counter,
      factor.InWindow now counter ∧ factor.codeAtCounter counter = presented ∧
        ⟨.unixSeconds, .ok now⟩ ∈ trace ∧ ∃ turn, ⟨.takeGuard counter, (.ok (), turn)⟩ ∈ trace)
      [] (factor.check presented) := by
  rw [check]
  split
  · simp only [Bind.bind, Fallible.attempt, readTime, Reads.query, Reads.bind, Reads.Ensures]
    intro reading
    cases reading with
    | error e =>
        intro hok
        cases hok
    | ok now =>
        cases hmatched : factor.matched now presented with
        | none =>
            simp only [hmatched]
            intro hok
            cases hok
        | some counter =>
            obtain ⟨hwindow, hcode, -⟩ := matched_some hmatched
            simp only [hmatched]
            rintro ⟨taken, turn⟩ hok
            cases hok
            exact ⟨now, counter, hwindow, hcode, by simp, turn, List.mem_cons_self ..⟩
  · intro hok
    cases hok

theorem PasskeyFactor.check_ensures [WebAuthn] (factor : PasskeyFactor) (envelope : Bytes) :
    Reads.Ensures (fun trace result => result = .ok () → ∃ assertion now,
      factor.verifyAssertion envelope = .ok assertion ∧ ⟨.unixSeconds, .ok now⟩ ∈ trace ∧
        ⟨.consume assertion.challenge now, .ok ()⟩ ∈ trace ∧
          ⟨.advance assertion.challenge assertion.signCount, .ok ()⟩ ∈ trace)
      [] (factor.check envelope) := by
  rw [check]
  cases hverified : factor.verifyAssertion envelope with
  | error e =>
      intro hok
      cases hok
  | ok assertion =>
      refine fun reading => ?_
      cases reading with
      | error e =>
          intro hok
          cases hok
      | ok now =>
          refine fun consumed => ?_
          cases consumed with
          | error e =>
              intro hok
              cases hok
          | ok done =>
              refine fun advanced hok => ?_
              cases hok
              exact ⟨assertion, now, rfl, by simp, by simp, by simp⟩

section Session

variable [DigSession] [TotpLite] [WebAuthn] {table : FactorTable}

def AuthPolicy.required : AuthPolicy → List SecondFactor
  | passwordOnly => []
  | allOf factors => factors

def SecondFactor.Accepted (table : FactorTable) (factors : AuthFactors)
    (accesses : List (Σ q : SessionAccess, SessionAnswer q)) : SecondFactor → Prop
  | totp slot => ∃ presented now counter, factors.totp = some presented ∧
      (table.totps slot).InWindow now counter ∧
        (table.totps slot).codeAtCounter counter = presented.toUTF8.toList ∧
          ⟨⟨.totp slot, .unixSeconds⟩, .ok now⟩ ∈ accesses ∧
            ∃ turn, ⟨⟨.totp slot, .takeGuard counter⟩, (.ok (), turn)⟩ ∈ accesses
  | passkey slot => ∃ envelope assertion now, factors.passkey = some envelope ∧
      (table.passkeys slot).verifyAssertion envelope = .ok assertion ∧
        ⟨⟨.passkey slot, .unixSeconds⟩, .ok now⟩ ∈ accesses ∧
        ⟨⟨.passkey slot, .consume assertion.challenge now⟩, .ok ()⟩ ∈ accesses ∧
          ⟨⟨.passkey slot, .advance assertion.challenge assertion.signCount⟩, .ok ()⟩ ∈ accesses

theorem SecondFactor.Accepted.mono {factors : AuthFactors} {factor : SecondFactor}
    {accesses later : List (Σ q : SessionAccess, SessionAnswer q)}
    (h : factor.Accepted table factors accesses) (hlater : accesses <:+ later) :
    factor.Accepted table factors later := by
  cases factor with
  | totp slot =>
      obtain ⟨presented, now, counter, hpresented, hwindow, hcode, hread, turn, htaken⟩ := h
      exact ⟨presented, now, counter, hpresented, hwindow, hcode, hlater.subset hread, turn,
        hlater.subset htaken⟩
  | passkey slot =>
      obtain ⟨envelope, assertion, now, hpresented, hverified, hread, hspent, hcounted⟩ := h
      exact ⟨envelope, assertion, now, hpresented, hverified, hlater.subset hread,
        hlater.subset hspent, hlater.subset hcounted⟩

theorem verify_ensures (factors : AuthFactors) (factor : SecondFactor)
    (past : List (Σ q : SessionAccess, SessionAnswer q)) :
    Reads.Ensures (fun trace result => result = .ok () → factor.Accepted table factors trace)
      past (factor.verify table factors) := by
  cases factor with
  | totp slot =>
      rw [SecondFactor.verify]
      cases hpresented : factors.totp with
      | none => exact nofun
      | some presented =>
          refine Fallible.ensures_mapError ((ensures_onPart
            ((table.totps slot).check_ensures presented.toUTF8.toList) past).mono
              fun trace result hresult hok => ?_)
          obtain ⟨newer, haccepted, rfl⟩ := hresult
          obtain ⟨now, counter, hwindow, hcode, hread, turn, htaken⟩ :=
            haccepted (Fallible.mapError_eq_ok.1 hok)
          exact ⟨presented, now, counter, hpresented, hwindow, hcode,
            List.mem_append_left _ (List.mem_map_of_mem hread), turn,
            List.mem_append_left _ (List.mem_map_of_mem htaken)⟩
  | passkey slot =>
      rw [SecondFactor.verify]
      cases hpresented : factors.passkey with
      | none => exact nofun
      | some envelope =>
          refine Fallible.ensures_mapError ((ensures_onPart
            ((table.passkeys slot).check_ensures envelope) past).mono
              fun trace result hresult hok => ?_)
          obtain ⟨newer, haccepted, rfl⟩ := hresult
          obtain ⟨assertion, now, hverified, hread, hspent, hcounted⟩ :=
            haccepted (Fallible.mapError_eq_ok.1 hok)
          exact ⟨envelope, assertion, now, hpresented, hverified,
            List.mem_append_left _ (List.mem_map_of_mem hread),
            List.mem_append_left _ (List.mem_map_of_mem hspent),
            List.mem_append_left _ (List.mem_map_of_mem hcounted)⟩

theorem verifyAll_ensures (factors : AuthFactors) (required : List SecondFactor)
    (past : List (Σ q : SessionAccess, SessionAnswer q)) :
    Reads.Ensures (fun trace result => result = .ok () →
      ∀ factor ∈ required, factor.Accepted table factors trace)
      past (verifyAll table factors required) := by
  induction required generalizing past with
  | nil => exact fun _ => nofun
  | cons factor rest ih =>
      refine Fallible.ensures_attempt (Fallible.ensures_mapError
        ((verify_ensures factors factor past).mono fun trace result hfactor => ?_))
      refine ⟨fun _ _ => nofun, fun done hdone => ?_⟩
      have haccepted := hfactor (Fallible.mapError_eq_ok.1 hdone)
      refine (ih trace).suffix.mono fun later outcome hlater hok other hother => ?_
      rcases List.mem_cons.1 hother with rfl | hrest
      · exact haccepted.mono hlater.2
      · exact hlater.1 hok other hrest

theorem authorize_ensures (factors : AuthFactors) (policy : AuthPolicy)
    (past : List (Σ q : SessionAccess, SessionAnswer q)) :
    Reads.Ensures (fun trace result => result = .ok () →
      ∀ factor ∈ policy.required, factor.Accepted table factors trace)
      past (policy.authorize table factors) := by
  cases policy with
  | passwordOnly => exact fun _ => nofun
  | allOf required => exact verifyAll_ensures factors required past

theorem refused_ensures {ε : Type} {factors : AuthFactors} {policy : AuthPolicy}
    {refused : UnlockError → ε} {past : List (Σ q : SessionAccess, SessionAnswer q)} :
    Reads.Ensures (fun trace result => result = .ok () →
      ∀ factor ∈ policy.required, factor.Accepted table factors trace)
      past (Fallible.mapError refused (policy.authorize table factors)) :=
  Fallible.ensures_mapError ((authorize_ensures factors policy past).mono
    fun _ _ haccepted hok => haccepted (Fallible.mapError_eq_ok.1 hok))

def SecondFactor.part : SecondFactor → SessionPart
  | totp slot => .totp slot
  | passkey slot => .passkey slot

theorem verify_asks (factors : AuthFactors) (factor : SecondFactor) :
    Reads.Asks (fun q : SessionAccess => q.1 = factor.part) (factor.verify table factors) := by
  cases factor with
  | totp slot =>
      rw [SecondFactor.verify]
      cases factors.totp with
      | none => trivial
      | some presented =>
          exact Fallible.asks_mapError (asks_onPart (Reads.asks_of_forall (fun _ => rfl) _))
  | passkey slot =>
      rw [SecondFactor.verify]
      cases factors.passkey with
      | none => trivial
      | some envelope =>
          exact Fallible.asks_mapError (asks_onPart (Reads.asks_of_forall (fun _ => rfl) _))

theorem verifyAll_asks (factors : AuthFactors) (required : List SecondFactor) :
    Reads.Asks (fun q : SessionAccess => ∃ factor ∈ required, q.1 = factor.part)
      (verifyAll table factors required) := by
  induction required with
  | nil => trivial
  | cons factor rest ih =>
      refine Fallible.asks_attempt (Fallible.asks_mapError ((verify_asks factors factor).imp
        fun q hq => ⟨factor, List.mem_cons_self .., hq⟩)) fun _ => ih.imp fun q hq => ?_
      obtain ⟨other, hother, hpart⟩ := hq
      exact ⟨other, List.mem_cons_of_mem _ hother, hpart⟩

theorem authorize_asks_required (factors : AuthFactors) (policy : AuthPolicy) :
    Reads.Asks (fun q : SessionAccess => ∃ factor ∈ policy.required, q.1 = factor.part)
      (policy.authorize table factors) := by
  cases policy with
  | passwordOnly => trivial
  | allOf required => exact verifyAll_asks factors required

theorem authorize_asks (factors : AuthFactors) (policy : AuthPolicy) :
    Reads.Asks (fun q : SessionAccess => q.1 ≠ .keychain) (policy.authorize table factors) := by
  refine (authorize_asks_required factors policy).imp fun q hq => ?_
  obtain ⟨factor, -, hpart⟩ := hq
  rw [hpart]
  cases factor with
  | totp slot => exact nofun
  | passkey slot => exact nofun

def Guarded (table : FactorTable) (id : String) (factors : AuthFactors) (policy : AuthPolicy)
    (accesses : List (Σ q : SessionAccess, SessionAnswer q)) (opened : Option Seed) : Prop :=
  ((∃ x ∈ accesses, x.1.1 = .keychain) →
    ∀ factor ∈ policy.required, factor.Accepted table factors accesses) ∧
  ∀ seed, opened = some seed →
    (∀ factor ∈ policy.required, factor.Accepted table factors accesses) ∧
      ∃ blob n, Opens factors.password blob seed ∧
        ⟨⟨.keychain, .read (blobKey id)⟩, (.ok blob, n)⟩ ∈ accesses

def OpensAccount {ε α : Type} (table : FactorTable) (id : String) (factors : AuthFactors)
    (policy : AuthPolicy) (wrap : Seed → α)
    (accesses : List (Σ q : SessionAccess, SessionAnswer q)) (result : Except ε α) : Prop :=
  ∃ opened, Guarded table id factors policy accesses opened ∧
    ∀ value, result = .ok value → ∃ seed, opened = some seed ∧ value = wrap seed

variable {ε α : Type} {id : String} {factors : AuthFactors} {policy : AuthPolicy}
  {keystore : AccountStoreError → ε} {wrap : Seed → α}

theorem guarded_ensures {p : SessionCode ε Unit} {q : SessionCode ε α}
    (hp : Reads.Ensures (fun trace result => result = .ok () →
      ∀ factor ∈ policy.required, factor.Accepted table factors trace) [] p)
    (hasks : Reads.Asks (fun q : SessionAccess => q.1 ≠ .keychain) p)
    (hq : ∀ trace, (∀ factor ∈ policy.required, factor.Accepted table factors trace) →
      Reads.Ensures (OpensAccount table id factors policy wrap) trace q) :
    Reads.Ensures (OpensAccount table id factors policy wrap) [] (p.attempt fun _ => q) := by
  refine Fallible.ensures_attempt ((hp.asked hasks nofun).mono fun trace result hresult => ?_)
  obtain ⟨haccepted, hkeychain⟩ := hresult
  exact ⟨fun e _ => ⟨none, ⟨fun ⟨x, hx, hpart⟩ => absurd hpart (hkeychain x hx), nofun⟩, nofun⟩,
    fun done hdone => hq trace (haccepted hdone)⟩

theorem unlock_collected {session : AccountSession} {factors : AuthFactors} {policy : AuthPolicy} :
    session.unlock table (.ok factors) policy = Fallible.attempt
      (.mapError (fun why => .auth why.display) (policy.authorize table factors)) fun _ =>
        Fallible.attempt (.mapError (fun why => .keystore why.display)
          (onPart .keychain (onTurns (AccountStore.unlock session.account factors.password))))
          fun seed => pure ⟨session.account, seed, session.defaultProfileIx⟩ := rfl

variable [KeychainBackend Blob]

theorem opened_ensures [LawfulSession] {accesses : List (Σ q : SessionAccess, SessionAnswer q)}
    (haccepted : ∀ factor ∈ policy.required, factor.Accepted table factors accesses) :
    Reads.Ensures (OpensAccount table id factors policy fun seed => seed) accesses
      (Fallible.mapError keystore
        (onPart .keychain (onTurns (AccountStore.unlock id factors.password)))) := by
  refine Fallible.ensures_mapError ((ensures_onPart
    (onTurns_ensures (AccountStore.code_ensures (.unlock id factors.password)))
      accesses).suffix.mono fun trace outcome htrace => ?_)
  obtain ⟨⟨newer, htranscript, rfl⟩, hsuffix⟩ := htrace
  have hkept : ∀ factor ∈ policy.required, factor.Accepted table factors _ :=
    fun factor hfactor => (haccepted factor hfactor).mono hsuffix
  cases outcome with
  | error e => exact ⟨none, ⟨fun _ => hkept, nofun⟩, nofun⟩
  | ok seed =>
      obtain ⟨blob, hopens, hread⟩ := htranscript
      obtain ⟨n, hmem⟩ := mem_untimed hread
      refine ⟨some seed, ⟨fun _ => hkept, ?_⟩, ?_⟩
      · rintro _ ⟨⟩
        exact ⟨hkept, blob, n, hopens, List.mem_append_left _ (List.mem_map_of_mem hmem)⟩
      · rintro _ ⟨⟩
        exact ⟨seed, rfl, rfl⟩

def SessionCall.Evidence (table : FactorTable) :
    (call : SessionCall) → List (Σ q : SessionAccess, SessionAnswer q) → SessionOutcome call → Prop
  | .unlock session collected policy, accesses, outcome =>
      (∀ failure, collected = .error failure →
        outcome = .error (.provider failure) ∧ accesses = []) ∧
      ∀ factors, collected = .ok factors → OpensAccount table session.account factors policy
        (fun seed => ⟨session.account, seed, session.defaultProfileIx⟩) accesses outcome
  | .openGate account policy factors, accesses, outcome =>
      OpensAccount table account factors policy (fun seed => seed) accesses outcome
  | _, _, _ => True

def SessionCall.storeCall : SessionCall → Option StoreCall
  | enroll session password draw root => some (.enroll session.account password draw root)
  | .store call => some call
  | _ => none

theorem unlock_ensures [LawfulSession] {session : AccountSession} :
    Reads.Ensures (OpensAccount table session.account factors policy
        fun seed => ⟨session.account, seed, session.defaultProfileIx⟩)
      [] (session.unlock table (.ok factors) policy) := by
  rw [unlock_collected]
  refine guarded_ensures refused_ensures (Fallible.asks_mapError (authorize_asks factors policy))
    fun trace haccepted => ?_
  refine Fallible.ensures_attempt ((opened_ensures haccepted).mono fun later result hopened => ?_)
  obtain ⟨opened, hguarded, hseed⟩ := hopened
  refine ⟨fun e _ => ⟨opened, hguarded, nofun⟩, fun seed hok => ?_⟩
  obtain ⟨seed, rfl, rfl⟩ := hseed seed hok
  refine ⟨some seed, hguarded, ?_⟩
  rintro _ ⟨⟩
  exact ⟨seed, rfl, rfl⟩

theorem sessionCode_ensures [LawfulSession] (call : SessionCall) :
    (sessionCode table call).Ensures (call.Evidence table) [] := by
  cases call with
  | enroll session password draw root => exact Reads.ensures_of_forall (fun _ _ => trivial) _ _
  | store call => exact Reads.ensures_of_forall (fun _ _ => trivial) _ _
  | issueChallenge slot challenge => exact Reads.ensures_of_forall (fun _ _ => trivial) _ _
  | openGate account policy factors =>
      rw [sessionCode, UnlockGate.openSeed]
      exact guarded_ensures (authorize_ensures factors policy []) (authorize_asks factors policy)
        fun trace haccepted => opened_ensures haccepted
  | unlock session collected policy =>
      cases collected with
      | error failure =>
          refine ⟨fun other hother => ?_, nofun⟩
          cases hother
          exact ⟨rfl, rfl⟩
      | ok factors =>
          refine unlock_ensures.mono fun trace outcome hopens => ⟨nofun, ?_⟩
          rintro _ ⟨⟩
          exact hopens

abbrev PartTicket : SessionPart → Type
  | .keychain | .totp _ => Nat
  | .passkey _ => Bytes

def partAudit (asked : StoreCall → Prop) (start : KeychainBackend.Store Blob)
    (initial : Nat → Nat) : (part : SessionPart) →
      Audit (PartMemory part) (PartAccess part) (PartReply part) (PartTicket part)
  | .keychain => Keychain.audit asked start
  | .totp _ => TotpMemory.audit
  | .passkey slot => PasskeyMemory.audit (initial slot)

def sessionAudit (asked : StoreCall → Prop) (start : KeychainBackend.Store Blob)
    (initial : Nat → Nat) :
    Audit SessionMemory SessionAccess SessionAnswer (Σ part, PartTicket part) :=
  .parts (partAudit asked start initial)

variable {asked : StoreCall → Prop} {start : KeychainBackend.Store Blob} {initial : Nat → Nat}

omit [TotpLite] [WebAuthn] in
theorem perform_sessionAudit :
    (sessionAudit asked start initial).perform = performPart performIn := by
  have hparts : (fun part => (partAudit asked start initial part).perform) = performIn := by
    funext part
    cases part with
    | keychain => rfl
    | totp slot => rfl
    | passkey slot => rfl
  exact congrArg (fun perform => performPart perform) hparts

omit [TotpLite] [WebAuthn] in
theorem permit_of_factor {p : Reads SessionAccess SessionAnswer α}
    (h : p.Asks fun q => q.1 ≠ .keychain) : p.Asks (sessionAudit asked start initial).Permit := by
  refine h.imp fun q hq => ?_
  obtain ⟨part, q⟩ := q
  cases part with
  | keychain => exact absurd rfl hq
  | totp slot => trivial
  | passkey slot => trivial

omit [TotpLite] [WebAuthn] in
theorem permit_of_store [LawfulSession] {call : StoreCall} (hasked : asked call) :
    (onPart (A := PartReply) SessionPart.keychain (onTurns (AccountStore.code call))).Asks
      (sessionAudit asked start initial).Permit :=
  asks_onPart (onTurns_asks (AccountStore.code_asks call hasked))

theorem sessionCode_asks [LawfulSession] (call : SessionCall)
    (hasked : ∀ storeCall, call.storeCall = some storeCall → asked storeCall) :
    (sessionCode table call).Asks (sessionAudit asked start initial).Permit := by
  have hunlock : ∀ account password, Reads.Asks (sessionAudit asked start initial).Permit
      (onPart (A := PartReply) SessionPart.keychain
        (onTurns (AccountStore.unlock account password))) :=
    fun account password => asks_onPart (onTurns_asks AccountStore.unlock_asks)
  cases call with
  | enroll session password draw root =>
      rw [sessionCode, AccountSession.enroll]
      refine Fallible.asks_attempt (Fallible.asks_mapError (permit_of_store (hasked _ rfl)))
        fun seed => ?_
      trivial
  | store call => exact permit_of_store (hasked call rfl)
  | issueChallenge slot challenge =>
      exact asks_onPart (Reads.asks_of_forall (fun _ => trivial) _)
  | openGate account policy factors =>
      rw [sessionCode, UnlockGate.openSeed]
      exact Fallible.asks_attempt (permit_of_factor (authorize_asks factors policy))
        fun done => Fallible.asks_mapError (hunlock _ _)
  | unlock session collected policy =>
      cases collected with
      | error failure => trivial
      | ok factors =>
          rw [sessionCode, unlock_collected]
          refine Fallible.asks_attempt (Fallible.asks_mapError
            (permit_of_factor (authorize_asks factors policy))) fun done => ?_
          refine Fallible.asks_attempt (Fallible.asks_mapError (hunlock _ _)) fun seed => ?_
          trivial

variable {w : Attended SessionMemory SessionAccess SessionAnswer
    (Transcribed SessionAccess SessionAnswer SessionOutcome)}
  {totpClock : Nat → Except TotpError Nat}
  {passkeyClock : Nat → Except PasskeyError Nat} {actions : List (Action SessionCall SessionEvent)}

def RequestedIn (actions : List (Action SessionCall SessionEvent)) (storeCall : StoreCall) : Prop :=
  ∃ thread call, .call thread call ∈ actions ∧ call.storeCall = some storeCall

omit [TotpLite] [WebAuthn] in
theorem disturb_inv {m : SessionMemory} {event : SessionEvent}
    (foreign : ∀ change, event = .write change → LeavesAccounts change)
    (h : (sessionAudit asked start initial).Inv m) :
    (sessionAudit asked start initial).Inv (m.disturb event) := by
  cases event with
  | write change =>
      exact parts_inv_update h (Keychain.Custody.disturb (h .keychain) (foreign change rfl))
  | totpClock slot reading =>
      exact parts_inv_update h (TotpMemory.Increasing.setClock (h (.totp slot)) reading)
  | passkeyClock slot reading =>
      exact parts_inv_update h (PasskeyMemory.Guarded.setClock (h (.passkey slot)) reading)

omit [TotpLite] [WebAuthn] in
theorem disturb_rely (m : SessionMemory) (event : SessionEvent) :
    (sessionAudit asked start initial).Rely m (m.disturb event) := by
  cases event with
  | write change => exact parts_rely_update (List.prefix_refl _)
  | totpClock slot reading => exact parts_rely_update (TotpMemory.extends_setClock reading _)
  | passkeyClock slot reading => exact parts_rely_update (PasskeyMemory.extends_setClock reading _)

omit [TotpLite] [WebAuthn] in
theorem fresh_inv : (sessionAudit asked start initial).Inv
    (.fresh start totpClock passkeyClock initial) := by
  intro part
  cases part with
  | keychain => exact Keychain.custody_opened
  | totp slot => exact TotpMemory.increasing_enrolled _
  | passkey slot => exact PasskeyMemory.guarded_enrolled _ _

def ChallengesDistinct (m : SessionMemory) : Prop :=
  ∀ slot, (issuedChallenges (PasskeyMemory.log (m (.passkey slot)))).Nodup

def WritesNoAccount (actions : List (Action SessionCall SessionEvent)) : Prop :=
  ∀ change, .disturb (.write change) ∈ actions → LeavesAccounts change

theorem session_run_keeps [LawfulSession] (foreign : WritesNoAccount actions)
    (h : PartialMachine.run (sessionNext table)
      (.idle (.fresh start totpClock passkeyClock initial)) actions = some w)
    (distinct : ChallengesDistinct w.system.shared) :
    (sessionAudit (RequestedIn actions) start initial).Inv w.system.shared ∧
      (∀ reply ∈ w.replies, (sessionAudit (RequestedIn actions) start initial).Certified
        (SessionCall.Evidence table) reply w.system.shared) ∧
      w.replies.Pairwise fun later earlier => ∀ x ∈ later.accesses, ∀ y ∈ earlier.accesses,
        ∀ c, (sessionAudit (RequestedIn actions) start initial).Takes x c →
          ¬ (sessionAudit (RequestedIn actions) start initial).Takes y c := by
  have hsame : (sessionAudit (RequestedIn actions) start initial).perform = performPart performIn :=
    perform_sessionAudit
  have fresher : ∀ s t : SessionMemory,
      (sessionAudit (RequestedIn actions) start initial).Rely s t →
        ChallengesDistinct t → ChallengesDistinct s := fun s t hrely hdistinct slot =>
    (hdistinct slot).sublist ((hrely (.passkey slot)).sublist.filterMap _)
  have hrun : PartialMachine.run (Attended.next
      (sessionAudit (RequestedIn actions) start initial).perform (transcribed (sessionCode table))
      SessionMemory.disturb) (.idle (.fresh start totpClock passkeyClock initial)) actions =
        some w := by
    rw [hsame]
    exact h
  have hmeets := Attended.meets_of_run (Protocol.rely_refl _) (Protocol.rely_trans _)
    (Audit.relied _) (fun event m => disturb_rely m event) fresher hrun distinct
  refine Audit.outcome_of_run (fun thread call hcall => ⟨?_, sessionCode_ensures call⟩)
    (fun event hevent m hm => disturb_inv
      (fun change hchange => foreign change (hchange ▸ hevent)) hm)
    (fun event m => disturb_rely m event) fresh_inv
    (fun done action hdone v hv q hq => ?_) hrun
  · exact sessionCode_asks call fun storeCall hstore => ⟨thread, call, hcall, hstore⟩
  · have hfresh := hmeets done action hdone v hv q hq
    obtain ⟨part, q⟩ := q
    cases part with
    | keychain => trivial
    | totp slot => trivial
    | passkey slot =>
        have hissued := hfresh slot
        rw [sessionAudit, Audit.parts, performPart_same] at hissued
        exact hissued

def SessionCall.parts : SessionCall → List SessionPart
  | .unlock _ _ policy | .openGate _ policy _ =>
      .keychain :: policy.required.map SecondFactor.part
  | .issueChallenge slot _ => [.passkey slot]
  | .enroll _ _ _ _ | .store _ => [.keychain]

def SessionEvent.part : SessionEvent → SessionPart
  | .write _ => .keychain
  | .totpClock slot _ => .totp slot
  | .passkeyClock slot _ => .passkey slot

omit [KeychainBackend Blob] in
theorem sessionCode_asks_parts (call : SessionCall) :
    (sessionCode table call).Asks fun q => q.1 ∈ call.parts := by
  have hkeychain : ∀ {α : Type} (p : Reads (KeychainAccess Blob) TurnAnswer α)
      (parts : List SessionPart), Reads.Asks (fun q : SessionAccess => q.1 ∈ .keychain :: parts)
        (onPart (A := PartReply) SessionPart.keychain p) :=
    fun p parts => asks_onPart (Reads.asks_of_forall (fun _ => List.mem_cons_self ..) p)
  have hpolicy : ∀ (factors : AuthFactors) (policy : AuthPolicy),
      Reads.Asks (fun q : SessionAccess =>
        q.1 ∈ SessionPart.keychain :: policy.required.map SecondFactor.part)
        (policy.authorize table factors) := by
    refine fun factors policy => (authorize_asks_required factors policy).imp fun q hq => ?_
    obtain ⟨factor, hfactor, hpart⟩ := hq
    exact List.mem_cons_of_mem _ (hpart ▸ List.mem_map_of_mem hfactor)
  cases call with
  | enroll session password draw root =>
      rw [sessionCode, AccountSession.enroll]
      refine Fallible.asks_attempt (Fallible.asks_mapError (hkeychain _ _)) fun seed => ?_
      trivial
  | store call => exact hkeychain _ _
  | issueChallenge slot challenge =>
      exact asks_onPart (Reads.asks_of_forall (fun _ => List.mem_cons_self ..) _)
  | openGate account policy factors =>
      rw [sessionCode, UnlockGate.openSeed]
      exact Fallible.asks_attempt (hpolicy factors policy)
        fun done => Fallible.asks_mapError (hkeychain _ _)
  | unlock session collected policy =>
      cases collected with
      | error failure => trivial
      | ok factors =>
          rw [sessionCode, unlock_collected]
          refine Fallible.asks_attempt (Fallible.asks_mapError (hpolicy factors policy))
            fun done => ?_
          refine Fallible.asks_attempt (Fallible.asks_mapError (hkeychain _ _)) fun seed => ?_
          trivial

theorem unnamed_part_unchanged {part : SessionPart}
    (h : PartialMachine.run (sessionNext table)
      (.idle (.fresh start totpClock passkeyClock initial)) actions = some w)
    (calls : ∀ thread call, .call thread call ∈ actions → part ∉ call.parts)
    (events : ∀ event, .disturb event ∈ actions → part ≠ event.part) :
    w.system.shared part = SessionMemory.fresh start totpClock passkeyClock initial part := by
  have hrun : PartialMachine.run (Attended.next (performPart performIn)
      (transcribed (sessionCode table)) SessionMemory.disturb)
      (.idle (SessionMemory.fresh start totpClock passkeyClock initial)) actions = some w := h
  refine unchanged_of_run ?_ ?_ hrun
  · exact fun thread call hcall => (sessionCode_asks_parts call).imp
      fun q hq hsame => calls thread call hcall (hsame ▸ hq)
  · intro event hevent m
    have helsewhere := events event hevent
    cases event with
    | write change => exact Function.update_of_ne helsewhere ..
    | totpClock slot reading => exact Function.update_of_ne helsewhere ..
    | passkeyClock slot reading => exact Function.update_of_ne helsewhere ..

theorem unlock_spends_each_factor_once [LawfulBackend Blob] [LawfulSession]
    (foreign : WritesNoAccount actions)
    (h : PartialMachine.run (sessionNext table)
      (.idle (.fresh start totpClock passkeyClock initial)) actions = some w)
    (distinct : ChallengesDistinct w.system.shared) :
    (∀ session factors policy accesses outcome,
      ⟨.unlock session (.ok factors) policy, accesses, outcome⟩ ∈ w.replies →
        ((∃ x ∈ accesses, x.1.1 = .keychain) →
          ∀ factor ∈ policy.required, factor.Accepted table factors accesses) ∧
        ∀ account, outcome = .ok account →
          (∀ factor ∈ policy.required, factor.Accepted table factors accesses) ∧
            account.account = session.account ∧
            account.defaultProfileIx = session.defaultProfileIx ∧
            ∃ blob n, ⟨⟨.keychain, .read (blobKey session.account)⟩, (.ok blob, n)⟩ ∈ accesses ∧
              AccountStore.Enrolled (RequestedIn actions) start (w.system.shared .keychain)
                session.account factors.password blob account.seed n) ∧
      (∀ id factors policy accesses outcome,
        ⟨.openGate id policy factors, accesses, outcome⟩ ∈ w.replies →
          ((∃ x ∈ accesses, x.1.1 = .keychain) →
            ∀ factor ∈ policy.required, factor.Accepted table factors accesses) ∧
          ∀ seed, outcome = .ok seed →
            (∀ factor ∈ policy.required, factor.Accepted table factors accesses) ∧
              ∃ blob n, ⟨⟨.keychain, .read (blobKey id)⟩, (.ok blob, n)⟩ ∈ accesses ∧
                AccountStore.Enrolled (RequestedIn actions) start (w.system.shared .keychain) id
                  factors.password blob seed n) ∧
      w.replies.Pairwise fun later earlier =>
        (∀ slot counter turn other,
          ⟨⟨.totp slot, .takeGuard counter⟩, (.ok (), turn)⟩ ∈ later.accesses →
            ⟨⟨.totp slot, .takeGuard counter⟩, (.ok (), other)⟩ ∉ earlier.accesses) ∧
        ∀ slot challenge now reading,
          ⟨⟨.passkey slot, .consume challenge now⟩, .ok ()⟩ ∈ later.accesses →
            ⟨⟨.passkey slot, .consume challenge reading⟩, .ok ()⟩ ∉ earlier.accesses := by
  obtain ⟨hinv, hreplies, honce⟩ := session_run_keeps foreign h distinct
  refine ⟨fun session factors policy accesses outcome hreply => ?_,
    fun id factors policy accesses outcome hreply => ?_,
    honce.imp fun hdistinct => ⟨fun slot counter turn other hlater hearlier => ?_,
      fun slot challenge now reading hlater hearlier => ?_⟩⟩
  · obtain ⟨⟨-, hevidence⟩, hfacts⟩ := hreplies _ hreply
    obtain ⟨opened, ⟨hguarded, hopened⟩, houtcome⟩ := hevidence factors rfl
    refine ⟨hguarded, fun account hok => ?_⟩
    obtain ⟨seed, hsome, rfl⟩ := houtcome account hok
    obtain ⟨haccepted, blob, n, hopens, hread⟩ := hopened seed hsome
    exact ⟨haccepted, rfl, rfl, blob, n, hread,
      AccountStore.enrolled_of_read (hinv .keychain) (hfacts _ hread) hopens⟩
  · obtain ⟨⟨opened, ⟨hguarded, hopened⟩, houtcome⟩, hfacts⟩ := hreplies _ hreply
    refine ⟨hguarded, fun seed hok => ?_⟩
    obtain ⟨seed, hsome, rfl⟩ := houtcome seed hok
    obtain ⟨haccepted, blob, n, hopens, hread⟩ := hopened seed hsome
    exact ⟨haccepted, blob, n, hread,
      AccountStore.enrolled_of_read (hinv .keychain) (hfacts _ hread) hopens⟩
  · exact hdistinct _ hlater _ hearlier ⟨.totp slot, counter⟩ ⟨counter, rfl, rfl⟩
      ⟨counter, rfl, rfl⟩
  · exact hdistinct _ hlater _ hearlier ⟨.passkey slot, challenge⟩ ⟨challenge, rfl, rfl⟩
      ⟨challenge, rfl, rfl⟩

end Session

section Example

abbrev deskSession : DigSession := plainSession

def deskTable : FactorTable := ⟨fun _ => phone, fun _ => deskKey⟩

def deskFactors : letI := deskSession; AuthFactors :=
  letI := deskSession
  ⟨("a" : String), some "55", some []⟩

def deskSessionActions :
    letI := deskSession; letI := memoryBackend Blob
    List (Interleaving.Action SessionCall SessionEvent) :=
  letI := deskSession
  letI := memoryBackend Blob
  let attempt : SessionCall :=
    .unlock ⟨"desk", 0⟩ (.ok deskFactors) (.allOf [.totp 0, .passkey 0])
  [.call 0 (.enroll ⟨"desk", 0⟩ ("a" : String) (3 : Nat) (.entropy (5 : Nat))), .step 0, .step 0,
    .step 0, .call 0 (.issueChallenge 0 [9]), .step 0, .step 0, .step 0,
    .call 1 attempt, .call 2 attempt, .disturb (.write (withSettings ("", 0, 0))), .step 1,
    .step 2, .step 1, .step 2, .step 2, .step 1, .step 1, .step 1, .step 1, .step 1, .step 1]

theorem desk_names_no_other_passkey (slot : Nat) :
    letI := deskSession
    letI := memoryBackend Blob
    (∀ thread call, .call thread call ∈ deskSessionActions →
      SessionPart.passkey (slot + 1) ∉ call.parts) ∧
    ∀ event, .disturb event ∈ deskSessionActions → SessionPart.passkey (slot + 1) ≠ event.part := by
  let _ := deskSession
  let _ := memoryBackend Blob
  constructor
  · intro thread call hcall
    simp only [deskSessionActions, List.mem_cons, List.not_mem_nil, or_false, reduceCtorEq,
      false_or, Interleaving.Action.call.injEq] at hcall
    rcases hcall with ⟨-, rfl⟩ | ⟨-, rfl⟩ | ⟨-, rfl⟩ | ⟨-, rfl⟩
    · simp [SessionCall.parts]
    · simp [SessionCall.parts]
    · simp [SessionCall.parts, AuthPolicy.required, SecondFactor.part]
    · simp [SessionCall.parts, AuthPolicy.required, SecondFactor.part]
  · intro event hevent
    simp only [deskSessionActions, List.mem_cons, List.not_mem_nil, or_false, reduceCtorEq,
      false_or, Interleaving.Action.disturb.injEq] at hevent
    subst hevent
    exact nofun

def unlockSucceeded [DigSession] [KeychainBackend Blob] :
    Transcribed SessionAccess SessionAnswer SessionOutcome → Bool
  | ⟨.unlock _ _ _, _, .ok _⟩ => true
  | _ => false

theorem unlock_spends_each_factor_once_desk :
    letI := deskSession
    letI := memoryBackend Blob
    letI := lastDigitTotp
    letI := deskWebAuthn
    ∃ w, PartialMachine.run (sessionNext deskTable) (.idle (.fresh []
        (fun _ => .ok 150) (fun _ => .ok 0) fun _ => 3)) deskSessionActions = some w ∧
      w.replies.length = 4 ∧ w.replies.countP unlockSucceeded = 1 ∧
      w.replies.Pairwise fun later earlier => ∀ slot counter turn other,
        ⟨⟨.totp slot, .takeGuard counter⟩, (.ok (), turn)⟩ ∈ later.accesses →
          ⟨⟨.totp slot, .takeGuard counter⟩, (.ok (), other)⟩ ∉ earlier.accesses := by
  let _ := deskSession
  let _ := memoryBackend Blob
  let _ := lastDigitTotp
  let _ := deskWebAuthn
  have : LawfulBackend Blob := memoryBackend_lawful _
  have : LawfulSession := plainSession_lawful
  have hsummary : (PartialMachine.run (sessionNext deskTable) (.idle (.fresh []
      (fun _ => .ok 150) (fun _ => .ok 0) fun _ => 3)) deskSessionActions).map (fun w =>
        (w.replies.length, w.replies.countP unlockSucceeded,
          issuedChallenges (PasskeyMemory.log (w.system.shared (.passkey 0))))) =
          some (4, 1, [[9]]) := by
    decide +kernel
  obtain ⟨w, hrun, hsame⟩ := Option.map_eq_some_iff.1 hsummary
  obtain ⟨hlength, hsame⟩ := Prod.mk.inj hsame
  obtain ⟨hunlocked, hissued⟩ := Prod.mk.inj hsame
  have foreign : WritesNoAccount deskSessionActions := by
    intro change hchange
    simp only [deskSessionActions, List.mem_cons, List.not_mem_nil, or_false, reduceCtorEq,
      false_or, Interleaving.Action.disturb.injEq, SessionEvent.write.injEq] at hchange
    subst hchange
    exact leavesAccounts_withSettings _
  refine ⟨w, hrun, hlength, hunlocked, ?_⟩
  refine (unlock_spends_each_factor_once foreign hrun fun slot => ?_).2.2.imp fun h => h.1
  cases slot with
  | zero =>
      rw [hissued]
      exact List.nodup_singleton _
  | succ slot =>
      obtain ⟨hcalls, hevents⟩ := desk_names_no_other_passkey slot
      rw [unnamed_part_unchanged hrun hcalls hevents]
      exact .nil

end Example

end DigAccount
