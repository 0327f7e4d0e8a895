import DigAccount.Auth.Passkey

namespace DigAccount

open Interleaving Interleaving.Protocol

def latestIssued : List PasskeyEvent → Option (Bytes × Nat)
  | [] => none
  | .issued challenge expiresAt :: _ => some (challenge, expiresAt)
  | .spent _ _ :: log | .counted _ _ _ :: log => latestIssued log

def lastCount (initial : Nat) : List PasskeyEvent → Nat
  | [] => initial
  | .counted _ _ presented :: _ => presented
  | .issued _ _ :: log | .spent _ _ :: log => lastCount initial log

def issuedChallenges (log : List PasskeyEvent) : List Bytes :=
  log.filterMap fun
    | .issued challenge _ => some challenge
    | .spent _ _ | .counted _ _ _ => none

def Advances (stored presented : Nat) : Prop := stored < presented ∨ stored = 0 ∧ presented = 0

def SoundLog (initial : Nat) : List PasskeyEvent → Prop
  | [] => True
  | .issued _ _ :: log => SoundLog initial log
  | .spent challenge reading :: log =>
      (∃ expiresAt, latestIssued log = some (challenge, expiresAt) ∧ reading < expiresAt) ∧
        SoundLog initial log
  | .counted _ stored presented :: log =>
      stored = lastCount initial log ∧ Advances stored presented ∧ SoundLog initial log

def SpentIn (log : List PasskeyEvent) (challenge : Bytes) : Prop :=
  ∃ reading, .spent challenge reading ∈ log

def AnsweredIn (log : List PasskeyEvent) (assertion : VerifiedAssertion) : Prop :=
  ∃ newer stored middle reading older,
    log = newer ++ .counted assertion.challenge stored assertion.signCount ::
      (middle ++ .spent assertion.challenge reading :: older)

section Log

variable {initial : Nat} {newer older log : List PasskeyEvent} {challenge : Bytes}

theorem soundLog_of_append (h : SoundLog initial (newer ++ older)) : SoundLog initial older := by
  induction newer with
  | nil => exact h
  | cons event newer ih =>
      cases event with
      | issued challenge expiresAt => exact ih h
      | spent challenge reading => exact ih h.2
      | counted challenge stored presented => exact ih h.2.2

theorem latestIssued_mem {expiresAt : Nat} (h : latestIssued log = some (challenge, expiresAt)) :
    challenge ∈ issuedChallenges log := by
  induction log with
  | nil => cases h
  | cons event log ih =>
      cases event with
      | issued other expires =>
          cases h
          exact List.mem_cons_self ..
      | spent other reading => exact ih h
      | counted other stored presented => exact ih h

theorem AnsweredIn.mono {assertion : VerifiedAssertion} (hsuffix : older <:+ log)
    (h : AnsweredIn older assertion) : AnsweredIn log assertion := by
  obtain ⟨newest, rfl⟩ := hsuffix
  obtain ⟨newer, stored, middle, reading, oldest, rfl⟩ := h
  exact ⟨newest ++ newer, stored, middle, reading, oldest, by simp⟩

theorem SpentIn.mono (hsuffix : older <:+ log) (h : SpentIn older challenge) :
    SpentIn log challenge :=
  h.imp fun _ hmem => hsuffix.subset hmem

end Log

namespace PasskeyMemory

structure Guarded (initial : Nat) (m : PasskeyMemory) : Prop where
  sound : SoundLog initial m.log
  outstanding : ∀ challenge expiresAt, m.outstanding = some (challenge, expiresAt) →
    latestIssued m.log = some (challenge, expiresAt) ∧ ¬ SpentIn m.log challenge
  count : m.signCount = lastCount initial m.log
  spent_issued : ∀ challenge, SpentIn m.log challenge → challenge ∈ issuedChallenges m.log

def Extends (m later : PasskeyMemory) : Prop := m.log <:+ later.log

def IssuesFresh (m : PasskeyMemory) (access : PasskeyAccess) : Prop :=
  (issuedChallenges (m.perform access).2.log).Nodup

def protocol (initial : Nat) : Protocol PasskeyMemory PasskeyAccess PasskeyAnswer where
  perform := perform
  Inv := Guarded initial
  Rely := Extends
  Guard := IssuesFresh
  rely_refl _ := List.suffix_refl _
  rely_trans _ _ _ h h' := h.trans h'

variable {initial now expiresAt count : Nat} {challenge : Bytes} {m later : PasskeyMemory}

theorem guarded_enrolled (clock : Except PasskeyError Nat) (initial : Nat) :
    Guarded initial (enrolled clock initial) where
  sound := trivial
  outstanding _ _ h := by cases h
  count := rfl
  spent_issued _ h := by
    obtain ⟨reading, hmem⟩ := h
    cases hmem

theorem consume_cases (m : PasskeyMemory) (presented : Bytes) (now : Nat) :
    (m.consume presented now = (.error .challengeNotOutstanding, m)) ∨
      ∃ expiresAt, m.outstanding = some (presented, expiresAt) ∧ now < expiresAt ∧
        m.consume presented now = (.ok (), { m with
          outstanding := none, log := .spent presented now :: m.log }) := by
  rw [consume]
  split
  · exact .inl rfl
  · rename_i challenge expiresAt hout
    split
    · exact .inl rfl
    · rename_i hlive
      split
      · exact .inl rfl
      · rename_i hsame
        obtain rfl := not_not.1 hsame
        exact .inr ⟨expiresAt, hout, Nat.lt_of_not_le hlive, rfl⟩

theorem advance_cases (m : PasskeyMemory) (challenge : Bytes) (count : Nat) :
    (m.advance challenge count = (.error .clonedCredential, m)) ∨
      Advances m.signCount count ∧ m.advance challenge count = (.ok (), { m with
        signCount := count, log := .counted challenge m.signCount count :: m.log }) := by
  rw [advance]
  split
  · exact .inl rfl
  · rename_i hadvances
    refine .inr ⟨?_, rfl⟩
    rw [Advances]
    omega

theorem extends_perform (m : PasskeyMemory) (q : PasskeyAccess) :
    m.Extends (m.perform q).2 := by
  cases q with
  | unixSeconds => exact List.suffix_refl _
  | issue challenge expiresAt => exact List.suffix_cons _ _
  | consume presented now =>
      rcases m.consume_cases presented now with hrefused | ⟨expiresAt, -, -, hspent⟩
      · simp only [perform, hrefused]
        exact List.suffix_refl _
      · simp only [perform, hspent]
        exact List.suffix_cons _ _
  | advance challenge count =>
      rcases m.advance_cases challenge count with hrefused | ⟨-, hcounted⟩
      · simp only [perform, hrefused]
        exact List.suffix_refl _
      · simp only [perform, hcounted]
        exact List.suffix_cons _ _

theorem extends_setClock (reading : Except PasskeyError Nat) (m : PasskeyMemory) :
    m.Extends (m.setClock reading) :=
  List.suffix_refl _

theorem Guarded.setClock (h : Guarded initial m) (reading : Except PasskeyError Nat) :
    Guarded initial (m.setClock reading) :=
  ⟨h.sound, h.outstanding, h.count, h.spent_issued⟩

theorem Guarded.issue (h : Guarded initial m)
    (fresh : IssuesFresh m (.issue challenge expiresAt)) :
    Guarded initial (m.perform (.issue challenge expiresAt)).2 where
  sound := h.sound
  outstanding other expires hout := by
    cases hout
    refine ⟨rfl, fun hspent => ?_⟩
    obtain ⟨reading, hmem⟩ := hspent
    rcases List.mem_cons.1 hmem with hnew | hold
    · cases hnew
    · exact (List.nodup_cons.1 fresh).1 (h.spent_issued _ ⟨reading, hold⟩)
  count := h.count
  spent_issued other hspent := by
    obtain ⟨reading, hmem⟩ := hspent
    rcases List.mem_cons.1 hmem with hnew | hold
    · cases hnew
    · exact List.mem_cons_of_mem _ (h.spent_issued other ⟨reading, hold⟩)

theorem Guarded.spend (h : Guarded initial m)
    (hout : m.outstanding = some (challenge, expiresAt)) (hlive : now < expiresAt) :
    Guarded initial { m with outstanding := none, log := .spent challenge now :: m.log } where
  sound := ⟨⟨expiresAt, (h.outstanding _ _ hout).1, hlive⟩, h.sound⟩
  outstanding _ _ hnone := by cases hnone
  count := h.count
  spent_issued other hspent := by
    obtain ⟨reading, hmem⟩ := hspent
    rcases List.mem_cons.1 hmem with hnew | hold
    · cases hnew
      exact latestIssued_mem (h.outstanding _ _ hout).1
    · exact h.spent_issued other ⟨reading, hold⟩

theorem Guarded.advance (h : Guarded initial m) (hadvances : Advances m.signCount count) :
    Guarded initial { m with
      signCount := count, log := .counted challenge m.signCount count :: m.log } where
  sound := ⟨h.count, hadvances, h.sound⟩
  outstanding other expires hout := by
    obtain ⟨hlatest, hunspent⟩ := h.outstanding other expires hout
    refine ⟨hlatest, fun ⟨reading, hmem⟩ => hunspent ⟨reading, ?_⟩⟩
    exact (List.mem_cons.1 hmem).resolve_left fun hnew => by cases hnew
  count := rfl
  spent_issued other hspent := by
    obtain ⟨reading, hmem⟩ := hspent
    exact h.spent_issued other
      ⟨reading, (List.mem_cons.1 hmem).resolve_left fun hnew => by cases hnew⟩

theorem Guarded.perform (h : Guarded initial m) {access : PasskeyAccess}
    (fresh : IssuesFresh m access) : Guarded initial (m.perform access).2 := by
  cases access with
  | unixSeconds => exact h
  | issue challenge expiresAt => exact h.issue fresh
  | consume presented now =>
      rcases m.consume_cases presented now with hrefused | ⟨expiresAt, hout, hlive, hspent⟩
      · simp only [PasskeyMemory.perform, hrefused]
        exact h
      · simp only [PasskeyMemory.perform, hspent]
        exact h.spend hout hlive
  | advance challenge count =>
      rcases m.advance_cases challenge count with hrefused | ⟨hadvances, hcounted⟩
      · simp only [PasskeyMemory.perform, hrefused]
        exact h
      · simp only [PasskeyMemory.perform, hcounted]
        exact h.advance hadvances

theorem signCount_le_perform (m : PasskeyMemory) (access : PasskeyAccess) :
    m.signCount ≤ (m.perform access).2.signCount := by
  cases access with
  | unixSeconds => exact Nat.le_refl _
  | issue challenge expiresAt => exact Nat.le_refl _
  | consume presented now =>
      rcases m.consume_cases presented now with hrefused | ⟨expiresAt, -, -, hspent⟩
      · simp only [PasskeyMemory.perform, hrefused]
        exact Nat.le_refl _
      · simp only [PasskeyMemory.perform, hspent]
        exact Nat.le_refl _
  | advance challenge count =>
      rcases m.advance_cases challenge count with hrefused | ⟨hadvances, hcounted⟩
      · simp only [PasskeyMemory.perform, hrefused]
        exact Nat.le_refl _
      · simp only [PasskeyMemory.perform, hcounted]
        rw [Advances] at hadvances
        omega

end PasskeyMemory

namespace PasskeyFactor

open PasskeyMemory

variable [WebAuthn] (factor : PasskeyFactor)

def Answers (reply : PasskeyReply) (assertion : VerifiedAssertion) : Prop :=
  reply.result = .ok () ∧
    ∃ envelopeJson, reply.call = .check envelopeJson ∧
      factor.verifyAssertion envelopeJson = .ok assertion

def Evidenced (reply : PasskeyReply) (m : PasskeyMemory) : Prop :=
  ∀ assertion, factor.Answers reply assertion → AnsweredIn m.log assertion

def tickets (initial : Nat) :
    Tickets PasskeyMemory PasskeyAccess PasskeyAnswer PasskeyReply Bytes where
  perform := PasskeyMemory.perform
  Inv := Guarded initial
  spent m := SpentIn m.log
  grants reply challenge := ∃ assertion, factor.Answers reply assertion ∧
    assertion.challenge = challenge

def next (w : Attended PasskeyMemory PasskeyAccess PasskeyAnswer PasskeyReply) :
    Action PasskeyCall (Except PasskeyError Nat) →
      Option (Attended PasskeyMemory PasskeyAccess PasskeyAnswer PasskeyReply) :=
  w.next PasskeyMemory.perform factor.program setClock

variable {factor} {initial : Nat} {m : PasskeyMemory} {envelopeJson : Bytes}
  {assertion : VerifiedAssertion}

theorem not_answers_error {call : PasskeyCall} {e : PasskeyError} :
    ¬ factor.Answers ⟨call, .error e⟩ assertion := by
  rintro ⟨hok, -⟩
  cases hok

theorem not_answers_issue {challenge : Bytes} {result : Except PasskeyError Unit} :
    ¬ factor.Answers ⟨.issueChallenge challenge, result⟩ assertion := by
  rintro ⟨-, envelopeJson, hcall, -⟩
  cases hcall

theorem check_of_refused {e : PasskeyError} (h : factor.verifyAssertion envelopeJson = .error e) :
    factor.program (.check envelopeJson) = .ret ⟨.check envelopeJson, .error e⟩ := by
  simp only [program, check, h]
  rfl

theorem check_of_verified (h : factor.verifyAssertion envelopeJson = .ok assertion) :
    factor.program (.check envelopeJson) =
      Reads.bind (spend assertion) fun result => .ret ⟨.check envelopeJson, result⟩ := by
  simp only [program, check, h]
  rfl

theorem spend_upholds (h : factor.verifyAssertion envelopeJson = .ok assertion)
    (s : PasskeyMemory) :
    (protocol initial).Upholds (fun result t => factor.Evidenced ⟨.check envelopeJson, result⟩ t)
      (spend assertion) s := by
  have refused : ∀ e t, factor.Evidenced ⟨.check envelopeJson, .error e⟩ t :=
    fun e t a ha => absurd ha not_answers_error
  refine upholds_attempt (upholds_query fun t ht _ _ => ⟨ht, List.suffix_refl _,
    fun e _ => refused e _, fun now _ => upholds_attempt (upholds_query ?_)⟩)
  intro u hu _ _
  rcases u.consume_cases assertion.challenge now with hrefused | ⟨expiresAt, hout, hlive, hspent⟩
  · simp only [protocol, PasskeyMemory.perform, hrefused]
    exact ⟨hu, List.suffix_refl _, fun e _ => refused e _, fun _ hok => by cases hok⟩
  · simp only [protocol, PasskeyMemory.perform, hspent]
    refine ⟨hu.spend hout hlive, List.suffix_cons _ _, fun e _ => refused e _, fun _ _ => ?_⟩
    refine upholds_query fun v hv hrely _ => ?_
    rcases v.advance_cases assertion.challenge assertion.signCount with
      hrefused | ⟨hadvances, hcounted⟩
    · simp only [PasskeyMemory.perform, hrefused]
      exact ⟨hv, List.suffix_refl _, refused _ _⟩
    · simp only [PasskeyMemory.perform, hcounted]
      refine ⟨hv.advance hadvances, List.suffix_cons _ _, fun a ha => ?_⟩
      obtain ⟨-, envelope, hcall, hverified⟩ := ha
      cases hcall
      obtain rfl := Except.ok.inj (h.symm.trans hverified)
      obtain ⟨middle, hmiddle⟩ := hrely
      exact ⟨[], v.signCount, middle, now, u.log, by rw [← hmiddle]; rfl⟩

theorem program_upholds (call : PasskeyCall) (s : PasskeyMemory) :
    (protocol initial).Upholds factor.Evidenced (factor.program call) s := by
  cases call with
  | issueChallenge challenge =>
      have accesses : ∀ t q, Guarded initial t → IssuesFresh t q →
          Guarded initial (t.perform q).2 ∧ t.Extends (t.perform q).2 :=
        fun t q ht hfresh => ⟨ht.perform hfresh, extends_perform t q⟩
      refine Upholds.bind (Upholds.mono (P := protocol initial)
        (upholds_of_accesses accesses (factor.issueChallenge challenge) s) ?_)
      exact fun result t _ assertion hanswers => absurd hanswers not_answers_issue
  | check envelopeJson =>
      cases h : factor.verifyAssertion envelopeJson with
      | error e =>
          rw [check_of_refused h]
          exact fun assertion hanswers => absurd hanswers not_answers_error
      | ok assertion =>
          rw [check_of_verified h]
          exact Upholds.bind (spend_upholds h s)

theorem spend_owning (h : factor.verifyAssertion envelopeJson = .ok assertion)
    (held : Bytes → Prop) :
    (factor.tickets initial).Owning
      (fun held result => ∀ c, (factor.tickets initial).grants ⟨.check envelopeJson, result⟩ c →
        held c)
      held (spend assertion) := by
  have refused : ∀ (e : PasskeyError) c,
      ¬ (factor.tickets initial).grants ⟨.check envelopeJson, .error e⟩ c :=
    fun e c ⟨a, ha, _⟩ => not_answers_error ha
  refine Tickets.Owning.attempt ?_
  intro s _
  refine ⟨fun e _ c hgrants => absurd hgrants (refused e c), fun now _ => ?_⟩
  refine Tickets.Owning.attempt ?_
  intro t ht
  refine ⟨fun e _ c hgrants => absurd hgrants (refused e c), fun _ hok => ?_⟩
  rcases t.consume_cases assertion.challenge now with hrefused | ⟨expiresAt, hout, -, hspent⟩
  · simp only [tickets, PasskeyMemory.perform, hrefused] at hok
    cases hok
  · intro u _ c hgrants
    refine .inl (.inr ?_)
    obtain ⟨a, ⟨-, envelope, hcall, hverified⟩, rfl⟩ := hgrants
    cases hcall
    obtain rfl := Except.ok.inj (h.symm.trans hverified)
    simp only [tickets, PasskeyMemory.perform, hspent]
    have hguarded : Guarded initial t := ht
    exact ⟨(hguarded.outstanding _ _ hout).2, now, List.mem_cons_self ..⟩

theorem program_entitled (call : PasskeyCall) :
    (factor.tickets initial).Entitled (fun _ => False) (factor.program call) := by
  cases call with
  | issueChallenge challenge =>
      refine Tickets.Owning.bind (Tickets.owning_of_forall (fun held result c hgrants => ?_) _ _)
      obtain ⟨a, ha, -⟩ := hgrants
      exact absurd ha not_answers_issue
  | check envelopeJson =>
      cases h : factor.verifyAssertion envelopeJson with
      | error e =>
          rw [check_of_refused h]
          exact fun c ⟨a, ha, _⟩ => absurd ha not_answers_error
      | ok assertion =>
          rw [check_of_verified h]
          exact Tickets.Owning.bind (spend_owning h _)

variable {w : Attended PasskeyMemory PasskeyAccess PasskeyAnswer PasskeyReply}
  {clock : Except PasskeyError Nat}
  {actions : List (Action PasskeyCall (Except PasskeyError Nat))}

theorem meets_of_distinct
    (h : PartialMachine.run factor.next (.idle (.enrolled clock initial)) actions = some w)
    (distinct : (issuedChallenges w.system.shared.log).Nodup) :
    PartialMachine.Meets factor.next
      (fun v action => (protocol initial).Guarded v.system action)
      (.idle (.enrolled clock initial)) actions := by
  have fresh : ∀ s t, Extends s t → (issuedChallenges t.log).Nodup →
      (issuedChallenges s.log).Nodup :=
    fun s t hlater hnodup => hnodup.sublist (hlater.sublist.filterMap _)
  exact Attended.meets_of_run (R := Extends) (fun _ => List.suffix_refl _)
    (fun _ _ _ h h' => h.trans h') extends_perform extends_setClock fresh h distinct

theorem run_keeps
    (h : PartialMachine.run factor.next (.idle (.enrolled clock initial)) actions = some w)
    (distinct : (issuedChallenges w.system.shared.log).Nodup) :
    (protocol initial).Answering factor.Evidenced w ∧
      ∃ owners, (factor.tickets initial).Custody owners w := by
  have preserves : ∀ v action v', ((protocol initial).Answering factor.Evidenced v ∧
        ∃ owners, (factor.tickets initial).Custody owners v) →
      (protocol initial).Guarded v.system action → factor.next v action = some v' →
      (protocol initial).Answering factor.Evidenced v' ∧
        ∃ owners, (factor.tickets initial).Custody owners v' := by
    rintro v action v' ⟨hanswering, owners, hcustody⟩ hguarded hstep
    constructor
    · have stable : ∀ reply s t, factor.Evidenced reply s → (protocol initial).Rely s t →
          factor.Evidenced reply t :=
        fun reply s t hevidenced hrely a ha => (hevidenced a ha).mono hrely
      exact hanswering.next stable (fun call s _ => program_upholds call s)
        (fun reading s hs => ⟨hs.setClock reading, extends_setClock reading s⟩) hguarded hstep
    · have disturbs : ∀ reading s c, SpentIn (PasskeyMemory.log s) c →
          SpentIn (s.setClock reading).log c := fun _ _ _ hspent => hspent
      exact hcustody.next program_entitled
        (fun s q c hspent => SpentIn.mono (extends_perform s q) hspent) disturbs hanswering.inv
        hstep
  exact PartialMachine.invariant_of_meets preserves
    ⟨answering_idle (guarded_enrolled clock initial), _, Tickets.custody_idle _⟩
    (meets_of_distinct h distinct) (List.prefix_refl _) h

theorem challenge_single_use
    (h : PartialMachine.run factor.next (.idle (.enrolled clock initial)) actions = some w)
    (distinct : (issuedChallenges w.system.shared.log).Nodup) :
    (w.replies.Pairwise fun later earlier => ∀ a b, factor.Answers later a →
        factor.Answers earlier b → a.challenge ≠ b.challenge) ∧
      (∀ reply ∈ w.replies, ∀ a, factor.Answers reply a →
        ∃ newer stored middle reading older expiresAt,
          w.system.shared.log = newer ++ .counted a.challenge stored a.signCount ::
            (middle ++ .spent a.challenge reading :: older) ∧
          latestIssued older = some (a.challenge, expiresAt) ∧ reading < expiresAt ∧
          stored = lastCount initial (middle ++ .spent a.challenge reading :: older) ∧
          Advances stored a.signCount) ∧
      (w.system.shared.signCount = lastCount initial w.system.shared.log ∧
        ∀ more later, PartialMachine.run factor.next w more = some later →
          w.system.shared.signCount ≤ later.system.shared.signCount) ∧
      ∀ envelopeJson e, factor.verifyAssertion envelopeJson = .error e →
        ∀ thread later, w.system.threads thread = some (factor.program (.check envelopeJson)) →
          factor.next w (.step thread) = some later →
            later.system.shared = w.system.shared ∧
              later.replies = ⟨.check envelopeJson, .error e⟩ :: w.replies := by
  obtain ⟨hanswering, owners, hcustody⟩ := run_keeps h distinct
  refine ⟨?_, fun reply hreply a ha => ?_, ⟨hanswering.inv.count, fun more later hmore => ?_⟩, ?_⟩
  · refine hcustody.once.imp fun honce a b ha hb hsame => ?_
    exact honce b.challenge ⟨a, ha, hsame⟩ ⟨b, hb, rfl⟩
  · obtain ⟨newer, stored, middle, reading, older, hlog⟩ := hanswering.replied reply hreply a ha
    have hsound := hanswering.inv.sound
    rw [hlog] at hsound
    obtain ⟨hstored, hadvances, hbefore⟩ := soundLog_of_append hsound
    obtain ⟨⟨expiresAt, hlatest, hlive⟩, -⟩ := soundLog_of_append hbefore
    exact ⟨newer, stored, middle, reading, older, expiresAt, hlog, hlatest, hlive, hstored,
      hadvances⟩
  · exact Attended.shared_of_run (R := fun s t => s.signCount ≤ t.signCount)
      (fun _ => Nat.le_refl _) (fun _ _ _ h h' => h.trans h') signCount_le_perform
      (fun _ _ => Nat.le_refl _) hmore
  · intro envelopeJson e hrefused thread later hthread hstep
    rw [check_of_refused hrefused] at hthread
    cases Attended.moves_of_next hstep with
    | reply hret =>
        obtain rfl := Reads.ret.inj (Option.some.inj (hthread.symm.trans hret))
        exact ⟨rfl, rfl⟩
    | access hask => cases hthread.symm.trans hask

end PasskeyFactor

section Example

abbrev deskWebAuthn : WebAuthn where
  parseEnvelope _ := some ⟨"key", "signed", "client", "signature"⟩
  parseClientData _ := some ⟨"webauthn.get", "challenge", "https://desk"⟩
  decodeBase64url text :=
    if text = "signed" then some (List.replicate 32 0 ++ [5, 0, 0, 0, 4]) else some [9]
  sha256 _ := List.replicate 32 0
  signatureFromDer _ := some [1]
  verify _ _ _ := true

def deskKey : PasskeyFactor := ⟨⟨[9], [2], "desk"⟩, 60, ["https://desk"], .required⟩

def deskActions : List (Interleaving.Action PasskeyCall (Except PasskeyError Nat)) :=
  [.call 0 (.issueChallenge [9]), .step 0, .step 0, .step 0, .call 1 (.check []),
    .disturb (.ok 59), .call 2 (.check [7]), .step 1, .step 2, .step 2, .step 1, .step 1, .step 2,
    .step 2]

theorem challenge_single_use_desk :
    letI := deskWebAuthn
    ∃ w, PartialMachine.run deskKey.next (.idle (.enrolled (.ok 0) 3)) deskActions = some w ∧
      w.replies.map PasskeyReply.result = [.ok (), .error .challengeNotOutstanding, .ok ()] ∧
      w.replies.Pairwise fun later earlier => ∀ a b, deskKey.Answers later a →
        deskKey.Answers earlier b → a.challenge ≠ b.challenge := by
  let _ := deskWebAuthn
  have hrun : PartialMachine.run deskKey.next (.idle (.enrolled (.ok 0) 3)) deskActions =
    some _ := rfl
  exact ⟨_, hrun, rfl, (PasskeyFactor.challenge_single_use hrun (by decide)).1⟩

end Example

end DigAccount
