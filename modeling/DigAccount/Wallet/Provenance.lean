import DigAccount.Foundation.Machine
import DigAccount.Foundation.Ticket
import DigAccount.Wallet.AllowanceRuns
import DigAccount.Wallet.Approval

namespace DigAccount

open PartialMachine Ticket

structure HostGate where
  profile : ProfileIx
  gate : PolicyAuthorizer
  ledger : GateState

structure AuthorizeCall where
  profile : ProfileIx
  gate : PolicyAuthorizer
  coinSpends : List CoinSpend
  opClass : SpendOpClass
  result : Except AccountError SpendRuling

structure Permission where
  ruling : Nat
  spend : AuthorizedSpend
  deriving DecidableEq

structure Ceremony where
  ruling : Nat
  pending : AuthorizedSpend
  request : SpendConfirmRequest
  deriving DecidableEq

structure Consent where
  ruling : Nat
  request : SpendConfirmRequest
  answer : Except AccountError SpendDecision

structure SignedApproval [MoneyBackend] where
  ruling : Nat
  signer : LocalMoneySigner
  bundle : SpendBundle

structure ApprovalRecords where
  calls : List AuthorizeCall
  consents : List Consent

structure ApprovalHost [MoneyBackend] where
  gates : List HostGate
  records : ApprovalRecords
  pending : List Permission
  ceremonies : List Ceremony
  approvals : List Permission
  signed : List SignedApproval

inductive ApprovalStep [MoneyBackend] where
  | openGate (profile : ProfileIx) (custody : CustodyPolicy) (autoSend : AutoSendPolicy)
      (hotWalletAddress : String) (clock : Clock)
  | authorizeOp (gate : Nat) (coinSpends : List CoinSpend) (opClass : SpendOpClass)
  | confirmWith (pending : Nat) (account : String) (profile : ProfileIx)
  | answer (ceremony : Nat) (answer : Except AccountError SpendDecision)
  | signApproved (approval : Nat) (signer : LocalMoneySigner)
  | dropPending (pending : Nat)
  | dropCeremony (ceremony : Nat)
  | dropApproval (approval : Nat)

namespace ApprovalHost

variable [MoneyBackend]

def new : ApprovalHost where
  gates := []
  records := ⟨[], []⟩
  pending := []
  ceremonies := []
  approvals := []
  signed := []

variable (host : ApprovalHost)

def openGate (profile : ProfileIx) : Except AccountError PolicyAuthorizer → ApprovalHost
  | .error _ => host
  | .ok gate => { host with gates := host.gates ++ [⟨profile, gate, .new⟩] }

def record (call : AuthorizeCall) : ApprovalHost :=
  { host with records := { host.records with calls := host.records.calls ++ [call] } }

def receive (call : AuthorizeCall) : ApprovalHost :=
  let ruling := host.records.calls.length
  let host := host.record call
  match call.result with
  | .error _ => host
  | .ok (.approved approval) => { host with approvals := ⟨ruling, approval⟩ :: host.approvals }
  | .ok (.requiresConfirmation pending) =>
      { host with pending := ⟨ruling, pending⟩ :: host.pending }

def settle (ceremony : Ceremony) (answer : Except AccountError SpendDecision) : ApprovalHost :=
  let consent : Consent := ⟨ceremony.ruling, ceremony.request, answer⟩
  let host := { host with
    records := { host.records with consents := host.records.consents ++ [consent] } }
  match ceremony.pending.confirmWith answer with
  | .error _ => host
  | .ok approval => { host with approvals := ⟨ceremony.ruling, approval⟩ :: host.approvals }

def sign (signer : LocalMoneySigner) (permission : Permission) : ApprovalHost :=
  match signer.signApproved permission.spend with
  | .error _ => host
  | .ok bundle => { host with signed := host.signed ++ [⟨permission.ruling, signer, bundle⟩] }

end ApprovalHost

namespace ApprovalHost

variable [MoneyBackend] [WalletSdk] (host : ApprovalHost)

def step : ApprovalStep → Option ApprovalHost
  | .openGate profile custody autoSend hotWalletAddress clock =>
      some (host.openGate profile
        (PolicyAuthorizer.new profile custody autoSend hotWalletAddress clock))
  | .authorizeOp i coinSpends opClass => do
      let held ← host.gates[i]?
      let (result, ledger) := held.gate.authorizeOp coinSpends opClass held.ledger
      let host := { host with gates := host.gates.set i { held with ledger := ledger } }
      return host.receive ⟨held.profile, held.gate, coinSpends, opClass, result⟩
  | .confirmWith i account profile => do
      let (permission, rest) ← take host.pending i
      let request := permission.spend.request account profile
      return { host with
        pending := rest
        ceremonies := ⟨permission.ruling, permission.spend, request⟩ :: host.ceremonies }
  | .answer i answer => do
      let (ceremony, rest) ← take host.ceremonies i
      return { host with ceremonies := rest }.settle ceremony answer
  | .signApproved i signer => do
      let (permission, rest) ← take host.approvals i
      return { host with approvals := rest }.sign signer permission
  | .dropPending i => do
      let (_, rest) ← take host.pending i
      return { host with pending := rest }
  | .dropCeremony i => do
      let (_, rest) ← take host.ceremonies i
      return { host with ceremonies := rest }
  | .dropApproval i => do
      let (_, rest) ← take host.approvals i
      return { host with approvals := rest }

end ApprovalHost

namespace ApprovalRecords

variable (records : ApprovalRecords)

def Approves (ruling : Nat) (pending : AuthorizedSpend) : Prop :=
  ∃ consent ∈ records.consents, consent.ruling = ruling ∧
    consent.request.summary = pending.summary ∧ consent.answer = .ok .approve

structure Extends (older : ApprovalRecords) : Prop where
  calls : older.calls <+: records.calls
  consents : older.consents <+: records.consents

variable {older records : ApprovalRecords} {ruling : Nat} {spend : AuthorizedSpend}

theorem Extends.called (h : records.Extends older) {call : AuthorizeCall}
    (hcall : older.calls[ruling]? = some call) : records.calls[ruling]? = some call := by
  obtain ⟨later, hlater⟩ := h.calls
  obtain ⟨hruling, -⟩ := List.getElem?_eq_some_iff.1 hcall
  rw [← hlater, List.getElem?_append_left hruling]
  exact hcall

theorem Extends.approves (h : records.Extends older) (happroves : older.Approves ruling spend) :
    records.Approves ruling spend := by
  obtain ⟨consent, hmem, hconsent⟩ := happroves
  exact ⟨consent, h.consents.subset hmem, hconsent⟩

end ApprovalRecords

section Records

variable [WalletSdk]

def AuthorizeCall.Ruled (call : AuthorizeCall) : Prop :=
  (∃ address, PolicyAuthorizer.new call.profile call.gate.custody call.gate.autoSend address
    call.gate.clock = .ok call.gate) ∧
  ∃ ledger, call.result = (call.gate.authorizeOp call.coinSpends call.opClass ledger).1

namespace ApprovalRecords

variable (records : ApprovalRecords)

def Escalated (ruling : Nat) (pending : AuthorizedSpend) : Prop :=
  ∃ call, records.calls[ruling]? = some call ∧ call.Ruled ∧
    call.result = .ok (.requiresConfirmation pending)

def Permitted (ruling : Nat) (approval : AuthorizedSpend) : Prop :=
  ∃ call, records.calls[ruling]? = some call ∧ call.Ruled ∧
    (call.result = .ok (.approved approval) ∨
      call.result = .ok (.requiresConfirmation approval) ∧ records.Approves ruling approval)

structure TracesTo [MoneyBackend] (record : SignedApproval) (call : AuthorizeCall) : Prop where
  called : records.calls[record.ruling]? = some call
  ruled : call.Ruled
  permitted : (∃ approval, call.result = .ok (.approved approval)) ∨
    ∃ pending, call.result = .ok (.requiresConfirmation pending) ∧
      records.Approves record.ruling pending
  coinSpends : record.bundle.coinSpends = call.coinSpends
  profile : record.signer.profileIx = call.profile
  wallet : ∀ hot, call.gate.custody = .hot hot →
    record.signer.walletPuzzleHash = call.gate.hotWalletPuzzleHash

end ApprovalRecords

theorem AuthorizeCall.Ruled.scope {call : AuthorizeCall} (h : call.Ruled) :
    call.gate.scope =
      CustodyScope.new call.profile call.gate.custody call.gate.hotWalletPuzzleHash := by
  obtain ⟨⟨address, hnew⟩, -⟩ := h
  rw [PolicyAuthorizer.new] at hnew
  split at hnew
  · cases hnew
  · rw [Except.ok.injEq] at hnew
    rw [← hnew]

theorem AuthorizeCall.Ruled.permission {call : AuthorizeCall} (h : call.Ruled)
    {ruling : SpendRuling} (hresult : call.result = .ok ruling) :
    ruling.permission.coinSpends = call.coinSpends ∧
      ruling.permission.scope = call.gate.scope := by
  obtain ⟨-, ledger, hledger⟩ := h
  exact call.gate.authorizeOp_permits call.coinSpends call.opClass ledger ruling
    (hledger.symm.trans hresult)

namespace ApprovalRecords

variable {older records : ApprovalRecords} {ruling : Nat} {spend : AuthorizedSpend}

theorem Extends.escalated (h : records.Extends older) (hesc : older.Escalated ruling spend) :
    records.Escalated ruling spend := by
  obtain ⟨call, hcall, hruled⟩ := hesc
  exact ⟨call, h.called hcall, hruled⟩

theorem Extends.permitted (h : records.Extends older) (hperm : older.Permitted ruling spend) :
    records.Permitted ruling spend := by
  obtain ⟨call, hcall, hruled, hresult⟩ := hperm
  refine ⟨call, h.called hcall, hruled, ?_⟩
  rcases hresult with happroved | ⟨hasked, happroves⟩
  · exact .inl happroved
  · exact .inr ⟨hasked, h.approves happroves⟩

theorem Extends.tracesTo [MoneyBackend] (h : records.Extends older) {record : SignedApproval}
    {call : AuthorizeCall} (htraces : older.TracesTo record call) :
    records.TracesTo record call where
  called := h.called htraces.called
  ruled := htraces.ruled
  permitted := by
    rcases htraces.permitted with happroved | ⟨pending, hasked, happroves⟩
    · exact .inl happroved
    · exact .inr ⟨pending, hasked, h.approves happroves⟩
  coinSpends := htraces.coinSpends
  profile := htraces.profile
  wallet := htraces.wallet

theorem Permitted.traces [MoneyBackend] (h : records.Permitted ruling spend)
    {signer : LocalMoneySigner} {bundle : SpendBundle}
    (hsigned : signer.signApproved spend = .ok bundle) :
    ∃ call, records.TracesTo ⟨ruling, signer, bundle⟩ call := by
  obtain ⟨call, hcall, hruled, hresult⟩ := h
  obtain ⟨hspends, hprofile, hwallet⟩ := LocalMoneySigner.signApproved_ok hsigned
  have hpermission : spend.coinSpends = call.coinSpends ∧ spend.scope = call.gate.scope := by
    rcases hresult with happroved | ⟨hasked, -⟩
    · exact hruled.permission happroved
    · exact hruled.permission hasked
  rw [hpermission.2, hruled.scope] at hprofile hwallet
  refine ⟨call, hcall, hruled, ?_, hspends.trans hpermission.1, hprofile.symm, fun hot hhot => ?_⟩
  · rcases hresult with happroved | ⟨hasked, happroves⟩
    · exact .inl ⟨spend, happroved⟩
    · exact .inr ⟨spend, hasked, happroves⟩
  · refine (hwallet call.gate.hotWalletPuzzleHash ?_).symm
    simp only [CustodyScope.new]
    rw [hhot]

end ApprovalRecords

namespace ApprovalHost

variable [MoneyBackend] {host next : ApprovalHost}

def held (host : ApprovalHost) : List Nat :=
  host.pending.map Permission.ruling ++ (host.ceremonies.map Ceremony.ruling ++
    (host.approvals.map Permission.ruling ++ host.signed.map SignedApproval.ruling))

def Built (gates : List HostGate) : Prop :=
  ∀ held ∈ gates, ∃ address, PolicyAuthorizer.new held.profile held.gate.custody
    held.gate.autoSend address held.gate.clock = .ok held.gate

structure Traced (host : ApprovalHost) : Prop where
  gates : Built host.gates
  pending : ∀ p ∈ host.pending, host.records.Escalated p.ruling p.spend
  ceremonies : ∀ c ∈ host.ceremonies, host.records.Escalated c.ruling c.pending ∧
    c.request.summary = c.pending.summary
  approvals : ∀ p ∈ host.approvals, host.records.Permitted p.ruling p.spend
  signed : ∀ record ∈ host.signed, ∃ call, host.records.TracesTo record call
  issued : Issued host.records.calls.length host.held

theorem traced_new : Traced new where
  gates _ h := by cases h
  pending _ h := by cases h
  ceremonies _ h := by cases h
  approvals _ h := by cases h
  signed _ h := by cases h
  issued := issued_nil

theorem Traced.openGate (h : Traced host) (profile : ProfileIx) (custody : CustodyPolicy)
    (autoSend : AutoSendPolicy) (hotWalletAddress : String) (clock : Clock) :
    Traced (host.openGate profile
      (PolicyAuthorizer.new profile custody autoSend hotWalletAddress clock)) := by
  cases hnew : PolicyAuthorizer.new profile custody autoSend hotWalletAddress clock with
  | error e => exact h
  | ok gate =>
      refine { h with gates := fun held hheld => ?_ }
      rcases List.mem_append.1 hheld with hheld | hheld
      · exact h.gates held hheld
      · rw [List.mem_singleton.1 hheld]
        refine ⟨hotWalletAddress, ?_⟩
        have hgate := hnew
        rw [PolicyAuthorizer.new] at hgate
        split at hgate
        · cases hgate
        · rw [Except.ok.injEq] at hgate
          rw [← hgate] at hnew ⊢
          exact hnew

theorem Traced.dropPending (h : Traced host) {permission : Permission} {rest : List Permission}
    {i : Nat} (htake : take host.pending i = some (permission, rest)) :
    Traced { host with pending := rest } := by
  refine { h with
    pending := fun p hp => h.pending p (rest_subset htake hp)
    issued := h.issued.keep fun t => ?_ }
  have hcount := count_take htake Permission.ruling t
  simp only [held, List.count_append]
  omega

theorem Traced.dropCeremony (h : Traced host) {ceremony : Ceremony} {rest : List Ceremony}
    {i : Nat} (htake : take host.ceremonies i = some (ceremony, rest)) :
    Traced { host with ceremonies := rest } := by
  refine { h with
    ceremonies := fun c hc => h.ceremonies c (rest_subset htake hc)
    issued := h.issued.keep fun t => ?_ }
  have hcount := count_take htake Ceremony.ruling t
  simp only [held, List.count_append]
  omega

theorem Traced.dropApproval (h : Traced host) {permission : Permission} {rest : List Permission}
    {i : Nat} (htake : take host.approvals i = some (permission, rest)) :
    Traced { host with approvals := rest } := by
  refine { h with
    approvals := fun p hp => h.approvals p (rest_subset htake hp)
    issued := h.issued.keep fun t => ?_ }
  have hcount := count_take htake Permission.ruling t
  simp only [held, List.count_append]
  omega

theorem Traced.extend (h : Traced host) {records : ApprovalRecords}
    (hextends : records.Extends host.records) (issued : Issued records.calls.length host.held) :
    Traced { host with records := records } where
  gates := h.gates
  pending p hp := hextends.escalated (h.pending p hp)
  ceremonies c hc := (h.ceremonies c hc).imp_left hextends.escalated
  approvals p hp := hextends.permitted (h.approvals p hp)
  signed record hmem := (h.signed record hmem).imp fun _ => hextends.tracesTo
  issued := issued

theorem Traced.receive (h : Traced host) {call : AuthorizeCall} (hruled : call.Ruled) :
    Traced (host.receive call) := by
  have hextends : (host.record call).records.Extends host.records :=
    ⟨List.prefix_append _ _, List.prefix_refl _⟩
  have hcalled : (host.record call).records.calls[host.records.calls.length]? = some call :=
    List.getElem?_concat_length
  have hlength : (host.record call).records.calls.length = host.records.calls.length + 1 :=
    List.length_append
  have hrecord : Traced (host.record call) :=
    h.extend hextends (hlength ▸ h.issued.issue fun t => Nat.le_add_right _ _)
  unfold ApprovalHost.receive
  dsimp only
  split
  · exact hrecord
  · rename_i approval hresult
    refine { hrecord with approvals := fun p hp => ?_, issued := ?_ }
    · rcases List.mem_cons.1 hp with rfl | hp
      · exact ⟨call, hcalled, hruled, .inl hresult⟩
      · exact hrecord.approvals p hp
    · refine hlength ▸ h.issued.issue fun t => ?_
      simp only [held, ApprovalHost.record, List.map_cons, List.count_append, List.count_cons,
        beq_iff_eq]
      omega
  · rename_i pending hresult
    refine { hrecord with pending := fun p hp => ?_, issued := ?_ }
    · rcases List.mem_cons.1 hp with rfl | hp
      · exact ⟨call, hcalled, hruled, hresult⟩
      · exact hrecord.pending p hp
    · refine hlength ▸ h.issued.issue fun t => ?_
      simp only [held, ApprovalHost.record, List.map_cons, List.count_append, List.count_cons,
        beq_iff_eq]
      omega

theorem Traced.confirmWith (h : Traced host) {permission : Permission} {rest : List Permission}
    {i : Nat} (htake : take host.pending i = some (permission, rest)) (account : String)
    (profile : ProfileIx) :
    Traced { host with
      pending := rest
      ceremonies := ⟨permission.ruling, permission.spend,
        permission.spend.request account profile⟩ :: host.ceremonies } := by
  refine { h with
    pending := fun p hp => h.pending p (rest_subset htake hp)
    ceremonies := fun c hc => ?_
    issued := h.issued.keep fun t => ?_ }
  · rcases List.mem_cons.1 hc with rfl | hc
    · exact ⟨h.pending permission (taken_mem htake), rfl⟩
    · exact h.ceremonies c hc
  · have hcount := count_take htake Permission.ruling t
    simp only [held, List.map_cons, List.count_append, List.count_cons, beq_iff_eq]
    omega

theorem Traced.settle (h : Traced host) {ceremony : Ceremony} {rest : List Ceremony} {i : Nat}
    (htake : take host.ceremonies i = some (ceremony, rest))
    (answer : Except AccountError SpendDecision) :
    Traced ({ host with ceremonies := rest }.settle ceremony answer) := by
  let consent : Consent := ⟨ceremony.ruling, ceremony.request, answer⟩
  let records : ApprovalRecords :=
    { host.records with consents := host.records.consents ++ [consent] }
  have hextends : records.Extends host.records :=
    ⟨List.prefix_refl _, List.prefix_append _ _⟩
  have hspent := h.dropCeremony htake
  have hasked := hspent.extend hextends hspent.issued
  rw [ApprovalHost.settle]
  dsimp only
  split
  · exact hasked
  · rename_i approval happroval
    obtain ⟨hanswer, rfl⟩ := AuthorizedSpend.confirmWith_ok.1 happroval
    refine { hasked with
      approvals := fun p hp => ?_
      issued := h.issued.keep fun t => ?_ }
    · rcases List.mem_cons.1 hp with rfl | hp
      · obtain ⟨⟨call, hcall, hruled, hresult⟩, hsummary⟩ :=
          h.ceremonies ceremony (taken_mem htake)
        have happroves : records.Approves ceremony.ruling ceremony.pending :=
          ⟨consent, List.mem_append_right _ (List.mem_singleton_self _), rfl, hsummary, hanswer⟩
        exact ⟨call, hcall, hruled, .inr ⟨hresult, happroves⟩⟩
      · exact hasked.approvals p hp
    · have hcount := count_take htake Ceremony.ruling t
      simp only [held, List.map_cons, List.count_append, List.count_cons, beq_iff_eq]
      omega

theorem Traced.sign (h : Traced host) {permission : Permission} {rest : List Permission} {i : Nat}
    (htake : take host.approvals i = some (permission, rest)) (signer : LocalMoneySigner) :
    Traced ({ host with approvals := rest }.sign signer permission) := by
  have hspent := h.dropApproval htake
  rw [ApprovalHost.sign]
  split
  · exact hspent
  · rename_i bundle hsigned
    refine { hspent with
      signed := fun record hmem => ?_
      issued := h.issued.keep fun t => ?_ }
    · rcases List.mem_append.1 hmem with hmem | hmem
      · exact h.signed record hmem
      · rw [List.mem_singleton.1 hmem]
        exact (h.approvals permission (taken_mem htake)).traces hsigned
    · have hcount := count_take htake Permission.ruling t
      simp only [held, List.map_append, List.map_cons, List.map_nil, List.count_append,
        List.count_cons, List.count_nil, beq_iff_eq]
      omega

theorem Traced.authorize (h : Traced host) {i : Nat} {held : HostGate}
    (hheld : host.gates[i]? = some held) (coinSpends : List CoinSpend) (opClass : SpendOpClass) :
    Traced ({ host with
      gates := host.gates.set i { held with
        ledger := (held.gate.authorizeOp coinSpends opClass held.ledger).2 } }.receive
          ⟨held.profile, held.gate, coinSpends, opClass,
            (held.gate.authorizeOp coinSpends opClass held.ledger).1⟩) := by
  have hmem : held ∈ host.gates := List.mem_of_getElem? hheld
  have hledger : Traced { host with gates := host.gates.set i { held with
      ledger := (held.gate.authorizeOp coinSpends opClass held.ledger).2 } } := by
    refine { h with gates := fun later hlater => ?_ }
    rcases List.mem_or_eq_of_mem_set hlater with hlater | rfl
    · exact h.gates later hlater
    · exact h.gates held hmem
  exact hledger.receive ⟨h.gates held hmem, held.ledger, rfl⟩

theorem Traced.step (h : Traced host) {op : ApprovalStep} (hstep : host.step op = some next) :
    Traced next := by
  cases op with
  | openGate profile custody autoSend hotWalletAddress clock =>
      cases hstep
      exact h.openGate profile custody autoSend hotWalletAddress clock
  | authorizeOp i coinSpends opClass =>
      obtain ⟨held, hheld, hnext⟩ := Option.bind_eq_some_iff.1 hstep
      cases hnext
      exact h.authorize hheld coinSpends opClass
  | confirmWith i account profile =>
      obtain ⟨⟨permission, rest⟩, htake, hnext⟩ := Option.bind_eq_some_iff.1 hstep
      cases hnext
      exact h.confirmWith htake account profile
  | answer i answer =>
      obtain ⟨⟨ceremony, rest⟩, htake, hnext⟩ := Option.bind_eq_some_iff.1 hstep
      cases hnext
      exact h.settle htake answer
  | signApproved i signer =>
      obtain ⟨⟨permission, rest⟩, htake, hnext⟩ := Option.bind_eq_some_iff.1 hstep
      cases hnext
      exact h.sign htake signer
  | dropPending i =>
      obtain ⟨⟨permission, rest⟩, htake, hnext⟩ := Option.bind_eq_some_iff.1 hstep
      cases hnext
      exact h.dropPending htake
  | dropCeremony i =>
      obtain ⟨⟨ceremony, rest⟩, htake, hnext⟩ := Option.bind_eq_some_iff.1 hstep
      cases hnext
      exact h.dropCeremony htake
  | dropApproval i =>
      obtain ⟨⟨permission, rest⟩, htake, hnext⟩ := Option.bind_eq_some_iff.1 hstep
      cases hnext
      exact h.dropApproval htake

theorem signature_traces_to_one_ruling {ops : List ApprovalStep}
    (hrun : run ApprovalHost.step new ops = some host) :
    (∀ record ∈ host.signed, ∃ call, host.records.TracesTo record call) ∧
      (host.signed.map SignedApproval.ruling).Nodup := by
  have htraced : Traced host :=
    run_invariant (fun _ _ _ _ hs hstep => Traced.step hs hstep) traced_new hrun
  refine ⟨htraced.signed, ?_⟩
  have hheld := htraced.issued.nodup
  rw [held] at hheld
  exact (List.nodup_append.1 (List.nodup_append.1 (List.nodup_append.1 hheld).2.1).2.1).2.1

end ApprovalHost

end Records

section Example

open PolicyAuthorizer (tipGate burning)

@[reducible] def echoingBackend : MoneyBackend where
  MasterSeed := Unit
  Network := Unit
  LocalSigner := Unit
  ReviewableSummary := Unit
  walletKeyFromSeedAt _ _ := ⟨0, 0⟩
  newCanonical _ _ _ := .ok ()
  aggSigMeExtraData _ := 0
  extractSignatures coinSpends _ := .ok (coinSpends.map fun spend => .bls 0 spend.solution none)
  reviewableSummary _ _ := .ok ()
  signUnsigned _ unsigned :=
    .ok ⟨unsigned.coinSpends, unsigned.requiredSignatures.map fun r => ⟨r.publicKey, r.message⟩⟩
  signUnsigned_coinSpends _ _ _ h := by
    cases h
    rfl

def echoingSigner : @LocalMoneySigner echoingBackend :=
  letI := echoingBackend
  ⟨(), true, 0, ()⟩

def twoSends : List (@ApprovalStep echoingBackend) :=
  letI := echoingBackend
  [.openGate 0 tipGate.custody tipGate.autoSend "hot" tipGate.clock,
    .authorizeOp 0 (burning 60) .tip, .authorizeOp 0 (burning 70) .tip,
    .confirmWith 0 "alice" 0, .answer 0 (.ok .approve),
    .signApproved 0 echoingSigner, .signApproved 0 echoingSigner]

theorem signature_traces_to_one_ruling_of_two_sends :
    letI := feeOnlySdk
    letI := echoingBackend
    ∃ host, run ApprovalHost.step .new twoSends = some host ∧
      host.signed.map (fun record => (record.ruling, record.bundle.coinSpends)) =
        [(1, burning 70), (0, burning 60)] ∧
      (∀ record ∈ host.signed, ∃ call, host.records.TracesTo record call) ∧
      (host.signed.map SignedApproval.ruling).Nodup := by
  let _ := feeOnlySdk
  let _ := echoingBackend
  cases hrun : run ApprovalHost.step .new twoSends with
  | none =>
      have hsome : (run ApprovalHost.step .new twoSends).isSome = true := by decide
      rw [hrun] at hsome
      cases hsome
  | some host =>
      refine ⟨host, rfl, ?_, ApprovalHost.signature_traces_to_one_ruling hrun⟩
      have hsigned : (run ApprovalHost.step .new twoSends).map (fun host => host.signed.map
        fun record => (record.ruling, record.bundle.coinSpends)) =
          some [(1, burning 70), (0, burning 60)] := by decide
      rw [hrun] at hsigned
      exact Option.some.inj hsigned

end Example

end DigAccount
