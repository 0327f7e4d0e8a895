import DigAccount.Wallet.AutoApproval
import DigAccount.Wallet.Provenance

namespace DigAccount

open PartialMachine Ticket WalletSdk

section Judged

variable [WalletSdk]

namespace PolicyAuthorizer

variable {gate : PolicyAuthorizer} {coinSpends : List CoinSpend} {opClass : SpendOpClass}
  {s : GateState} {ruling : SpendRuling}

omit [WalletSdk] in
theorem escalate_summary {derived : DerivedSpend}
    (h : (gate.escalate coinSpends derived s).1 = .ok ruling) :
    ruling.permission.summary = derived.summary := by
  rw [escalate] at h
  split at h
  · cases h
  · cases h
    rfl

omit [WalletSdk] in
theorem ruleOnAutoSend_summary {derived : DerivedSpend}
    (h : (gate.ruleOnAutoSend coinSpends derived opClass s).1 = .ok ruling) :
    ruling.permission.summary = derived.summary := by
  rw [ruleOnAutoSend] at h
  split at h
  · exact escalate_summary h
  split at h
  · exact escalate_summary h
  split at h
  · exact escalate_summary h
  split at h
  · cases h
  split at h
  · exact escalate_summary h
  split at h
  · cases h
  · cases h
    rfl
  · exact escalate_summary h

theorem authorizeOp_summary (h : (gate.authorizeOp coinSpends opClass s).1 = .ok ruling) :
    ∃ derived, DerivedSpend.derive coinSpends gate.custody = .ok derived ∧
      ruling.permission.summary = derived.summary := by
  rw [authorizeOp] at h
  split at h
  · cases h
  rename_i derived hderive
  refine ⟨derived, hderive, ?_⟩
  split at h
  · split at h
    · cases h
    · exact escalate_summary h
  · exact escalate_summary h
  · exact ruleOnAutoSend_summary h

theorem new_custody {profile : ProfileIx} {custody : CustodyPolicy} {autoSend : AutoSendPolicy}
    {hotWalletAddress : String} {clock : Clock}
    (h : PolicyAuthorizer.new profile custody autoSend hotWalletAddress clock = .ok gate) :
    gate.custody = custody := by
  rw [PolicyAuthorizer.new] at h
  split at h
  · cases h
  · cases h
    rfl

end PolicyAuthorizer

namespace ApprovalRecords

variable {records : ApprovalRecords}

def ShownAndApproved (records : ApprovalRecords) (ruling : Nat) (summary : SpendSummary) : Prop :=
  ∃ consent ∈ records.consents, consent.ruling = ruling ∧ consent.request.summary = summary ∧
    consent.answer = .ok .approve

theorem TracesTo.judged [MoneyBackend] {record : SignedApproval} {call : AuthorizeCall}
    (h : records.TracesTo record call) :
    ∃ derived ruling, DerivedSpend.derive record.bundle.coinSpends call.gate.custody =
        .ok derived ∧ call.result = .ok ruling ∧ ruling.permission.summary = derived.summary ∧
      ((∃ approval, ruling = .approved approval) ∨
        records.ShownAndApproved record.ruling derived.summary) := by
  have hderived : ∀ ruling, call.result = .ok ruling → ∃ derived,
      DerivedSpend.derive record.bundle.coinSpends call.gate.custody = .ok derived ∧
        ruling.permission.summary = derived.summary := by
    intro ruling hresult
    obtain ⟨-, ledger, hledger⟩ := h.ruled
    rw [h.coinSpends]
    exact PolicyAuthorizer.authorizeOp_summary (hledger.symm.trans hresult)
  rcases h.permitted with ⟨approval, happroved⟩ | ⟨pending, hasked, consent, hmem, hconsent⟩
  · obtain ⟨derived, hderive, hsummary⟩ := hderived _ happroved
    exact ⟨derived, _, hderive, happroved, hsummary, .inl ⟨approval, rfl⟩⟩
  · obtain ⟨derived, hderive, hsummary⟩ := hderived _ hasked
    refine ⟨derived, _, hderive, hasked, hsummary,
      .inr ⟨consent, hmem, hconsent.1, ?_, hconsent.2.2⟩⟩
    exact hconsent.2.1.trans hsummary

end ApprovalRecords

end Judged

def CustodyPolicy.IsVault (custody : CustodyPolicy) : Prop := ∃ vault, custody = .vault vault

section Outflow

variable [WalletSdk]

structure AddressCodec : Prop where
  decodes : ∀ puzzleHash : Bytes32, ∃ address, encodeAddress puzzleHash = some address ∧
    decodeAddress address = .ok puzzleHash

def PaysOnly (hotWallet : Bytes32) (coinSpends : List CoinSpend) : Prop :=
  ∃ effect, analyze coinSpends = .ok effect ∧ effect.protocolSink = [] ∧
    ∀ output ∈ effect.outputs, output.puzzleHash ∈ p2Destinations coinSpends ∨
      output.puzzleHash = hotWallet

theorem AddressCodec.decode_addressLine (codec : AddressCodec) (output : DecodedOutput) :
    decodeAddress (addressLine output).address = .ok output.puzzleHash := by
  obtain ⟨address, hencoded, hdecoded⟩ := codec.decodes output.puzzleHash
  rw [addressLine, hencoded]
  exact hdecoded

theorem paysOnly_of_recipients (codec : AddressCodec) {gate : PolicyAuthorizer}
    {coinSpends : List CoinSpend} {derived : DerivedSpend}
    (hderive : DerivedSpend.derive coinSpends gate.custody = .ok derived)
    (hpays : ∀ recipient ∈ derived.summary.recipients, gate.PaysHotWallet recipient) :
    PaysOnly gate.hotWalletPuzzleHash coinSpends := by
  obtain ⟨effect, hfrom⟩ := derive_ok hderive
  rw [hfrom.recipients] at hpays
  refine ⟨effect, hfrom.analyzed, ?_, fun output houtput => ?_⟩
  · rw [List.eq_nil_iff_forall_not_mem]
    intro sink hsink
    have hline := hpays _ (List.mem_append_right _ (List.mem_map_of_mem hsink))
    cases hline.1
  · by_cases hreturns : output.puzzleHash ∈ p2Destinations coinSpends
    · exact .inl hreturns
    · have hleaves : output ∈ leavesToAnAddress effect coinSpends :=
        List.mem_filter.2 ⟨houtput, decide_eq_true hreturns⟩
      have hline := hpays _ (List.mem_append_left _ (List.mem_map_of_mem hleaves))
      exact .inr (Except.ok.inj ((codec.decode_addressLine output).symm.trans hline.2))

theorem AuthorizeCall.Ruled.vault {call : AuthorizeCall} (h : call.Ruled)
    (hvault : call.gate.custody.IsVault) {ruling : SpendRuling}
    (hresult : call.result = .ok ruling) :
    ∃ pending, ruling = .requiresConfirmation pending ∧
      ∀ recipient ∈ pending.summary.recipients, call.gate.PaysHotWallet recipient := by
  obtain ⟨vault, hvault⟩ := hvault
  obtain ⟨-, ledger, hledger⟩ := h
  rw [hledger] at hresult
  cases ruling with
  | approved approval =>
      exact absurd hresult ((PolicyAuthorizer.authorizeOp_vault hvault).1 approval)
  | requiresConfirmation pending =>
      exact ⟨pending, rfl, (PolicyAuthorizer.authorizeOp_vault hvault).2 pending hresult⟩

end Outflow

namespace ApprovalHost

variable [WalletSdk] [MoneyBackend] {host next : ApprovalHost} {profile : ProfileIx}

structure KeepsVault (profile : ProfileIx) (host : ApprovalHost) : Prop where
  gates : ∀ held ∈ host.gates, held.profile = profile → held.gate.custody.IsVault
  calls : ∀ call ∈ host.records.calls, call.profile = profile → call.gate.custody.IsVault

def OpensVaultOnly (profile : ProfileIx) : ApprovalStep → Prop
  | .openGate opened custody _ _ _ => opened = profile → custody.IsVault
  | _ => True

omit [WalletSdk] in
theorem keepsVault_new : KeepsVault profile new where
  gates _ h := by cases h
  calls _ h := by cases h

omit [WalletSdk] in
theorem receive_frame (host : ApprovalHost) (call : AuthorizeCall) :
    (host.receive call).gates = host.gates ∧
      (host.receive call).records.calls = host.records.calls ++ [call] := by
  unfold ApprovalHost.receive
  dsimp only
  split
  · exact ⟨rfl, rfl⟩
  · exact ⟨rfl, rfl⟩
  · exact ⟨rfl, rfl⟩

omit [WalletSdk] in
theorem settle_frame (host : ApprovalHost) (ceremony : Ceremony)
    (answer : Except AccountError SpendDecision) :
    (host.settle ceremony answer).gates = host.gates ∧
      (host.settle ceremony answer).records.calls = host.records.calls := by
  rw [ApprovalHost.settle]
  dsimp only
  split
  · exact ⟨rfl, rfl⟩
  · exact ⟨rfl, rfl⟩

omit [WalletSdk] in
theorem sign_frame (host : ApprovalHost) (signer : LocalMoneySigner) (permission : Permission) :
    (host.sign signer permission).gates = host.gates ∧
      (host.sign signer permission).records.calls = host.records.calls := by
  rw [ApprovalHost.sign]
  split
  · exact ⟨rfl, rfl⟩
  · exact ⟨rfl, rfl⟩

def Authorizes : ApprovalStep → Prop
  | .authorizeOp _ _ _ => True
  | _ => False

inductive Touches (host next : ApprovalHost) : ApprovalStep → Prop where
  | opened (profile : ProfileIx) (custody : CustodyPolicy) (autoSend : AutoSendPolicy)
      (hotWalletAddress : String) (clock : Clock) (gate : PolicyAuthorizer)
      (built : PolicyAuthorizer.new profile custody autoSend hotWalletAddress clock = .ok gate)
      (gates : next.gates = host.gates ++ [⟨profile, gate, .new⟩])
      (calls : next.records.calls = host.records.calls) :
      Touches host next (.openGate profile custody autoSend hotWalletAddress clock)
  | authorized (i : Nat) (coinSpends : List CoinSpend) (opClass : SpendOpClass) (held : HostGate)
      (asked : host.gates[i]? = some held)
      (gates : next.gates = host.gates.set i
        { held with ledger := (held.gate.authorizeOp coinSpends opClass held.ledger).2 })
      (calls : next.records.calls = host.records.calls ++ [⟨held.profile, held.gate, coinSpends,
        opClass, (held.gate.authorizeOp coinSpends opClass held.ledger).1⟩]) :
      Touches host next (.authorizeOp i coinSpends opClass)
  | untouched (op : ApprovalStep) (quiet : ¬ Authorizes op) (gates : next.gates = host.gates)
      (calls : next.records.calls = host.records.calls) : Touches host next op

theorem touches_of_step {op : ApprovalStep} (hstep : host.step op = some next) :
    Touches host next op := by
  cases op with
  | openGate profile custody autoSend hotWalletAddress clock =>
      cases hstep
      cases hnew : PolicyAuthorizer.new profile custody autoSend hotWalletAddress clock with
      | error e => exact .untouched _ id rfl rfl
      | ok gate => exact .opened profile custody autoSend hotWalletAddress clock gate hnew rfl rfl
  | authorizeOp i coinSpends opClass =>
      obtain ⟨held, hheld, hnext⟩ := Option.bind_eq_some_iff.1 hstep
      cases hnext
      obtain ⟨hgates, hcalls⟩ := receive_frame { host with
        gates := host.gates.set i { held with
          ledger := (held.gate.authorizeOp coinSpends opClass held.ledger).2 } }
        ⟨held.profile, held.gate, coinSpends, opClass,
          (held.gate.authorizeOp coinSpends opClass held.ledger).1⟩
      exact .authorized i coinSpends opClass held hheld hgates hcalls
  | confirmWith i account profile =>
      obtain ⟨⟨permission, rest⟩, -, hnext⟩ := Option.bind_eq_some_iff.1 hstep
      cases hnext
      exact .untouched _ id rfl rfl
  | answer i answer =>
      obtain ⟨⟨ceremony, rest⟩, -, hnext⟩ := Option.bind_eq_some_iff.1 hstep
      cases hnext
      obtain ⟨hgates, hcalls⟩ := settle_frame { host with ceremonies := rest } ceremony answer
      exact .untouched _ id hgates hcalls
  | signApproved i signer =>
      obtain ⟨⟨permission, rest⟩, -, hnext⟩ := Option.bind_eq_some_iff.1 hstep
      cases hnext
      obtain ⟨hgates, hcalls⟩ := sign_frame { host with approvals := rest } signer permission
      exact .untouched _ id hgates hcalls
  | dropPending i =>
      obtain ⟨⟨permission, rest⟩, -, hnext⟩ := Option.bind_eq_some_iff.1 hstep
      cases hnext
      exact .untouched _ id rfl rfl
  | dropCeremony i =>
      obtain ⟨⟨ceremony, rest⟩, -, hnext⟩ := Option.bind_eq_some_iff.1 hstep
      cases hnext
      exact .untouched _ id rfl rfl
  | dropApproval i =>
      obtain ⟨⟨permission, rest⟩, -, hnext⟩ := Option.bind_eq_some_iff.1 hstep
      cases hnext
      exact .untouched _ id rfl rfl

theorem KeepsVault.step (h : KeepsVault profile host) {op : ApprovalStep}
    (hop : OpensVaultOnly profile op) (hstep : host.step op = some next) :
    KeepsVault profile next := by
  cases touches_of_step hstep with
  | opened opened custody autoSend hotWalletAddress clock gate built gates calls =>
      refine ⟨fun held hheld hprofile => ?_, fun call hcall => h.calls call (calls ▸ hcall)⟩
      rw [gates] at hheld
      rcases List.mem_append.1 hheld with hold | hnew
      · exact h.gates held hold hprofile
      · rw [List.mem_singleton.1 hnew] at hprofile ⊢
        rw [PolicyAuthorizer.new_custody built]
        exact hop hprofile
  | authorized i coinSpends opClass held asked gates calls =>
      have hmem := List.mem_of_getElem? asked
      refine ⟨fun later hlater hprofile => ?_, fun call hcall hprofile => ?_⟩
      · rw [gates] at hlater
        rcases List.mem_or_eq_of_mem_set hlater with hold | rfl
        · exact h.gates later hold hprofile
        · exact h.gates held hmem hprofile
      · rw [calls] at hcall
        rcases List.mem_append.1 hcall with hold | hnew
        · exact h.calls call hold hprofile
        · rw [List.mem_singleton.1 hnew] at hprofile ⊢
          exact h.gates held hmem hprofile
  | untouched op quiet gates calls =>
      exact ⟨fun held hheld => h.gates held (gates ▸ hheld),
        fun call hcall => h.calls call (calls ▸ hcall)⟩

theorem vault_has_one_exit (codec : AddressCodec) {ops : List ApprovalStep}
    (hrun : run ApprovalHost.step new ops = some host)
    (hvault : ∀ op ∈ ops, OpensVaultOnly profile op) :
    ∀ record ∈ host.signed, record.signer.profileIx = profile →
      ∃ call derived, host.records.TracesTo record call ∧
        DerivedSpend.derive record.bundle.coinSpends call.gate.custody = .ok derived ∧
        host.records.ShownAndApproved record.ruling derived.summary ∧
        PaysOnly call.gate.hotWalletPuzzleHash record.bundle.coinSpends := by
  intro record hrecord hprofile
  have htraced : Traced host :=
    run_invariant (fun _ _ _ _ hs hstep => Traced.step hs hstep) traced_new hrun
  have hkept : KeepsVault profile host :=
    run_invariant (fun op hop _ _ hs hstep => hs.step (hvault op hop) hstep) keepsVault_new hrun
  obtain ⟨call, htraces⟩ := htraced.signed record hrecord
  have hcustody := hkept.calls call (List.mem_of_getElem? htraces.called)
    (htraces.profile.symm.trans hprofile)
  obtain ⟨derived, ruling, hderive, hresult, hsummary, hpermitted⟩ := htraces.judged
  obtain ⟨pending, rfl, hpays⟩ := htraces.ruled.vault hcustody hresult
  refine ⟨call, derived, htraces, hderive, ?_,
    paysOnly_of_recipients codec hderive (hsummary ▸ hpays)⟩
  rcases hpermitted with ⟨approval, happroved⟩ | hshown
  · cases happroved
  · exact hshown

end ApprovalHost

section Example

open PolicyAuthorizer (tipGate burning)

@[reducible] def tallySdk : WalletSdk where
  NftOperation := Empty
  analyze coinSpends :=
    .ok {
      outputs := coinSpends.map fun spend => ⟨4, spend.coin.amount, none⟩
      protocolSink := []
      fee := 0
      meltedSingletons := []
      nftOperations := [] }
  describe := Empty.elim
  standardPuzzleHash _ := none
  encodeAddress puzzleHash := some (String.ofList (List.replicate puzzleHash 'q'))
  decodeAddress address := .ok address.length
  settlementPaymentHash := 1
  singletonLauncherHash := 2

theorem tallySdk_codec : letI := tallySdk; AddressCodec := by
  let _ := tallySdk
  refine ⟨fun puzzleHash => ⟨_, rfl, congrArg Except.ok ?_⟩⟩
  rw [String.length_ofList, List.length_replicate]

def savingsSigner : @LocalMoneySigner echoingBackend :=
  letI := echoingBackend
  ⟨(), true, 1, ()⟩

def savingsDay : List (@ApprovalStep echoingBackend) :=
  letI := echoingBackend
  [.openGate 0 tipGate.custody tipGate.autoSend "qqqq" tipGate.clock,
    .openGate 1 (.vault ⟨86400⟩) {} "qqqq" tipGate.clock,
    .authorizeOp 0 (burning 60) .tip, .signApproved 0 savingsSigner,
    .authorizeOp 1 (burning 60) .tip, .confirmWith 0 "alice" 1, .answer 0 (.ok .approve),
    .signApproved 0 savingsSigner]

theorem vault_has_one_exit_savings :
    letI := tallySdk
    letI := echoingBackend
    ∃ host, run ApprovalHost.step .new savingsDay = some host ∧
      host.signed.map SignedApproval.ruling = [1] ∧
      ∀ record ∈ host.signed, record.signer.profileIx = 1 →
        ∃ call derived, host.records.TracesTo record call ∧
          DerivedSpend.derive record.bundle.coinSpends call.gate.custody = .ok derived ∧
          host.records.ShownAndApproved record.ruling derived.summary ∧
          PaysOnly call.gate.hotWalletPuzzleHash record.bundle.coinSpends := by
  let _ := tallySdk
  let _ := echoingBackend
  have hsigned : (run ApprovalHost.step .new savingsDay).map
      (fun host => host.signed.map SignedApproval.ruling) = some [1] := by decide
  obtain ⟨host, hrun, hruling⟩ := Option.map_eq_some_iff.1 hsigned
  refine ⟨host, hrun, hruling, ApprovalHost.vault_has_one_exit tallySdk_codec hrun ?_⟩
  simp [savingsDay, ApprovalHost.OpensVaultOnly, CustodyPolicy.IsVault]

end Example

end DigAccount
