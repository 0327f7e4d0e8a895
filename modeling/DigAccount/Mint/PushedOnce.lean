import DigAccount.Mint.CeremonyRuns

namespace DigAccount

open Fallible PartialMachine ProfileRegistry

def CallTrace.Faithful (trace : CallTrace) : Prop :=
  trace.asked.filterMap HostCall.pushedBundle = trace.pushed.toList.map Pushed.bundle ∧
    ∀ push, trace.pushed = some push → push.JournalledFirst

def SameAnswers (oracle : HostOracle) (i : Nat) (oracle' : HostOracle) (j : Nat) : Prop :=
  ∀ k call, oracle (i + k) call = oracle' (j + k) call

def SameChain (oracle : HostOracle) (i : Nat) (oracle' : HostOracle) (j : Nat) : Prop :=
  ∀ k query, oracle (i + k) (.chain query) = oracle' (j + k) (.chain query)

section Repeats

variable [DidEncoding] {r : ProfileRegistry} {ix : ProfileIx} {first second : CeremonyOutcome}

theorem CallEffect.unmoved (h : CallEffect r ix first) (hquiet : first.pushed = none) :
    first.registry = r := by
  cases h with
  | quiet result => rfl
  | did pending seedRoot fee free effect =>
      obtain ⟨push, hpush, -⟩ := effect.pushed
      rw [hquiet] at hpush
      cases hpush
  | store mint did pending journalled unlaunched paired effect =>
      obtain ⟨push, hpush, -⟩ := effect.pushed
      rw [hquiet] at hpush
      cases hpush

theorem PushEffect.kept {half : MintHalf} {mint : ProfileMintInProgress}
    {undone : Option ProfileMintInProgress} (h : PushEffect r ix half mint undone first)
    (hlanded : (∃ push, first.pushed = some push ∧ push.rejected = false) ∨
      ∃ status, first.result = .ok status) :
    first.registry.journalAt ix = some mint := by
  obtain ⟨push, hpush, -, -, -, hanswer, hjournal⟩ := h.pushed
  have hkept : push.rejected = false := by
    rcases hlanded with ⟨found, hfound, hkept⟩ | ⟨status, hstatus⟩
    · rw [hpush, Option.some.injEq] at hfound
      exact hfound ▸ hkept
    · rw [← Bool.not_eq_true]
      intro hno
      obtain ⟨e, he⟩ := hanswer hno
      rw [hstatus] at he
      cases he
  rw [hjournal, hkept, if_neg Bool.false_ne_true]

theorem BeginEffect.repeat_quiet (hfirst : BeginEffect r ix first)
    (hsecond : BeginEffect first.registry ix second)
    (hlanded : (∃ push, first.pushed = some push ∧ push.rejected = false) ∨
      ∃ status, first.result = .ok status) : second.pushed = none := by
  cases hfirst with
  | refused e =>
      rcases hlanded with ⟨push, hpush, -⟩ | ⟨status, hstatus⟩
      · cases hpush
      · cases hstatus
  | pushed pending seedRoot fee free effect =>
      cases hsecond with
      | refused e => rfl
      | pushed pending' seedRoot' fee' free' effect' =>
          rw [effect.kept hlanded] at free'
          cases free'

theorem AdvanceEffect.repeat_quiet {status status' : Except MintError ProfileMintStatus}
    (hfirst : AdvanceEffect r ix status first)
    (hsecond : AdvanceEffect first.registry ix status' second)
    (hlanded : (∃ push, first.pushed = some push ∧ push.rejected = false) ∨
      (∃ status, first.result = .ok status) ∧ (first.registry = r → status' = status)) :
    second.pushed = none := by
  cases hsecond with
  | waited settled => rfl
  | refused e => rfl
  | pushed mint' did' pending' journalled' confirmed' unlaunched' paired' effect' =>
      cases hfirst with
      | waited settled =>
          rcases hlanded with ⟨push, hpush, -⟩ | ⟨-, hsame⟩
          · cases hpush
          · exact absurd ((hsame rfl).symm.trans confirmed') (settled did')
      | refused e =>
          rcases hlanded with ⟨push, hpush, -⟩ | ⟨⟨status, hstatus⟩, -⟩
          · cases hpush
          · cases hstatus
      | pushed mint did pending journalled confirmed unlaunched paired effect =>
          rw [effect.kept (hlanded.imp_right And.left), Option.some.injEq] at journalled'
          rw [← journalled'] at unlaunched'
          cases unlaunched'

variable [CoinHash] [TransferDrivers] [MintDrivers] [Clvm] [DigDrivers] [ProfileSchema]

def CeremonyStep.again (step : CeremonyStep) (oracle : HostOracle) (start : Nat) : CeremonyStep :=
  { step with oracle := oracle, start := start }

def SettledAgainst (step : CeremonyStep) (first : CeremonyOutcome) (oracle : HostOracle)
    (start : Nat) : Prop :=
  (∃ push, first.pushed = some push ∧ push.rejected = false) ∨
    (∃ status, first.result = .ok status) ∧ SameChain step.oracle step.start oracle start ∨
    first.pushed = none ∧ SameAnswers step.oracle step.start oracle start

theorem perform_again {step : CeremonyStep} {oracle : HostOracle} {start : Nat}
    (h : SameAnswers step.oracle step.start oracle start) :
    (step.again oracle start).perform r = step.perform r :=
  (Reads.run_shift h).symm

theorem repeated_call_quiet (h : r.Accepted) {step : CeremonyStep} {oracle : HostOracle}
    {start : Nat} (hfirst : step.perform r = .ok first)
    (hsecond : (step.again oracle start).perform first.registry = .ok second)
    (hsettled : SettledAgainst step first oracle start) : second.pushed = none := by
  have heffect := perform_callEffect h hfirst
  have haccepted := heffect.accepted h
  rcases or_assoc.2 hsettled with hlanded | ⟨hquiet, hanswers⟩
  · obtain ⟨minter, ix, call, oracle₀, start₀⟩ := step
    cases call with
    | beginMint seed network options reservations =>
        have hbegun : BeginEffect r ix first := beginEffect_of_run h hfirst
        have hrepeated : BeginEffect first.registry ix second :=
          beginEffect_of_run haccepted hsecond
        exact hbegun.repeat_quiet hrepeated (hlanded.imp_right And.left)
    | advance network reservations =>
        have hadvanced : AdvanceEffect r ix _ first := advanceEffect_of_run h hfirst
        have hrepeated : AdvanceEffect first.registry ix _ second :=
          advanceEffect_of_run haccepted hsecond
        refine hadvanced.repeat_quiet hrepeated (hlanded.imp_right fun hchain => ?_)
        refine ⟨hchain.1, fun hsame => ?_⟩
        have hanswers : ∀ k query, HostOracle.chainSide oracle₀ (start₀ + k) query =
            HostOracle.chainSide oracle (start + k) query := hchain.2
        rw [hsame]
        exact (Reads.run_shift hanswers).symm
    | status =>
        rw [perform_status rfl] at hsecond
        cases hsecond
        rfl
  · rw [heffect.unmoved hquiet, perform_again hanswers, hfirst, Except.ok.injEq] at hsecond
    exact hsecond ▸ hquiet

end Repeats

section Runs

variable [CoinHash] [DidEncoding] [TransferDrivers] [MintDrivers] [Clvm] [DigDrivers]
  [ProfileSchema] [RegistryJson] [LawfulRegistryJson]

theorem ceremony_latch (half : MintHalf) (ix : ProfileIx) :
    Latch ceremonyStep Accepted (Committed half ix) (CallTrace.landed half ix) where
  keeps := ceremonyStep_accepted
  shuts r op next event h hstep hlanded := by
    have heffect := ceremonyStep_effect h hstep
    generalize hevent : some event = found at heffect
    cases heffect with
    | restart => cases hevent
    | call step outcome hrun effect =>
        cases hevent
        obtain ⟨push, hpush, hmatch⟩ := (Option.any_eq_true _ _).1 hlanded
        obtain ⟨hhalf, hix, hkept⟩ := of_decide_eq_true hmatch
        obtain ⟨hopen, hshut⟩ := effect.commits hpush hkept
        rw [hhalf, hix] at hopen hshut
        exact ⟨hopen, hshut⟩
  stays r op next event h hshut hstep := by
    cases ceremonyStep_effect h hstep with
    | restart => exact hshut
    | call step outcome hrun effect => exact effect.stays hshut

theorem ceremonyStep_faithful (r : ProfileRegistry) (op : CeremonyOp) (next : ProfileRegistry)
    (trace : CallTrace) (h : r.Accepted) (hstep : ceremonyStep r op = some (next, some trace)) :
    trace.Faithful := by
  have heffect := ceremonyStep_effect h hstep
  generalize hevent : some trace = found at heffect
  cases heffect with
  | restart => cases hevent
  | call step outcome hrun effect =>
      cases hevent
      exact ⟨recorded_code step step.oracle step.start outcome hrun,
        fun push hpush => effect.journalledFirst hpush⟩

theorem profile_mint_pushes_once {start : ProfileRegistry} (h : start.Accepted)
    (ops : List CeremonyOp) :
    ∃ r log, run (logged ceremonyStep) (start, []) ops = some (r, log) ∧
      (∀ trace ∈ log, trace.Faithful) ∧
      (∀ half ix, log.countP (CallTrace.landed half ix) ≤ 1) ∧
      ∀ (step : CeremonyStep) (first second : CeremonyOutcome) (oracle : HostOracle) (i : Nat),
        step.perform r = .ok first →
        (step.again oracle i).perform first.registry = .ok second →
        SettledAgainst step first oracle i → second.pushed = none := by
  obtain ⟨⟨r, log⟩, hrun⟩ := exists_run_logged ceremonyStep_enabled ops (s := (start, [])) h
  obtain ⟨haccepted, hfaithful⟩ :=
    run_logged_forall ceremonyStep_accepted ceremonyStep_faithful h hrun
  refine ⟨r, log, hrun, hfaithful, fun half ix => ?_, ?_⟩
  · rcases ((ceremony_latch half ix).run_latched h hrun).2 with hzero | ⟨hone, -⟩
    · rw [hzero]
      exact Nat.zero_le 1
    · exact hone.le
  · intro step first second oracle i hfirst hsecond hsettled
    exact repeated_call_quiet haccepted hfirst hsecond hsettled

end Runs

section Example

def relaunched : List (@CeremonyOp nameAndBio) :=
  letI := nameAndBio
  [.call (beginAt 20 .accepted), .restart, .call (beginAt 20 .accepted),
    .call (advanceAt 40 (.rejected "DOUBLE_SPEND")), .restart, .call (advanceAt 40 .accepted),
    .call (advanceAt 40 .accepted), .call (statusAt 60)]

theorem profile_mint_pushes_once_relaunched :
    letI := pairHash; letI := decimalDid; letI := plainDrivers; letI := launchingDrivers
    letI := singletonOutputs; letI := singletonDrivers; letI := nameAndBio; letI := fileJson
    ((beginAt 20 .accepted).perform empty).toOption.any (fun first => first.pushed.isSome) ∧
      ∃ r log, run (logged ceremonyStep) (empty, []) relaunched = some (r, log) ∧
        (∀ trace ∈ log, trace.Faithful) ∧
        (∀ half ix, log.countP (CallTrace.landed half ix) ≤ 1) ∧
        ∀ (step : CeremonyStep) (first second : CeremonyOutcome) (oracle : HostOracle) (i : Nat),
          step.perform r = .ok first →
          (step.again oracle i).perform first.registry = .ok second →
          SettledAgainst step first oracle i → second.pushed = none := by
  let _ := pairHash
  let _ := decimalDid
  let _ := plainDrivers
  let _ := launchingDrivers
  let _ := singletonOutputs
  let _ := singletonDrivers
  let _ := nameAndBio
  let _ := fileJson
  let _ := fileJson_lawful
  exact ⟨by decide +kernel, profile_mint_pushes_once empty_accepted relaunched⟩

def stoppedClock (peak : Nat) : HostOracle := fun i call =>
  match call with
  | .nowUnix => .error "the clock is not set"
  | other => mintingNode peak .accepted i other

theorem rejected_mint_is_pushed_again :
    letI := pairHash; letI := decimalDid; letI := plainDrivers; letI := launchingDrivers
    letI := singletonOutputs; letI := singletonDrivers; letI := nameAndBio
    (¬ ∀ (r : ProfileRegistry) (step : CeremonyStep) (first second : CeremonyOutcome),
      r.Accepted → step.perform r = .ok first → step.perform first.registry = .ok second →
        second.pushed = none) ∧
      ¬ ∀ (r : ProfileRegistry) (step : CeremonyStep) (first second : CeremonyOutcome)
          (oracle : HostOracle) (i : Nat),
        r.Accepted → step.perform r = .ok first → first.pushed = none →
          SameChain step.oracle step.start oracle i →
          (step.again oracle i).perform first.registry = .ok second → second.pushed = none := by
  let _ := pairHash
  let _ := decimalDid
  let _ := plainDrivers
  let _ := launchingDrivers
  let _ := singletonOutputs
  let _ := singletonDrivers
  let _ := nameAndBio
  constructor
  · intro hquiet
    let step := beginAt 20 (.rejected "DOUBLE_SPEND")
    obtain ⟨first, hfirst, -⟩ := perform_effect empty_accepted step
    have hstart : (step.perform empty).toOption.map CeremonyOutcome.registry = some empty := by
      decide +kernel
    have hpushed : (step.perform empty).toOption.any (fun first => first.pushed.isSome) := by
      decide +kernel
    rw [hfirst] at hstart hpushed
    have hsame : first.registry = empty := Option.some.inj hstart
    have hnone := hquiet empty step first first empty_accepted hfirst (hsame ▸ hfirst)
    change first.pushed.isSome = true at hpushed
    rw [hnone] at hpushed
    cases hpushed
  · intro hquiet
    let step := (beginAt 20 .accepted).again (stoppedClock 20) 0
    obtain ⟨first, hfirst, heffect⟩ := perform_effect empty_accepted step
    obtain ⟨second, hsecond, -⟩ := perform_effect empty_accepted (beginAt 20 .accepted)
    have hstopped : (step.perform empty).toOption.any (fun first => first.pushed.isNone) := by
      decide +kernel
    have hpushed : ((beginAt 20 .accepted).perform empty).toOption.any
        (fun second => second.pushed.isSome) := by
      decide +kernel
    rw [hfirst] at hstopped
    rw [hsecond] at hpushed
    have hfirstNone : first.pushed = none := Option.isNone_iff_eq_none.1 hstopped
    have hsame : first.registry = empty := heffect.unmoved hfirstNone
    have hnone := hquiet empty step first second (mintingNode 20 .accepted) 0 empty_accepted
      hfirst hfirstNone (fun _ _ => rfl) (hsame ▸ hsecond)
    change second.pushed.isSome = true at hpushed
    rw [hnone] at hpushed
    cases hpushed

end Example

end DigAccount
