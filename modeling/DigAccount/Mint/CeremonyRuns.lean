import DigAccount.Mint.CeremonySteps
import DigAccount.Wallet.Replacement

namespace DigAccount

open Fallible PartialMachine ProfileRegistry

inductive CeremonyCall [ProfileSchema] where
  | beginMint (seed : ProfileSeed) (network : MintNetwork) (options : MintOptions)
      (reservations : CoinReservations)
  | advance (network : MintNetwork) (reservations : CoinReservations)
  | status

structure CeremonyStep [ProfileSchema] where
  minter : ProfileMinter
  ix : ProfileIx
  call : CeremonyCall
  oracle : HostOracle
  start : Nat

inductive CeremonyOp [ProfileSchema] where
  | call (step : CeremonyStep)
  | restart

structure CallTrace where
  asked : List HostCall
  pushed : Option Pushed

def CallTrace.landed (half : MintHalf) (ix : ProfileIx) (trace : CallTrace) : Bool :=
  trace.pushed.any fun push => push.half = half ∧ push.ix = ix ∧ push.rejected = false

def Pushed.JournalledFirst (push : Pushed) : Prop :=
  match push.half with
  | .did => ∃ pending, push.journalled = some (.didPushed pending)
  | .store => ∃ did pending, push.journalled = some (.storePushed did pending)

def ProfileRegistry.Committed (half : MintHalf) (ix : ProfileIx) (r : ProfileRegistry) : Prop :=
  match half with
  | .did => ∃ mint, r.journalAt ix = some mint
  | .store => ∃ mint, r.journalAt ix = some mint ∧ mint.stage.isStorePushed = true

theorem ProfileRegistry.Committed.congr {r r' : ProfileRegistry} {half : MintHalf}
    {ix : ProfileIx} (h : r.Committed half ix) (hsame : r'.journalAt ix = r.journalAt ix) :
    r'.Committed half ix := by
  cases half with
  | did =>
      obtain ⟨mint, hmint⟩ := h
      exact ⟨mint, hsame.trans hmint⟩
  | store =>
      obtain ⟨mint, hmint, hpushed⟩ := h
      exact ⟨mint, hsame.trans hmint, hpushed⟩

section Effect

variable [DidEncoding]

inductive CallEffect (r : ProfileRegistry) (ix : ProfileIx) : CeremonyOutcome → Prop where
  | quiet (result : Except MintError ProfileMintStatus) : CallEffect r ix ⟨result, r, none⟩
  | did {outcome : CeremonyOutcome} (pending : PendingMintRecord) (seedRoot : Bytes32)
      (fee : Nat) (free : r.journalAt ix = none)
      (effect : PushEffect r ix .did (.withSeedRoot ix (.didPushed pending) seedRoot fee) none
        outcome) : CallEffect r ix outcome
  | store {outcome : CeremonyOutcome} (mint : ProfileMintInProgress) (did : MintedDid)
      (pending : PendingStoreLaunchRecord) (journalled : r.journalAt ix = some mint)
      (unlaunched : mint.stage.isStorePushed = false) (paired : pending.didCoinId = did.coinId)
      (effect : PushEffect r ix .store (mint.setStage (.storePushed (.ofMinted did) pending))
        (some (mint.setStage (.didConfirmedStoreNotLaunched (.ofMinted did)))) outcome) :
      CallEffect r ix outcome

variable {r : ProfileRegistry} {ix : ProfileIx} {outcome : CeremonyOutcome}

theorem BeginEffect.callEffect (h : BeginEffect r ix outcome) : CallEffect r ix outcome := by
  cases h with
  | refused e => exact .quiet _
  | pushed pending seedRoot fee free effect => exact .did pending seedRoot fee free effect

theorem AdvanceEffect.callEffect {status : Except MintError ProfileMintStatus}
    (h : AdvanceEffect r ix status outcome) : CallEffect r ix outcome := by
  cases h with
  | waited settled => exact .quiet _
  | refused e => exact .quiet _
  | pushed mint did pending journalled confirmed unlaunched paired effect =>
      exact .store mint did pending journalled unlaunched paired effect

theorem CallEffect.accepted (h : r.Accepted) (heffect : CallEffect r ix outcome) :
    outcome.registry.Accepted := by
  cases heffect with
  | quiet result => exact h
  | did pending seedRoot fee free effect => exact effect.accepted
  | store mint did pending journalled unlaunched paired effect => exact effect.accepted

theorem CallEffect.journalledFirst {push : Pushed} (heffect : CallEffect r ix outcome)
    (hpush : outcome.pushed = some push) : push.JournalledFirst := by
  cases heffect with
  | quiet result => cases hpush
  | did pending seedRoot fee free effect =>
      obtain ⟨found, hfound, hhalf, -, hjournalled, -⟩ := effect.pushed
      obtain rfl : found = push := Option.some.inj (hfound.symm.trans hpush)
      rw [Pushed.JournalledFirst, hhalf]
      exact ⟨pending, hjournalled⟩
  | store mint did pending journalled unlaunched paired effect =>
      obtain ⟨found, hfound, hhalf, -, hjournalled, -⟩ := effect.pushed
      obtain rfl : found = push := Option.some.inj (hfound.symm.trans hpush)
      rw [Pushed.JournalledFirst, hhalf]
      exact ⟨_, pending, hjournalled⟩

theorem CallEffect.commits {push : Pushed} (heffect : CallEffect r ix outcome)
    (hpush : outcome.pushed = some push) (hlanded : push.rejected = false) :
    ¬ r.Committed push.half push.ix ∧ outcome.registry.Committed push.half push.ix := by
  cases heffect with
  | quiet result => cases hpush
  | did pending seedRoot fee free effect =>
      obtain ⟨found, hfound, hhalf, hix, -, -, hjournal⟩ := effect.pushed
      obtain rfl : found = push := Option.some.inj (hfound.symm.trans hpush)
      rw [hlanded, if_neg Bool.false_ne_true] at hjournal
      rw [hhalf, hix]
      refine ⟨?_, _, hjournal⟩
      rintro ⟨mint, hmint⟩
      rw [free] at hmint
      cases hmint
  | store mint did pending journalled unlaunched paired effect =>
      obtain ⟨found, hfound, hhalf, hix, -, -, hjournal⟩ := effect.pushed
      obtain rfl : found = push := Option.some.inj (hfound.symm.trans hpush)
      rw [hlanded, if_neg Bool.false_ne_true] at hjournal
      rw [hhalf, hix]
      refine ⟨?_, _, hjournal, rfl⟩
      rintro ⟨other, hother, hpushed⟩
      obtain rfl : mint = other := Option.some.inj (journalled.symm.trans hother)
      rw [unlaunched] at hpushed
      cases hpushed

theorem CallEffect.stays {half : MintHalf} {j : ProfileIx} (heffect : CallEffect r ix outcome)
    (h : r.Committed half j) : outcome.registry.Committed half j := by
  cases heffect with
  | quiet result => exact h
  | did pending seedRoot fee free effect =>
      by_cases hj : j = ix
      · subst hj
        obtain ⟨mint, hmint⟩ : ∃ mint, r.journalAt j = some mint := by
          cases half with
          | did => exact h
          | store => exact ⟨h.choose, h.choose_spec.1⟩
        rw [free] at hmint
        cases hmint
      · exact h.congr (effect.elsewhere j hj)
  | store mint did pending journalled unlaunched paired effect =>
      by_cases hj : j = ix
      · subst hj
        cases half with
        | did =>
            obtain ⟨push, -, -, -, -, -, hjournal⟩ := effect.pushed
            rw [← apply_ite some] at hjournal
            exact ⟨_, hjournal⟩
        | store =>
            obtain ⟨other, hother, hpushed⟩ := h
            obtain rfl : mint = other := Option.some.inj (journalled.symm.trans hother)
            rw [unlaunched] at hpushed
            cases hpushed
      · exact h.congr (effect.elsewhere j hj)

end Effect

section Calls

variable [CoinHash] [DidEncoding] [TransferDrivers] [MintDrivers] [Clvm] [DigDrivers]
  [ProfileSchema]

def CeremonyStep.code (step : CeremonyStep) (registry : ProfileRegistry) : MintCeremony :=
  match step.call with
  | .beginMint seed network options reservations =>
      step.minter.beginProfileMint registry step.ix seed network options reservations
  | .advance network reservations =>
      step.minter.advanceProfileMint registry step.ix network reservations
  | .status => do
      let status ← Fallible.outcome (onChain (profileMintStatus registry step.ix))
      pure ⟨status, registry, none⟩

def CeremonyStep.perform (step : CeremonyStep) (registry : ProfileRegistry) :
    Except String CeremonyOutcome :=
  (step.code registry).run step.oracle step.start

variable {r : ProfileRegistry} {outcome : CeremonyOutcome}

theorem perform_status {step : CeremonyStep} (h : step.call = .status) :
    step.perform r = .ok ⟨(profileMintStatus r step.ix).run (HostOracle.chainSide step.oracle)
      step.start, r, none⟩ := by
  rw [CeremonyStep.perform, CeremonyStep.code, h]
  dsimp only
  rw [run_bind_of_ok run_outcome, run_onChain]
  rfl

theorem perform_effect (h : r.Accepted) (step : CeremonyStep) :
    ∃ outcome, step.perform r = .ok outcome ∧ CallEffect r step.ix outcome := by
  cases hcall : step.call with
  | beginMint seed network options reservations =>
      obtain ⟨outcome, hrun, heffect⟩ :=
        beginProfileMint_effect h seed options step.oracle step.start
      rw [CeremonyStep.perform, CeremonyStep.code, hcall]
      exact ⟨outcome, hrun, heffect.callEffect⟩
  | advance network reservations =>
      obtain ⟨outcome, hrun, heffect⟩ := advanceProfileMint_effect h step.oracle step.start
      rw [CeremonyStep.perform, CeremonyStep.code, hcall]
      exact ⟨outcome, hrun, heffect.callEffect⟩
  | status => exact ⟨_, perform_status hcall, .quiet _⟩

theorem perform_callEffect (h : r.Accepted) {step : CeremonyStep}
    (hrun : step.perform r = .ok outcome) : CallEffect r step.ix outcome := by
  obtain ⟨found, hfound, heffect⟩ := perform_effect h step
  rw [hrun, Except.ok.injEq] at hfound
  exact hfound ▸ heffect

theorem recorded_code (step : CeremonyStep) : (step.code r).Recorded := by
  rw [CeremonyStep.code]
  cases step.call with
  | beginMint seed network options reservations => exact recorded_beginProfileMint
  | advance network reservations => exact recorded_advanceProfileMint
  | status =>
      exact recorded_bind (onlyAsks_onChain onlyAsks_profileMintStatus).outcome
        fun _ => recorded_pure

end Calls

section Runs

variable [CoinHash] [DidEncoding] [TransferDrivers] [MintDrivers] [Clvm] [DigDrivers]
  [ProfileSchema] [RegistryJson]

def ceremonyStep (r : ProfileRegistry) : CeremonyOp → Option (ProfileRegistry × Option CallTrace)
  | .call step =>
      match step.perform r with
      | .error _ => none
      | .ok outcome =>
          some (outcome.registry, some ⟨(step.code r).asked step.oracle step.start, outcome.pushed⟩)
  | .restart =>
      match r.reload with
      | .error _ => none
      | .ok r => some (r, none)

variable {r next : ProfileRegistry} {op : CeremonyOp} {event : Option CallTrace}

inductive StepEffect (r : ProfileRegistry) : ProfileRegistry → Option CallTrace → Prop where
  | call (step : CeremonyStep) (outcome : CeremonyOutcome) (hrun : step.perform r = .ok outcome)
      (effect : CallEffect r step.ix outcome) :
      StepEffect r outcome.registry
        (some ⟨(step.code r).asked step.oracle step.start, outcome.pushed⟩)
  | restart : StepEffect r r none

omit [RegistryJson] in
theorem StepEffect.accepted (h : r.Accepted) (heffect : StepEffect r next event) :
    next.Accepted := by
  cases heffect with
  | call step outcome hrun effect => exact effect.accepted h
  | restart => exact h

variable [LawfulRegistryJson]

theorem ceremonyStep_effect (h : r.Accepted) (hstep : ceremonyStep r op = some (next, event)) :
    StepEffect r next event := by
  cases op with
  | call step =>
      obtain ⟨outcome, hrun, heffect⟩ := perform_effect h step
      rw [ceremonyStep, hrun] at hstep
      cases hstep
      exact .call step outcome hrun heffect
  | restart =>
      rw [ceremonyStep, reload_eq h] at hstep
      cases hstep
      exact .restart

theorem ceremonyStep_enabled (r : ProfileRegistry) (op : CeremonyOp) (h : r.Accepted) :
    ∃ next event, ceremonyStep r op = some (next, event) ∧ next.Accepted := by
  cases op with
  | call step =>
      obtain ⟨outcome, hrun, heffect⟩ := perform_effect h step
      exact ⟨_, _, by rw [ceremonyStep, hrun], heffect.accepted h⟩
  | restart => exact ⟨r, none, by rw [ceremonyStep, reload_eq h], h⟩

theorem ceremonyStep_accepted (r : ProfileRegistry) (op : CeremonyOp) (next : ProfileRegistry)
    (event : Option CallTrace) (h : r.Accepted) (hstep : ceremonyStep r op = some (next, event)) :
    next.Accepted :=
  (ceremonyStep_effect h hstep).accepted h

end Runs

section Example

def launcherFrom (parent : Coin) : Coin := letI := pairHash
  ⟨coinId parent, singletonLauncherHash, launcherAmount⟩

def intermediateFrom (parent : Bytes32) (number total : Nat) : Coin :=
  ⟨parent, 300 + number + total, intermediateAmount⟩

def childOf (parent : Coin) : Coin := letI := pairHash; ⟨coinId parent, 8, 1⟩

@[reducible] def launchingDrivers : MintDrivers where
  Launcher := Coin
  ParentConditions := Unit
  createSimpleDid staged funding _ := letI := pairHash
    let launcher := launcherFrom funding
    .ok (staged ++ [⟨funding, [], []⟩, ⟨launcher, [], []⟩],
      some ⟨childOf launcher, coinId launcher, 0⟩)
  intermediateCoin := intermediateFrom
  createLauncher staged parent number total :=
    let intermediate := intermediateFrom parent number total
    .ok (staged ++ [⟨intermediate, [], []⟩], launcherFrom intermediate)
  mintDatastoreLaunch staged launcher metadata owner delegated := letI := pairHash
    .ok (staged ++ [⟨launcher, [], []⟩],
      ⟨childOf launcher, ⟨coinId launcher, metadata, owner, delegated⟩⟩, ())
  spendDidWithConditions staged did _ _ := .ok (staged ++ [⟨did.coin, [], []⟩])

def mintedLauncher : Coin := letI := pairHash
  launcherFrom ⟨coinId payerCoin, payerKey.puzzleHash, singletonAmount⟩

def mintedDidCoin : Coin := childOf mintedLauncher

def mintedTip : DidTip := letI := pairHash
  ⟨mintedDidCoin, ⟨mintedDidCoin, coinId mintedLauncher, 0⟩⟩

def launchedStoreCoin : Coin := letI := pairHash
  childOf (launcherFrom (intermediateFrom (coinId mintedDidCoin) 0 1))

def mintingNode (peak : Nat) (answer : PushOutcome) : HostOracle := fun i call =>
  letI := pairHash
  match call with
  | .chain .peakHeight => .ok (some peak)
  | .chain (.push _) => .ok answer
  | .chain (.walkDidLineageToTip _) => .ok (some mintedTip)
  | .chain (.coinRecord id) =>
      if id = coinId mintedDidCoin then .ok (some ⟨mintedDidCoin, some 21, none⟩)
      else if id = coinId launchedStoreCoin then .ok (some ⟨launchedStoreCoin, some 41, none⟩)
      else .ok (some payerRecord)
  | other => payerOracle i other

def payerMinter : ProfileMinter := ⟨fun _ => payerKey⟩

def beginAt (peak : Nat) (answer : PushOutcome) : @CeremonyStep nameAndBio :=
  letI := nameAndBio
  let seed : ProfileSeed := ⟨⟨Fin.last 15, Fin.last 15⟩⟩
  ⟨payerMinter, 0, .beginMint seed ⟨7⟩ ⟨0⟩ ⟨300⟩, mintingNode peak answer, 0⟩

def advanceAt (peak : Nat) (answer : PushOutcome) : @CeremonyStep nameAndBio :=
  letI := nameAndBio
  ⟨payerMinter, 0, .advance ⟨7⟩ ⟨300⟩, mintingNode peak answer, 0⟩

def statusAt (peak : Nat) : @CeremonyStep nameAndBio :=
  letI := nameAndBio
  ⟨payerMinter, 0, .status, mintingNode peak .accepted, 0⟩

end Example

end DigAccount
