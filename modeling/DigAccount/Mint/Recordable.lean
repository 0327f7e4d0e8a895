import DigAccount.Mint.CeremonyRuns

namespace DigAccount

open Fallible PartialMachine ProfileRegistry

def MintStage.Paired : MintStage → Prop
  | .storePushed did pendingStore => pendingStore.didCoinId = did.coinId
  | _ => True

def ProfileRegistry.PairedAt (r : ProfileRegistry) (ix : ProfileIx) : Prop :=
  ∀ mint, r.journalAt ix = some mint → mint.stage.Paired

section Status

variable [CoinHash] [DidEncoding] {r : ProfileRegistry} {ix : ProfileIx} {oracle : Oracle}
  {i peak : Nat} {did : MintedDid} {store : ConfirmedStore}

theorem reverifiedDid_coinId {record : MintedDidRecord}
    (h : (reverifiedDid record peak).run oracle i = .ok did) : did.coinId = record.coinId := by
  rw [reverifiedDid, run_bind_eq_ok] at h
  obtain ⟨found, -, h⟩ := h
  cases hproven : found.bind (MintedDid.reverified record.launcherId record.coinId
      record.confirmedHeight · peak) with
  | none =>
      rw [hproven] at h
      cases h
  | some minted =>
      rw [hproven] at h
      cases h
      obtain ⟨coinRecord, -, hverified⟩ := Option.bind_eq_some_iff.1 hproven
      exact MintedDid.fromConfirmed_coinId hverified

omit [DidEncoding] in
theorem confirmedStore_didCoinId {pending : PendingStoreLaunch}
    (h : (confirmedStore pending peak).run oracle i = .ok (some store)) :
    store.didCoinId = pending.didCoinId := by
  rw [confirmedStore, run_bind_eq_ok] at h
  obtain ⟨found, -, h⟩ := h
  rw [run_pure, Except.ok.injEq] at h
  obtain ⟨coinRecord, -, hconfirmed⟩ := Option.bind_eq_some_iff.1 h
  exact ConfirmedStore.fromConfirmed_didCoinId hconfirmed

theorem profileMintStatus_confirmed
    (h : (profileMintStatus r ix).run oracle i = .ok (.confirmed did store)) :
    ∃ mint record pending, r.journalAt ix = some mint ∧
      mint.stage = .storePushed record pending ∧ did.coinId = record.coinId ∧
      store.didCoinId = pending.didCoinId := by
  rw [profileMintStatus, run_bind_eq_ok] at h
  obtain ⟨mint, hmint, h⟩ := h
  rw [run_ofExcept, journalledMint_ok] at hmint
  rw [run_bind_eq_ok] at h
  obtain ⟨peak, -, h⟩ := h
  cases hstage : mint.stage with
  | didPushed pending =>
      rw [hstage, MintStage.status, run_bind_eq_ok] at h
      obtain ⟨found, -, h⟩ := h
      cases found with
      | none => cases h
      | some minted => cases h
  | didConfirmedStoreNotLaunched record =>
      rw [hstage, MintStage.status, run_bind_eq_ok] at h
      obtain ⟨minted, -, h⟩ := h
      cases h
  | storePushed record pending =>
      rw [hstage, MintStage.status, run_bind_eq_ok] at h
      obtain ⟨minted, hminted, h⟩ := h
      rw [run_bind_eq_ok] at h
      obtain ⟨found, hfound, h⟩ := h
      cases found with
      | none => cases h
      | some confirmed =>
          cases h
          exact ⟨mint, record, pending, hmint, hstage, reverifiedDid_coinId hminted,
            confirmedStore_didCoinId hfound⟩

end Status

section Runs

variable [DidEncoding] {r : ProfileRegistry} {ix j : ProfileIx} {outcome : CeremonyOutcome}
  {did : MintedDid} {store : ConfirmedStore}

omit [DidEncoding] in
theorem ProfileRegistry.PairedAt.congr {next : ProfileRegistry} (h : r.PairedAt ix)
    (hsame : next.journalAt ix = r.journalAt ix) : next.PairedAt ix :=
  fun mint hmint => h mint (hsame ▸ hmint)

theorem PushEffect.pairedAt {half : MintHalf} {mint : ProfileMintInProgress}
    {undone : Option ProfileMintInProgress} (h : PushEffect r ix half mint undone outcome)
    (hmint : mint.stage.Paired) (hundone : ∀ found, undone = some found → found.stage.Paired) :
    outcome.registry.PairedAt ix := by
  obtain ⟨push, -, -, -, -, -, hjournal⟩ := h.pushed
  intro found hfound
  rw [hjournal] at hfound
  split at hfound
  · exact hundone found hfound
  · cases hfound
    exact hmint

theorem CallEffect.pairedAt (heffect : CallEffect r ix outcome) (h : r.PairedAt j) :
    outcome.registry.PairedAt j := by
  cases heffect with
  | quiet result => exact h
  | did pending seedRoot fee free effect =>
      by_cases hj : j = ix
      · subst hj
        refine effect.pairedAt trivial fun found hfound => ?_
        cases hfound
      · exact h.congr (effect.elsewhere j hj)
  | store mint did pending journalled unlaunched paired effect =>
      by_cases hj : j = ix
      · subst hj
        refine effect.pairedAt paired fun found hfound => ?_
        cases hfound
        trivial
      · exact h.congr (effect.elsewhere j hj)

theorem AdvanceEffect.confirmed {status : Except MintError ProfileMintStatus}
    (h : AdvanceEffect r ix status outcome)
    (hresult : outcome.result = .ok (.confirmed did store)) :
    outcome.registry = r ∧ status = .ok (.confirmed did store) := by
  cases h with
  | waited settled => exact ⟨rfl, hresult⟩
  | refused e => cases hresult
  | pushed mint did' pending journalled confirmed unlaunched paired effect =>
      exact absurd hresult (effect.unproven did store)

theorem BeginEffect.unproven (h : BeginEffect r ix outcome) :
    outcome.result ≠ .ok (.confirmed did store) := by
  cases h with
  | refused e =>
      intro hresult
      cases hresult
  | pushed pending seedRoot fee free effect => exact effect.unproven did store

variable [CoinHash] [TransferDrivers] [MintDrivers] [Clvm] [DigDrivers] [ProfileSchema]

theorem perform_confirmed (h : r.Accepted) {step : CeremonyStep}
    (hrun : step.perform r = .ok outcome) (hresult : outcome.result = .ok (.confirmed did store)) :
    outcome.registry = r ∧
      ∃ oracle i, (profileMintStatus r step.ix).run oracle i = .ok (.confirmed did store) := by
  obtain ⟨minter, ix, call, oracle, start⟩ := step
  cases call with
  | beginMint seed network options reservations =>
      have heffect : BeginEffect r ix outcome := beginEffect_of_run h hrun
      exact absurd hresult heffect.unproven
  | advance network reservations =>
      have heffect : AdvanceEffect r ix _ outcome := advanceEffect_of_run h hrun
      obtain ⟨hsame, hstatus⟩ := heffect.confirmed hresult
      exact ⟨hsame, _, _, hstatus⟩
  | status =>
      rw [perform_status rfl] at hrun
      cases hrun
      exact ⟨rfl, _, _, hresult⟩

theorem recordMinted_confirmed_iff (h : r.Accepted) {step : CeremonyStep}
    (hstep : step.perform r = .ok outcome)
    (hconfirmed : outcome.result = .ok (.confirmed did store))
    (hfree : outcome.registry.holderOf did.launcherId = none) (label : Option String) :
    (∃ entry after,
      outcome.registry.recordMinted step.ix did store label = .returned (.ok entry) after ∧
        after.journalAt step.ix = none) ↔ r.PairedAt step.ix := by
  obtain ⟨hsame, oracle, i, hstatus⟩ := perform_confirmed h hstep hconfirmed
  obtain ⟨mint, record, pending, hmint, hstage, hdid, hstore⟩ := profileMintStatus_confirmed hstatus
  rw [hsame] at hfree ⊢
  rw [recordMinted_iff h hmint hfree label, hdid, hstore]
  constructor
  · intro hpair found hfound
    rw [hmint, Option.some.injEq] at hfound
    rw [← hfound, hstage]
    exact hpair
  · intro hpaired
    have hmatch := hpaired mint hmint
    rw [hstage] at hmatch
    exact hmatch

variable [RegistryJson] [LawfulRegistryJson] {start : ProfileRegistry} {ops : List CeremonyOp}
  {log : List CallTrace}

theorem run_pairedAt (h : start.Accepted)
    (hrun : run (logged ceremonyStep) (start, []) ops = some (r, log))
    (hpaired : start.PairedAt ix) : r.PairedAt ix := by
  have keeps : ∀ (r : ProfileRegistry) (op : CeremonyOp) (next : ProfileRegistry)
      (event : Option CallTrace), r.Accepted ∧ r.PairedAt ix →
      ceremonyStep r op = some (next, event) → next.Accepted ∧ next.PairedAt ix := by
    intro r op next event hr hstep
    refine ⟨ceremonyStep_accepted r op next event hr.1 hstep, ?_⟩
    cases ceremonyStep_effect hr.1 hstep with
    | call step outcome hperform effect => exact effect.pairedAt hr.2
    | restart => exact hr.2
  have hreached := run_logged_forall (P := fun _ => True) keeps (fun _ _ _ _ _ _ => trivial)
    ⟨h, hpaired⟩ hrun
  exact hreached.1.2

theorem confirmed_profile_recordable_iff (h : start.Loadable)
    (hrun : run (logged ceremonyStep) (start, []) ops = some (r, log)) {step : CeremonyStep}
    (hstep : step.perform r = .ok outcome)
    (hconfirmed : outcome.result = .ok (.confirmed did store))
    (hfree : outcome.registry.holderOf did.launcherId = none) (label : Option String) :
    ((∃ entry after,
        outcome.registry.recordMinted step.ix did store label = .returned (.ok entry) after ∧
          after.journalAt step.ix = none) ↔ r.PairedAt step.ix) ∧
      (start.PairedAt step.ix → r.PairedAt step.ix) := by
  have haccepted : r.Accepted :=
    (run_logged_forall (P := fun _ => True) ceremonyStep_accepted (fun _ _ _ _ _ _ => trivial)
      h.accepted hrun).1
  exact ⟨recordMinted_confirmed_iff haccepted hstep hconfirmed hfree label,
    run_pairedAt h.accepted hrun⟩

end Runs

section Example

def CeremonyOutcome.confirmsFree [DidEncoding] (outcome : CeremonyOutcome) : Bool :=
  match outcome.result with
  | .ok (.confirmed did _) => outcome.registry.holderOf did.launcherId = none
  | _ => false

theorem of_confirmsFree [DidEncoding] {answer : Except String CeremonyOutcome}
    (h : answer.toOption.any CeremonyOutcome.confirmsFree) :
    ∃ outcome did store, answer = .ok outcome ∧ outcome.result = .ok (.confirmed did store) ∧
      outcome.registry.holderOf did.launcherId = none := by
  cases answer with
  | error e => cases h
  | ok outcome =>
      change outcome.confirmsFree = true at h
      rw [CeremonyOutcome.confirmsFree] at h
      split at h
      · rename_i did store hresult
        exact ⟨outcome, did, store, rfl, hresult, of_decide_eq_true h⟩
      · cases h

def launched : List (@CeremonyOp nameAndBio) :=
  letI := nameAndBio
  [.call (beginAt 20 .accepted), .call (advanceAt 40 .accepted)]

theorem confirmed_profile_recordable_launched :
    letI := pairHash; letI := decimalDid; letI := plainDrivers; letI := launchingDrivers
    letI := singletonOutputs; letI := singletonDrivers; letI := nameAndBio; letI := fileJson
    ∃ r log outcome did store entry after,
      run (logged ceremonyStep) (empty, []) launched = some (r, log) ∧
      (statusAt 60).perform r = .ok outcome ∧ outcome.result = .ok (.confirmed did store) ∧
      outcome.registry.recordMinted 0 did store none = .returned (.ok entry) after ∧
      after.journalAt 0 = none := by
  let _ := pairHash
  let _ := decimalDid
  let _ := plainDrivers
  let _ := launchingDrivers
  let _ := singletonOutputs
  let _ := singletonDrivers
  let _ := nameAndBio
  let _ := fileJson
  let _ := fileJson_lawful
  obtain ⟨⟨r, log⟩, hrun⟩ :=
    exists_run_logged ceremonyStep_enabled launched (s := (empty, [])) empty_accepted
  have hreached : (run (logged ceremonyStep) (empty, []) launched).any fun reached =>
      ((statusAt 60).perform reached.1).toOption.any CeremonyOutcome.confirmsFree := by
    decide +kernel
  rw [hrun] at hreached
  obtain ⟨outcome, did, store, hstep, hconfirmed, hfree⟩ := of_confirmsFree hreached
  obtain ⟨hiff, hpaired⟩ :=
    confirmed_profile_recordable_iff (.inl rfl) hrun hstep hconfirmed hfree none
  have hempty : empty.PairedAt 0 := by
    intro mint hmint
    cases hmint
  obtain ⟨entry, after, hrecorded, hremoved⟩ := hiff.2 (hpaired hempty)
  exact ⟨r, log, outcome, did, store, entry, after, hrun, hstep, hconfirmed, hrecorded, hremoved⟩

def crossedDid : MintedDidRecord :=
  letI := pairHash
  letI := decimalDid
  ⟨didStringFromLauncherId (coinId mintedLauncher), coinId mintedLauncher, coinId mintedDidCoin, 21⟩

def crossedStore : PendingStoreLaunchRecord :=
  letI := pairHash
  ⟨launchedStoreCoin.parentCoinInfo, coinId launchedStoreCoin, 0, 0, 40⟩

def crossed : ProfileRegistry :=
  ⟨[], none, [⟨0, .storePushed crossedDid crossedStore, some 0, 0⟩]⟩

theorem crossed_accepted : letI := decimalDid; crossed.Accepted := by
  let _ := decimalDid
  have hstage : StageOk (.storePushed crossedDid crossedStore) := by
    intro did hmem
    obtain rfl := List.mem_singleton.1 hmem
    exact ⟨rfl, by decide⟩
  have hmint : MintOk ⟨0, .storePushed crossedDid crossedStore, some 0, 0⟩ :=
    ⟨Nat.zero_le _, hstage⟩
  exact empty_accepted.insertMint List.not_mem_nil List.not_mem_nil hmint

theorem crossed_loadable :
    letI := decimalDid; letI := fileJson
    crossed.Loadable := by
  let _ := decimalDid
  let _ := fileJson
  let _ := fileJson_lawful
  obtain ⟨json, -, hjson⟩ := reload_ok (reload_eq crossed_accepted)
  exact .inr ⟨json, hjson⟩

theorem crossed_profile_unrecordable :
    letI := pairHash; letI := decimalDid; letI := plainDrivers; letI := launchingDrivers
    letI := singletonOutputs; letI := singletonDrivers; letI := nameAndBio; letI := fileJson
    ¬ ∀ (r : ProfileRegistry) (step : CeremonyStep) (outcome : CeremonyOutcome) (did : MintedDid)
        (store : ConfirmedStore) (label : Option String), r.Loadable →
      step.perform r = .ok outcome → outcome.result = .ok (.confirmed did store) →
      outcome.registry.holderOf did.launcherId = none →
      ∃ entry after,
        outcome.registry.recordMinted step.ix did store label = .returned (.ok entry) after ∧
          after.journalAt step.ix = none := by
  let _ := pairHash
  let _ := decimalDid
  let _ := plainDrivers
  let _ := launchingDrivers
  let _ := singletonOutputs
  let _ := singletonDrivers
  let _ := nameAndBio
  let _ := fileJson
  intro hrecords
  have hstatus : ((statusAt 60).perform crossed).toOption.any CeremonyOutcome.confirmsFree := by
    decide +kernel
  obtain ⟨outcome, did, store, hstep, hconfirmed, hfree⟩ := of_confirmsFree hstatus
  have hrecorded := hrecords crossed (statusAt 60) outcome did store none crossed_loadable hstep
    hconfirmed hfree
  rw [recordMinted_confirmed_iff crossed_loadable.accepted hstep hconfirmed hfree] at hrecorded
  have hpair : crossedStore.didCoinId = crossedDid.coinId := hrecorded _ rfl
  exact absurd hpair (by decide +kernel)

end Example

end DigAccount
