import DigAccount.Mint.CeremonyBundles

namespace DigAccount

open Fallible Ledger ProfileRegistry

def MintStage.SettledAs [DidEncoding] (height : Nat) : MintStage → ProfileMintStatus → Prop
  | .didPushed pending, .didConfirmedStoreNotLaunched did =>
      did.launcherId = pending.launcherId ∧ did.coinId = pending.didCoinId ∧
        did.confirmedHeight = height
  | .storePushed record pendingStore, .confirmed did store =>
      MintedDidRecord.ofMinted did = record ∧ store.launcherId = pendingStore.launcherId ∧
        store.coinId = pendingStore.storeCoinId ∧
        store.committedRoot = pendingStore.committedRoot ∧ store.confirmedHeight = height
  | _, _ => False

section Snapshots

variable [CoinHash] [Clvm] {chain : Chain} {schedule : Schedule} {oracle : HostOracle}
  {j height : Nat} {called : HonestSource chain schedule}

theorem PeakRead.le_moment {i peak : Nat} (h : PeakRead oracle i j peak)
    (hcalled : called.answer = HostOracle.chainSide oracle) : peak ≤ schedule.moment j := by
  obtain ⟨k, -, hlt, hread⟩ := h
  have hanswer : called.answer k .peakHeight = .ok (some peak) := by
    rw [hcalled]
    exact hread
  have hlength : (chain.take (schedule.moment k)).length ≤ schedule.moment j :=
    (List.length_take_le ..).trans (schedule.forward hlt.le)
  rcases called.peaked hanswer with hpeak | hpeak
  · omega
  · omega

theorem DidRead.confirmedAt [DidEncoding] {i : Nat} {did : MintedDid}
    (h : DidRead (HostOracle.chainSide oracle) i j did)
    (hcalled : called.answer = HostOracle.chainSide oracle) :
    did.confirmedHeight < schedule.moment j ∧
      confirmedHeight (ledgerOf chain) did.coinId = some did.confirmedHeight := by
  obtain ⟨k, -, hlt, record, hread, hheight⟩ := h
  rw [← hcalled] at hread
  have htaken := (called.recorded hread).2.1.symm.trans hheight
  obtain ⟨hbefore, hat⟩ := findIdx?_take.1 htaken
  exact ⟨hbefore.trans_le (schedule.forward hlt.le), hat⟩

theorem MintStage.BackedBy.spends {stage : MintStage} {bundle : SpendBundle}
    (h : stage.BackedBy bundle) : ∃ id, bundle.Spends id := by
  cases stage with
  | didPushed pending => exact ⟨_, h.1⟩
  | didConfirmedStoreNotLaunched did => exact h.elim
  | storePushed did pendingStore => exact ⟨_, h.1⟩

end Snapshots

section Verdicts

variable [CoinHash] [DidEncoding] {peak height : Nat} {record : CoinRecord}

theorem MintedDid.fromConfirmed_of_buried (pending : PendingMint)
    (h : buriedHeight pending.didCoinId pending.pushedAtHeight record peak = some height) :
    ∃ did, MintedDid.fromConfirmed pending record peak = some did ∧
      did.launcherId = pending.launcherId ∧ did.coinId = pending.didCoinId ∧
      did.confirmedHeight = height := by
  have hsome : (MintedDid.fromConfirmed pending record peak).isSome := by
    rw [MintedDid.fromConfirmed_isSome, h]
    rfl
  obtain ⟨did, hdid⟩ := Option.isSome_iff_exists.1 hsome
  obtain ⟨hlauncher, hcoin, hburied⟩ := MintedDid.fromConfirmed_spec hdid
  exact ⟨did, hdid, hlauncher, hcoin, Option.some.inj (hburied.symm.trans h)⟩

omit [DidEncoding] in
theorem ConfirmedStore.fromConfirmed_of_buried {pending : PendingStoreLaunch}
    (h : buriedHeight pending.storeCoinId pending.pushedAtHeight record peak = some height) :
    ∃ store, ConfirmedStore.fromConfirmed pending record peak = some store ∧
      store.launcherId = pending.launcherId ∧ store.coinId = pending.storeCoinId ∧
      store.committedRoot = pending.committedRoot ∧ store.confirmedHeight = height := by
  have hsome : (ConfirmedStore.fromConfirmed pending record peak).isSome := by
    rw [ConfirmedStore.fromConfirmed_isSome, h]
    rfl
  obtain ⟨store, hstore⟩ := Option.isSome_iff_exists.1 hsome
  obtain ⟨hlauncher, hcoin, hroot, hburied⟩ := ConfirmedStore.fromConfirmed_spec hstore
  exact ⟨store, hstore, hlauncher, hcoin, hroot, Option.some.inj (hburied.symm.trans h)⟩

variable {registry : ProfileRegistry} {ix : ProfileIx} {mint : ProfileMintInProgress}
  {oracle : Oracle} {i : Nat}

theorem run_profileMintStatus_did {pending : PendingMintRecord} {found : Option CoinRecord}
    {did : MintedDid} (hmint : registry.journalAt ix = some mint)
    (hstage : mint.stage = .didPushed pending) (hpeak : oracle i .peakHeight = .ok (some peak))
    (hread : oracle (i + 1) (.coinRecord pending.didCoinId) = .ok found)
    (hdid : found.bind (MintedDid.fromConfirmed (pendingMintFrom pending) · peak) = some did) :
    (profileMintStatus registry ix).run oracle i = .ok (.didConfirmedStoreNotLaunched did) := by
  have hconfirmed : (confirmedDid (pendingMintFrom pending) peak).exec oracle (i + 1) =
      (.ok (some did), i + 2) := by
    have hfound : (readCoinRecord MintError.chainUnreachable
        (pendingMintFrom pending).didCoinId).exec oracle (i + 1) = (.ok found, i + 2) :=
      exec_readCoinRecord_ok MintError.chainUnreachable hread
    rw [confirmedDid, exec_bind_of_ok hfound, hdid]
    rfl
  simp only [← fst_exec, profileMintStatus, exec_bind_ofExcept (journalledMint_ok.2 hmint),
    exec_bind_of_ok (exec_peakHeight MintError.chainUnreachable hpeak), hstage, MintStage.status,
    exec_bind_of_ok hconfirmed]
  rfl

theorem run_profileMintStatus_store {didRecord : MintedDidRecord}
    {pendingStore : PendingStoreLaunchRecord} {didFound storeFound : Option CoinRecord}
    {did : MintedDid} {store : ConfirmedStore} (hmint : registry.journalAt ix = some mint)
    (hstage : mint.stage = .storePushed didRecord pendingStore)
    (hpeak : oracle i .peakHeight = .ok (some peak))
    (hreadDid : oracle (i + 1) (.coinRecord didRecord.coinId) = .ok didFound)
    (hdid : didFound.bind (MintedDid.reverified didRecord.launcherId didRecord.coinId
      didRecord.confirmedHeight · peak) = some did)
    (hreadStore : oracle (i + 2) (.coinRecord pendingStore.storeCoinId) = .ok storeFound)
    (hstore : storeFound.bind (ConfirmedStore.fromConfirmed (pendingStoreFrom pendingStore) ·
      peak) = some store) :
    (profileMintStatus registry ix).run oracle i = .ok (.confirmed did store) := by
  have hreverified : (reverifiedDid didRecord peak).exec oracle (i + 1) = (.ok did, i + 2) := by
    rw [reverifiedDid, exec_bind_of_ok
      (exec_readCoinRecord_ok MintError.chainUnreachable hreadDid), hdid]
    rfl
  have hconfirmed : (confirmedStore (pendingStoreFrom pendingStore) peak).exec oracle (i + 2) =
      (.ok (some store), i + 3) := by
    have hfound : (readCoinRecord MintError.chainUnreachable
        (pendingStoreFrom pendingStore).storeCoinId).exec oracle (i + 2) =
          (.ok storeFound, i + 3) :=
      exec_readCoinRecord_ok MintError.chainUnreachable hreadStore
    rw [confirmedStore, exec_bind_of_ok hfound, hstore]
    rfl
  simp only [← fst_exec, profileMintStatus, exec_bind_ofExcept (journalledMint_ok.2 hmint),
    exec_bind_of_ok (exec_peakHeight MintError.chainUnreachable hpeak), hstage, MintStage.status,
    exec_bind_of_ok hreverified, exec_bind_of_ok hconfirmed]
  rfl

end Verdicts

section Settlement

variable [CoinHash] [Clvm] [DidEncoding] {chain : Chain} {schedule : Schedule} {height : Nat}
  {push : Pushed} {stage : MintStage} {registry : ProfileRegistry} {mint : ProfileMintInProgress}
  {i j peak : Nat} {source : HonestSource chain (steadyAt chain.length)}

section Deep

variable (honest : HonestChain chain) (included : Includes chain push.bundle height)
  (reads : CurrentReads source.answer i peak) (deep : height + minConfirmationDepth ≤ peak + 1)
  (hmint : registry.journalAt push.ix = some mint)
include honest included reads deep hmint

theorem didPushed_settles {pending : PendingMintRecord} (hstage : mint.stage = .didPushed pending)
    (hcreates : push.bundle.Creates pending.didCoinId) (hpushed : pending.pushedAtHeight ≤ height) :
    ∃ status, (profileMintStatus registry push.ix).run source.answer i = .ok status ∧
      (MintStage.didPushed pending).SettledAs height status := by
  obtain ⟨record, hrecord, hname, hheight⟩ :=
    reads.seen (i + 1) (included.confirmedHeight_eq honest hcreates)
  obtain ⟨creator, hmem, -⟩ := hcreates
  have hburied : buriedHeight (pendingMintFrom pending).didCoinId
      (pendingMintFrom pending).pushedAtHeight record peak = some height :=
    buriedHeight_eq_some.2 ⟨hname, hheight, included.height_ne_zero honest hmem, hpushed,
      deepEnough deep⟩
  obtain ⟨did, hdid, hsettled⟩ := MintedDid.fromConfirmed_of_buried _ hburied
  exact ⟨_, run_profileMintStatus_did hmint hstage reads.peak hrecord hdid, hsettled⟩

theorem storePushed_settles {did : MintedDid} {pendingStore : PendingStoreLaunchRecord}
    (hstage : mint.stage = .storePushed (.ofMinted did) pendingStore)
    (hcreates : push.bundle.Creates pendingStore.storeCoinId)
    (hpushed : pendingStore.pushedAtHeight ≤ height) (hbefore : did.confirmedHeight ≤ height)
    (hat : confirmedHeight (ledgerOf chain) did.coinId = some did.confirmedHeight) :
    ∃ status, (profileMintStatus registry push.ix).run source.answer i = .ok status ∧
      (MintStage.storePushed (.ofMinted did) pendingStore).SettledAs height status := by
  obtain ⟨didRecord, hdidRecord, hdidName, hdidHeight⟩ := reads.seen (i + 1) hat
  obtain ⟨record, hrecord, hname, hheight⟩ :=
    reads.seen (i + 2) (included.confirmedHeight_eq honest hcreates)
  obtain ⟨creator, hmem, -⟩ := hcreates
  have hdidDeep : did.confirmedHeight + minConfirmationDepth ≤ peak + 1 := by omega
  have hdidBuried : buriedHeight did.coinId did.confirmedHeight didRecord peak =
      some did.confirmedHeight :=
    buriedHeight_eq_some.2 ⟨hdidName, hdidHeight, did.height_ne_zero, Nat.le_refl _,
      deepEnough hdidDeep⟩
  have hstoreBuried : buriedHeight (pendingStoreFrom pendingStore).storeCoinId
      (pendingStoreFrom pendingStore).pushedAtHeight record peak = some height :=
    buriedHeight_eq_some.2 ⟨hname, hheight, included.height_ne_zero honest hmem, hpushed,
      deepEnough deep⟩
  obtain ⟨minted, hminted, hlauncher, hcoin, hconfirmed⟩ := MintedDid.fromConfirmed_of_buried
    ⟨did.launcherId, did.coinId, did.coinId, did.confirmedHeight⟩ hdidBuried
  obtain ⟨store, hstore, hsettled⟩ := ConfirmedStore.fromConfirmed_of_buried hstoreBuried
  refine ⟨_, run_profileMintStatus_store hmint hstage reads.peak hdidRecord hminted hrecord
    hstore, ?_, hsettled⟩
  rw [MintedDidRecord.ofMinted, MintedDidRecord.ofMinted, minted.did_of_launcher,
    did.did_of_launcher, hlauncher, hcoin, hconfirmed]

end Deep

theorem PushBacked.settles {oracle : HostOracle} {n : Nat} (h : PushBacked oracle n j push stage)
    {called : HonestSource chain schedule} (hcalled : called.answer = HostOracle.chainSide oracle)
    (honest : HonestChain chain) (included : Includes chain push.bundle height)
    (hbefore : schedule.moment j ≤ height) (reads : CurrentReads source.answer i peak)
    (deep : height + minConfirmationDepth ≤ peak + 1)
    (hmint : registry.journalAt push.ix = some mint) (hstage : mint.stage = stage) :
    ∃ status, (profileMintStatus registry push.ix).run source.answer i = .ok status ∧
      stage.SettledAs height status := by
  obtain ⟨-, hbacked, hread, -⟩ := h
  cases stage with
  | didPushed pending =>
      exact didPushed_settles honest included reads deep hmint hstage hbacked.2
        ((hread.le_moment hcalled).trans hbefore)
  | didConfirmedStoreNotLaunched record => exact hread.elim
  | storePushed record pendingStore =>
      obtain ⟨hpeak, did, rfl, hdid⟩ := hread
      obtain ⟨hseen, hat⟩ := hdid.confirmedAt hcalled
      exact storePushed_settles honest included reads deep hmint hstage hbacked.2
        ((hpeak.le_moment hcalled).trans hbefore) (hseen.le.trans hbefore) hat

end Settlement

section Calls

variable [CoinHash] [Clvm] [TransferDrivers] [MintDrivers] [SingletonLaws] [DigDrivers]
  [DidEncoding] [ProfileSchema] {r : ProfileRegistry} {step : CeremonyStep}
  {outcome : CeremonyOutcome} {push : Pushed}

omit [CoinHash] [Clvm] [TransferDrivers] [MintDrivers] [SingletonLaws] [DigDrivers]
  [ProfileSchema] in
theorem CallEffect.keeps {ix : ProfileIx} (h : CallEffect r ix outcome)
    (hpush : outcome.pushed = some push) (hkept : push.rejected = false) :
    ∃ mint, outcome.registry.journalAt ix = some mint ∧ push.journalled = some mint.stage := by
  have hpushed {half : MintHalf} {mint : ProfileMintInProgress}
      {undone : Option ProfileMintInProgress} (heffect : PushEffect r ix half mint undone outcome) :
      ∃ mint, outcome.registry.journalAt ix = some mint ∧ push.journalled = some mint.stage := by
    obtain ⟨found, hfound, -, -, hjournalled, -, hjournal⟩ := heffect.pushed
    obtain rfl : found = push := Option.some.inj (hfound.symm.trans hpush)
    rw [hkept, if_neg Bool.false_ne_true] at hjournal
    exact ⟨mint, hjournal, hjournalled⟩
  cases h with
  | quiet result => cases hpush
  | did pending seedRoot fee free effect => exact hpushed effect
  | store mint did pending journalled unlaunched paired effect => exact hpushed effect

theorem perform_backs (haccepted : r.Accepted) (hrun : step.perform r = .ok outcome)
    (hpush : outcome.pushed = some push) :
    push.ix = step.ix ∧ ∃ j ≤ (step.code r).after step.oracle step.start, ∃ stage,
      PushBacked step.oracle step.start j push stage := by
  have hexec := exec_of_run hrun
  rw [CeremonyStep.code] at hexec ⊢
  cases hcall : step.call with
  | beginMint seed network options reservations =>
      rw [hcall] at hexec
      exact beginProfileMint_backs haccepted hexec hpush
  | advance network reservations =>
      rw [hcall] at hexec
      exact advanceProfileMint_backs haccepted hexec hpush
  | status =>
      rw [CeremonyStep.perform, CeremonyStep.code, hcall] at hrun
      dsimp only at hrun
      rw [run_bind_of_ok run_outcome] at hrun
      cases hrun
      cases hpush

theorem pushed_mint_settles (haccepted : r.Accepted) (hrun : step.perform r = .ok outcome)
    (hpush : outcome.pushed = some push) :
    push.ix = step.ix ∧ ∃ j ≤ (step.code r).after step.oracle step.start, ∃ stage,
      PushBacked step.oracle step.start j push stage ∧
      (push.rejected = false → ∃ mint, outcome.registry.journalAt step.ix = some mint ∧
        mint.stage = stage) ∧
      ∀ (chain : Chain) (schedule : Schedule) (called : HonestSource chain schedule) (height : Nat),
        HonestChain chain → called.answer = HostOracle.chainSide step.oracle →
        Includes chain push.bundle height →
        (push.answer = .ok () ∨
          schedule.moment ((step.code r).after step.oracle step.start) ≤ height) →
        ∀ (registry : ProfileRegistry) mint (source : HonestSource chain (steadyAt chain.length)) i
          peak, registry.journalAt step.ix = some mint → mint.stage = stage →
            CurrentReads source.answer i peak → height + minConfirmationDepth ≤ peak + 1 →
              ∃ status, (profileMintStatus registry step.ix).run source.answer i = .ok status ∧
                stage.SettledAs height status := by
  obtain ⟨hix, j, hle, stage, hbacked⟩ := perform_backs haccepted hrun hpush
  refine ⟨hix, j, hle, stage, hbacked, fun hkept => ?_, ?_⟩
  · obtain ⟨mint, hmint, hjournalled⟩ := (perform_callEffect haccepted hrun).keeps hpush hkept
    exact ⟨mint, hmint, Option.some.inj (hjournalled.symm.trans hbacked.journalled)⟩
  · intro chain schedule called height honest hcalled included hafter registry mint source i peak
      hmint hstage reads deep
    have hbefore : schedule.moment j ≤ height := by
      rcases hafter with hanswer | hlate
      · obtain ⟨id, hspends⟩ := hbacked.backed.spends
        have htaken := pushMint_taken (hbacked.answer.symm.trans hanswer)
        rw [← hcalled] at htaken
        exact called.taken_before honest htaken hspends included hspends
      · exact (schedule.forward hle).trans hlate
    rw [← hix] at hmint ⊢
    exact hbacked.settles hcalled honest included hbefore reads deep hmint hstage

end Calls

section Example

@[reducible] def childClvm : letI := pairHash; Clvm :=
  letI := pairHash
  { additions := fun spend => [childOf spend.coin]
    recreation := fun spend => some (childOf spend.coin)
    advertisedDistributor := fun _ _ => none
    didState := fun id => ⟨deskIndex.coin id, id, 0⟩ }

@[reducible] def childDrivers : letI := pairHash; letI := childClvm; DigDrivers :=
  letI := pairHash
  letI := childClvm
  { hydrate := fun _ => .error "no datastore"
    hydrate_recreation := fun _ _ h => by cases h
    meltDid := fun did _ => .ok [⟨did.coin, [], []⟩]
    meltStore := fun store _ => .ok [⟨store.coin, [], []⟩]
    updateRoot := fun _ _ _ => .error "no datastore"
    updateRoot_commits := fun _ _ _ _ h => by cases h
    requiredSignatures := fun _ _ => .ok [] }

theorem childClvm_laws : letI := pairHash; letI := childClvm; letI := plainDrivers
    letI := launchingDrivers; SingletonLaws := by
  let _ := pairHash
  let _ := childClvm
  let _ := plainDrivers
  let _ := launchingDrivers
  refine ⟨fun publicKey coin conditions spend h => ?_,
    fun staged funding publicKey built did h => ?_,
    fun staged launcher metadata owner delegated built store conditions h => ?_,
    fun staged did publicKey conditions built h => ?_⟩
  · cases h
    rfl
  · cases h
    exact ⟨List.subset_append_left .., ⟨launcherFrom funding, [], []⟩, by simp,
      List.mem_singleton_self _⟩
  · cases h
    exact ⟨⟨launcher, [], []⟩, by simp, List.mem_singleton_self _⟩
  · cases h
    exact ⟨List.subset_append_left .., ⟨did.coin, [], []⟩, by simp, rfl⟩

def profileIndex : NodeIndex := { deskIndex with outcome := fun _ => .ok .accepted }

theorem profileIndex_reads [Clvm] (snapshot : Chain) (id : Bytes32) :
    letI := pairHash
    profileIndex.record snapshot 0 = .ok none →
      ∃ found, profileIndex.record snapshot id = .ok found := by
  let _ := pairHash
  intro hzero
  cases id with
  | zero => exact ⟨none, hzero⟩
  | succ n =>
      have hname : coinId (profileIndex.coin (n + 1)) = n + 1 := by
        apply congrArg Nat.succ
        simp [profileIndex, deskIndex, Nat.pair_unpair]
      obtain ⟨found, hfound, -⟩ := NodeIndex.record_eq snapshot hname
      exact ⟨found, hfound⟩

def launchFunding : Coin := ⟨1, 5, 11⟩

def mintBundle : SpendBundle := letI := pairHash
  let funding : Coin := ⟨coinId payerCoin, payerKey.puzzleHash, singletonAmount⟩
  ⟨[⟨payerCoin, [], [2]⟩, ⟨funding, [], []⟩, ⟨launcherFrom funding, [], []⟩], []⟩

def launchBundle : SpendBundle := letI := pairHash
  let intermediate := intermediateFrom (coinId mintedDidCoin) 0 1
  ⟨[⟨intermediate, [], []⟩, ⟨launcherFrom intermediate, [], []⟩, ⟨mintedDidCoin, [], []⟩,
    ⟨launchFunding, [], [1]⟩], []⟩

def mintedChain : Chain :=
  [⟨[payerCoin, launchFunding], []⟩, ⟨[], []⟩, ⟨[], mintBundle.coinSpends⟩] ++
    List.replicate 6 ⟨[], []⟩ ++ [⟨[], launchBundle.coinSpends⟩] ++ List.replicate 6 ⟨[], []⟩

def mintedSource (moment : Nat) : letI := pairHash; letI := childClvm
    HonestSource mintedChain (steadyAt moment) :=
  letI := pairHash
  letI := childClvm
  .node profileIndex mintedChain (steadyAt moment)

def mintHost (moment : Nat) (funding : Coin) : HostOracle := fun i call =>
  letI := pairHash
  letI := childClvm
  match call with
  | .chain query => (mintedSource moment).answer i query
  | .coinRecordsByPuzzleHash _ _ => .ok [⟨funding, some 0, none⟩]
  | other => payerOracle i other

def mintStep : @CeremonyStep nameAndBio :=
  letI := nameAndBio
  ⟨payerMinter, 0, .beginMint ⟨⟨Fin.last 15, Fin.last 15⟩⟩ ⟨7⟩ ⟨0⟩ ⟨300⟩, mintHost 2 payerCoin, 0⟩

def launchStep : @CeremonyStep nameAndBio :=
  letI := nameAndBio
  ⟨payerMinter, 0, .advance ⟨7⟩ ⟨300⟩, mintHost 9 launchFunding, 0⟩

theorem taken_of_toOption {push : Pushed} (h : push.answer.toOption.isSome) :
    push.answer = .ok () ∧ push.rejected = false := by
  have haccepted : push.answer = .ok () := by
    cases hgiven : push.answer with
    | ok _ => rfl
    | error e =>
        rw [hgiven] at h
        cases h
  exact ⟨haccepted, by rw [Pushed.rejected, haccepted]⟩

theorem pushed_mint_settles_desk :
    letI := pairHash; letI := childClvm; letI := decimalDid; letI := plainDrivers
    letI := launchingDrivers; letI := childDrivers; letI := nameAndBio
    ∃ first second, mintStep.perform empty = .ok first ∧
      launchStep.perform first.registry = .ok second ∧
      (∃ did, (profileMintStatus first.registry 0).run (mintedSource mintedChain.length).answer 0 =
        .ok (.didConfirmedStoreNotLaunched did) ∧ did.confirmedHeight = 2) ∧
      ∃ did store, (profileMintStatus second.registry 0).run
        (mintedSource mintedChain.length).answer 0 = .ok (.confirmed did store) ∧
          store.confirmedHeight = 9 := by
  let _ := pairHash
  let _ := childClvm
  let _ := decimalDid
  let _ := plainDrivers
  let _ := launchingDrivers
  let _ := childDrivers
  let _ := nameAndBio
  have _ := childClvm_laws
  have honest : HonestChain mintedChain := FreshChain.honest (by decide +kernel)
  have reads : CurrentReads (mintedSource mintedChain.length).answer 0 16 := by
    refine ⟨rfl, fun k id => ?_, fun k id => ⟨_, rfl⟩⟩
    exact profileIndex_reads mintedChain id (by decide +kernel)
  have hsummary : (mintStep.perform empty).toOption.any fun first =>
      (first.pushed.any fun push => push.bundle = mintBundle ∧ push.answer.toOption.isSome ∧
        push.journalled.any fun stage => !stage.isStorePushed) &&
      (launchStep.perform first.registry).toOption.any fun second =>
        second.pushed.any fun push => push.bundle = launchBundle ∧
          push.answer.toOption.isSome ∧ push.journalled.any MintStage.isStorePushed := by
    decide +kernel
  obtain ⟨first, hfirst, hboth⟩ := Validator.ok_of_any hsummary
  obtain ⟨hminted, hlaunched⟩ := Bool.and_eq_true_iff.1 hboth
  obtain ⟨second, hsecond, hlaunched⟩ := Validator.ok_of_any hlaunched
  obtain ⟨minted, hmintPush, hmade⟩ := (Option.any_eq_true ..).1 hminted
  obtain ⟨launched, hlaunchPush, hmadeStore⟩ := (Option.any_eq_true ..).1 hlaunched
  obtain ⟨hmintBundle, hmintTaken, hmintHalf⟩ := of_decide_eq_true hmade
  obtain ⟨hlaunchBundle, hlaunchTaken, hlaunchHalf⟩ := of_decide_eq_true hmadeStore
  obtain ⟨hmintAccepted, hmintKept⟩ := taken_of_toOption hmintTaken
  obtain ⟨hlaunchAccepted, hlaunchKept⟩ := taken_of_toOption hlaunchTaken
  have haccepted : first.registry.Accepted :=
    (perform_callEffect empty_accepted hfirst).accepted empty_accepted
  obtain ⟨-, _, -, stage, hbacked, hkeeps, hsettles⟩ :=
    pushed_mint_settles empty_accepted hfirst hmintPush
  obtain ⟨-, _, -, storeStage, hstoreBacked, hstoreKeeps, hstoreSettles⟩ :=
    pushed_mint_settles haccepted hsecond hlaunchPush
  refine ⟨first, second, hfirst, hsecond, ?_, ?_⟩
  · obtain ⟨mint, hmint, hstage⟩ := hkeeps hmintKept
    have included : Includes mintedChain minted.bundle 2 :=
      ⟨⟨[], mintBundle.coinSpends⟩, rfl, hmintBundle ▸ List.Subset.refl _⟩
    obtain ⟨status, hstatus, hsettled⟩ := hsettles mintedChain (steadyAt 2) (mintedSource 2) 2
      honest rfl included (.inl hmintAccepted) first.registry mint
      (mintedSource mintedChain.length) 0 16 hmint hstage reads (by decide)
    rw [hbacked.journalled] at hmintHalf
    cases stage with
    | didPushed pending =>
        cases status with
        | didConfirmedStoreNotLaunched did => exact ⟨did, hstatus, hsettled.2.2⟩
        | didPending id => exact hsettled.elim
        | storePending did id => exact hsettled.elim
        | confirmed did store => exact hsettled.elim
    | didConfirmedStoreNotLaunched record => cases status <;> exact hsettled.elim
    | storePushed record pendingStore => cases hmintHalf
  · obtain ⟨mint, hmint, hstage⟩ := hstoreKeeps hlaunchKept
    have included : Includes mintedChain launched.bundle 9 :=
      ⟨⟨[], launchBundle.coinSpends⟩, rfl, hlaunchBundle ▸ List.Subset.refl _⟩
    obtain ⟨status, hstatus, hsettled⟩ := hstoreSettles mintedChain (steadyAt 9) (mintedSource 9) 9
      honest rfl included (.inl hlaunchAccepted) second.registry mint
      (mintedSource mintedChain.length) 0 16 hmint hstage reads (by decide)
    rw [hstoreBacked.journalled] at hlaunchHalf
    cases storeStage with
    | didPushed pending => cases hlaunchHalf
    | didConfirmedStoreNotLaunched record => cases hlaunchHalf
    | storePushed record pendingStore =>
        cases status with
        | didConfirmedStoreNotLaunched did => exact hsettled.elim
        | didPending id => exact hsettled.elim
        | storePending did id => exact hsettled.elim
        | confirmed did store => exact ⟨did, store, hstatus, hsettled.2.2.2.2⟩

end Example

end DigAccount
