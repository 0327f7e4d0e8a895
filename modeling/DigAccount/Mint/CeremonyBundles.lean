import DigAccount.Mint.BuriedInclusion
import DigAccount.Mint.CeremonyRuns

namespace DigAccount

open Fallible Ledger ProfileRegistry

class SingletonLaws [CoinHash] [Clvm] [TransferDrivers] [MintDrivers] : Prop where
  standardSpend_coin : ∀ publicKey coin conditions spend,
    TransferDrivers.standardSpend publicKey coin conditions = .ok spend → spend.coin = coin
  createSimpleDid_builds : ∀ staged funding publicKey built did,
    MintDrivers.createSimpleDid staged funding publicKey = .ok (built, some did) →
      staged ⊆ built ∧ ∃ spend ∈ built, did.coin ∈ additions spend
  mintDatastoreLaunch_builds : ∀ staged launcher metadata owner delegated built store conditions,
    MintDrivers.mintDatastoreLaunch staged launcher metadata owner delegated =
        .ok (built, store, conditions) → ∃ spend ∈ built, store.coin ∈ additions spend
  spendDidWithConditions_builds : ∀ staged did publicKey conditions built,
    MintDrivers.spendDidWithConditions staged did publicKey conditions = .ok built →
      staged ⊆ built ∧ ∃ spend ∈ built, spend.coin = did.coin

section Backing

variable [CoinHash] [Clvm]

def MintStage.BackedBy (bundle : SpendBundle) : MintStage → Prop
  | .didPushed pending => bundle.Spends pending.sourceCoinId ∧ bundle.Creates pending.didCoinId
  | .didConfirmedStoreNotLaunched _ => False
  | .storePushed did pendingStore =>
      bundle.Spends did.coinId ∧ bundle.Creates pendingStore.storeCoinId

variable [TransferDrivers] [MintDrivers] [SingletonLaws] {wallet : WalletKey}
  {source funding : Coin} {options : MintOptions} {pushedAtHeight : Nat}
  {coinSpends : List CoinSpend} {pending : PendingMint}

theorem buildMintSpends_backs {signature : List SignedMessage}
    (h : buildMintSpends wallet source options pushedAtHeight = .ok (coinSpends, pending)) :
    SpendBundle.Spends ⟨coinSpends, signature⟩ pending.sourceCoinId ∧
      SpendBundle.Creates ⟨coinSpends, signature⟩ pending.didCoinId ∧
      pending.pushedAtHeight = pushedAtHeight := by
  simp only [buildMintSpends, Validator.bind_ok] at h
  obtain ⟨memos, -, split, hsplit, ⟨built, child⟩, hcreate, h⟩ := h
  have hcoin := SingletonLaws.standardSpend_coin _ _ _ _ (mapError_eq_ok.1 hsplit)
  cases child with
  | none => cases h
  | some did =>
      cases h
      obtain ⟨hstaged, spend, hmem, hcreated⟩ :=
        SingletonLaws.createSimpleDid_builds _ _ _ _ _ (mapError_eq_ok.1 hcreate)
      refine ⟨⟨split, hstaged (List.mem_singleton_self _), by rw [hcoin]⟩, ⟨spend, hmem, ?_⟩, rfl⟩
      exact List.mem_map_of_mem hcreated

variable [DigDrivers] {did : Did} {didCoinId seedRoot : Bytes32} {didString : String} {fee : Nat}
  {network : MintNetwork} {launch : StoreLaunchBundle}

theorem buildAndSignStoreLaunch_backs
    (h : buildAndSignStoreLaunch wallet did didCoinId funding seedRoot didString fee
      pushedAtHeight network = .ok launch) :
    launch.bundle.Spends didCoinId ∧ launch.bundle.Creates launch.pending.storeCoinId ∧
      launch.pending.pushedAtHeight = pushedAtHeight := by
  simp only [buildAndSignStoreLaunch, Validator.bind_ok] at h
  obtain ⟨_, hanchor, ⟨coinSpends, store⟩, hbuilt, -, -, signature, -, hlaunch⟩ := h
  cases hlaunch
  have hnamed : coinId did.coin = didCoinId := not_not.1 (Validator.refuseWhen_ok.1 hanchor)
  simp only [buildStoreLaunch, Validator.bind_ok] at hbuilt
  obtain ⟨⟨staged, launcher⟩, -, ⟨launched, datastore, conditions⟩, hstore, spends, hdid,
    fundingSpend, -, hreturned⟩ := hbuilt
  cases hreturned
  obtain ⟨creator, hcreator, hcreated⟩ :=
    SingletonLaws.mintDatastoreLaunch_builds _ _ _ _ _ _ _ _ (mapError_eq_ok.1 hstore)
  obtain ⟨hstaged, spender, hspender, hcoin⟩ :=
    SingletonLaws.spendDidWithConditions_builds _ _ _ _ _ (mapError_eq_ok.1 hdid)
  refine ⟨⟨spender, List.mem_append_left _ hspender, by rw [hcoin, hnamed]⟩, ?_, rfl⟩
  exact ⟨creator, List.mem_append_left _ (hstaged hcreator), List.mem_map_of_mem hcreated⟩

end Backing

section Calls

variable [CoinHash] [Clvm] [TransferDrivers] [MintDrivers] [SingletonLaws] [DigDrivers]
  {minter : ProfileMinter} {registry : ProfileRegistry} {ix : ProfileIx} {network : MintNetwork}
  {options : MintOptions} {reservations : CoinReservations} {oracle : HostOracle} {i j : Nat}

def PeakRead (oracle : HostOracle) (i j peak : Nat) : Prop :=
  ∃ k, i ≤ k ∧ k < j ∧ oracle k (.chain .peakHeight) = .ok (some peak)

omit [CoinHash] [Clvm] [TransferDrivers] [MintDrivers] [SingletonLaws] [DigDrivers] in
theorem PeakRead.mono {peak start finish : Nat} (h : PeakRead oracle i j peak) (hstart : start ≤ i)
    (hle : j ≤ finish) : PeakRead oracle start finish peak := by
  obtain ⟨n, hge, hlt, hread⟩ := h
  exact ⟨n, hstart.trans hge, hlt.trans_le hle, hread⟩

omit [CoinHash] [Clvm] [TransferDrivers] [MintDrivers] [SingletonLaws] [DigDrivers] in
theorem exec_peakHeight_onChain {ε : Type} {unreachable : String → ε} {peak : Nat}
    (h : (onChain (peakHeight unreachable)).exec oracle i = (.ok peak, j)) :
    PeakRead oracle i j peak := by
  rw [exec_onChain] at h
  obtain ⟨hrun, hafter⟩ := Prod.mk.inj h
  rw [after_peakHeight hrun] at hafter
  exact ⟨i, Nat.le_refl i, by omega, run_peakHeight.1 hrun⟩

theorem prepareDidMint_backs {bundle : SpendBundle} {pending : PendingMint} {held : ReservationId}
    (h : (minter.prepareDidMint ix network options reservations).exec oracle i =
      (.ok ((bundle, pending), held), j)) :
    bundle.Spends pending.sourceCoinId ∧ bundle.Creates pending.didCoinId ∧
      PeakRead oracle i j pending.pushedAtHeight := by
  simp only [ProfileMinter.prepareDidMint, exec_bind_eq_ok] at h
  obtain ⟨wallet, walletAt, hwallet, _, checkedAt, hchecked, ⟨source, reserved⟩, reservedAt,
    hreserved, signed, signedAt, hsigned, kept, keptAt, hkept, hpure⟩ := h
  cases hpure
  have hlater : signedAt ≤ keptAt := le_of_exec hkept
  have hsame : signed = .ok (bundle, pending) :=
    CoinReservations.orRelease_ok.1 (Prod.mk.inj hkept).1
  rw [exec_outcome_eq_ok, hsame, ProfileMinter.signDidMint] at hsigned
  simp only [exec_bind_eq_ok] at hsigned
  obtain ⟨peak, peakAt, hpeak, ⟨coinSpends, built⟩, builtAt, hbuilt, _, liveAt, hlive, signature,
    signatureAt, hsignature, hpure⟩ := hsigned
  cases hpure
  obtain ⟨hspends, hcreates, hheight⟩ := buildMintSpends_backs (Prod.mk.inj hbuilt).1
  refine ⟨hspends, hcreates, hheight ▸ (exec_peakHeight_onChain hpeak).mono ?_ ?_⟩
  · calc i ≤ walletAt := le_of_exec hwallet
      _ ≤ checkedAt := le_of_exec hchecked
      _ ≤ reservedAt := le_of_exec hreserved
  calc peakAt ≤ builtAt := le_of_exec hbuilt
    _ ≤ liveAt := le_of_exec hlive
    _ ≤ signatureAt := le_of_exec hsignature
    _ ≤ _ := hlater

variable [DidEncoding] {did : MintedDid}

theorem prepareStoreLaunch_backs {launch : StoreLaunchBundle} {held : ReservationId}
    (h : (minter.prepareStoreLaunch registry ix did network reservations).exec oracle i =
      (.ok (launch, held), j)) :
    launch.bundle.Spends did.coinId ∧ launch.bundle.Creates launch.pending.storeCoinId ∧
      PeakRead oracle i j launch.pending.pushedAtHeight := by
  simp only [ProfileMinter.prepareStoreLaunch, exec_bind_eq_ok] at h
  obtain ⟨mint, mintAt, hmint, seedRoot, rootAt, hroot, wallet, walletAt, hwallet, tip, tipAt, htip,
    _, judgedAt, hjudged, ⟨funding, reserved⟩, reservedAt, hreserved, signed, signedAt, hsigned,
    kept, keptAt, hkept, hpure⟩ := h
  cases hpure
  have hlater : signedAt ≤ keptAt := le_of_exec hkept
  have hsame : signed = .ok launch := CoinReservations.orRelease_ok.1 (Prod.mk.inj hkept).1
  rw [exec_outcome_eq_ok, hsame, ProfileMinter.signLaunch] at hsigned
  simp only [exec_bind_eq_ok] at hsigned
  obtain ⟨peak, peakAt, hpeak, _, liveAt, hlive, hbuilt⟩ := hsigned
  obtain ⟨hspends, hcreates, hheight⟩ := buildAndSignStoreLaunch_backs (Prod.mk.inj hbuilt).1
  refine ⟨hspends, hcreates, hheight ▸ (exec_peakHeight_onChain hpeak).mono ?_ ?_⟩
  · calc i ≤ mintAt := le_of_exec hmint
      _ ≤ rootAt := le_of_exec hroot
      _ ≤ walletAt := le_of_exec hwallet
      _ ≤ tipAt := le_of_exec htip
      _ ≤ judgedAt := le_of_exec hjudged
      _ ≤ reservedAt := le_of_exec hreserved
  calc peakAt ≤ liveAt := le_of_exec hlive
    _ ≤ signedAt := le_of_exec hbuilt
    _ ≤ _ := hlater

end Calls

section Verdicts

variable [CoinHash] [DidEncoding] {registry : ProfileRegistry} {ix : ProfileIx} {did : MintedDid}
  {oracle : Oracle} {i j : Nat}

theorem MintedDid.fromConfirmed_spec {pending : PendingMint} {record : CoinRecord} {peak : Nat}
    (h : MintedDid.fromConfirmed pending record peak = some did) :
    did.launcherId = pending.launcherId ∧ did.coinId = pending.didCoinId ∧
      buriedHeight pending.didCoinId pending.pushedAtHeight record peak =
        some did.confirmedHeight := by
  rw [MintedDid.fromConfirmed] at h
  split at h
  · cases h
  · rename_i height hburied
    cases h
    exact ⟨rfl, rfl, hburied⟩

omit [DidEncoding] in
theorem ConfirmedStore.fromConfirmed_spec {pending : PendingStoreLaunch} {record : CoinRecord}
    {peak : Nat} {store : ConfirmedStore}
    (h : ConfirmedStore.fromConfirmed pending record peak = some store) :
    store.launcherId = pending.launcherId ∧ store.coinId = pending.storeCoinId ∧
      store.committedRoot = pending.committedRoot ∧
      buriedHeight pending.storeCoinId pending.pushedAtHeight record peak =
        some store.confirmedHeight := by
  rw [ConfirmedStore.fromConfirmed] at h
  split at h
  · cases h
  · rename_i height hburied
    cases h
    exact ⟨rfl, rfl, rfl, hburied⟩

def DidRead (oracle : Oracle) (i j : Nat) (did : MintedDid) : Prop :=
  ∃ k, i ≤ k ∧ k < j ∧ ∃ record, oracle k (.coinRecord did.coinId) = .ok (some record) ∧
    record.confirmedHeight = some did.confirmedHeight

omit [CoinHash] in
theorem DidRead.mono {start finish : Nat} (h : DidRead oracle i j did) (hstart : start ≤ i)
    (hle : j ≤ finish) : DidRead oracle start finish did := by
  obtain ⟨n, hge, hlt, hread⟩ := h
  exact ⟨n, hstart.trans hge, hlt.trans_le hle, hread⟩

theorem exec_readCoinRecord_did (pending : PendingMint) {peak : Nat} {found : Option CoinRecord}
    (hread : (readCoinRecord MintError.chainUnreachable pending.didCoinId).exec oracle i =
      (.ok found, j))
    (hminted : found.bind (MintedDid.fromConfirmed pending · peak) = some did) :
    DidRead oracle i j did := by
  obtain ⟨record, rfl, hrecord⟩ := Option.bind_eq_some_iff.1 hminted
  obtain ⟨-, hcoin, hburied⟩ := MintedDid.fromConfirmed_spec hrecord
  obtain ⟨hrun, hafter⟩ := Prod.mk.inj hread
  rw [run_readCoinRecord, mapError_eq_ok] at hrun
  rw [after_readCoinRecord] at hafter
  exact ⟨i, Nat.le_refl i, by omega, record, hcoin ▸ hrun, (buriedHeight_eq_some.1 hburied).2.1⟩

theorem exec_profileMintStatus_did
    (h : (profileMintStatus registry ix).exec oracle i =
      (.ok (.didConfirmedStoreNotLaunched did), j)) : DidRead oracle i j did := by
  simp only [profileMintStatus, exec_bind_eq_ok] at h
  obtain ⟨mint, mintAt, hmint, peak, peakAt, hpeak, h⟩ := h
  have hstart : i ≤ peakAt := (le_of_exec hmint).trans (le_of_exec hpeak)
  cases hstage : mint.stage with
  | didPushed pending =>
      simp only [hstage, MintStage.status, confirmedDid, exec_bind_eq_ok] at h
      obtain ⟨minted, mintedAt, ⟨found, foundAt, hfound, hminted⟩, h⟩ := h
      cases hminted
      cases hbound : found.bind (MintedDid.fromConfirmed (pendingMintFrom pending) · peak) with
      | none =>
          rw [hbound] at h
          cases h
      | some confirmed =>
          rw [hbound] at h
          cases h
          exact (exec_readCoinRecord_did _ hfound hbound).mono hstart (Nat.le_refl _)
  | didConfirmedStoreNotLaunched record =>
      simp only [hstage, MintStage.status, reverifiedDid, exec_bind_eq_ok] at h
      obtain ⟨minted, mintedAt, ⟨found, foundAt, hfound, hminted⟩, h⟩ := h
      cases h
      cases hbound : found.bind (MintedDid.reverified record.launcherId record.coinId
          record.confirmedHeight · peak) with
      | none =>
          rw [hbound] at hminted
          cases hminted
      | some confirmed =>
          rw [hbound] at hminted
          cases hminted
          have hread := exec_readCoinRecord_did
            ⟨record.launcherId, record.coinId, record.coinId, record.confirmedHeight⟩ hfound hbound
          exact hread.mono hstart (Nat.le_refl _)
  | storePushed record pendingStore =>
      simp only [hstage, MintStage.status, exec_bind_eq_ok] at h
      obtain ⟨minted, _, -, store, _, -, h⟩ := h
      cases store with
      | none => cases h
      | some store => cases h

end Verdicts

section Pushes

variable [DidEncoding] {registry : ProfileRegistry} {ix : ProfileIx} {oracle : HostOracle}
  {i : Nat} {outcome : CeremonyOutcome} {push : Pushed}

theorem journalThenBroadcast_pushed {journalled : Mutation Unit} {half : MintHalf}
    {bundle : SpendBundle} {held : ReservationId}
    {undo : ProfileRegistry → MintError → Mutation Unit} {status : ProfileMintStatus}
    (h : (MintCeremony.journalThenBroadcast ix journalled half bundle held undo status).run
      oracle i = .ok outcome) (hpush : outcome.pushed = some push) :
    ∃ next, journalled = .returned (.ok ()) next ∧ push = ⟨half, ix, bundle,
      (next.journalAt ix).map ProfileMintInProgress.stage,
      (pushMint bundle).run (HostOracle.chainSide oracle) i⟩ := by
  cases journalled with
  | panicked reason => cases h
  | returned result next =>
      cases result with
      | error e =>
          rw [MintCeremony.journalThenBroadcast, run_bind_of_ok run_outcome] at h
          cases h
          cases hpush
      | ok _ =>
          rw [MintCeremony.journalThenBroadcast, MintCeremony.broadcast,
            run_bind_of_ok run_outcome, run_onChain] at h
          refine ⟨next, rfl, ?_⟩
          cases hanswer : (pushMint bundle).run (HostOracle.chainSide oracle) i with
          | ok _ =>
              rw [hanswer] at h
              cases h
              cases hpush
              rfl
          | error e =>
              rw [hanswer] at h
              dsimp only at h
              cases hundo : undo next e with
              | panicked reason =>
                  rw [hundo] at h
                  cases h
              | returned result after =>
                  rw [hundo, run_afterRefusal] at h
                  cases h
                  cases hpush
                  rfl

end Pushes

def MintStage.ReadBy [DidEncoding] (oracle : HostOracle) (i j : Nat) : MintStage → Prop
  | .didPushed pending => PeakRead oracle i j pending.pushedAtHeight
  | .didConfirmedStoreNotLaunched _ => False
  | .storePushed record pendingStore => PeakRead oracle i j pendingStore.pushedAtHeight ∧
      ∃ did, record = .ofMinted did ∧ DidRead (HostOracle.chainSide oracle) i j did

structure PushBacked [CoinHash] [Clvm] [DidEncoding] (oracle : HostOracle) (i j : Nat)
    (push : Pushed) (stage : MintStage) : Prop where
  journalled : push.journalled = some stage
  backed : stage.BackedBy push.bundle
  read : stage.ReadBy oracle i j
  answer : push.answer = (pushMint push.bundle).run (HostOracle.chainSide oracle) j

section Steps

variable [CoinHash] [Clvm] [TransferDrivers] [MintDrivers] [SingletonLaws] [DigDrivers]
  [DidEncoding] {minter : ProfileMinter} {registry : ProfileRegistry} {ix : ProfileIx}
  {network : MintNetwork} {options : MintOptions} {reservations : CoinReservations}
  {oracle : HostOracle} {i n : Nat} {outcome : CeremonyOutcome} {push : Pushed}

theorem beginProfileMint_backs [ProfileSchema] {seed : ProfileSeed} (haccepted : registry.Accepted)
    (h : (minter.beginProfileMint registry ix seed network options reservations).exec oracle i =
      (.ok outcome, n)) (hpush : outcome.pushed = some push) :
    push.ix = ix ∧ ∃ j ≤ n, ∃ stage, PushBacked oracle i j push stage := by
  rw [ProfileMinter.beginProfileMint] at h
  split at h
  · cases h
    cases hpush
  rename_i seedRoot _
  obtain ⟨prepared, j, hprepared, h⟩ := exec_bind_eq_ok.1 h
  rw [exec_outcome_eq_ok] at hprepared
  have hlater : j ≤ n := le_of_exec h
  cases prepared with
  | error e =>
      cases h
      cases hpush
  | ok prepared =>
      obtain ⟨⟨bundle, pending⟩, held⟩ := prepared
      obtain ⟨hspends, hcreates, hread⟩ := prepareDidMint_backs hprepared
      obtain ⟨next, hjournalled, rfl⟩ := journalThenBroadcast_pushed (Prod.mk.inj h).1 hpush
      have hstage : StageOk (ProfileMintInProgress.withSeedRoot ix
          (.didPushed (.ofPending pending)) seedRoot options.fee).stage := by
        intro did hdid
        cases hdid
      rw [ProfileRegistry.beginSeededMint] at hjournalled
      rcases haccepted.reserve_cases hstage with ⟨e, herror⟩ | ⟨found, hfound, -, -, hmint, -⟩
      · rw [herror] at hjournalled
        cases hjournalled
      · rw [hfound] at hjournalled
        cases hjournalled
        exact ⟨rfl, j, hlater, .didPushed (.ofPending pending),
          congrArg (Option.map ProfileMintInProgress.stage) hmint, ⟨hspends, hcreates⟩, hread, rfl⟩

theorem advanceProfileMint_backs (haccepted : registry.Accepted)
    (h : (minter.advanceProfileMint registry ix network reservations).exec oracle i =
      (.ok outcome, n)) (hpush : outcome.pushed = some push) :
    push.ix = ix ∧ ∃ j ≤ n, ∃ stage, PushBacked oracle i j push stage := by
  rw [ProfileMinter.advanceProfileMint] at h
  obtain ⟨status, k, hstatus, h⟩ := exec_bind_eq_ok.1 h
  rw [exec_outcome_eq_ok] at hstatus
  split at h
  · rename_i did
    rw [ProfileMinter.launchStore] at h
    obtain ⟨prepared, j, hprepared, h⟩ := exec_bind_eq_ok.1 h
    rw [exec_outcome_eq_ok] at hprepared
    have hlater : j ≤ n := le_of_exec h
    cases prepared with
    | error e =>
        cases h
        cases hpush
    | ok prepared =>
        obtain ⟨launch, held⟩ := prepared
        obtain ⟨hspends, hcreates, hread⟩ := prepareStoreLaunch_backs hprepared
        obtain ⟨⟨mint, hmint⟩, -⟩ := prepareStoreLaunch_ok (Prod.mk.inj hprepared).1
        obtain ⟨next, hjournalled, rfl⟩ := journalThenBroadcast_pushed (Prod.mk.inj h).1 hpush
        have hstage : StageOk (.storePushed (.ofMinted did) (.ofPending launch.pending)) :=
          stageOk_ofMinted
        obtain ⟨found, hfound, -, hmoved, -⟩ := haccepted.advanceMint_journal hmint hstage
        rw [hfound] at hjournalled
        cases hjournalled
        have hdid : DidRead (HostOracle.chainSide oracle) i j did := by
          rw [exec_onChain] at hstatus
          exact (exec_profileMintStatus_did hstatus).mono (Nat.le_refl i) (le_of_exec hprepared)
        exact ⟨rfl, j, hlater, .storePushed (.ofMinted did) (.ofPending launch.pending),
          congrArg (Option.map ProfileMintInProgress.stage) hmoved, ⟨hspends, hcreates⟩,
          ⟨hread.mono (le_of_exec hstatus) (Nat.le_refl j), did, rfl, hdid⟩, rfl⟩
  · cases h
    cases hpush

end Steps

end DigAccount
