import DigAccount.Mint.RewardDistributor
import DigAccount.Registry.Registry

namespace DigAccount

inductive ProfileMintStatus [DidEncoding] where
  | didPending (didCoinId : Bytes32)
  | didConfirmedStoreNotLaunched (did : MintedDid)
  | storePending (did : MintedDid) (storeLauncherId : Bytes32)
  | confirmed (did : MintedDid) (store : ConfirmedStore)

def pendingMintFrom (record : PendingMintRecord) : PendingMint where
  launcherId := record.launcherId
  didCoinId := record.didCoinId
  sourceCoinId := record.sourceCoinId
  pushedAtHeight := record.pushedAtHeight

def pendingStoreFrom (record : PendingStoreLaunchRecord) : PendingStoreLaunch where
  launcherId := record.launcherId
  storeCoinId := record.storeCoinId
  didCoinId := record.didCoinId
  committedRoot := record.committedRoot
  pushedAtHeight := record.pushedAtHeight

def ProfileRegistry.journalledMint (registry : ProfileRegistry) (ix : ProfileIx) :
    Except MintError ProfileMintInProgress :=
  match registry.inProgress.find? fun mint => mint.ix = ix with
  | some mint => .ok mint
  | none => .error (.journal s!"no mint is journalled at profile {ix}")

section Status

variable [CoinHash] [DidEncoding]

def confirmedDid (pending : PendingMint) (peak : Nat) :
    ChainReads MintError (Option MintedDid) := do
  let found ← readCoinRecord .chainUnreachable pending.didCoinId
  pure (found.bind (MintedDid.fromConfirmed pending · peak))

def confirmedStore (pending : PendingStoreLaunch) (peak : Nat) :
    ChainReads MintError (Option ConfirmedStore) := do
  let found ← readCoinRecord .chainUnreachable pending.storeCoinId
  pure (found.bind (ConfirmedStore.fromConfirmed pending · peak))

def MintedDid.reverified (launcherId coinId : Bytes32) (journalledHeight : Nat)
    (record : CoinRecord) (peak : Nat) : Option MintedDid :=
  MintedDid.fromConfirmed ⟨launcherId, coinId, coinId, journalledHeight⟩ record peak

def reverifiedDid (record : MintedDidRecord) (peak : Nat) : ChainReads MintError MintedDid := do
  let found ← readCoinRecord .chainUnreachable record.coinId
  match found.bind
      (MintedDid.reverified record.launcherId record.coinId record.confirmedHeight · peak) with
  | some did => pure did
  | none =>
      .fail (.chainUnreachable
        s!"the chain no longer confirms the DID coin {hex32 record.coinId} this mint recorded")

def MintStage.status (peak : Nat) : MintStage → ChainReads MintError ProfileMintStatus
  | .didPushed pending => do
      let pending := pendingMintFrom pending
      let did ← confirmedDid pending peak
      match did with
      | some did => pure (.didConfirmedStoreNotLaunched did)
      | none => pure (.didPending pending.didCoinId)
  | .didConfirmedStoreNotLaunched did => do
      let did ← reverifiedDid did peak
      pure (.didConfirmedStoreNotLaunched did)
  | .storePushed did pendingStore => do
      let did ← reverifiedDid did peak
      let pending := pendingStoreFrom pendingStore
      let store ← confirmedStore pending peak
      match store with
      | some store => pure (.confirmed did store)
      | none => pure (.storePending did pending.launcherId)

def profileMintStatus (registry : ProfileRegistry) (ix : ProfileIx) :
    ChainReads MintError ProfileMintStatus := do
  let mint ← .ofExcept (registry.journalledMint ix)
  let peak ← peakHeight .chainUnreachable
  mint.stage.status peak

variable {oracle : Oracle} {i peak : Nat} {did : MintedDidRecord}
  {pendingStore : PendingStoreLaunchRecord} {found : Option CoinRecord}

theorem profileMintStatus_store {registry : ProfileRegistry} {ix : ProfileIx}
    {mint : ProfileMintInProgress} {didFound storeFound : Option CoinRecord}
    (hmint : registry.journalledMint ix = .ok mint)
    (hstage : mint.stage = .storePushed did pendingStore)
    (hpeak : oracle i .peakHeight = .ok (some peak))
    (hdid : oracle (i + 1) (.coinRecord did.coinId) = .ok didFound)
    (hstore : oracle (i + 2) (.coinRecord pendingStore.storeCoinId) = .ok storeFound) :
    (∃ minted store, (profileMintStatus registry ix).run oracle i =
        .ok (.confirmed minted store)) ↔
      (didFound.bind (MintedDid.reverified did.launcherId did.coinId did.confirmedHeight ·
        peak)).isSome ∧
      (storeFound.bind (ConfirmedStore.fromConfirmed (pendingStoreFrom pendingStore) ·
        peak)).isSome := by
  have hdidRead := exec_readCoinRecord_ok MintError.chainUnreachable hdid
  have hstoreRead : (readCoinRecord MintError.chainUnreachable
      (pendingStoreFrom pendingStore).storeCoinId).exec oracle (i + 2) = (.ok storeFound, i + 3) :=
    exec_readCoinRecord_ok MintError.chainUnreachable hstore
  simp only [← Fallible.fst_exec, profileMintStatus, Fallible.exec_bind_ofExcept hmint,
    Fallible.exec_bind_of_ok (exec_peakHeight MintError.chainUnreachable hpeak), hstage]
  cases hminted : didFound.bind
      (MintedDid.reverified did.launcherId did.coinId did.confirmedHeight · peak) with
  | none =>
      obtain ⟨e, hgone⟩ :
          ∃ e, (reverifiedDid did peak).exec oracle (i + 1) = (.error e, i + 2) := by
        rw [reverifiedDid, Fallible.exec_bind_of_ok hdidRead, hminted]
        exact ⟨_, rfl⟩
      simp [MintStage.status, Fallible.exec_bind_of_error hgone]
  | some minted =>
      have hproven : (reverifiedDid did peak).exec oracle (i + 1) = (.ok minted, i + 2) := by
        rw [reverifiedDid, Fallible.exec_bind_of_ok hdidRead, hminted]
        rfl
      have hread : (confirmedStore (pendingStoreFrom pendingStore) peak).exec oracle (i + 2) =
          (.ok (storeFound.bind (ConfirmedStore.fromConfirmed (pendingStoreFrom pendingStore) ·
            peak)), i + 3) :=
        Fallible.exec_bind_of_ok hstoreRead
      simp only [MintStage.status, Fallible.exec_bind_of_ok hproven,
        Fallible.exec_bind_of_ok hread, Option.isSome_some, true_and]
      cases storeFound.bind (ConfirmedStore.fromConfirmed (pendingStoreFrom pendingStore) ·
          peak) with
      | none => exact iff_of_false (by rintro ⟨_, _, h⟩; cases h) (by simp)
      | some store => exact iff_of_true ⟨minted, store, rfl⟩ rfl

end Status

end DigAccount
