import DigAccount.Primitives

namespace DigAccount

def minConfirmationDepth : Nat := 6

def maxMintFeeMojos : Nat := 10000000000

def intermediateAmount : Nat := 0

def launcherAmount : Nat := 1

def singletonLauncherHash : Bytes32 :=
  0xeff07522495060c066f66f32acc2a77e3a3e737aca8baea4d1a64ea4cdc13da9

structure PendingMint where
  launcherId : Bytes32
  didCoinId : Bytes32
  sourceCoinId : Bytes32
  pushedAtHeight : Nat
  deriving DecidableEq, Repr

structure PendingStoreLaunch where
  launcherId : Bytes32
  storeCoinId : Bytes32
  didCoinId : Bytes32
  committedRoot : Bytes32
  pushedAtHeight : Nat
  deriving DecidableEq, Repr

def depthOf (peak height : Nat) : Nat := saturatingAdd u32Max (peak - height) 1

theorem le_depthOf {peak height depth : Nat} (hd : depth ≤ u32Max) :
    depth ≤ depthOf peak height ↔ depth ≤ peak - height + 1 := by
  rw [depthOf, saturatingAdd]
  omega

theorem depthOf_mono {peak peak' : Nat} (h : peak ≤ peak') (height : Nat) :
    depthOf peak height ≤ depthOf peak' height := by
  simp only [depthOf, saturatingAdd]
  omega

variable [CoinHash]

def buriedHeight (expected : Bytes32) (pushedAt : Nat) (record : CoinRecord) (peak : Nat) :
    Option Nat :=
  if coinId record.coin ≠ expected then none
  else
    match record.confirmedHeight with
    | none => none
    | some height =>
        if height = 0 ∨ height < pushedAt then none
        else if depthOf peak height < minConfirmationDepth then none
        else some height

theorem buriedHeight_eq_some {expected : Bytes32} {pushedAt peak height : Nat}
    {record : CoinRecord} :
    buriedHeight expected pushedAt record peak = some height ↔
      coinId record.coin = expected ∧ record.confirmedHeight = some height ∧ height ≠ 0 ∧
        pushedAt ≤ height ∧ minConfirmationDepth ≤ depthOf peak height := by
  rw [buriedHeight]
  by_cases hcoin : coinId record.coin = expected
  · cases hc : record.confirmedHeight with
    | none => simp [hcoin]
    | some h =>
        simp only [hcoin, ne_eq, not_true_eq_false, if_false, Option.some.injEq, true_and]
        split_ifs with hbad hshallow
        · refine iff_of_false (by simp) ?_
          rintro ⟨rfl, hne, hle, -⟩
          omega
        · refine iff_of_false (by simp) ?_
          rintro ⟨rfl, -, -, hdeep⟩
          omega
        · simp only [Option.some.injEq]
          constructor
          · rintro rfl
            exact ⟨rfl, by omega, by omega, by omega⟩
          · exact fun h => h.1
  · simp [hcoin]

theorem buriedHeight_ne_zero {expected : Bytes32} {pushedAt peak height : Nat}
    {record : CoinRecord} (h : buriedHeight expected pushedAt record peak = some height) :
    height ≠ 0 :=
  (buriedHeight_eq_some.1 h).2.2.1

structure MintedDid [DidEncoding] where
  did : String
  launcherId : Bytes32
  coinId : Bytes32
  confirmedHeight : Nat
  did_of_launcher : did = didStringFromLauncherId launcherId
  height_ne_zero : confirmedHeight ≠ 0

def MintedDid.fromConfirmed [DidEncoding] (pending : PendingMint) (record : CoinRecord)
    (peak : Nat) : Option MintedDid :=
  match h : buriedHeight pending.didCoinId pending.pushedAtHeight record peak with
  | none => none
  | some height =>
      some {
        did := didStringFromLauncherId pending.launcherId
        launcherId := pending.launcherId
        coinId := pending.didCoinId
        confirmedHeight := height
        did_of_launcher := rfl
        height_ne_zero := buriedHeight_ne_zero h }

structure ConfirmedStore where
  launcherId : Bytes32
  coinId : Bytes32
  confirmedHeight : Nat
  didCoinId : Bytes32
  committedRoot : Bytes32
  height_ne_zero : confirmedHeight ≠ 0
  deriving DecidableEq

def ConfirmedStore.fromConfirmed (pending : PendingStoreLaunch) (record : CoinRecord)
    (peak : Nat) : Option ConfirmedStore :=
  match h : buriedHeight pending.storeCoinId pending.pushedAtHeight record peak with
  | none => none
  | some height =>
      some {
        launcherId := pending.launcherId
        coinId := pending.storeCoinId
        confirmedHeight := height
        didCoinId := pending.didCoinId
        committedRoot := pending.committedRoot
        height_ne_zero := buriedHeight_ne_zero h }

theorem MintedDid.fromConfirmed_isSome [DidEncoding] {pending : PendingMint}
    {record : CoinRecord} {peak : Nat} :
    (MintedDid.fromConfirmed pending record peak).isSome ↔
      (buriedHeight pending.didCoinId pending.pushedAtHeight record peak).isSome := by
  rw [MintedDid.fromConfirmed]
  split <;> simp_all

theorem ConfirmedStore.fromConfirmed_isSome {pending : PendingStoreLaunch} {record : CoinRecord}
    {peak : Nat} :
    (ConfirmedStore.fromConfirmed pending record peak).isSome ↔
      (buriedHeight pending.storeCoinId pending.pushedAtHeight record peak).isSome := by
  rw [ConfirmedStore.fromConfirmed]
  split <;> simp_all

theorem MintedDid.fromConfirmed_coinId [DidEncoding] {pending : PendingMint}
    {record : CoinRecord} {peak : Nat} {did : MintedDid}
    (h : MintedDid.fromConfirmed pending record peak = some did) :
    did.coinId = pending.didCoinId := by
  rw [MintedDid.fromConfirmed] at h
  split at h
  · cases h
  · cases h
    rfl

theorem ConfirmedStore.fromConfirmed_didCoinId {pending : PendingStoreLaunch}
    {record : CoinRecord} {peak : Nat} {store : ConfirmedStore}
    (h : ConfirmedStore.fromConfirmed pending record peak = some store) :
    store.didCoinId = pending.didCoinId := by
  rw [ConfirmedStore.fromConfirmed] at h
  split at h
  · cases h
  · cases h
    rfl

end DigAccount
