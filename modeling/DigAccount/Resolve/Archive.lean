import DigAccount.Chain.Node
import DigAccount.Chain.Singleton
import DigAccount.Foundation.Trail
import DigAccount.Resolve.Resolver

namespace DigAccount

open ClvmRuntime Ledger

class ClvmConsensus [CoinHash] [Clvm] [ClvmRuntime] : Prop where
  evaluates : ∀ (spend : CoinSpend) (puzzle solution output : Node)
    (conditions : List OutputCondition), nodeFromBytes spend.puzzleReveal = .ok puzzle →
      treeHash puzzle = spend.coin.puzzleHash → nodeFromBytes spend.solution = .ok solution →
      runPuzzle puzzle solution maxHopClvmCost = .ok output →
      conditionsFromClvm output = .ok conditions →
        additions spend = (conditions.filterMap OutputCondition.intoCreateCoin).map spend.coin.child

section Chain

variable [CoinHash] [Clvm] (chain : Chain)

def didTrail (launcherId : Bytes32) : List Bytes32 :=
  Lineage.trail launcherId (spends (ledgerOf chain))

def spendOf (id : Bytes32) : Option CoinSpend :=
  (coinSpendsOf chain).find? fun spend => coinId spend.coin = id

def coinsOf : List Coin :=
  chain.flatMap fun block =>
    block.rewards ++ block.spends.map CoinSpend.coin ++ block.spends.flatMap additions

structure ArchiveChain : Prop extends HonestChain chain where
  names : ∀ coin ∈ coinsOf chain, ∀ other ∈ coinsOf chain, coinId coin = coinId other →
    coin = other

def LiveSingleton (launcherId : Bytes32) : Prop := ∃ tip, lineageOf launcherId chain = .live tip

def ProfileTruthful : (q : ProfileQuery) → ProfileAnswer q → Prop
  | .resolveSingletonLineage launcherId, .ok none => ¬ LiveSingleton chain launcherId
  | .resolveSingletonLineage launcherId, .ok (some lineage) =>
      lineageOf launcherId chain = .live lineage.tip ∧ lineage.members = didTrail chain launcherId
  | .coinRecord id, .ok (some record) => record.coin ∈ coinsOf chain ∧ coinId record.coin = id
  | .coinSpend id, .ok (some spend) => spend ∈ coinSpendsOf chain ∧ coinId spend.coin = id
  | _, _ => True

structure ProfileSource where
  answer : (q : ProfileQuery) → ProfileAnswer q
  truthful : ∀ q, ProfileTruthful chain q (answer q)

def Launches (didCoinId : Bytes32) (intermediate : Coin) : Prop :=
  ∃ spend ∈ coinSpendsOf chain, coinId spend.coin = didCoinId ∧ intermediate ∈ additions spend ∧
    intermediate.puzzleHash = profileIntermediatePuzzleHash ∧
    intermediate.amount = intermediateAmount

def LaunchesStore (intermediate : Coin) (storeLauncherId : Bytes32) : Prop :=
  ∃ spend ∈ coinSpendsOf chain, coinId spend.coin = coinId intermediate ∧
    ∃ launcher ∈ additions spend, launcher.puzzleHash = singletonLauncherHash ∧
      launcher.amount = launcherAmount ∧ coinId launcher = storeLauncherId

structure ProfileLaunch (didLauncherId didCoinId : Bytes32) (intermediate : Coin)
    (storeLauncherId : Bytes32) : Prop where
  member : didCoinId ∈ didTrail chain didLauncherId
  launches : Launches chain didCoinId intermediate
  completed : LaunchesStore chain intermediate storeLauncherId
  live : LiveSingleton chain storeLauncherId

def HoldsOnChain (didLauncherId : Bytes32) (resolution : ProfileStoreResolution) : Prop :=
  LiveSingleton chain didLauncherId ∧
    match resolution with
    | .noProfileStore =>
        ∀ didCoinId intermediate storeLauncherId,
          ¬ ProfileLaunch chain didLauncherId didCoinId intermediate storeLauncherId
    | .resolved storeLauncherId didCoinId =>
        (∃ intermediate, ProfileLaunch chain didLauncherId didCoinId intermediate storeLauncherId) ∧
          ∀ coinId' intermediate other,
            ProfileLaunch chain didLauncherId coinId' intermediate other → other = storeLauncherId
    | .ambiguous ids =>
        2 ≤ ids.length ∧ ids.SortedLT ∧ ∀ storeLauncherId, storeLauncherId ∈ ids ↔
          ∃ didCoinId intermediate,
            ProfileLaunch chain didLauncherId didCoinId intermediate storeLauncherId

def archiveAnswer (pruned : List Bytes32) : (q : ProfileQuery) → ProfileAnswer q
  | .resolveSingletonLineage launcherId =>
      match lineageOf launcherId chain with
      | .live tip => .ok (some ⟨tip, didTrail chain launcherId⟩)
      | .unborn | .melted _ => .ok none
  | .coinRecord id =>
      .ok (((coinsOf chain).find? fun coin => coinId coin = id).map fun coin =>
        ⟨coin, confirmedHeight (ledgerOf chain) id, spentHeight (ledgerOf chain) id⟩)
  | .coinSpend id => .ok (if id ∈ pruned then none else spendOf chain id)

end Chain

section Facts

variable [CoinHash] [Clvm] {chain : Chain} {id : Bytes32} {spend : CoinSpend} {coin : Coin}

omit [Clvm] in
theorem mem_of_spendOf (h : spendOf chain id = some spend) :
    spend ∈ coinSpendsOf chain ∧ coinId spend.coin = id :=
  ⟨List.mem_of_find?_eq_some h, by simpa using List.find?_some h⟩

omit [CoinHash] in
theorem spent_coin_mem (h : spend ∈ coinSpendsOf chain) : spend.coin ∈ coinsOf chain := by
  obtain ⟨block, hblock, hmem⟩ := List.mem_flatMap.1 h
  refine List.mem_flatMap.2 ⟨block, hblock, ?_⟩
  exact List.mem_append_left _ (List.mem_append_right _ (List.mem_map_of_mem hmem))

omit [CoinHash] in
theorem created_coin_mem (h : spend ∈ coinSpendsOf chain) (hcoin : coin ∈ additions spend) :
    coin ∈ coinsOf chain := by
  obtain ⟨block, hblock, hmem⟩ := List.mem_flatMap.1 h
  refine List.mem_flatMap.2 ⟨block, hblock, ?_⟩
  exact List.mem_append_right _ (List.mem_flatMap.2 ⟨spend, hmem, hcoin⟩)

theorem archive_truthful (pruned : List Bytes32) (q : ProfileQuery) :
    ProfileTruthful chain q (archiveAnswer chain pruned q) := by
  cases q with
  | resolveSingletonLineage launcherId =>
      cases h : lineageOf launcherId chain with
      | live tip =>
          simp only [archiveAnswer, h]
          exact ⟨h, rfl⟩
      | unborn =>
          simp only [archiveAnswer, h]
          rintro ⟨tip, htip⟩
          rw [h] at htip
          cases htip
      | melted last =>
          simp only [archiveAnswer, h]
          rintro ⟨tip, htip⟩
          rw [h] at htip
          cases htip
  | coinRecord id =>
      cases h : (coinsOf chain).find? fun coin => coinId coin = id with
      | none =>
          simp only [archiveAnswer, h]
          trivial
      | some coin =>
          simp only [archiveAnswer, h]
          exact ⟨List.mem_of_find?_eq_some h, by simpa using List.find?_some h⟩
  | coinSpend id =>
      by_cases hpruned : id ∈ pruned
      · simp only [archiveAnswer, if_pos hpruned]
        trivial
      · cases h : spendOf chain id with
        | none =>
            simp only [archiveAnswer, if_neg hpruned, h]
            trivial
        | some spend =>
            simp only [archiveAnswer, if_neg hpruned, h]
            exact mem_of_spendOf h

def ProfileSource.archive (chain : Chain) (pruned : List Bytes32) : ProfileSource chain where
  answer := archiveAnswer chain pruned
  truthful := archive_truthful pruned

namespace ArchiveChain

variable (full : ArchiveChain chain)
include full

theorem spend_unique {other : CoinSpend} (h : spend ∈ coinSpendsOf chain)
    (hother : other ∈ coinSpendsOf chain) (hid : coinId spend.coin = coinId other.coin) :
    spend = other :=
  coinSpend_unique full.consistent.causal h hother hid

theorem spendOf_eq (h : spend ∈ coinSpendsOf chain) :
    spendOf chain (coinId spend.coin) = some spend := by
  cases hfound : spendOf chain (coinId spend.coin) with
  | none =>
      have hnone := List.find?_eq_none.1 hfound spend h
      simp at hnone
  | some found =>
      obtain ⟨hmem, hid⟩ := mem_of_spendOf hfound
      rw [full.spend_unique hmem h hid]

theorem spent_coin_eq (h : spend ∈ coinSpendsOf chain) (hcoin : coin ∈ coinsOf chain)
    (hid : coinId spend.coin = coinId coin) : spend.coin = coin :=
  full.names _ (spent_coin_mem h) _ hcoin hid

end ArchiveChain

end Facts

section Script

def didPuzzleHash : Bytes32 := 1

def storePuzzleHash : Bytes32 := 4

def scriptedHash (op : UInt8) : Bytes32 :=
  if op = 2 then profileIntermediatePuzzleHash
  else if op = 3 then singletonLauncherHash
  else op.toNat

def scriptedOutput (op : UInt8) : Bytes32 × Nat :=
  (scriptedHash op, if op = 2 then intermediateAmount else launcherAmount)

@[reducible] def scriptedRuntime : ClvmRuntime where
  Node := Program
  nodeFromBytes := .ok
  treeHash node := scriptedHash (node.headD 0)
  runPuzzle _ solution _ := .ok solution
  conditionsFromClvm output :=
    .ok (output.map fun op => .createCoin (scriptedOutput op).1 (scriptedOutput op).2)
  maxRevealExpandedBytes := 1000
  maxHopClvmCost := 1000

@[reducible] def scriptedClvm : Clvm :=
  let _ := pairHash
  { additions := fun spend => spend.solution.map fun op => spend.coin.child (scriptedOutput op)
    recreation := fun spend =>
      (spend.solution.map fun op => spend.coin.child (scriptedOutput op)).find? fun coin =>
        coin.puzzleHash = didPuzzleHash ∨ coin.puzzleHash = storePuzzleHash
    advertisedDistributor := fun _ _ => none
    didState := fun id => ⟨⟨0, 0, id⟩, id, 0⟩ }

theorem scriptedConsensus :
    let _ := pairHash
    let _ := scriptedClvm
    let _ := scriptedRuntime
    ClvmConsensus := by
  intro _ _ _
  refine ⟨fun spend puzzle solution output conditions _ _ hsolution houtput hconditions => ?_⟩
  cases hsolution
  cases houtput
  cases hconditions
  have hcreated : (spend.solution.map fun op => OutputCondition.createCoin (scriptedOutput op).1
      (scriptedOutput op).2).filterMap OutputCondition.intoCreateCoin =
        spend.solution.map scriptedOutput := by
    rw [List.filterMap_map, ← List.filterMap_eq_map]
    rfl
  rw [hcreated, List.map_map]
  rfl

def scriptedSpend (coin : Coin) (op : UInt8) (solution : Program) : CoinSpend :=
  ⟨coin, [op], solution⟩

def scriptedLauncher : Coin := ⟨0, singletonLauncherHash, launcherAmount⟩

def scriptedDid : Coin :=
  let _ := pairHash
  scriptedLauncher.child (scriptedOutput 1)

def scriptedIntermediate : Coin :=
  let _ := pairHash
  scriptedDid.child (scriptedOutput 2)

def scriptedStore : Coin :=
  let _ := pairHash
  scriptedIntermediate.child (scriptedOutput 3)

def mintedProfile : Chain :=
  [⟨[scriptedLauncher], []⟩, ⟨[], [scriptedSpend scriptedLauncher 3 [1]]⟩,
    ⟨[], [scriptedSpend scriptedDid 1 [1, 2], scriptedSpend scriptedIntermediate 2 [3],
      scriptedSpend scriptedStore 3 [4]]⟩]

theorem mintedProfile_archive :
    let _ := pairHash
    let _ := scriptedClvm
    ArchiveChain mintedProfile := by
  intro _ _
  have hfresh : FreshChain mintedProfile := by decide +kernel
  exact ⟨hfresh.honest, fun _ _ _ _ h => pairHash_injective h⟩

end Script

end DigAccount
