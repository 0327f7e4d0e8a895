import DigAccount.Foundation.KeyedList
import DigAccount.Foundation.Reads
import DigAccount.Mint.Evidence

namespace DigAccount

def profileIntermediatePuzzleHash : Bytes32 :=
  0x08300fbcd75af5895bdb4c2fbd6f326c97b8f62ef73bc0690a2e827feb61fbe3

def maxProfileLaunchesPerDid : Nat := 8

inductive ProfileStoreResolution where
  | resolved (storeLauncherId didCoinId : Bytes32)
  | noProfileStore
  | ambiguous (ids : List Bytes32)
  deriving DecidableEq, Repr

inductive ProfileResolveError where
  | noIdentitySingleton
  | chainUnreachable (reason : String)
  | unparseable (coinId : Bytes32) (reason : String)
  | tooManyLaunches (limit : Nat)
  deriving DecidableEq, Repr

structure WalkedLineage where
  tip : Bytes32
  members : List Bytes32
  deriving DecidableEq, Repr

namespace WalkedLineage

def len (lineage : WalkedLineage) : Nat := lineage.members.length

def contains (lineage : WalkedLineage) (coinId : Bytes32) : Bool := coinId ∈ lineage.members

end WalkedLineage

inductive ProfileQuery where
  | resolveSingletonLineage (launcherId : Bytes32)
  | coinRecord (coinId : Bytes32)
  | coinSpend (coinId : Bytes32)
  deriving DecidableEq, Repr

abbrev ProfileAnswer : ProfileQuery → Type
  | .resolveSingletonLineage _ => Except String (Option WalkedLineage)
  | .coinRecord _ => Except String (Option CoinRecord)
  | .coinSpend _ => Except String (Option CoinSpend)

abbrev ProfileOracle := Nat → (q : ProfileQuery) → ProfileAnswer q

abbrev ProfileReads := Fallible ProfileQuery ProfileAnswer ProfileResolveError

inductive OutputCondition where
  | createCoin (puzzleHash : Bytes32) (amount : Nat)
  | other
  deriving DecidableEq, Repr

def OutputCondition.intoCreateCoin : OutputCondition → Option (Bytes32 × Nat)
  | createCoin puzzleHash amount => some (puzzleHash, amount)
  | other => none

class ClvmRuntime where
  Node : Type
  nodeFromBytes : Program → Except String Node
  treeHash : Node → Bytes32
  runPuzzle : Node → Node → Nat → Except String Node
  conditionsFromClvm : Node → Except String (List OutputCondition)
  maxRevealExpandedBytes : Nat
  maxHopClvmCost : Nat

open ClvmRuntime

section Reads

def readLineage (launcherId : Bytes32) : ProfileReads (Option WalkedLineage) :=
  .mapError .chainUnreachable (Reads.query (ProfileQuery.resolveSingletonLineage launcherId))

def readRecord (coinId : Bytes32) : ProfileReads (Option CoinRecord) :=
  .mapError .chainUnreachable (Reads.query (ProfileQuery.coinRecord coinId))

def readSpend (coinId : Bytes32) : ProfileReads (Option CoinSpend) :=
  .mapError .chainUnreachable (Reads.query (ProfileQuery.coinSpend coinId))

end Reads

variable [CoinHash]

def Coin.child (parent : Coin) (created : Bytes32 × Nat) : Coin :=
  ⟨coinId parent, created.1, created.2⟩

def isProfileIntermediate (created : Bytes32 × Nat) : Bool :=
  created.1 = profileIntermediatePuzzleHash ∧ created.2 = intermediateAmount

def isStoreLauncher (created : Bytes32 × Nat) : Bool :=
  created.1 = singletonLauncherHash ∧ created.2 = launcherAmount

section CreatedCoins

variable [ClvmRuntime]

def createdCoins (spend : CoinSpend) : Except ProfileResolveError (List (Bytes32 × Nat)) := do
  let refuse := ProfileResolveError.unparseable (coinId spend.coin)
  if maxRevealExpandedBytes < spend.puzzleReveal.length then
    .error (refuse
      (s!"the puzzle reveal is {spend.puzzleReveal.length} bytes, past the " ++
        s!"{maxRevealExpandedBytes}-byte bound"))
  else do
    let puzzle ← (nodeFromBytes spend.puzzleReveal).mapError fun e =>
      refuse s!"the puzzle reveal does not decode: {e}"
    if treeHash puzzle ≠ spend.coin.puzzleHash then
      .error (refuse "the puzzle reveal does not hash to this coin's puzzle hash")
    else do
      let solution ← (nodeFromBytes spend.solution).mapError fun e =>
        refuse s!"the solution does not decode: {e}"
      let output ← (runPuzzle puzzle solution maxHopClvmCost).mapError fun e =>
        refuse s!"the spend does not evaluate: {e}"
      let conditions ← (conditionsFromClvm output).mapError fun e =>
        refuse s!"the spend's output is not a condition list: {e}"
      pure (conditions.filterMap OutputCondition.intoCreateCoin)

def readSpendOf (coin : Coin) : ProfileReads (Option CoinSpend) := do
  let spend ← readSpend (coinId coin)
  match spend with
  | none => pure none
  | some spend =>
      if spend.coin ≠ coin then
        .fail (.unparseable (coinId coin)
          (s!"the source served a spend of coin {hex32 (coinId spend.coin)} when asked for " ++
            "this one"))
      else pure (some spend)

def launcherCreatedBy (intermediate : Coin) : ProfileReads (Option Bytes32) := do
  let spend ← readSpendOf intermediate
  match spend with
  | none => pure none
  | some spend => do
      let created ← .ofExcept (createdCoins spend)
      match (created.filter isStoreLauncher).map intermediate.child with
      | [] => pure none
      | [only] => pure (some (coinId only))
      | launchers =>
          .fail (.unparseable (coinId intermediate)
            ("the intermediate launcher puzzle creates exactly one launcher; this spend creates " ++
              s!"{launchers.length}"))

end CreatedCoins

structure LineageScan where
  visited : List Bytes32
  intermediates : List (Bytes32 × Coin)
  current : Coin
  deriving DecidableEq, Repr

def admitChild (lineage : WalkedLineage) (current : Coin)
    (found : List (Bytes32 × Coin) × List Coin) (created : Bytes32 × Nat) :
    Except ProfileResolveError (List (Bytes32 × Coin) × List Coin) :=
  let child := current.child created
  let successors := if lineage.contains (coinId child) then found.2 ++ [child] else found.2
  if isProfileIntermediate created then
    if found.1.length = maxProfileLaunchesPerDid then
      .error (.tooManyLaunches maxProfileLaunchesPerDid)
    else .ok (found.1 ++ [(coinId current, child)], successors)
  else .ok (found.1, successors)

variable [ClvmRuntime]

def scanLineage (lineage : WalkedLineage) : Nat → LineageScan → ProfileReads LineageScan
  | 0, scan => pure scan
  | steps + 1, scan => do
      let spend ← readSpendOf scan.current
      match spend with
      | none => pure scan
      | some spend => do
          let created ← .ofExcept (createdCoins spend)
          let (intermediates, successors) ←
            .ofExcept (created.foldlM (admitChild lineage scan.current) (scan.intermediates, []))
          match successors with
          | [] => pure { scan with intermediates }
          | [successor] =>
              if coinId successor ∈ scan.visited then
                .fail (.unparseable (coinId successor)
                  "this coin repeats in the DID's lineage (a cycle)")
              else
                scanLineage lineage steps ⟨coinId successor :: scan.visited, intermediates,
                  successor⟩
          | successors =>
              .fail (.unparseable (coinId scan.current)
                (s!"this spend creates {successors.length} coins the source also calls members " ++
                  "of the same singleton lineage; a singleton has exactly one successor"))

def profileIntermediates (launcher : Coin) (lineage : WalkedLineage) :
    ProfileReads (List (Bytes32 × Coin)) := do
  let scan ← scanLineage lineage lineage.len ⟨[coinId launcher], [], launcher⟩
  if scan.visited.length ≠ lineage.len then
    .fail (.unparseable (coinId scan.current)
      (s!"the source calls this DID's lineage {lineage.len} coins long but served spends " ++
        s!"reaching only {scan.visited.length}; an absence read from a partial lineage would " ++
        "not be one"))
  else pure scan.intermediates

def liveStoreOf (intermediate : Coin) : ProfileReads (Option Bytes32) := do
  let launcher ← launcherCreatedBy intermediate
  match launcher with
  | none => pure none
  | some storeLauncherId => do
      let lineage ← readLineage storeLauncherId
      pure (lineage.map fun _ => storeLauncherId)

def collectLive : List (Bytes32 × Coin) → List (Bytes32 × Bytes32) →
    ProfileReads (List (Bytes32 × Bytes32))
  | [], live => pure live
  | (didCoinId, intermediate) :: rest, live => do
      let store ← liveStoreOf intermediate
      match store with
      | none => collectLive rest live
      | some storeLauncherId => collectLive rest (KeyedList.upsert storeLauncherId didCoinId live)

def resolutionOf : List (Bytes32 × Bytes32) → ProfileStoreResolution
  | [] => .noProfileStore
  | [(storeLauncherId, didCoinId)] => .resolved storeLauncherId didCoinId
  | live => .ambiguous (live.map Prod.fst)

def resolveProfileStore (didLauncherId : Bytes32) : ProfileReads ProfileStoreResolution := do
  let lineage ← readLineage didLauncherId
  match lineage with
  | none => .fail .noIdentitySingleton
  | some lineage => do
      let record ← readRecord didLauncherId
      match (record.map CoinRecord.coin).filter fun coin => coinId coin = didLauncherId with
      | none =>
          .fail (.unparseable didLauncherId
            ("the source resolved a lineage for this launcher and then did not know the " ++
              "launcher coin"))
      | some launcher => do
          let intermediates ← profileIntermediates launcher lineage
          let live ← collectLive intermediates []
          pure (resolutionOf live)

end DigAccount
