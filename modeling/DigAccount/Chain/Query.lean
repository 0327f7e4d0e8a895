import DigAccount.Foundation.Reads
import DigAccount.Primitives

namespace DigAccount

structure SingletonLineage where
  launcherId : Bytes32
  tip : Bytes32
  deriving DecidableEq, Repr

structure Did where
  coin : Coin
  launcherId : Bytes32
  innerPuzzleHash : Bytes32
  deriving DecidableEq, Repr

structure DidTip where
  coin : Coin
  did : Did
  deriving DecidableEq, Repr

inductive DidError where
  | chain (reason : String)
  | other (reason : String)
  deriving DecidableEq, Repr

structure LaunchComment where
  storeId : Bytes32
  root : Bytes32
  deriving DecidableEq, Repr

structure DiscoveredDistributor where
  launcherId : Bytes32
  generation : LaunchComment
  deriving DecidableEq, Repr

structure SignedMessage where
  publicKey : Bytes32
  message : Program
  deriving DecidableEq, Repr

structure SpendBundle where
  coinSpends : List CoinSpend
  aggregatedSignature : List SignedMessage
  deriving DecidableEq, Repr

inductive PushOutcome where
  | accepted
  | alreadyInMempool
  | rejected (reason : String)
  deriving DecidableEq, Repr

inductive Query where
  | peakHeight
  | coinRecord (coinId : Bytes32)
  | parentSpend (coinId : Bytes32)
  | resolveSingletonLineage (launcherId : Bytes32)
  | walkDidLineageToTip (launcherId : Bytes32)
  | proveLineage (coinId : Bytes32) (did : Did)
  | discoverDistributor (launcherId : Bytes32)
  | fetchProfileSlots (storeLauncherId root : Bytes32)
  | push (bundle : SpendBundle)
  deriving DecidableEq, Repr

abbrev Answer : Query → Type
  | .peakHeight => Except String (Option Nat)
  | .coinRecord _ => Except String (Option CoinRecord)
  | .parentSpend _ => Except String (Option CoinSpend)
  | .resolveSingletonLineage _ => Except String (Option SingletonLineage)
  | .walkDidLineageToTip _ => Except String (Option DidTip)
  | .proveLineage _ _ => Except DidError Bytes32
  | .discoverDistributor _ => Except String (Option DiscoveredDistributor)
  | .fetchProfileSlots _ _ => Except String (List (Nat × List UInt8))
  | .push _ => Except String PushOutcome

abbrev Oracle := Nat → (q : Query) → Answer q

abbrev ChainReads := Fallible Query Answer

section ChainReads

variable {ε : Type} (unreachable : String → ε)

def readCoinRecord (coinId : Bytes32) : ChainReads ε (Option CoinRecord) :=
  .mapError unreachable (Reads.query (Query.coinRecord coinId))

def readParentSpend (coinId : Bytes32) : ChainReads ε (Option CoinSpend) :=
  .mapError unreachable (Reads.query (Query.parentSpend coinId))

def readSingletonLineage (launcherId : Bytes32) : ChainReads ε (Option SingletonLineage) :=
  .mapError unreachable (Reads.query (Query.resolveSingletonLineage launcherId))

def readDistributor (launcherId : Bytes32) : ChainReads ε (Option DiscoveredDistributor) :=
  .mapError unreachable (Reads.query (Query.discoverDistributor launcherId))

def readDidTip (launcherId : Bytes32) : ChainReads ε (Option DidTip) :=
  .mapError unreachable (Reads.query (Query.walkDidLineageToTip launcherId))

def proveLineage (refused : DidError → ε) (coinId : Bytes32) (did : Did) : ChainReads ε Bytes32 :=
  .mapError refused (Reads.query (Query.proveLineage coinId did))

def readPeakHeight : ChainReads ε (Option Nat) :=
  .mapError unreachable (Reads.query Query.peakHeight)

def pushBundle (bundle : SpendBundle) : ChainReads ε PushOutcome :=
  .mapError unreachable (Reads.query (Query.push bundle))

def peakHeight : ChainReads ε Nat := do
  let answer ← readPeakHeight unreachable
  match answer with
  | some peak => pure peak
  | none =>
      .fail (unreachable
        "the chain source reports no peak height, so a confirmation height cannot be checked")

variable {unreachable} {oracle : Oracle} {i : Nat}

@[simp] theorem run_readCoinRecord {id : Bytes32} :
    (readCoinRecord unreachable id).run oracle i =
      (oracle i (.coinRecord id)).mapError unreachable := rfl

@[simp] theorem after_readCoinRecord {id : Bytes32} :
    (readCoinRecord unreachable id).after oracle i = i + 1 := rfl

theorem run_readCoinRecord_ok {id : Bytes32} {found : Option CoinRecord}
    (h : oracle i (.coinRecord id) = .ok found) :
    (readCoinRecord unreachable id).run oracle i = .ok found := by
  rw [run_readCoinRecord, h]
  rfl

theorem run_readCoinRecord_bind {α : Type} {id : Bytes32} {found : Option CoinRecord}
    {g : Option CoinRecord → ChainReads ε α} (h : oracle i (.coinRecord id) = .ok found) :
    (readCoinRecord unreachable id >>= g).run oracle i = (g found).run oracle (i + 1) := by
  rw [Fallible.run_bind_of_ok (run_readCoinRecord_ok h), after_readCoinRecord]

@[simp] theorem run_readParentSpend {id : Bytes32} :
    (readParentSpend unreachable id).run oracle i =
      (oracle i (.parentSpend id)).mapError unreachable := rfl

@[simp] theorem after_readParentSpend {id : Bytes32} :
    (readParentSpend unreachable id).after oracle i = i + 1 := rfl

@[simp] theorem run_readSingletonLineage {id : Bytes32} :
    (readSingletonLineage unreachable id).run oracle i =
      (oracle i (.resolveSingletonLineage id)).mapError unreachable := rfl

@[simp] theorem after_readSingletonLineage {id : Bytes32} :
    (readSingletonLineage unreachable id).after oracle i = i + 1 := rfl

@[simp] theorem run_readDistributor {id : Bytes32} :
    (readDistributor unreachable id).run oracle i =
      (oracle i (.discoverDistributor id)).mapError unreachable := rfl

@[simp] theorem run_pushBundle {bundle : SpendBundle} :
    (pushBundle unreachable bundle).run oracle i =
      (oracle i (.push bundle)).mapError unreachable := rfl

@[simp] theorem run_readPeakHeight :
    (readPeakHeight unreachable).run oracle i =
      (oracle i .peakHeight).mapError unreachable := rfl

@[simp] theorem after_readPeakHeight : (readPeakHeight unreachable).after oracle i = i + 1 := rfl

theorem exec_readCoinRecord {id : Bytes32} :
    (readCoinRecord unreachable id).exec oracle i =
      ((oracle i (.coinRecord id)).mapError unreachable, i + 1) := rfl

theorem exec_readParentSpend {id : Bytes32} :
    (readParentSpend unreachable id).exec oracle i =
      ((oracle i (.parentSpend id)).mapError unreachable, i + 1) := rfl

theorem exec_readSingletonLineage {id : Bytes32} :
    (readSingletonLineage unreachable id).exec oracle i =
      ((oracle i (.resolveSingletonLineage id)).mapError unreachable, i + 1) := rfl

theorem exec_readDidTip {id : Bytes32} :
    (readDidTip unreachable id).exec oracle i =
      ((oracle i (.walkDidLineageToTip id)).mapError unreachable, i + 1) := rfl

theorem exec_proveLineage {refused : DidError → ε} {id : Bytes32} {did : Did} :
    (proveLineage refused id did).exec oracle i =
      ((oracle i (.proveLineage id did)).mapError refused, i + 1) := rfl

theorem run_peakHeight {peak : Nat} :
    (peakHeight unreachable).run oracle i = .ok peak ↔
      oracle i .peakHeight = .ok (some peak) := by
  rw [peakHeight, Fallible.run_bind_eq_ok]
  constructor
  · rintro ⟨answer, hrun, hmatch⟩
    rw [run_readPeakHeight, Fallible.mapError_eq_ok] at hrun
    cases answer with
    | none => cases hmatch
    | some found =>
        cases hmatch
        exact hrun
  · intro h
    refine ⟨some peak, ?_, rfl⟩
    rw [run_readPeakHeight, Fallible.mapError_eq_ok]
    exact h

theorem peakHeight_cases (unreachable : String → ε) (oracle : Oracle) (i : Nat) :
    (∃ peak, oracle i .peakHeight = .ok (some peak) ∧
        (peakHeight unreachable).run oracle i = .ok peak) ∨
      ((∀ peak, oracle i .peakHeight ≠ .ok (some peak)) ∧
        ∃ reason, (peakHeight unreachable).run oracle i = .error (unreachable reason)) := by
  cases hrun : (peakHeight unreachable).run oracle i with
  | ok peak => exact .inl ⟨peak, run_peakHeight.1 hrun, rfl⟩
  | error e =>
      refine .inr ⟨fun peak hpeak => ?_, ?_⟩
      · cases hrun.symm.trans (run_peakHeight.2 hpeak)
      · rcases Fallible.run_bind_eq_error.1 hrun with hread | ⟨answer, -, hmatch⟩
        · rw [run_readPeakHeight, Fallible.mapError_eq_error] at hread
          obtain ⟨reason, -, rfl⟩ := hread
          exact ⟨reason, rfl⟩
        · cases answer with
          | none => exact ⟨_, (congrArg Except.error (Except.error.inj hmatch)).symm⟩
          | some peak => cases hmatch

theorem after_peakHeight {peak : Nat} (h : (peakHeight unreachable).run oracle i = .ok peak) :
    (peakHeight unreachable).after oracle i = i + 1 := by
  rw [run_peakHeight] at h
  have hrun : (readPeakHeight unreachable).run oracle i = .ok (some peak) := by
    rw [run_readPeakHeight, h]
    rfl
  rw [peakHeight, Fallible.after_bind_of_ok hrun]
  rfl

theorem exec_peakHeight (unreachable : String → ε) {peak : Nat}
    (h : oracle i .peakHeight = .ok (some peak)) :
    (peakHeight unreachable).exec oracle i = (.ok peak, i + 1) := by
  have hrun : (peakHeight unreachable).run oracle i = .ok peak := run_peakHeight.2 h
  exact Prod.ext hrun (after_peakHeight hrun)

theorem exec_peakHeight_eq_ok {peak k : Nat} :
    (peakHeight unreachable).exec oracle i = (.ok peak, k) ↔
      k = i + 1 ∧ oracle i .peakHeight = .ok (some peak) := by
  constructor
  · intro h
    have hpeak := run_peakHeight.1 (Prod.mk.inj h).1
    exact ⟨(Prod.mk.inj (h.symm.trans (exec_peakHeight unreachable hpeak))).2, hpeak⟩
  · rintro ⟨rfl, hpeak⟩
    exact exec_peakHeight unreachable hpeak

theorem exec_readCoinRecord_eq_ok {id : Bytes32} {found : Option CoinRecord} {k : Nat} :
    (readCoinRecord unreachable id).exec oracle i = (.ok found, k) ↔
      k = i + 1 ∧ oracle i (.coinRecord id) = .ok found := by
  rw [exec_readCoinRecord, Prod.mk.injEq, Fallible.mapError_eq_ok, and_comm, eq_comm]

theorem exec_readCoinRecord_ok (unreachable : String → ε) {id : Bytes32}
    {found : Option CoinRecord} (h : oracle i (.coinRecord id) = .ok found) :
    (readCoinRecord unreachable id).exec oracle i = (.ok found, i + 1) := by
  rw [exec_readCoinRecord, h]
  rfl

end ChainReads

end DigAccount
