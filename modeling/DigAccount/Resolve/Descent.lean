import DigAccount.Foundation.Validator
import DigAccount.Resolve.Archive

namespace DigAccount

open ClvmRuntime

def ProfileStoreResolution.ids : ProfileStoreResolution → List Bytes32
  | resolved storeLauncherId _ => [storeLauncherId]
  | noProfileStore => []
  | ambiguous ids => ids

theorem ids_resolutionOf (live : List (Bytes32 × Bytes32)) :
    (resolutionOf live).ids = live.map Prod.fst := by
  rcases live with _ | ⟨⟨s, c⟩, _ | ⟨e, live⟩⟩ <;> rfl

theorem resolutionOf_resolved {live : List (Bytes32 × Bytes32)} {storeId coin : Bytes32}
    (h : resolutionOf live = .resolved storeId coin) : live = [(storeId, coin)] := by
  rcases live with _ | ⟨⟨s, c⟩, _ | ⟨e, live⟩⟩
  · cases h
  · cases h
    rfl
  · cases h

section Reads

variable {oracle : ProfileOracle} {i : Nat}

theorem run_readLineage {launcherId : Bytes32} {found : Option WalkedLineage} :
    (readLineage launcherId).run oracle i = .ok found ↔
      oracle i (.resolveSingletonLineage launcherId) = .ok found :=
  Fallible.mapError_eq_ok

theorem run_readRecord {id : Bytes32} {found : Option CoinRecord} :
    (readRecord id).run oracle i = .ok found ↔ oracle i (.coinRecord id) = .ok found :=
  Fallible.mapError_eq_ok

variable [CoinHash]

theorem run_readSpendOf {coin : Coin} {found : Option CoinSpend} :
    (readSpendOf coin).run oracle i = .ok found ↔
      oracle i (.coinSpend (coinId coin)) = .ok found ∧ ∀ spend ∈ found, spend.coin = coin := by
  rw [readSpendOf, Fallible.run_bind_eq_ok]
  constructor
  · rintro ⟨answer, hread, hrest⟩
    have hanswer : oracle i (.coinSpend (coinId coin)) = .ok answer :=
      Fallible.mapError_eq_ok.1 hread
    cases answer with
    | none =>
        cases hrest
        exact ⟨hanswer, fun spend hspend => by cases hspend⟩
    | some spend =>
        simp only at hrest
        split at hrest
        · cases hrest
        · rename_i hcoin
          cases hrest
          refine ⟨hanswer, fun served hserved => ?_⟩
          cases hserved
          exact not_not.1 hcoin
  · rintro ⟨hanswer, hcoin⟩
    refine ⟨found, Fallible.mapError_eq_ok.2 hanswer, ?_⟩
    cases found with
    | none => rfl
    | some spend =>
        simp only [if_neg (not_not.2 (hcoin spend rfl))]
        rfl

theorem after_readSpendOf {coin : Coin} : (readSpendOf coin).after oracle i = i + 1 := by
  cases hread : (readSpend (coinId coin)).run oracle i with
  | error e => exact Fallible.after_bind_of_error hread
  | ok found =>
      rw [readSpendOf, Fallible.after_bind_of_ok hread]
      cases found with
      | none => rfl
      | some spend =>
          simp only
          split <;> rfl

theorem run_launcherCreatedBy [ClvmRuntime] {intermediate : Coin} {found : Option Bytes32} :
    (launcherCreatedBy intermediate).run oracle i = .ok found ↔
      oracle i (.coinSpend (coinId intermediate)) = .ok none ∧ found = none ∨
        ∃ spend created, oracle i (.coinSpend (coinId intermediate)) = .ok (some spend) ∧
          spend.coin = intermediate ∧ createdCoins spend = .ok created ∧
          (created.filter isStoreLauncher = [] ∧ found = none ∨
            ∃ only, created.filter isStoreLauncher = [only] ∧
              found = some (coinId (intermediate.child only))) := by
  rw [launcherCreatedBy, Fallible.run_bind_eq_ok]
  constructor
  · rintro ⟨answer, hread, hrest⟩
    obtain ⟨hanswer, hcoin⟩ := run_readSpendOf.1 hread
    cases answer with
    | none =>
        cases hrest
        exact .inl ⟨hanswer, rfl⟩
    | some spend =>
        obtain ⟨created, hcreated, hrest⟩ := Fallible.run_bind_eq_ok.1 hrest
        refine .inr ⟨spend, created, hanswer, hcoin spend rfl, hcreated, ?_⟩
        rcases hlaunchers : created.filter isStoreLauncher with _ | ⟨only, _ | ⟨other, rest⟩⟩
        · rw [hlaunchers] at hrest
          cases hrest
          exact .inl ⟨rfl, rfl⟩
        · rw [hlaunchers] at hrest
          cases hrest
          exact .inr ⟨only, rfl, rfl⟩
        · rw [hlaunchers] at hrest
          cases hrest
  · rintro (⟨hanswer, rfl⟩ | ⟨spend, created, hanswer, hcoin, hcreated, hnext⟩)
    · exact ⟨none, run_readSpendOf.2 ⟨hanswer, fun spend hspend => by cases hspend⟩, rfl⟩
    · refine ⟨some spend, run_readSpendOf.2 ⟨hanswer, fun served hserved => ?_⟩, ?_⟩
      · cases hserved
        exact hcoin
      · refine Fallible.run_bind_eq_ok.2 ⟨created, hcreated, ?_⟩
        rcases hnext with ⟨hnone, rfl⟩ | ⟨only, hone, rfl⟩
        · rw [hnone]
          rfl
        · rw [hone]
          rfl

omit [CoinHash] in
theorem mem_storeLaunchers {created : List (Bytes32 × Nat)} {child : Bytes32 × Nat}
    (h : child ∈ created.filter isStoreLauncher) :
    child ∈ created ∧ child = (singletonLauncherHash, launcherAmount) := by
  obtain ⟨hmem, hshape⟩ := List.mem_filter.1 h
  simp only [isStoreLauncher, decide_eq_true_eq] at hshape
  exact ⟨hmem, Prod.ext hshape.1 hshape.2⟩

end Reads

section Scan

variable [CoinHash]

def launchesOf (current : Coin) (created : List (Bytes32 × Nat)) : List (Bytes32 × Coin) :=
  (created.filter isProfileIntermediate).map fun child => (coinId current, current.child child)

def successorsIn (lineage : WalkedLineage) (current : Coin) (created : List (Bytes32 × Nat)) :
    List Coin :=
  (created.map current.child).filter fun child => lineage.contains (coinId child)

theorem mem_launchesOf {current : Coin} {created : List (Bytes32 × Nat)} {launch : Bytes32 × Coin}
    (h : launch ∈ launchesOf current created) :
    launch.1 = coinId current ∧
      launch.2 = current.child (profileIntermediatePuzzleHash, intermediateAmount) := by
  obtain ⟨child, hchild, rfl⟩ := List.mem_map.1 h
  obtain ⟨-, hshape⟩ := List.mem_filter.1 hchild
  simp only [isProfileIntermediate, decide_eq_true_eq] at hshape
  exact ⟨rfl, congrArg current.child (Prod.ext hshape.1 hshape.2)⟩

theorem launchesOf_cons {current : Coin} {child : Bytes32 × Nat} {created : List (Bytes32 × Nat)} :
    launchesOf current (child :: created) =
      launchesOf current [child] ++ launchesOf current created := by
  rw [launchesOf, ← List.singleton_append, List.filter_append, List.map_append]
  rfl

theorem successorsIn_cons {lineage : WalkedLineage} {current : Coin} {child : Bytes32 × Nat}
    {created : List (Bytes32 × Nat)} :
    successorsIn lineage current (child :: created) =
      successorsIn lineage current [child] ++ successorsIn lineage current created := by
  rw [successorsIn, ← List.singleton_append, List.map_append, List.filter_append]
  rfl

theorem admitChild_ok {lineage : WalkedLineage} {current : Coin} {child : Bytes32 × Nat}
    {intermediates found : List (Bytes32 × Coin)} {successors next : List Coin}
    (hle : intermediates.length ≤ maxProfileLaunchesPerDid) :
    admitChild lineage current (intermediates, successors) child = .ok (found, next) ↔
      found = intermediates ++ launchesOf current [child] ∧
        next = successors ++ successorsIn lineage current [child] ∧
        found.length ≤ maxProfileLaunchesPerDid := by
  have hnext : (if lineage.contains (coinId (current.child child)) then
        successors ++ [current.child child] else successors) =
      successors ++ successorsIn lineage current [child] := by
    simp only [successorsIn, List.map_cons, List.map_nil, List.filter_singleton]
    split <;> simp [*]
  simp only [admitChild, hnext]
  by_cases hshape : isProfileIntermediate child
  · have hlaunch : launchesOf current [child] = [(coinId current, current.child child)] := by
      simp [launchesOf, hshape]
    rw [if_pos hshape, hlaunch]
    split
    · rename_i hfull
      refine iff_of_false (fun h => by cases h) ?_
      rintro ⟨rfl, -, hlength⟩
      rw [List.length_append, List.length_singleton, hfull] at hlength
      omega
    · rename_i hroom
      constructor
      · intro h
        cases h
        refine ⟨rfl, rfl, ?_⟩
        rw [List.length_append, List.length_singleton]
        omega
      · rintro ⟨rfl, rfl, -⟩
        rfl
  · have hlaunch : launchesOf current [child] = [] := by
      simp [launchesOf, hshape]
    rw [if_neg hshape, hlaunch, List.append_nil]
    constructor
    · intro h
      cases h
      exact ⟨rfl, rfl, hle⟩
    · rintro ⟨rfl, rfl, -⟩
      rfl

theorem admitChildren {lineage : WalkedLineage} {current : Coin} {created : List (Bytes32 × Nat)}
    {intermediates found : List (Bytes32 × Coin)} {successors next : List Coin}
    (hle : intermediates.length ≤ maxProfileLaunchesPerDid) :
    created.foldlM (admitChild lineage current) (intermediates, successors) = .ok (found, next) ↔
      found = intermediates ++ launchesOf current created ∧
        next = successors ++ successorsIn lineage current created ∧
        found.length ≤ maxProfileLaunchesPerDid := by
  induction created generalizing intermediates successors with
  | nil =>
      simp only [List.foldlM_nil, launchesOf, successorsIn, List.filter_nil, List.map_nil,
        List.append_nil]
      constructor
      · intro h
        cases h
        exact ⟨rfl, rfl, hle⟩
      · rintro ⟨rfl, rfl, -⟩
        rfl
  | cons child created ih =>
      rw [List.foldlM_cons, launchesOf_cons, successorsIn_cons, ← List.append_assoc,
        ← List.append_assoc]
      constructor
      · intro h
        obtain ⟨⟨admitted, succeeding⟩, hchild, hrest⟩ := Validator.bind_ok.1 h
        obtain ⟨rfl, rfl, hroom⟩ := (admitChild_ok hle).1 hchild
        exact (ih hroom).1 hrest
      · rintro ⟨rfl, rfl, hlength⟩
        have hroom : (intermediates ++ launchesOf current [child]).length ≤
            maxProfileLaunchesPerDid := by
          rw [List.length_append] at hlength
          omega
        refine Validator.bind_ok.2 ⟨_, (admitChild_ok hle).2 ⟨rfl, rfl, hroom⟩, ?_⟩
        exact (ih hroom).2 ⟨rfl, rfl, hlength⟩

variable [ClvmRuntime] {oracle : ProfileOracle} {i : Nat} {lineage : WalkedLineage}

def LineageScan.through (scan : LineageScan) (created : List (Bytes32 × Nat)) : LineageScan :=
  { scan with intermediates := scan.intermediates ++ launchesOf scan.current created }

def LineageScan.onto (scan : LineageScan) (created : List (Bytes32 × Nat)) (successor : Coin) :
    LineageScan where
  visited := coinId successor :: scan.visited
  intermediates := scan.intermediates ++ launchesOf scan.current created
  current := successor

theorem run_scanLineage_succ {steps : Nat} {scan final : LineageScan}
    (hle : scan.intermediates.length ≤ maxProfileLaunchesPerDid) :
    (scanLineage lineage (steps + 1) scan).run oracle i = .ok final ↔
      oracle i (.coinSpend (coinId scan.current)) = .ok none ∧ final = scan ∨
        ∃ spend created, oracle i (.coinSpend (coinId scan.current)) = .ok (some spend) ∧
          spend.coin = scan.current ∧ createdCoins spend = .ok created ∧
          (scan.through created).intermediates.length ≤ maxProfileLaunchesPerDid ∧
          (successorsIn lineage scan.current created = [] ∧ final = scan.through created ∨
            ∃ successor, successorsIn lineage scan.current created = [successor] ∧
              coinId successor ∉ scan.visited ∧
              (scanLineage lineage steps (scan.onto created successor)).run oracle (i + 1) =
                .ok final) := by
  rw [scanLineage, Fallible.run_bind_eq_ok]
  constructor
  · rintro ⟨found, hread, hrest⟩
    obtain ⟨hanswer, hcoin⟩ := run_readSpendOf.1 hread
    cases found with
    | none =>
        cases hrest
        exact .inl ⟨hanswer, rfl⟩
    | some spend =>
        rw [after_readSpendOf] at hrest
        obtain ⟨created, hcreated, hrest⟩ := Fallible.run_bind_eq_ok.1 hrest
        obtain ⟨⟨intermediates, successors⟩, hadmit, hrest⟩ := Fallible.run_bind_eq_ok.1 hrest
        obtain ⟨rfl, rfl, hroom⟩ := (admitChildren hle).1 hadmit
        refine .inr ⟨spend, created, hanswer, hcoin spend rfl, hcreated, hroom, ?_⟩
        simp only [List.nil_append] at hrest
        split at hrest
        · rename_i hnone
          cases hrest
          exact .inl ⟨hnone, rfl⟩
        · rename_i successor hone
          split at hrest
          · cases hrest
          · rename_i hfresh
            exact .inr ⟨successor, hone, hfresh, hrest⟩
        · cases hrest
  · rintro (⟨hanswer, rfl⟩ | ⟨spend, created, hanswer, hcoin, hcreated, hroom, hnext⟩)
    · exact ⟨none, run_readSpendOf.2 ⟨hanswer, fun spend hspend => by cases hspend⟩, rfl⟩
    · refine ⟨some spend, run_readSpendOf.2 ⟨hanswer, fun served hserved => ?_⟩, ?_⟩
      · cases hserved
        exact hcoin
      · rw [after_readSpendOf]
        refine Fallible.run_bind_eq_ok.2 ⟨created, hcreated, ?_⟩
        refine Fallible.run_bind_eq_ok.2 ⟨((scan.through created).intermediates,
          successorsIn lineage scan.current created), (admitChildren hle).2 ⟨rfl, rfl, hroom⟩, ?_⟩
        rcases hnext with ⟨hnone, rfl⟩ | ⟨successor, hone, hfresh, hrun⟩
        · rw [hnone]
          rfl
        · rw [hone]
          simp only [if_neg hfresh]
          exact hrun

end Scan

section Descent

variable [CoinHash] [ClvmRuntime]

inductive DidCoin (didLauncherId : Bytes32) (lineage : WalkedLineage) : Coin → Prop where
  | launcher {coin : Coin} (named : coinId coin = didLauncherId) :
      DidCoin didLauncherId lineage coin
  | successor {spend : CoinSpend} {created : List (Bytes32 × Nat)} {child : Bytes32 × Nat}
      (parent : DidCoin didLauncherId lineage spend.coin)
      (evaluates : createdCoins spend = .ok created) (output : child ∈ created)
      (listed : lineage.contains (coinId (spend.coin.child child))) :
      DidCoin didLauncherId lineage (spend.coin.child child)

def profileStoreId (didCoin : Coin) : Bytes32 :=
  let intermediate := didCoin.child (profileIntermediatePuzzleHash, intermediateAmount)
  coinId (intermediate.child (singletonLauncherHash, launcherAmount))

omit [ClvmRuntime] in
theorem profileStoreId_injective (injective : Function.Injective (coinId : Coin → Bytes32)) :
    Function.Injective profileStoreId := by
  intro c d h
  have hintermediate := congrArg Coin.parentCoinInfo (injective h)
  have hcoin := congrArg Coin.parentCoinInfo (injective hintermediate)
  exact injective hcoin

variable {oracle : ProfileOracle} {i : Nat} {didLauncherId : Bytes32} {lineage : WalkedLineage}

def LaunchedBy (didLauncherId : Bytes32) (lineage : WalkedLineage) (launch : Bytes32 × Coin) :
    Prop :=
  ∃ coin, DidCoin didLauncherId lineage coin ∧ coinId coin = launch.1 ∧
    launch.2 = coin.child (profileIntermediatePuzzleHash, intermediateAmount)

structure Descended (didLauncherId : Bytes32) (lineage : WalkedLineage) (scan : LineageScan) :
    Prop where
  current : DidCoin didLauncherId lineage scan.current
  launched : ∀ launch ∈ scan.intermediates, LaunchedBy didLauncherId lineage launch
  bounded : scan.intermediates.length ≤ maxProfileLaunchesPerDid

theorem DidCoin.of_successor {spend : CoinSpend} {created : List (Bytes32 × Nat)}
    {current successor : Coin} (hcurrent : DidCoin didLauncherId lineage current)
    (hcoin : spend.coin = current) (hcreated : createdCoins spend = .ok created)
    (hmem : successor ∈ successorsIn lineage current created) :
    DidCoin didLauncherId lineage successor := by
  subst hcoin
  obtain ⟨hchild, hlisted⟩ := List.mem_filter.1 hmem
  obtain ⟨child, houtput, rfl⟩ := List.mem_map.1 hchild
  exact .successor hcurrent hcreated houtput hlisted

theorem Descended.launched_through {scan : LineageScan} {created : List (Bytes32 × Nat)}
    (hscan : Descended didLauncherId lineage scan) :
    ∀ launch ∈ (scan.through created).intermediates, LaunchedBy didLauncherId lineage launch := by
  intro launch hlaunch
  rcases List.mem_append.1 hlaunch with hold | hnew
  · exact hscan.launched launch hold
  · obtain ⟨hid, hcoin⟩ := mem_launchesOf hnew
    exact ⟨scan.current, hscan.current, hid.symm, hcoin⟩

theorem Descended.scan {steps : Nat} {scan final : LineageScan}
    (hscan : Descended didLauncherId lineage scan)
    (h : (scanLineage lineage steps scan).run oracle i = .ok final) :
    Descended didLauncherId lineage final := by
  induction steps generalizing i scan with
  | zero =>
      cases h
      exact hscan
  | succ steps ih =>
      rcases (run_scanLineage_succ hscan.bounded).1 h with
        ⟨-, rfl⟩ | ⟨spend, created, -, hcoin, hcreated, hroom, hnext⟩
      · exact hscan
      · rcases hnext with ⟨-, rfl⟩ | ⟨successor, hone, -, hrun⟩
        · exact ⟨hscan.current, hscan.launched_through, hroom⟩
        · have hmem : successor ∈ successorsIn lineage scan.current created := by
            rw [hone]
            exact List.mem_singleton_self successor
          have honto : Descended didLauncherId lineage (scan.onto created successor) :=
            ⟨hscan.current.of_successor hcoin hcreated hmem, hscan.launched_through, hroom⟩
          exact ih honto hrun

theorem launched_of_profileIntermediates {launcher : Coin} {launches : List (Bytes32 × Coin)}
    (hlauncher : coinId launcher = didLauncherId)
    (h : (profileIntermediates launcher lineage).run oracle i = .ok launches) :
    ∀ launch ∈ launches, LaunchedBy didLauncherId lineage launch := by
  obtain ⟨scan, hscan, hrest⟩ := Fallible.run_bind_eq_ok.1 h
  have hstart : Descended didLauncherId lineage ⟨[coinId launcher], [], launcher⟩ :=
    ⟨.launcher hlauncher, fun launch hlaunch => (List.not_mem_nil hlaunch).elim, Nat.zero_le _⟩
  have hfinal := hstart.scan hscan
  split at hrest
  · cases hrest
  · cases hrest
    exact hfinal.launched

theorem launcherCreatedBy_eq {intermediate : Coin} {storeId : Bytes32}
    (h : (launcherCreatedBy intermediate).run oracle i = .ok (some storeId)) :
    storeId = coinId (intermediate.child (singletonLauncherHash, launcherAmount)) := by
  rcases run_launcherCreatedBy.1 h with ⟨-, hnone⟩ | ⟨spend, created, -, -, -, hlaunchers⟩
  · cases hnone
  · rcases hlaunchers with ⟨-, hnone⟩ | ⟨only, hone, hsome⟩
    · cases hnone
    · cases hsome
      have hmem : only ∈ created.filter isStoreLauncher := by
        rw [hone]
        exact List.mem_singleton_self only
      rw [(mem_storeLaunchers hmem).2]

theorem liveStoreOf_eq {intermediate : Coin} {storeId : Bytes32}
    (h : (liveStoreOf intermediate).run oracle i = .ok (some storeId)) :
    storeId = coinId (intermediate.child (singletonLauncherHash, launcherAmount)) := by
  obtain ⟨launcher, hlauncher, hrest⟩ := Fallible.run_bind_eq_ok.1 h
  cases launcher with
  | none => cases hrest
  | some launcherId =>
      obtain ⟨found, -, hrest⟩ := Fallible.run_bind_eq_ok.1 hrest
      cases found with
      | none => cases hrest
      | some walked =>
          cases hrest
          exact launcherCreatedBy_eq hlauncher

def StoreOf (didLauncherId : Bytes32) (lineage : WalkedLineage) (entry : Bytes32 × Bytes32) :
    Prop :=
  ∃ coin, DidCoin didLauncherId lineage coin ∧ coinId coin = entry.2 ∧
    entry.1 = profileStoreId coin

theorem collectLive_storeOf {launches : List (Bytes32 × Coin)}
    {live found : List (Bytes32 × Bytes32)}
    (hlaunches : ∀ launch ∈ launches, LaunchedBy didLauncherId lineage launch)
    (hlive : ∀ entry ∈ live, StoreOf didLauncherId lineage entry)
    (h : (collectLive launches live).run oracle i = .ok found) :
    ∀ entry ∈ found, StoreOf didLauncherId lineage entry := by
  induction launches generalizing i live with
  | nil =>
      cases h
      exact hlive
  | cons launch rest ih =>
      have hrest := fun l hl => hlaunches l (List.mem_cons_of_mem _ hl)
      obtain ⟨store, hstore, hrun⟩ := Fallible.run_bind_eq_ok.1 h
      cases store with
      | none => exact ih hrest hlive hrun
      | some storeId =>
          refine ih hrest (fun entry hentry => ?_) hrun
          rcases KeyedList.mem_of_mem_upsert hentry with rfl | hold
          · obtain ⟨coin, hcoin, hid, hintermediate⟩ := hlaunches launch List.mem_cons_self
            refine ⟨coin, hcoin, hid, ?_⟩
            rw [liveStoreOf_eq hstore, hintermediate]
            rfl
          · exact hlive entry hold

theorem collectLive_sorted {launches : List (Bytes32 × Coin)}
    {live found : List (Bytes32 × Bytes32)}
    (sorted : (live.map Prod.fst).SortedLT)
    (h : (collectLive launches live).run oracle i = .ok found) :
    (found.map Prod.fst).SortedLT := by
  induction launches generalizing i live with
  | nil =>
      cases h
      exact sorted
  | cons launch rest ih =>
      obtain ⟨store, -, hrun⟩ := Fallible.run_bind_eq_ok.1 h
      cases store with
      | none => exact ih sorted hrun
      | some storeId => exact ih (KeyedList.sorted_upsert sorted) hrun

theorem run_resolveProfileStore {resolution : ProfileStoreResolution} :
    (resolveProfileStore didLauncherId).run oracle i = .ok resolution ↔
      ∃ lineage record launches k live,
        oracle i (.resolveSingletonLineage didLauncherId) = .ok (some lineage) ∧
          oracle (i + 1) (.coinRecord didLauncherId) = .ok (some record) ∧
          coinId record.coin = didLauncherId ∧
          (profileIntermediates record.coin lineage).exec oracle (i + 2) = (.ok launches, k) ∧
          (collectLive launches []).run oracle k = .ok live ∧ resolutionOf live = resolution := by
  rw [resolveProfileStore, Fallible.run_bind_eq_ok]
  constructor
  · rintro ⟨found, hlineage, hrest⟩
    cases found with
    | none => cases hrest
    | some lineage =>
        obtain ⟨record, hrecord, hrest⟩ := Fallible.run_bind_eq_ok.1 hrest
        split at hrest
        · cases hrest
        · rename_i launcher hlauncher
          obtain ⟨hmap, hid⟩ := Option.filter_eq_some_iff.1 hlauncher
          obtain ⟨record, rfl, rfl⟩ := Option.map_eq_some_iff.1 hmap
          obtain ⟨launches, hlaunches, hrest⟩ := Fallible.run_bind_eq_ok.1 hrest
          obtain ⟨live, hlive, hrest⟩ := Fallible.run_bind_eq_ok.1 hrest
          cases hrest
          exact ⟨lineage, record, launches, _, live, run_readLineage.1 hlineage,
            run_readRecord.1 hrecord, by simpa using hid, Prod.ext hlaunches rfl, hlive, rfl⟩
  · rintro ⟨lineage, record, launches, k, live, hlineage, hrecord, hid, hlaunches, hlive, rfl⟩
    obtain ⟨hrun, rfl⟩ := Prod.mk.inj hlaunches
    refine ⟨some lineage, run_readLineage.2 hlineage, ?_⟩
    refine Fallible.run_bind_eq_ok.2 ⟨some record, run_readRecord.2 hrecord, ?_⟩
    simp only [Option.map_some, Option.filter_some, hid, decide_true, if_true]
    exact Fallible.run_bind_eq_ok.2 ⟨launches, hrun, Fallible.run_bind_eq_ok.2 ⟨live, hlive, rfl⟩⟩

theorem entries_of_run {resolution : ProfileStoreResolution}
    (h : (resolveProfileStore didLauncherId).run oracle i = .ok resolution)
    (hlineage : oracle i (.resolveSingletonLineage didLauncherId) = .ok (some lineage)) :
    ∃ live, resolutionOf live = resolution ∧ (live.map Prod.fst).SortedLT ∧
      ∀ entry ∈ live, StoreOf didLauncherId lineage entry := by
  obtain ⟨answered, record, launches, k, live, hanswered, -, hid, hscan, hlive, rfl⟩ :=
    run_resolveProfileStore.1 h
  rw [hlineage] at hanswered
  cases hanswered
  have hlaunched := launched_of_profileIntermediates hid (Prod.mk.inj hscan).1
  have hempty : (([] : List (Bytes32 × Bytes32)).map Prod.fst).SortedLT :=
    List.Pairwise.nil.sortedLT
  refine ⟨live, rfl, collectLive_sorted hempty hlive, ?_⟩
  exact collectLive_storeOf hlaunched (fun entry hentry => (List.not_mem_nil hentry).elim) hlive

theorem store_of_id {resolution : ProfileStoreResolution}
    (h : (resolveProfileStore didLauncherId).run oracle i = .ok resolution)
    (hlineage : oracle i (.resolveSingletonLineage didLauncherId) = .ok (some lineage)) :
    ∀ id ∈ resolution.ids, ∃ coin, DidCoin didLauncherId lineage coin ∧
      id = profileStoreId coin := by
  obtain ⟨live, rfl, -, hentries⟩ := entries_of_run h hlineage
  intro id hmem
  rw [ids_resolutionOf] at hmem
  obtain ⟨entry, hentry, rfl⟩ := List.mem_map.1 hmem
  obtain ⟨coin, hcoin, -, hid⟩ := hentries entry hentry
  exact ⟨coin, hcoin, hid⟩

theorem resolved_store_belongs (oracle : ProfileOracle) (i : Nat) (didLauncherId : Bytes32)
    (resolution : ProfileStoreResolution)
    (h : (resolveProfileStore didLauncherId).run oracle i = .ok resolution) :
    ∃ lineage, oracle i (.resolveSingletonLineage didLauncherId) = .ok (some lineage) ∧
      (∀ id ∈ resolution.ids, ∃ coin, DidCoin didLauncherId lineage coin ∧
        id = profileStoreId coin) ∧
      (∀ storeId didCoinId, resolution = .resolved storeId didCoinId →
        ∃ coin, DidCoin didLauncherId lineage coin ∧ coinId coin = didCoinId ∧
          storeId = profileStoreId coin) ∧
      resolution.ids.SortedLT ∧
      (Function.Injective (coinId : Coin → Bytes32) →
        ∀ (oracle' : ProfileOracle) (i' : Nat) (didLauncherId' : Bytes32)
          (resolution' : ProfileStoreResolution) (lineage' : WalkedLineage),
          (resolveProfileStore didLauncherId').run oracle' i' = .ok resolution' →
          oracle' i' (.resolveSingletonLineage didLauncherId') = .ok (some lineage') →
          (∀ coin, DidCoin didLauncherId lineage coin → ¬ DidCoin didLauncherId' lineage' coin) →
            ∀ id ∈ resolution.ids, id ∉ resolution'.ids) := by
  obtain ⟨lineage, -, -, -, -, hlineage, -⟩ := run_resolveProfileStore.1 h
  refine ⟨lineage, hlineage, store_of_id h hlineage, ?_, ?_, ?_⟩
  · rintro storeId didCoinId rfl
    obtain ⟨live, hlive, -, hentries⟩ := entries_of_run h hlineage
    exact hentries (storeId, didCoinId) (by simp [resolutionOf_resolved hlive])
  · obtain ⟨live, rfl, hsorted, -⟩ := entries_of_run h hlineage
    rw [ids_resolutionOf]
    exact hsorted
  · intro injective oracle' i' didLauncherId' resolution' lineage' h' hlineage' hdisjoint
      id hid hid'
    obtain ⟨coin, hcoin, hstore⟩ := store_of_id h hlineage id hid
    obtain ⟨coin', hcoin', hstore'⟩ := store_of_id h' hlineage' id hid'
    have hsame : coin = coin' := profileStoreId_injective injective (hstore.symm.trans hstore')
    exact hdisjoint coin hcoin (hsame ▸ hcoin')

end Descent

theorem scripted_store_belongs :
    let _ := pairHash
    let _ := scriptedClvm
    let _ := scriptedRuntime
    ∃ lineage coin, DidCoin (coinId scriptedLauncher) lineage coin ∧
      coinId coin = coinId scriptedDid ∧ coinId scriptedStore = profileStoreId coin := by
  intro _ _ _
  have hrun : (resolveProfileStore (coinId scriptedLauncher)).run
      (fun _ => archiveAnswer mintedProfile []) 0 =
        .ok (.resolved (coinId scriptedStore) (coinId scriptedDid)) := by decide +kernel
  obtain ⟨lineage, -, -, hresolved, -⟩ := resolved_store_belongs _ _ _ _ hrun
  exact ⟨lineage, hresolved _ _ rfl⟩

end DigAccount
