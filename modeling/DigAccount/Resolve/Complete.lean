import DigAccount.Foundation.Validator
import DigAccount.Resolve.Archive
import DigAccount.Resolve.Descent

namespace DigAccount

open ClvmRuntime Ledger

section Evaluation

variable [CoinHash] [Clvm] [ClvmRuntime] [ClvmConsensus]

theorem additions_eq {spend : CoinSpend} {created : List (Bytes32 × Nat)}
    (h : createdCoins spend = .ok created) : additions spend = created.map spend.coin.child := by
  simp only [createdCoins] at h
  split at h
  · cases h
  · obtain ⟨puzzle, hpuzzle, h⟩ := Validator.bind_ok.1 h
    split at h
    · cases h
    · rename_i hhash
      obtain ⟨solution, hsolution, h⟩ := Validator.bind_ok.1 h
      obtain ⟨output, houtput, h⟩ := Validator.bind_ok.1 h
      obtain ⟨conditions, hconditions, h⟩ := Validator.bind_ok.1 h
      cases h
      exact ClvmConsensus.evaluates spend puzzle solution output conditions
        (Fallible.mapError_eq_ok.1 hpuzzle) (not_not.1 hhash)
        (Fallible.mapError_eq_ok.1 hsolution) (Fallible.mapError_eq_ok.1 houtput)
        (Fallible.mapError_eq_ok.1 hconditions)

end Evaluation

section Launches

variable [CoinHash] [Clvm] (chain : Chain)

def launchesAt (id : Bytes32) : List (Bytes32 × Coin) :=
  match spendOf chain id with
  | none => []
  | some spend =>
      ((additions spend).filter fun coin =>
        isProfileIntermediate (coin.puzzleHash, coin.amount)).map fun coin => (id, coin)

def profileLaunches (didLauncherId : Bytes32) : List (Bytes32 × Coin) :=
  (didTrail chain didLauncherId).flatMap (launchesAt chain)

variable {chain} {id : Bytes32}

theorem launchesAt_unspent (h : ∀ spend ∈ coinSpendsOf chain, coinId spend.coin ≠ id) :
    launchesAt chain id = [] := by
  cases hfound : spendOf chain id with
  | none => simp only [launchesAt, hfound]
  | some spend =>
      obtain ⟨hmem, hid⟩ := mem_of_spendOf hfound
      exact absurd hid (h spend hmem)

theorem mem_launchesAt (full : ArchiveChain chain) {launch : Bytes32 × Coin} :
    launch ∈ launchesAt chain id ↔ launch.1 = id ∧ Launches chain id launch.2 := by
  constructor
  · intro h
    cases hfound : spendOf chain id with
    | none =>
        simp only [launchesAt, hfound] at h
        cases h
    | some spend =>
        simp only [launchesAt, hfound] at h
        obtain ⟨coin, hcoin, rfl⟩ := List.mem_map.1 h
        obtain ⟨hadded, hshape⟩ := List.mem_filter.1 hcoin
        obtain ⟨hmem, hid⟩ := mem_of_spendOf hfound
        simp only [isProfileIntermediate, decide_eq_true_eq] at hshape
        exact ⟨rfl, spend, hmem, hid, hadded, hshape⟩
  · rintro ⟨rfl, spend, hmem, hid, hadded, hshape⟩
    have hfound : spendOf chain launch.1 = some spend := by
      rw [← hid]
      exact full.spendOf_eq hmem
    simp only [launchesAt, hfound]
    refine List.mem_map.2 ⟨launch.2, List.mem_filter.2 ⟨hadded, ?_⟩, rfl⟩
    simp only [isProfileIntermediate, decide_eq_true_eq]
    exact hshape

theorem mem_profileLaunches (full : ArchiveChain chain) {didLauncherId : Bytes32}
    {launch : Bytes32 × Coin} :
    launch ∈ profileLaunches chain didLauncherId ↔
      launch.1 ∈ didTrail chain didLauncherId ∧ Launches chain launch.1 launch.2 := by
  simp only [profileLaunches, List.mem_flatMap, mem_launchesAt full]
  constructor
  · rintro ⟨c, hc, rfl, hlaunch⟩
    exact ⟨hc, hlaunch⟩
  · rintro ⟨hc, hlaunch⟩
    exact ⟨launch.1, hc, rfl, hlaunch⟩

theorem tip_unspent (full : ArchiveChain chain) {didLauncherId tip : Bytes32}
    (h : lineageOf didLauncherId chain = .live tip) :
    ∀ spend ∈ coinSpendsOf chain, coinId spend.coin ≠ tip := by
  intro spend hmem hid
  refine Lineage.live_unspent full.consistent.causal h ?_
  rw [spends_ledgerOf, List.map_map]
  exact List.mem_map.2 ⟨spend, hmem, hid⟩

variable [ClvmRuntime] [ClvmConsensus] {spend : CoinSpend} {created : List (Bytes32 × Nat)}

theorem launchesOf_eq (full : ArchiveChain chain) (hmem : spend ∈ coinSpendsOf chain)
    (hcreated : createdCoins spend = .ok created) :
    launchesOf spend.coin created = launchesAt chain (coinId spend.coin) := by
  simp only [launchesAt, full.spendOf_eq hmem, additions_eq hcreated, List.filter_map,
    List.map_map]
  rfl

theorem successorsIn_eq (full : ArchiveChain chain) {lineage : WalkedLineage}
    {didLauncherId next : Bytes32} (hmembers : lineage.members = didTrail chain didLauncherId)
    (hmem : spend ∈ coinSpendsOf chain) (hcreated : createdCoins spend = .ok created)
    (hcoin : coinId spend.coin ∈ didTrail chain didLauncherId)
    (hheir : spend.onLedger.heir = some next) (hnext : next ∈ didTrail chain didLauncherId) :
    ∃ successor ∈ additions spend, coinId successor = next ∧
      successorsIn lineage spend.coin created = [successor] := by
  have hs : spend.onLedger ∈ spends (ledgerOf chain) := by
    rw [spends_ledgerOf]
    exact List.mem_map_of_mem hmem
  have hflat : ((spends (ledgerOf chain)).flatMap Spend.created).Nodup := by
    rw [spends_ledgerOf, List.flatMap_map]
    exact full.consistent.created_once.sublist created_sublist
  have hnodup : ((additions spend).map coinId).Nodup :=
    (List.nodup_flatMap.1 hflat).1 _ hs
  have howns : next ∈ (additions spend).map coinId :=
    full.consistent.causal.heir_created _ hs next hheir
  rw [successorsIn, ← additions_eq hcreated]
  refine KeyedList.filter_eq_singleton hnodup howns fun child hchild => ?_
  simp only [WalkedLineage.contains, hmembers, decide_eq_true_eq]
  constructor
  · intro hlisted
    have honly := Lineage.only_heir_on_trail full.consistent.causal hflat hs hcoin
      (List.mem_map_of_mem hchild) hlisted
    rw [hheir] at honly
    exact (Option.some.inj honly).symm
  · rintro rfl
    exact hnext

end Launches

section Walk

variable [CoinHash] [Clvm] {chain : Chain}

namespace ProfileSource

variable (source : ProfileSource chain)

def oracle : ProfileOracle := fun _ q => source.answer q

theorem served {id : Bytes32} {spend : CoinSpend}
    (h : source.answer (.coinSpend id) = .ok (some spend)) :
    spend ∈ coinSpendsOf chain ∧ coinId spend.coin = id := by
  have htruth := source.truthful (.coinSpend id)
  rwa [h] at htruth

theorem walked {launcherId : Bytes32} {lineage : WalkedLineage}
    (h : source.answer (.resolveSingletonLineage launcherId) = .ok (some lineage)) :
    lineageOf launcherId chain = .live lineage.tip ∧
      lineage.members = didTrail chain launcherId := by
  have htruth := source.truthful (.resolveSingletonLineage launcherId)
  rwa [h] at htruth

theorem unwalked {launcherId : Bytes32}
    (h : source.answer (.resolveSingletonLineage launcherId) = .ok none) :
    ¬ LiveSingleton chain launcherId := by
  have htruth := source.truthful (.resolveSingletonLineage launcherId)
  rwa [h] at htruth

theorem recorded {id : Bytes32} {record : CoinRecord}
    (h : source.answer (.coinRecord id) = .ok (some record)) :
    record.coin ∈ coinsOf chain ∧ coinId record.coin = id := by
  have htruth := source.truthful (.coinRecord id)
  rwa [h] at htruth

def Evaluates [ClvmRuntime] (id : Bytes32) : Prop :=
  ∃ spend created, source.answer (.coinSpend id) = .ok (some spend) ∧
    createdCoins spend = .ok created

end ProfileSource

theorem exists_trail (launcherId : Bytes32) (chain : Chain) :
    ∃ rest, didTrail chain launcherId = launcherId :: rest :=
  List.head?_eq_some_iff.1 (Lineage.head_trail launcherId (spends (ledgerOf chain)))

variable [ClvmRuntime] [ClvmConsensus] {source : ProfileSource chain} {lineage : WalkedLineage}
  {didLauncherId : Bytes32} {i : Nat}

theorem served_step (full : ArchiveChain chain) {coin : Coin} {next : Bytes32}
    (hmembers : lineage.members = didTrail chain didLauncherId) {walkedIds rest : List Bytes32}
    (hsplit : didTrail chain didLauncherId = walkedIds ++ coinId coin :: next :: rest)
    (hcoin : coin ∈ coinsOf chain) {spend : CoinSpend} {created : List (Bytes32 × Nat)}
    (hanswer : source.answer (.coinSpend (coinId coin)) = .ok (some spend))
    (hcreated : createdCoins spend = .ok created) :
    spend.coin = coin ∧ launchesOf coin created = launchesAt chain (coinId coin) ∧
      ∃ successor ∈ coinsOf chain, coinId successor = next ∧
        successorsIn lineage coin created = [successor] := by
  have hcurrent : coinId coin ∈ didTrail chain didLauncherId := by
    rw [hsplit]
    simp
  have hnext : next ∈ didTrail chain didLauncherId := by
    rw [hsplit]
    simp
  have hlink :
      (didTrail chain didLauncherId).IsChain (Lineage.Succeeds (spends (ledgerOf chain))) :=
    Lineage.trail_links didLauncherId _
  rw [hsplit] at hlink
  obtain ⟨s, hs, hsid, hheir⟩ := (List.isChain_cons_cons.1 hlink.right_of_append).1
  obtain ⟨hmem, hid⟩ := source.served hanswer
  have hsame := full.spent_coin_eq hmem hcoin hid
  have hledger : spend.onLedger ∈ spends (ledgerOf chain) := by
    rw [spends_ledgerOf]
    exact List.mem_map_of_mem hmem
  have honLedger : spend.onLedger = s :=
    full.consistent.causal.spend_unique hledger hs (hid.trans hsid.symm)
  rw [← honLedger] at hheir
  rw [← hsame] at hcurrent ⊢
  obtain ⟨successor, hadded, hnamed, hone⟩ :=
    successorsIn_eq full hmembers hmem hcreated hcurrent hheir hnext
  exact ⟨rfl, launchesOf_eq full hmem hcreated, successor, created_coin_mem hmem hadded, hnamed,
    hone⟩

structure OnTrail (chain : Chain) (didLauncherId : Bytes32) (scan : LineageScan)
    (walkedIds rest : List Bytes32) : Prop where
  split : didTrail chain didLauncherId = walkedIds ++ coinId scan.current :: rest
  visited : scan.visited ⊆ walkedIds ++ [coinId scan.current]
  count : scan.visited.length = walkedIds.length + 1
  created : scan.current ∈ coinsOf chain
  bounded : scan.intermediates.length ≤ maxProfileLaunchesPerDid

namespace OnTrail

variable {scan : LineageScan} {walkedIds rest : List Bytes32}

omit [ClvmRuntime] [ClvmConsensus] in
theorem len (h : OnTrail chain didLauncherId scan walkedIds rest)
    (hmembers : lineage.members = didTrail chain didLauncherId) :
    lineage.len = scan.visited.length + rest.length := by
  rw [WalkedLineage.len, hmembers, h.split, h.count, List.length_append, List.length_cons]
  omega

omit [ClvmRuntime] [ClvmConsensus] in
theorem fresh {next : Bytes32} (full : ArchiveChain chain)
    (h : OnTrail chain didLauncherId scan walkedIds (next :: rest)) : next ∉ scan.visited := by
  have hnodup : (didTrail chain didLauncherId).Nodup :=
    Lineage.trail_nodup full.consistent.causal
  rw [h.split, ← List.singleton_append, ← List.append_assoc] at hnodup
  intro hseen
  exact (List.nodup_append.1 hnodup).2.2 next (h.visited hseen) next List.mem_cons_self rfl

omit [ClvmRuntime] [ClvmConsensus] in
theorem at_tip (h : OnTrail chain didLauncherId scan walkedIds [])
    (hlive : lineageOf didLauncherId chain = .live lineage.tip) :
    coinId scan.current = lineage.tip := by
  have hlast := Lineage.trail_last hlive
  change (didTrail chain didLauncherId).getLast? = _ at hlast
  rw [h.split, List.getLast?_append_cons, List.getLast?_singleton] at hlast
  exact Option.some.inj hlast

omit [ClvmRuntime] [ClvmConsensus] in
theorem onto {successor : Coin} {created : List (Bytes32 × Nat)}
    (h : OnTrail chain didLauncherId scan walkedIds (coinId successor :: rest))
    (hsuccessor : successor ∈ coinsOf chain)
    (hroom : (scan.through created).intermediates.length ≤ maxProfileLaunchesPerDid) :
    OnTrail chain didLauncherId (scan.onto created successor)
      (walkedIds ++ [coinId scan.current]) rest where
  split := by
    rw [h.split, List.append_assoc]
    rfl
  visited := by
    intro id hid
    rcases List.mem_cons.1 hid with rfl | hold
    · simp [LineageScan.onto]
    · exact List.mem_append_left _ (h.visited hold)
  count := by
    simp [LineageScan.onto, h.count]
  created := hsuccessor
  bounded := hroom

end OnTrail

def Reaches (source : ProfileSource chain) (lineage : WalkedLineage) (steps : Nat)
    (scan : LineageScan) (i : Nat) (launches : List (Bytes32 × Coin)) : Prop :=
  ∃ final, (scanLineage lineage steps scan).run source.oracle i = .ok final ∧
    final.visited.length = lineage.len ∧ final.intermediates = launches

section Scan

variable {scan : LineageScan} {walkedIds rest : List Bytes32} {launches : List (Bytes32 × Coin)}

omit [ClvmConsensus] in
theorem reaches_tip (full : ArchiveChain chain)
    (hlive : lineageOf didLauncherId chain = .live lineage.tip)
    (hmembers : lineage.members = didTrail chain didLauncherId)
    (h : OnTrail chain didLauncherId scan walkedIds []) :
    Reaches source lineage 1 scan i launches ↔
      source.answer (.coinSpend lineage.tip) = .ok none ∧ launches = scan.intermediates := by
  rw [← h.at_tip hlive]
  constructor
  · rintro ⟨final, hrun, -, rfl⟩
    rcases (run_scanLineage_succ h.bounded).1 hrun with
      ⟨hanswer, rfl⟩ | ⟨spend, created, hanswer, -⟩
    · exact ⟨hanswer, rfl⟩
    · obtain ⟨hmem, hid⟩ := source.served hanswer
      exact absurd (hid.trans (h.at_tip hlive)) (tip_unspent full hlive spend hmem)
  · rintro ⟨hanswer, rfl⟩
    exact ⟨scan, (run_scanLineage_succ h.bounded).2 (.inl ⟨hanswer, rfl⟩), (h.len hmembers).symm,
      rfl⟩

theorem reaches_next {next : Bytes32} (full : ArchiveChain chain)
    (hmembers : lineage.members = didTrail chain didLauncherId)
    (h : OnTrail chain didLauncherId scan walkedIds (next :: rest)) :
    Reaches source lineage (rest.length + 2) scan i launches ↔
      ∃ spend created successor,
        source.answer (.coinSpend (coinId scan.current)) = .ok (some spend) ∧
          createdCoins spend = .ok created ∧
          successorsIn lineage scan.current created = [successor] ∧
          (scan.through created).intermediates.length ≤ maxProfileLaunchesPerDid ∧
          Reaches source lineage (rest.length + 1) (scan.onto created successor) (i + 1)
            launches := by
  constructor
  · rintro ⟨final, hrun, hfinal, hfound⟩
    rcases (run_scanLineage_succ h.bounded).1 hrun with
      ⟨-, rfl⟩ | ⟨spend, created, hanswer, -, hcreated, hroom, hrest⟩
    · rw [h.len hmembers, List.length_cons] at hfinal
      omega
    · rcases hrest with ⟨hnil, -⟩ | ⟨successor, hone, -, hrun⟩
      · obtain ⟨-, -, successor, -, -, hone⟩ :=
          served_step full hmembers h.split h.created hanswer hcreated
        rw [hnil] at hone
        cases hone
      · exact ⟨spend, created, successor, hanswer, hcreated, hone, hroom, final, hrun, hfinal,
          hfound⟩
  · rintro ⟨spend, created, successor, hanswer, hcreated, hone, hroom, final, hrun, hfinal, hfound⟩
    obtain ⟨hspent, -, other, -, hnamed, hother⟩ :=
      served_step full hmembers h.split h.created hanswer hcreated
    obtain rfl : successor = other := List.singleton_inj.1 (hone.symm.trans hother)
    have hfresh : coinId successor ∉ scan.visited := hnamed ▸ h.fresh full
    exact ⟨final, (run_scanLineage_succ h.bounded).2 (.inr ⟨spend, created, hanswer, hspent,
      hcreated, hroom, .inr ⟨successor, hone, hfresh, hrun⟩⟩), hfinal, hfound⟩

theorem run_scanLineage (full : ArchiveChain chain)
    (hlive : lineageOf didLauncherId chain = .live lineage.tip)
    (hmembers : lineage.members = didTrail chain didLauncherId)
    (h : OnTrail chain didLauncherId scan walkedIds rest) :
    Reaches source lineage (rest.length + 1) scan i launches ↔
      (∀ id ∈ (coinId scan.current :: rest).dropLast, source.Evaluates id) ∧
        source.answer (.coinSpend lineage.tip) = .ok none ∧
        launches = scan.intermediates ++ (coinId scan.current :: rest).flatMap (launchesAt chain) ∧
        launches.length ≤ maxProfileLaunchesPerDid := by
  induction rest generalizing walkedIds scan i with
  | nil =>
      have hnone : launchesAt chain (coinId scan.current) = [] := by
        rw [h.at_tip hlive]
        exact launchesAt_unspent (tip_unspent full hlive)
      rw [List.flatMap_singleton, hnone, List.append_nil, List.length_nil, Nat.zero_add,
        reaches_tip full hlive hmembers h]
      constructor
      · rintro ⟨hanswer, rfl⟩
        exact ⟨by simp, hanswer, rfl, h.bounded⟩
      · rintro ⟨-, hanswer, hfound, -⟩
        exact ⟨hanswer, hfound⟩
  | cons next rest ih =>
      have honto {spend : CoinSpend} {created : List (Bytes32 × Nat)} {successor : Coin}
          (hanswer : source.answer (.coinSpend (coinId scan.current)) = .ok (some spend))
          (hcreated : createdCoins spend = .ok created)
          (hone : successorsIn lineage scan.current created = [successor])
          (hroom : (scan.through created).intermediates.length ≤ maxProfileLaunchesPerDid) :
          Reaches source lineage (rest.length + 1) (scan.onto created successor) (i + 1) launches ↔
            (∀ id ∈ (next :: rest).dropLast, source.Evaluates id) ∧
              source.answer (.coinSpend lineage.tip) = .ok none ∧
              launches = scan.intermediates ++
                (coinId scan.current :: next :: rest).flatMap (launchesAt chain) ∧
              launches.length ≤ maxProfileLaunchesPerDid := by
        obtain ⟨-, hlaunches, other, hmem, rfl, hother⟩ :=
          served_step full hmembers h.split h.created hanswer hcreated
        obtain rfl : successor = other := List.singleton_inj.1 (hone.symm.trans hother)
        rw [ih (h.onto hmem hroom)]
        simp only [LineageScan.onto, hlaunches, List.flatMap_cons, List.append_assoc]
      rw [List.length_cons, reaches_next full hmembers h, List.dropLast_cons_cons,
        List.forall_mem_cons]
      constructor
      · rintro ⟨spend, created, successor, hanswer, hcreated, hone, hroom, hreaches⟩
        obtain ⟨hall, hrest⟩ := (honto hanswer hcreated hone hroom).1 hreaches
        exact ⟨⟨⟨spend, created, hanswer, hcreated⟩, hall⟩, hrest⟩
      · rintro ⟨⟨⟨spend, created, hanswer, hcreated⟩, hall⟩, htip, hfound, hlength⟩
        obtain ⟨-, hlaunches, successor, -, -, hone⟩ :=
          served_step full hmembers h.split h.created hanswer hcreated
        have hroom : (scan.through created).intermediates.length ≤ maxProfileLaunchesPerDid := by
          refine le_trans ?_ hlength
          simp only [hfound, LineageScan.through, hlaunches, List.flatMap_cons, List.length_append]
          omega
        exact ⟨spend, created, successor, hanswer, hcreated, hone, hroom,
          (honto hanswer hcreated hone hroom).2 ⟨hall, htip, hfound, hlength⟩⟩

end Scan

theorem run_profileIntermediates (full : ArchiveChain chain) {launcher : Coin}
    {launches : List (Bytes32 × Coin)}
    (hlineage : source.answer (.resolveSingletonLineage didLauncherId) = .ok (some lineage))
    (hlauncher : launcher ∈ coinsOf chain) (hid : coinId launcher = didLauncherId) :
    (profileIntermediates launcher lineage).run source.oracle i = .ok launches ↔
      (∀ id ∈ (didTrail chain didLauncherId).dropLast, source.Evaluates id) ∧
        source.answer (.coinSpend lineage.tip) = .ok none ∧
        launches = profileLaunches chain didLauncherId ∧
        launches.length ≤ maxProfileLaunchesPerDid := by
  obtain ⟨hlive, hmembers⟩ := source.walked hlineage
  obtain ⟨rest, htrail⟩ := exists_trail didLauncherId chain
  have hlen : lineage.len = rest.length + 1 := by
    rw [WalkedLineage.len, hmembers, htrail, List.length_cons]
  have hstart : OnTrail chain didLauncherId ⟨[coinId launcher], [], launcher⟩ [] rest := by
    refine ⟨?_, List.Subset.refl _, rfl, hlauncher, Nat.zero_le _⟩
    rw [htrail, hid]
    rfl
  have hscan : Reaches source lineage (rest.length + 1) ⟨[coinId launcher], [], launcher⟩ i
      launches ↔ _ := run_scanLineage full hlive hmembers hstart
  rw [hid, ← htrail, List.nil_append] at hscan
  refine Iff.trans ?_ hscan
  rw [profileIntermediates, Fallible.run_bind_eq_ok, Reaches, hlen, hid]
  constructor
  · rintro ⟨final, hrun, hrest⟩
    split at hrest
    · cases hrest
    · rename_i hreached
      cases hrest
      exact ⟨final, hrun, not_not.1 hreached, rfl⟩
  · rintro ⟨final, hrun, hreached, rfl⟩
    refine ⟨final, hrun, ?_⟩
    rw [if_neg (not_not.2 hreached)]
    rfl

end Walk

section Stores

variable [CoinHash] [Clvm] [ClvmRuntime] {chain : Chain} {source : ProfileSource chain} {i : Nat}
  {intermediate : Coin}

def ProfileSource.Decides (source : ProfileSource chain) (intermediate : Coin) : Prop :=
  source.answer (.coinSpend (coinId intermediate)) = .ok none ∨
    ∃ spend created, source.answer (.coinSpend (coinId intermediate)) = .ok (some spend) ∧
      createdCoins spend = .ok created ∧ (created.filter isStoreLauncher).length ≤ 1 ∧
      ∀ launcher ∈ created.filter isStoreLauncher, ∃ found,
        source.answer (.resolveSingletonLineage (coinId (intermediate.child launcher))) = .ok found

theorem run_liveStoreOf {store : Option Bytes32} :
    (liveStoreOf intermediate).run source.oracle i = .ok store ↔
      source.answer (.coinSpend (coinId intermediate)) = .ok none ∧ store = none ∨
        ∃ spend created, source.answer (.coinSpend (coinId intermediate)) = .ok (some spend) ∧
          spend.coin = intermediate ∧ createdCoins spend = .ok created ∧
          (created.filter isStoreLauncher = [] ∧ store = none ∨
            ∃ only found, created.filter isStoreLauncher = [only] ∧
              source.answer (.resolveSingletonLineage (coinId (intermediate.child only))) =
                .ok found ∧
              store = found.map fun _ => coinId (intermediate.child only)) := by
  rw [liveStoreOf, Fallible.run_bind_eq_ok]
  constructor
  · rintro ⟨launcher, hlauncher, hrest⟩
    rcases run_launcherCreatedBy.1 hlauncher with
      ⟨hanswer, rfl⟩ | ⟨spend, created, hanswer, hcoin, hcreated, hlaunchers⟩
    · cases hrest
      exact .inl ⟨hanswer, rfl⟩
    · refine .inr ⟨spend, created, hanswer, hcoin, hcreated, ?_⟩
      rcases hlaunchers with ⟨hnone, rfl⟩ | ⟨only, hone, rfl⟩
      · cases hrest
        exact .inl ⟨hnone, rfl⟩
      · obtain ⟨found, hfound, hrest⟩ := Fallible.run_bind_eq_ok.1 hrest
        cases hrest
        exact .inr ⟨only, found, hone, run_readLineage.1 hfound, rfl⟩
  · rintro (⟨hanswer, rfl⟩ | ⟨spend, created, hanswer, hcoin, hcreated, hnext⟩)
    · exact ⟨none, run_launcherCreatedBy.2 (.inl ⟨hanswer, rfl⟩), rfl⟩
    · rcases hnext with ⟨hnone, rfl⟩ | ⟨only, found, hone, hfound, rfl⟩
      · exact ⟨none, run_launcherCreatedBy.2 (.inr ⟨spend, created, hanswer, hcoin, hcreated,
          .inl ⟨hnone, rfl⟩⟩), rfl⟩
      · refine ⟨_, run_launcherCreatedBy.2 (.inr ⟨spend, created, hanswer, hcoin, hcreated,
          .inr ⟨only, hone, rfl⟩⟩), ?_⟩
        exact Fallible.run_bind_eq_ok.2 ⟨found, run_readLineage.2 hfound, rfl⟩

theorem decides_iff (full : ArchiveChain chain) (hcoin : intermediate ∈ coinsOf chain) :
    (∃ store, (liveStoreOf intermediate).run source.oracle i = .ok store) ↔
      source.Decides intermediate := by
  simp only [run_liveStoreOf, ProfileSource.Decides]
  constructor
  · rintro ⟨store, ⟨hanswer, -⟩ | ⟨spend, created, hanswer, -, hcreated, hnext⟩⟩
    · exact .inl hanswer
    · refine .inr ⟨spend, created, hanswer, hcreated, ?_⟩
      rcases hnext with ⟨hnone, -⟩ | ⟨only, found, hone, hfound, -⟩
      · simp [hnone]
      · simp only [hone, List.length_singleton, Nat.le_refl, List.mem_singleton, forall_eq,
          true_and]
        exact ⟨found, hfound⟩
  · rintro (hanswer | ⟨spend, created, hanswer, hcreated, hfew, hfound⟩)
    · exact ⟨none, .inl ⟨hanswer, rfl⟩⟩
    · obtain ⟨hmem, hid⟩ := source.served hanswer
      have hsame := full.spent_coin_eq hmem hcoin hid
      rcases hlaunchers : created.filter isStoreLauncher with _ | ⟨only, _ | ⟨other, rest⟩⟩
      · exact ⟨none, .inr ⟨spend, created, hanswer, hsame, hcreated, .inl ⟨hlaunchers, rfl⟩⟩⟩
      · obtain ⟨found, hfound⟩ := hfound only (by rw [hlaunchers]; exact List.mem_cons_self)
        exact ⟨_, .inr ⟨spend, created, hanswer, hsame, hcreated,
          .inr ⟨only, found, hlaunchers, hfound, rfl⟩⟩⟩
      · rw [hlaunchers] at hfew
        simp at hfew

variable [ClvmConsensus]

theorem launchesStore_iff (full : ArchiveChain chain) {spend : CoinSpend}
    {created : List (Bytes32 × Nat)} {storeId : Bytes32} (hmem : spend ∈ coinSpendsOf chain)
    (hsame : spend.coin = intermediate) (hcreated : createdCoins spend = .ok created) :
    LaunchesStore chain intermediate storeId ↔
      ∃ only ∈ created.filter isStoreLauncher, storeId = coinId (intermediate.child only) := by
  subst hsame
  constructor
  · rintro ⟨found, hfound, hid, launcher, hadded, hhash, hamount, rfl⟩
    obtain rfl := full.spend_unique hfound hmem hid
    rw [additions_eq hcreated] at hadded
    obtain ⟨child, hchild, rfl⟩ := List.mem_map.1 hadded
    refine ⟨child, List.mem_filter.2 ⟨hchild, ?_⟩, rfl⟩
    simp only [isStoreLauncher, decide_eq_true_eq]
    exact ⟨hhash, hamount⟩
  · rintro ⟨only, honly, rfl⟩
    obtain ⟨hcreatedOnly, hshape⟩ := mem_storeLaunchers honly
    refine ⟨spend, hmem, rfl, spend.coin.child only, ?_, congrArg Prod.fst hshape,
      congrArg Prod.snd hshape, rfl⟩
    rw [additions_eq hcreated]
    exact List.mem_map_of_mem hcreatedOnly

theorem liveStoreOf_some (full : ArchiveChain chain) (hcoin : intermediate ∈ coinsOf chain)
    {storeId : Bytes32} :
    (liveStoreOf intermediate).run source.oracle i = .ok (some storeId) ↔
      source.Decides intermediate ∧
        source.answer (.coinSpend (coinId intermediate)) ≠ .ok none ∧
        LaunchesStore chain intermediate storeId ∧ LiveSingleton chain storeId := by
  constructor
  · intro h
    refine ⟨(decides_iff full hcoin).1 ⟨_, h⟩, ?_⟩
    rcases run_liveStoreOf.1 h with ⟨-, hnone⟩ | ⟨spend, created, hanswer, hsame, hcreated, hnext⟩
    · cases hnone
    · have hlaunches : LaunchesStore chain intermediate storeId ↔ _ :=
        launchesStore_iff full (source.served hanswer).1 hsame hcreated
      rcases hnext with ⟨-, hnone⟩ | ⟨only, found, hone, hfound, hstore⟩
      · cases hnone
      · cases found with
        | none => cases hstore
        | some lineage =>
            cases hstore
            have honly : only ∈ created.filter isStoreLauncher := by
              rw [hone]
              exact List.mem_singleton_self only
            exact ⟨by rw [hanswer]; simp, hlaunches.2 ⟨only, honly, rfl⟩, lineage.tip,
              (source.walked hfound).1⟩
  · rintro ⟨hanswer | ⟨spend, created, hanswer, hcreated, hfew, hlineages⟩, hserved, hstore, tip,
      hlive⟩
    · exact absurd hanswer hserved
    · obtain ⟨hmem, hid⟩ := source.served hanswer
      have hsame := full.spent_coin_eq hmem hcoin hid
      obtain ⟨only, honly, rfl⟩ := (launchesStore_iff full hmem hsame hcreated).1 hstore
      obtain ⟨lineage, hlineage⟩ := hlineages only honly
      have hone : created.filter isStoreLauncher = [only] := by
        obtain ⟨launcher, hlauncher⟩ :=
          List.length_eq_one_iff.1 (hfew.antisymm (List.length_pos_of_mem honly))
        rw [hlauncher, List.mem_singleton] at honly
        rw [hlauncher, honly]
      refine run_liveStoreOf.2 (.inr ⟨spend, created, hanswer, hsame, hcreated, .inr ⟨only,
        lineage, hone, hlineage, ?_⟩⟩)
      cases lineage with
      | none => exact absurd ⟨tip, hlive⟩ (source.unwalked hlineage)
      | some walked => rfl

def ProfileSource.Shows (source : ProfileSource chain) (intermediate : Coin) (storeId : Bytes32) :
    Prop :=
  source.answer (.coinSpend (coinId intermediate)) ≠ .ok none ∧
    LaunchesStore chain intermediate storeId ∧ LiveSingleton chain storeId

theorem shows_iff (full : ArchiveChain chain) (hcoin : intermediate ∈ coinsOf chain)
    {store : Option Bytes32} (h : (liveStoreOf intermediate).run source.oracle i = .ok store)
    {storeId : Bytes32} : store = some storeId ↔ source.Shows intermediate storeId := by
  have hsome : (liveStoreOf intermediate).run source.oracle i = .ok (some storeId) ↔ _ :=
    liveStoreOf_some full hcoin
  rw [h, Except.ok.injEq, and_iff_right ((decides_iff full hcoin).1 ⟨store, h⟩)] at hsome
  exact hsome

omit [ClvmConsensus] in
theorem exists_collectLive (full : ArchiveChain chain) {launches : List (Bytes32 × Coin)}
    {live : List (Bytes32 × Bytes32)} (hcoins : ∀ launch ∈ launches, launch.2 ∈ coinsOf chain) :
    (∃ found, (collectLive launches live).run source.oracle i = .ok found) ↔
      ∀ launch ∈ launches, source.Decides launch.2 := by
  induction launches generalizing i live with
  | nil => exact iff_of_true ⟨live, rfl⟩ (fun launch h => (List.not_mem_nil h).elim)
  | cons launch rest ih =>
      obtain ⟨hcoin, hrest⟩ := List.forall_mem_cons.1 hcoins
      rw [List.forall_mem_cons]
      constructor
      · rintro ⟨found, h⟩
        obtain ⟨store, hstore, hrun⟩ := Fallible.run_bind_eq_ok.1 h
        refine ⟨(decides_iff full hcoin).1 ⟨store, hstore⟩, ?_⟩
        cases store with
        | none => exact (ih hrest).1 ⟨found, hrun⟩
        | some storeId => exact (ih hrest).1 ⟨found, hrun⟩
      · rintro ⟨hdecides, hall⟩
        have hrun : ∃ store, (liveStoreOf launch.2).run source.oracle i = .ok store :=
          (decides_iff full hcoin).2 hdecides
        obtain ⟨store, hstore⟩ := hrun
        cases store with
        | none =>
            obtain ⟨found, hfound⟩ := (ih hrest).2 hall
            exact ⟨found, Fallible.run_bind_eq_ok.2 ⟨none, hstore, hfound⟩⟩
        | some storeId =>
            obtain ⟨found, hfound⟩ := (ih hrest).2 hall
            exact ⟨found, Fallible.run_bind_eq_ok.2 ⟨some storeId, hstore, hfound⟩⟩

theorem keys_collectLive (full : ArchiveChain chain) {launches : List (Bytes32 × Coin)}
    {live found : List (Bytes32 × Bytes32)} (hcoins : ∀ launch ∈ launches, launch.2 ∈ coinsOf chain)
    (h : (collectLive launches live).run source.oracle i = .ok found) {storeId : Bytes32} :
    storeId ∈ found.map Prod.fst ↔
      storeId ∈ live.map Prod.fst ∨ ∃ launch ∈ launches, source.Shows launch.2 storeId := by
  induction launches generalizing i live with
  | nil =>
      cases h
      simp
  | cons launch rest ih =>
      obtain ⟨hcoin, hrest⟩ := List.forall_mem_cons.1 hcoins
      obtain ⟨store, hstore, hrun⟩ := Fallible.run_bind_eq_ok.1 h
      rw [List.exists_mem_cons_iff, ← shows_iff full hcoin hstore]
      cases store with
      | none =>
          refine (ih hrest hrun).trans ?_
          simp
      | some shown =>
          refine (ih hrest hrun).trans ?_
          rw [KeyedList.mem_keys_upsert, Option.some.injEq, eq_comm, or_left_comm, or_assoc]

theorem entries_collectLive (full : ArchiveChain chain) {launches : List (Bytes32 × Coin)}
    {live found : List (Bytes32 × Bytes32)} (hcoins : ∀ launch ∈ launches, launch.2 ∈ coinsOf chain)
    (h : (collectLive launches live).run source.oracle i = .ok found) :
    ∀ entry ∈ found, entry ∈ live ∨
      ∃ launch ∈ launches, launch.1 = entry.2 ∧ source.Shows launch.2 entry.1 := by
  induction launches generalizing i live with
  | nil =>
      cases h
      exact fun entry hentry => .inl hentry
  | cons launch rest ih =>
      obtain ⟨hcoin, hrest⟩ := List.forall_mem_cons.1 hcoins
      obtain ⟨store, hstore, hrun⟩ := Fallible.run_bind_eq_ok.1 h
      intro entry hentry
      rw [List.exists_mem_cons_iff]
      cases store with
      | none => exact (ih hrest hrun entry hentry).imp_right .inr
      | some shown =>
          rcases ih hrest hrun entry hentry with hold | hlater
          · rcases KeyedList.mem_of_mem_upsert hold with rfl | hold
            · exact .inr (.inl ⟨rfl, (shows_iff full hcoin hstore).1 rfl⟩)
            · exact .inl hold
          · exact .inr (.inr hlater)

end Stores

section Answers

variable [CoinHash] [Clvm] [ClvmRuntime] {chain : Chain} {source : ProfileSource chain} {i : Nat}
  {didLauncherId : Bytes32}

structure ProfileSource.AnswersScan (source : ProfileSource chain) (didLauncherId : Bytes32) :
    Prop where
  lineage : ∃ lineage, source.answer (.resolveSingletonLineage didLauncherId) = .ok (some lineage)
  launcher : ∃ record, source.answer (.coinRecord didLauncherId) = .ok (some record)
  spends : ∀ id ∈ (didTrail chain didLauncherId).dropLast, source.Evaluates id
  tip : ∀ id, (didTrail chain didLauncherId).getLast? = some id →
    source.answer (.coinSpend id) = .ok none
  few : (profileLaunches chain didLauncherId).length ≤ maxProfileLaunchesPerDid
  decides : ∀ launch ∈ profileLaunches chain didLauncherId, source.Decides launch.2

omit [ClvmRuntime] in
theorem launched_coins (full : ArchiveChain chain) :
    ∀ launch ∈ profileLaunches chain didLauncherId, launch.2 ∈ coinsOf chain := by
  intro launch hlaunch
  obtain ⟨-, spend, hmem, -, hadded, -⟩ := (mem_profileLaunches full).1 hlaunch
  exact created_coin_mem hmem hadded

omit [ClvmRuntime] in
theorem holds_resolutionOf {live : List (Bytes32 × Bytes32)}
    (hdid : LiveSingleton chain didLauncherId) (sorted : (live.map Prod.fst).SortedLT)
    (hkeys : ∀ storeId, storeId ∈ live.map Prod.fst ↔ ∃ didCoinId intermediate,
      ProfileLaunch chain didLauncherId didCoinId intermediate storeId)
    (hentries : ∀ entry ∈ live, ∃ intermediate,
      ProfileLaunch chain didLauncherId entry.2 intermediate entry.1) :
    HoldsOnChain chain didLauncherId (resolutionOf live) := by
  refine ⟨hdid, ?_⟩
  rcases live with _ | ⟨entry, _ | ⟨next, rest⟩⟩
  · intro didCoinId intermediate storeId hlaunch
    exact List.not_mem_nil ((hkeys storeId).2 ⟨didCoinId, intermediate, hlaunch⟩)
  · refine ⟨hentries entry List.mem_cons_self, fun didCoinId intermediate other hlaunch => ?_⟩
    exact List.mem_singleton.1 ((hkeys other).2 ⟨didCoinId, intermediate, hlaunch⟩)
  · refine ⟨?_, sorted, hkeys⟩
    simp

omit [ClvmRuntime] in
theorem HoldsOnChain.ids {resolution : ProfileStoreResolution}
    (h : HoldsOnChain chain didLauncherId resolution) :
    resolution.ids.SortedLT ∧ ∀ storeId, storeId ∈ resolution.ids ↔
      ∃ didCoinId intermediate,
        ProfileLaunch chain didLauncherId didCoinId intermediate storeId := by
  obtain ⟨-, hanswer⟩ := h
  cases resolution with
  | noProfileStore =>
      refine ⟨List.Pairwise.nil.sortedLT, fun storeId => iff_of_false List.not_mem_nil ?_⟩
      rintro ⟨didCoinId, intermediate, hlaunch⟩
      exact hanswer didCoinId intermediate storeId hlaunch
  | resolved shown coin =>
      refine ⟨(List.pairwise_singleton (· < ·) shown).sortedLT, fun storeId => ?_⟩
      obtain ⟨⟨intermediate, hlaunch⟩, honly⟩ := hanswer
      constructor
      · intro hmem
        rw [List.mem_singleton.1 hmem]
        exact ⟨coin, intermediate, hlaunch⟩
      · rintro ⟨didCoinId, other, hother⟩
        rw [honly didCoinId other storeId hother]
        exact List.mem_singleton_self shown
  | ambiguous ids => exact ⟨hanswer.2.1, hanswer.2.2⟩

variable [ClvmConsensus]

theorem resolves_iff (full : ArchiveChain chain) :
    (∃ resolution, (resolveProfileStore didLauncherId).run source.oracle i = .ok resolution) ↔
      source.AnswersScan didLauncherId := by
  constructor
  · rintro ⟨resolution, h⟩
    obtain ⟨lineage, record, launches, k, live, hlineage, hrecord, -, hscan, hlive, -⟩ :=
      run_resolveProfileStore.1 h
    obtain ⟨hcoin, hid⟩ := source.recorded hrecord
    obtain ⟨hspends, htip, rfl, hfew⟩ :=
      (run_profileIntermediates full hlineage hcoin hid).1 (Prod.mk.inj hscan).1
    refine ⟨⟨lineage, hlineage⟩, ⟨record, hrecord⟩, hspends, ?_, hfew, ?_⟩
    · intro id hlast
      have htipLast : (didTrail chain didLauncherId).getLast? = some lineage.tip :=
        Lineage.trail_last (source.walked hlineage).1
      rw [htipLast] at hlast
      cases hlast
      exact htip
    · exact (exists_collectLive full (launched_coins full)).1 ⟨live, hlive⟩
  · rintro ⟨⟨lineage, hlineage⟩, ⟨record, hrecord⟩, hspends, htip, hfew, hdecides⟩
    obtain ⟨hcoin, hid⟩ := source.recorded hrecord
    have htipLast : (didTrail chain didLauncherId).getLast? = some lineage.tip :=
      Lineage.trail_last (source.walked hlineage).1
    have hscan : (profileIntermediates record.coin lineage).run source.oracle (i + 2) =
        .ok (profileLaunches chain didLauncherId) :=
      (run_profileIntermediates full hlineage hcoin hid).2
        ⟨hspends, htip lineage.tip htipLast, rfl, hfew⟩
    have hlive : ∃ live, (collectLive (profileLaunches chain didLauncherId) []).run source.oracle
        ((profileIntermediates record.coin lineage).after source.oracle (i + 2)) = .ok live :=
      (exists_collectLive full (launched_coins full)).2 hdecides
    obtain ⟨live, hlive⟩ := hlive
    exact ⟨resolutionOf live, run_resolveProfileStore.2 ⟨lineage, record, _, _, live, hlineage,
      hrecord, hid, Prod.ext hscan rfl, hlive, rfl⟩⟩

omit [ClvmRuntime] [ClvmConsensus] in
theorem shown_launch (full : ArchiveChain chain) {launch : Bytes32 × Coin} {storeId : Bytes32}
    (hlaunch : launch ∈ profileLaunches chain didLauncherId)
    (hshown : source.Shows launch.2 storeId) :
    ProfileLaunch chain didLauncherId launch.1 launch.2 storeId := by
  obtain ⟨hmember, hlaunches⟩ := (mem_profileLaunches full).1 hlaunch
  exact ⟨hmember, hlaunches, hshown.2.1, hshown.2.2⟩

theorem ids_of_run (full : ArchiveChain chain) {resolution : ProfileStoreResolution}
    (h : (resolveProfileStore didLauncherId).run source.oracle i = .ok resolution)
    {storeId : Bytes32} :
    storeId ∈ resolution.ids ↔
      ∃ launch ∈ profileLaunches chain didLauncherId, source.Shows launch.2 storeId := by
  obtain ⟨lineage, record, launches, k, live, hlineage, hrecord, -, hscan, hlive, rfl⟩ :=
    run_resolveProfileStore.1 h
  obtain ⟨hcoin, hid⟩ := source.recorded hrecord
  obtain ⟨-, -, rfl, -⟩ :=
    (run_profileIntermediates full hlineage hcoin hid).1 (Prod.mk.inj hscan).1
  rw [ids_resolutionOf, keys_collectLive full (launched_coins full) hlive]
  simp

omit [ClvmRuntime] [ClvmConsensus] in
theorem LaunchesStore.intermediate_unique (full : ArchiveChain chain) {first second : Coin}
    {storeId : Bytes32} (h : LaunchesStore chain first storeId)
    (h' : LaunchesStore chain second storeId) : coinId first = coinId second := by
  obtain ⟨spend, hmem, hid, launcher, hadded, -, -, hstore⟩ := h
  obtain ⟨other, hother, hotherId, launcher', hadded', -, -, hstore'⟩ := h'
  have hsame : spend = other := by
    refine full.toHonestChain.creator_unique hmem hother ?_ (List.mem_map_of_mem hadded')
    rw [hstore', ← hstore]
    exact List.mem_map_of_mem hadded
  rw [← hid, hsame, hotherId]

def ProfileSource.ServesLaunches (source : ProfileSource chain) (didLauncherId : Bytes32) : Prop :=
  ∀ didCoinId intermediate storeId,
    ProfileLaunch chain didLauncherId didCoinId intermediate storeId →
      source.answer (.coinSpend (coinId intermediate)) ≠ .ok none

theorem serves_of_holds (full : ArchiveChain chain)
    (hholds : ∀ resolution, (resolveProfileStore didLauncherId).run source.oracle i =
      .ok resolution → HoldsOnChain chain didLauncherId resolution)
    (hscan : source.AnswersScan didLauncherId) : source.ServesLaunches didLauncherId := by
  intro didCoinId intermediate storeId hlaunch hpruned
  have hrun : ∃ resolution,
      (resolveProfileStore didLauncherId).run source.oracle i = .ok resolution :=
    (resolves_iff full).2 hscan
  obtain ⟨resolution, hrun⟩ := hrun
  have hlisted : storeId ∈ resolution.ids :=
    ((hholds resolution hrun).ids.2 storeId).2 ⟨didCoinId, intermediate, hlaunch⟩
  obtain ⟨launch, -, hserved, hcompleted, -⟩ := (ids_of_run full hrun).1 hlisted
  rw [hcompleted.intermediate_unique full hlaunch.completed] at hserved
  exact hserved hpruned
theorem holds_of_serves (full : ArchiveChain chain)
    (hnothing : source.AnswersScan didLauncherId → source.ServesLaunches didLauncherId)
    {resolution : ProfileStoreResolution}
    (hrun : (resolveProfileStore didLauncherId).run source.oracle i = .ok resolution) :
    HoldsOnChain chain didLauncherId resolution := by
  have hscan := (resolves_iff full).1 ⟨resolution, hrun⟩
  have hids : ∀ storeId, storeId ∈ resolution.ids ↔ ∃ didCoinId intermediate,
      ProfileLaunch chain didLauncherId didCoinId intermediate storeId := by
    intro storeId
    rw [ids_of_run full hrun]
    constructor
    · rintro ⟨launch, hlaunch, hshown⟩
      exact ⟨launch.1, launch.2, shown_launch full hlaunch hshown⟩
    · rintro ⟨didCoinId, intermediate, hlaunch⟩
      refine ⟨(didCoinId, intermediate), (mem_profileLaunches full).2 ⟨hlaunch.member,
        hlaunch.launches⟩, hnothing hscan _ _ _ hlaunch, hlaunch.completed, hlaunch.live⟩
  obtain ⟨lineage, record, launches, k, live, hlineage, hrecord, -, hexec, hlive, rfl⟩ :=
    run_resolveProfileStore.1 hrun
  obtain ⟨hcoin, hid⟩ := source.recorded hrecord
  obtain ⟨-, -, rfl, -⟩ :=
    (run_profileIntermediates full hlineage hcoin hid).1 (Prod.mk.inj hexec).1
  have hempty : (([] : List (Bytes32 × Bytes32)).map Prod.fst).SortedLT :=
    List.Pairwise.nil.sortedLT
  rw [ids_resolutionOf] at hids
  refine holds_resolutionOf ⟨lineage.tip, (source.walked hlineage).1⟩
    (collectLive_sorted hempty hlive) hids fun entry hentry => ?_
  rcases entries_collectLive full (launched_coins full) hlive entry hentry with
    hnil | ⟨launch, hlaunch, hcoinId, hshown⟩
  · cases hnil
  · rw [← hcoinId]
    exact ⟨launch.2, shown_launch full hlaunch hshown⟩

omit [ClvmRuntime] [ClvmConsensus] in
theorem ProfileLaunch.did_coin_unique (full : ArchiveChain chain) {first second storeId : Bytes32}
    {intermediate other : Coin}
    (h : ProfileLaunch chain didLauncherId first intermediate storeId)
    (h' : ProfileLaunch chain didLauncherId second other storeId) : first = second := by
  obtain ⟨spend, hmem, rfl, hadded, -⟩ := h.launches
  obtain ⟨spend', hmem', rfl, hadded', -⟩ := h'.launches
  have hsame : spend = spend' := by
    refine full.toHonestChain.creator_unique hmem hmem' ?_ (List.mem_map_of_mem hadded')
    rw [← h.completed.intermediate_unique full h'.completed]
    exact List.mem_map_of_mem hadded
  rw [hsame]

omit [ClvmRuntime] [ClvmConsensus] in
theorem HoldsOnChain.unique (full : ArchiveChain chain) {first second : ProfileStoreResolution}
    (h : HoldsOnChain chain didLauncherId first) (h' : HoldsOnChain chain didLauncherId second) :
    first = second := by
  have hids : first.ids = second.ids :=
    h.ids.1.eq_of_mem_iff h'.ids.1 fun id => (h.ids.2 id).trans (h'.ids.2 id).symm
  obtain ⟨-, hfirst⟩ := h
  obtain ⟨-, hsecond⟩ := h'
  cases first with
  | noProfileStore =>
      cases second with
      | noProfileStore => rfl
      | resolved storeId coin => cases hids
      | ambiguous ids =>
          obtain ⟨hmany, -⟩ := hsecond
          rw [← show [] = ids from hids] at hmany
          cases hmany
  | resolved storeId coin =>
      cases second with
      | noProfileStore => cases hids
      | resolved storeId' coin' =>
          cases hids
          obtain ⟨⟨intermediate, hlaunch⟩, -⟩ := hfirst
          obtain ⟨⟨other, hother⟩, -⟩ := hsecond
          rw [hlaunch.did_coin_unique full hother]
      | ambiguous ids =>
          obtain ⟨hmany, -⟩ := hsecond
          rw [← show [storeId] = ids from hids, List.length_singleton] at hmany
          omega
  | ambiguous ids =>
      obtain ⟨hmany, -⟩ := hfirst
      cases second with
      | noProfileStore =>
          rw [show ids = [] from hids] at hmany
          cases hmany
      | resolved storeId coin =>
          rw [show ids = [storeId] from hids, List.length_singleton] at hmany
          omega
      | ambiguous ids' => rw [show ids = ids' from hids]

omit [ClvmRuntime] [ClvmConsensus] in
theorem archive_serves (full : ArchiveChain chain) (didLauncherId : Bytes32) :
    (ProfileSource.archive chain []).ServesLaunches didLauncherId := by
  intro didCoinId intermediate storeId hlaunch
  obtain ⟨spend, hmem, hid, -⟩ := hlaunch.completed
  rw [← hid]
  change Except.ok (if _ ∈ [] then none else spendOf chain (coinId spend.coin)) ≠ .ok none
  rw [if_neg List.not_mem_nil, full.spendOf_eq hmem]
  simp

theorem HoldsOnChain.eq_archive (full : ArchiveChain chain)
    {resolution archived : ProfileStoreResolution}
    (h : HoldsOnChain chain didLauncherId resolution)
    (harchive : (resolveProfileStore didLauncherId).run (ProfileSource.archive chain []).oracle i =
      .ok archived) :
    resolution = archived :=
  h.unique full (holds_of_serves full (fun _ => archive_serves full didLauncherId) harchive)

theorem holds_iff_serves_launches (full : ArchiveChain chain) (source : ProfileSource chain)
    (didLauncherId : Bytes32) (i : Nat) :
    (∀ resolution, (resolveProfileStore didLauncherId).run source.oracle i = .ok resolution →
        HoldsOnChain chain didLauncherId resolution) ↔
      (source.AnswersScan didLauncherId → source.ServesLaunches didLauncherId) :=
  ⟨serves_of_holds full, fun hnothing _ hrun => holds_of_serves full hnothing hrun⟩

end Answers

theorem pruned_intermediate_reads_as_absence :
    let _ := pairHash
    let _ := scriptedClvm
    let _ := scriptedRuntime
    ¬ ∀ chain : Chain, ArchiveChain chain → ∀ (source : ProfileSource chain)
      (didLauncherId : Bytes32) (i : Nat) (resolution : ProfileStoreResolution),
        (resolveProfileStore didLauncherId).run source.oracle i = .ok resolution →
          HoldsOnChain chain didLauncherId resolution := by
  intro _ _ _ hclaim
  have hrun : (resolveProfileStore (coinId scriptedLauncher)).run
      (ProfileSource.archive mintedProfile [coinId scriptedIntermediate]).oracle 0 =
        .ok .noProfileStore := by decide +kernel
  have hlaunch : ProfileLaunch mintedProfile (coinId scriptedLauncher) (coinId scriptedDid)
      scriptedIntermediate (coinId scriptedStore) := by
    refine ⟨by decide +kernel, ⟨scriptedSpend scriptedDid 1 [1, 2], by decide +kernel⟩,
      ⟨scriptedSpend scriptedIntermediate 2 [3], by decide +kernel⟩,
      ⟨coinId (scriptedStore.child (scriptedOutput 4)), by decide +kernel⟩⟩
  exact (hclaim mintedProfile mintedProfile_archive _ _ 0 _ hrun).2 _ _ _ hlaunch

theorem archived_profile_resolves :
    let _ := pairHash
    let _ := scriptedClvm
    let _ := scriptedRuntime
    HoldsOnChain mintedProfile (coinId scriptedLauncher)
      (.resolved (coinId scriptedStore) (coinId scriptedDid)) := by
  intro _ _ _
  have _ := scriptedConsensus
  have hrun : (resolveProfileStore (coinId scriptedLauncher)).run
      (ProfileSource.archive mintedProfile []).oracle 0 =
        .ok (.resolved (coinId scriptedStore) (coinId scriptedDid)) := by decide +kernel
  exact (holds_iff_serves_launches mintedProfile_archive _ _ 0).2
    (fun _ => archive_serves mintedProfile_archive _) _ hrun

end DigAccount
