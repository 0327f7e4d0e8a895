import DigAccount.Chain.Honest
import Mathlib.Data.Nat.Pairing

namespace DigAccount

open Ledger

structure NodeIndex where
  coin : Bytes32 → Coin
  slots : Bytes32 → Bytes32 → List (Nat × List UInt8)
  launcherOf : Bytes32 → Bytes32
  outcome : SpendBundle → Except String PushOutcome
  rejects : Bool

section Node

variable [CoinHash] [Clvm]

def creatingSpend (snapshot : Chain) (id : Bytes32) : Option CoinSpend :=
  (coinSpendsOf snapshot).find? fun coinSpend => id ∈ coinSpend.created

namespace NodeIndex

variable (index : NodeIndex)

def record (snapshot : Chain) (id : Bytes32) : Except String (Option CoinRecord) :=
  let confirmed := confirmedHeight (ledgerOf snapshot) id
  let spent := spentHeight (ledgerOf snapshot) id
  if confirmed = none ∧ spent = none then .ok none
  else if coinId (index.coin id) = id then .ok (some ⟨index.coin id, confirmed, spent⟩)
  else .error "no preimage"

def singletonLineage (snapshot : Chain) (launcherId : Bytes32) : Option SingletonLineage :=
  match lineageOf launcherId snapshot with
  | .unborn => none
  | .live tip | .melted tip => some ⟨launcherId, tip⟩

def didTip (snapshot : Chain) (launcherId : Bytes32) : Except String (Option DidTip) :=
  match lineageOf launcherId snapshot with
  | .unborn => .ok none
  | .live tip | .melted tip =>
      if coinId (index.coin tip) = tip then .ok (some ⟨index.coin tip, didState tip⟩)
      else .error "no preimage"

def distributor (snapshot : Chain) (launcherId : Bytes32) : Option DiscoveredDistributor :=
  (coinSpendsOf snapshot).findSome? fun coinSpend =>
    if launcherId ∈ coinSpend.created then advertisedDistributor coinSpend launcherId else none

def submit (snapshot : Chain) (bundle : SpendBundle) : Except String PushOutcome :=
  if bundle.coinSpends.all fun coinSpend =>
      (spentHeight (ledgerOf snapshot) (coinId coinSpend.coin)).isNone then
    index.outcome bundle
  else if index.rejects then .ok (.rejected "DOUBLE_SPEND")
  else .error "no mempool answered"

def answer (snapshot : Chain) : (q : Query) → Answer q
  | .peakHeight => .ok (some snapshot.length)
  | .coinRecord id => index.record snapshot id
  | .parentSpend id => .ok (creatingSpend snapshot id)
  | .resolveSingletonLineage launcherId => .ok (singletonLineage snapshot launcherId)
  | .walkDidLineageToTip launcherId => index.didTip snapshot launcherId
  | .proveLineage id _ => .ok (index.launcherOf id)
  | .discoverDistributor launcherId => .ok (distributor snapshot launcherId)
  | .fetchProfileSlots storeLauncherId root => .ok (index.slots storeLauncherId root)
  | .push bundle => index.submit snapshot bundle

end NodeIndex

theorem creatingSpend_eq_some {snapshot : Chain} {id : Bytes32} {coinSpend : CoinSpend}
    (h : creatingSpend snapshot id = some coinSpend) :
    coinSpend ∈ coinSpendsOf snapshot ∧ id ∈ coinSpend.created :=
  ⟨List.mem_of_find?_eq_some h, by simpa using List.find?_some h⟩

theorem creatingSpend_eq_none {snapshot : Chain} {id : Bytes32}
    (h : creatingSpend snapshot id = none) :
    ∀ coinSpend ∈ coinSpendsOf snapshot, id ∉ coinSpend.created := by
  intro coinSpend hmem
  simpa using List.find?_eq_none.1 h coinSpend hmem

section Truthful

variable (index : NodeIndex) {snapshot : Chain} {pruned : Bytes32 → Prop}

theorem NodeIndex.record_truthful (id : Bytes32) :
    Truthful snapshot pruned (.coinRecord id) (index.record snapshot id) := by
  unfold record
  dsimp only
  split
  · rename_i hnone
    exact hnone.1
  · split
    · rename_i hid
      exact ⟨hid, rfl, rfl⟩
    · trivial

theorem NodeIndex.parentSpend_truthful (id : Bytes32) :
    Truthful snapshot pruned (.parentSpend id) (.ok (creatingSpend snapshot id)) := by
  cases h : creatingSpend snapshot id with
  | none => exact .inr (creatingSpend_eq_none h)
  | some coinSpend => exact creatingSpend_eq_some h

theorem NodeIndex.lineage_truthful (launcherId : Bytes32) :
    Truthful snapshot pruned (.resolveSingletonLineage launcherId)
      (.ok (singletonLineage snapshot launcherId)) := by
  rw [singletonLineage]
  cases h : lineageOf launcherId snapshot with
  | unborn =>
      intro tip hlive
      rw [h] at hlive
      cases hlive
  | live tip => exact ⟨rfl, .inl h⟩
  | melted last => exact ⟨rfl, .inr h⟩

theorem NodeIndex.didTip_truthful (launcherId : Bytes32) :
    Truthful snapshot pruned (.walkDidLineageToTip launcherId)
      (index.didTip snapshot launcherId) := by
  rw [didTip]
  cases h : lineageOf launcherId snapshot with
  | unborn =>
      intro tip hlive
      rw [h] at hlive
      cases hlive
  | live tip =>
      dsimp only
      split
      · rename_i hid
        exact ⟨by rw [hid], .inl (by rw [h, hid])⟩
      · trivial
  | melted last =>
      dsimp only
      split
      · rename_i hid
        exact ⟨by rw [hid], .inr (by rw [h, hid])⟩
      · trivial

theorem NodeIndex.distributor_truthful (launcherId : Bytes32) :
    Truthful snapshot pruned (.discoverDistributor launcherId)
      (.ok (distributor snapshot launcherId)) := by
  cases h : distributor snapshot launcherId with
  | none =>
      refine .inr fun coinSpend hmem hcreated => ?_
      have hnone := List.findSome?_eq_none_iff.1 h coinSpend hmem
      rwa [if_pos hcreated] at hnone
  | some discovered =>
      obtain ⟨coinSpend, hmem, hsome⟩ := List.exists_of_findSome?_eq_some h
      split at hsome
      · rename_i hcreated
        exact ⟨coinSpend, hmem, hcreated, hsome⟩
      · cases hsome

theorem NodeIndex.submit_truthful (bundle : SpendBundle) :
    Truthful snapshot pruned (.push bundle) (index.submit snapshot bundle) := by
  rw [submit]
  split
  · rename_i hunspent
    have hall : ∀ coinSpend ∈ bundle.coinSpends,
        spentHeight (ledgerOf snapshot) (coinId coinSpend.coin) = none := by
      intro coinSpend hmem
      exact Option.isNone_iff_eq_none.1 (List.all_eq_true.1 hunspent coinSpend hmem)
    rcases index.outcome bundle with e | (_ | _ | reason)
    · trivial
    · exact hall
    · exact hall
    · trivial
  · split
    · trivial
    · trivial

theorem NodeIndex.answer_truthful (q : Query) :
    Truthful snapshot pruned q (index.answer snapshot q) := by
  cases q with
  | peakHeight => exact .inl rfl
  | coinRecord id => exact index.record_truthful id
  | parentSpend id => exact NodeIndex.parentSpend_truthful id
  | resolveSingletonLineage launcherId => exact NodeIndex.lineage_truthful launcherId
  | walkDidLineageToTip launcherId => exact index.didTip_truthful launcherId
  | proveLineage coinId did => trivial
  | discoverDistributor launcherId => exact NodeIndex.distributor_truthful launcherId
  | fetchProfileSlots storeLauncherId root => trivial
  | push bundle => exact index.submit_truthful bundle

end Truthful

def HonestSource.node (index : NodeIndex) (chain : Chain) (schedule : Schedule) :
    HonestSource chain schedule where
  answer i := index.answer (chain.take (schedule.moment i))
  truthful _ q := index.answer_truthful q

def NodeIndex.naming (coins : List Coin) (launcherOf : Bytes32 → Bytes32) : NodeIndex where
  coin id := (coins.find? fun coin => coinId coin = id).getD ⟨0, 0, 0⟩
  slots _ _ := []
  launcherOf := launcherOf
  outcome _ := .ok .accepted
  rejects := false

omit [Clvm] in
theorem NodeIndex.naming_names {coins : List Coin} {launcherOf : Bytes32 → Bytes32} {coin : Coin}
    (h : coin ∈ coins) :
    coinId ((naming coins launcherOf).coin (coinId coin)) = coinId coin := by
  have hsome : (coins.find? fun c => coinId c = coinId coin).isSome :=
    List.find?_isSome.2 ⟨coin, h, by simp⟩
  obtain ⟨found, hfound⟩ := Option.isSome_iff_exists.1 hsome
  have hname : coinId found = coinId coin := by simpa using List.find?_some hfound
  have hindex : (naming coins launcherOf).coin (coinId coin) = found :=
    congrArg (·.getD ⟨0, 0, 0⟩) hfound
  rw [hindex, hname]

def SpendBundle.index (bundle : SpendBundle) : NodeIndex :=
  .naming (bundle.coinSpends.map CoinSpend.coin ++ bundle.coinSpends.flatMap additions) id

theorem SpendBundle.index_names_spent {bundle : SpendBundle} {coinSpend : CoinSpend}
    (h : coinSpend ∈ bundle.coinSpends) :
    coinId (bundle.index.coin (coinId coinSpend.coin)) = coinId coinSpend.coin :=
  NodeIndex.naming_names (List.mem_append_left _ (List.mem_map_of_mem h))

theorem SpendBundle.index_names_created {bundle : SpendBundle} {coinSpend : CoinSpend}
    {id : Bytes32} (h : coinSpend ∈ bundle.coinSpends) (hid : id ∈ coinSpend.created) :
    coinId (bundle.index.coin id) = id := by
  obtain ⟨coin, hcoin, rfl⟩ := List.mem_map.1 hid
  exact NodeIndex.naming_names (List.mem_append_right _ (List.mem_flatMap.2 ⟨coinSpend, h, hcoin⟩))

theorem NodeIndex.record_eq {index : NodeIndex} {id : Bytes32} (snapshot : Chain)
    (h : coinId (index.coin id) = id) :
    ∃ found, index.record snapshot id = .ok found ∧
      found.bind CoinRecord.confirmedHeight = confirmedHeight (ledgerOf snapshot) id ∧
      found.bind CoinRecord.spentHeight = spentHeight (ledgerOf snapshot) id := by
  unfold record
  dsimp only
  split
  · rename_i hnone
    exact ⟨none, rfl, hnone.1.symm, hnone.2.symm⟩
  · exact ⟨_, rfl, rfl, rfl⟩

end Node

@[reducible] def amountNames : CoinHash where
  coinId coin := coin.amount

abbrev pairHash : CoinHash where
  coinId coin := Nat.pair (Nat.pair coin.parentCoinInfo coin.puzzleHash) coin.amount + 1

theorem pairHash_injective : letI := pairHash; Function.Injective (coinId : Coin → Bytes32) := by
  let _ := pairHash
  rintro ⟨parent, hash, amount⟩ ⟨parent', hash', amount'⟩ h
  have hpair := Nat.succ.inj h
  rw [Nat.pair_eq_pair, Nat.pair_eq_pair] at hpair
  obtain ⟨⟨rfl, rfl⟩, rfl⟩ := hpair
  rfl

def namedCoin (id : Bytes32) : Coin := ⟨0, 0, id⟩

def amountIndex : NodeIndex where
  coin := namedCoin
  slots _ _ := []
  launcherOf _ := 10
  outcome _ := .ok .accepted
  rejects := true

def steadyAt (n : Nat) : Schedule where
  moment _ := n
  forward _ _ _ := Nat.le_refl n
  pruned _ _ := False

def straddling : Schedule where
  moment i := if i ≤ 1 then 1 else 2
  forward i j h := by
    dsimp only
    split <;> split <;> omega
  pruned _ _ := False

def catchingUp : Schedule where
  moment i := i + 1
  forward _ _ h := Nat.succ_le_succ h
  pruned _ _ := False

end DigAccount
