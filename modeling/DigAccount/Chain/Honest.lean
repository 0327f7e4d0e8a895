import DigAccount.Chain.Query
import DigAccount.Foundation.Lineage
import Mathlib.Logic.Function.Basic
import Mathlib.Order.Monotone.Basic

namespace DigAccount

open Ledger

class Clvm where
  additions : CoinSpend → List Coin
  recreation : CoinSpend → Option Coin
  advertisedDistributor : CoinSpend → Bytes32 → Option DiscoveredDistributor
  didState : Bytes32 → Did

export Clvm (additions recreation advertisedDistributor didState)

structure ChainBlock where
  rewards : List Coin
  spends : List CoinSpend
  deriving DecidableEq, Repr

abbrev Chain := List ChainBlock

def coinSpendsOf (chain : Chain) : List CoinSpend := chain.flatMap ChainBlock.spends

variable [CoinHash] [Clvm]

def CoinSpend.created (coinSpend : CoinSpend) : List Bytes32 := (additions coinSpend).map coinId

def CoinSpend.onLedger (coinSpend : CoinSpend) : Ledger.Spend Bytes32 where
  coin := coinId coinSpend.coin
  created := coinSpend.created
  heir := (recreation coinSpend).map coinId

def ChainBlock.onLedger (block : ChainBlock) : Ledger.Block Bytes32 where
  rewards := block.rewards.map coinId
  spends := block.spends.map CoinSpend.onLedger

def ledgerOf (chain : Chain) : Ledger Bytes32 := chain.map ChainBlock.onLedger

def lineageOf (launcherId : Bytes32) (chain : Chain) : Lineage Bytes32 :=
  Lineage.along launcherId (spends (ledgerOf chain))

structure HonestChain (chain : Chain) : Prop where
  consistent : Consistent (ledgerOf chain)
  genesis_unspent : ∀ block, chain[0]? = some block → block.spends = []

def Includes (chain : Chain) (bundle : SpendBundle) (height : Nat) : Prop :=
  ∃ block, chain[height]? = some block ∧ bundle.coinSpends ⊆ block.spends

structure Schedule where
  moment : Nat → Nat
  forward : Monotone moment
  pruned : Nat → Bytes32 → Prop

def Truthful (snapshot : Chain) (pruned : Bytes32 → Prop) : (q : Query) → Answer q → Prop
  | .peakHeight, .ok (some peak) => peak = snapshot.length ∨ peak + 1 = snapshot.length
  | .coinRecord id, .ok none => confirmedHeight (ledgerOf snapshot) id = none
  | .coinRecord id, .ok (some record) =>
      coinId record.coin = id ∧
        record.confirmedHeight = confirmedHeight (ledgerOf snapshot) id ∧
        record.spentHeight = spentHeight (ledgerOf snapshot) id
  | .parentSpend id, .ok none =>
      pruned id ∨ ∀ coinSpend ∈ coinSpendsOf snapshot, id ∉ coinSpend.created
  | .parentSpend id, .ok (some coinSpend) =>
      coinSpend ∈ coinSpendsOf snapshot ∧ id ∈ coinSpend.created
  | .resolveSingletonLineage launcherId, .ok none =>
      ∀ tip, lineageOf launcherId snapshot ≠ .live tip
  | .resolveSingletonLineage launcherId, .ok (some lineage) =>
      lineage.launcherId = launcherId ∧
        (lineageOf launcherId snapshot = .live lineage.tip ∨
          lineageOf launcherId snapshot = .melted lineage.tip)
  | .walkDidLineageToTip launcherId, .ok none =>
      ∀ tip, lineageOf launcherId snapshot = .live tip → pruned tip
  | .walkDidLineageToTip launcherId, .ok (some tip) =>
      tip.did = didState (coinId tip.coin) ∧
        (lineageOf launcherId snapshot = .live (coinId tip.coin) ∨
          lineageOf launcherId snapshot = .melted (coinId tip.coin))
  | .discoverDistributor launcherId, .ok none =>
      pruned launcherId ∨ ∀ coinSpend ∈ coinSpendsOf snapshot,
        launcherId ∈ coinSpend.created → advertisedDistributor coinSpend launcherId = none
  | .discoverDistributor launcherId, .ok (some discovered) =>
      ∃ coinSpend ∈ coinSpendsOf snapshot, launcherId ∈ coinSpend.created ∧
        advertisedDistributor coinSpend launcherId = some discovered
  | .push bundle, .ok .accepted | .push bundle, .ok .alreadyInMempool =>
      ∀ coinSpend ∈ bundle.coinSpends,
        spentHeight (ledgerOf snapshot) (coinId coinSpend.coin) = none
  | _, _ => True

structure HonestSource (chain : Chain) (schedule : Schedule) where
  answer : Oracle
  truthful : ∀ i q, Truthful (chain.take (schedule.moment i)) (schedule.pruned i) q (answer i q)

variable {chain : Chain} {schedule : Schedule} {n height : Nat} {bundle : SpendBundle}

theorem ledgerOf_take : ledgerOf (chain.take n) = (ledgerOf chain).take n :=
  List.map_take

theorem mem_spends_of_includes (h : Includes chain bundle height) :
    IncludedAt (ledgerOf chain) (bundle.coinSpends.map CoinSpend.onLedger) height := by
  obtain ⟨block, hblock, hsub⟩ := h
  refine ⟨block.onLedger, ?_, List.map_subset _ hsub⟩
  rw [ledgerOf]
  rw [List.getElem?_map, hblock]
  rfl

structure FreshChain (chain : Chain) : Prop where
  once : ((spends (ledgerOf chain)).map Spend.coin).Nodup
  heirs : ∀ s ∈ spends (ledgerOf chain), ∀ c ∈ s.heir, c ∈ s.created
  fresh : FreshAfter [] (spends (ledgerOf chain))
  created_once : ((ledgerOf chain).flatMap Block.created).Nodup
  genesis : ∀ block ∈ chain[0]?, block.spends = []

instance (chain : Chain) : Decidable (FreshChain chain) :=
  decidable_of_iff
    (((spends (ledgerOf chain)).map Spend.coin).Nodup ∧
      (∀ s ∈ spends (ledgerOf chain), ∀ c ∈ s.heir, c ∈ s.created) ∧
      FreshAfter [] (spends (ledgerOf chain)) ∧
      ((ledgerOf chain).flatMap Block.created).Nodup ∧ ∀ block ∈ chain[0]?, block.spends = [])
    ⟨fun ⟨once, heirs, fresh, created_once, genesis⟩ => ⟨once, heirs, fresh, created_once, genesis⟩,
      fun h => ⟨h.once, h.heirs, h.fresh, h.created_once, h.genesis⟩⟩

theorem FreshChain.honest (h : FreshChain chain) : HonestChain chain where
  consistent := ⟨causal_of_fresh h.once h.heirs h.fresh, h.created_once⟩
  genesis_unspent := h.genesis

theorem spends_ledgerOf :
    spends (ledgerOf chain) = (coinSpendsOf chain).map CoinSpend.onLedger := by
  rw [spends, ledgerOf, coinSpendsOf]
  rw [List.flatMap_map, List.map_flatMap]
  rfl

theorem created_sublist :
    ((coinSpendsOf chain).flatMap CoinSpend.created).Sublist
      ((ledgerOf chain).flatMap Block.created) := by
  induction chain with
  | nil => exact List.Sublist.refl _
  | cons block chain ih =>
      have hblock : (block.spends.flatMap CoinSpend.created).Sublist block.onLedger.created := by
        rw [Block.created, ChainBlock.onLedger]
        rw [List.flatMap_map]
        exact List.sublist_append_right ..
      rw [coinSpendsOf, ledgerOf] at ih ⊢
      rw [List.flatMap_cons, List.flatMap_append, List.map_cons, List.flatMap_cons]
      exact hblock.append ih

theorem coinSpend_unique (causal : Causal (spends (ledgerOf chain))) {s t : CoinSpend}
    (hs : s ∈ coinSpendsOf chain) (ht : t ∈ coinSpendsOf chain)
    (hid : coinId s.coin = coinId t.coin) : s = t := by
  have honce := causal.spent_once
  rw [spends_ledgerOf, List.map_map] at honce
  exact List.inj_on_of_nodup_map honce hs ht hid

theorem HonestChain.creator_unique (honest : HonestChain chain) {s t : CoinSpend} {id : Bytes32}
    (hs : s ∈ coinSpendsOf chain) (ht : t ∈ coinSpendsOf chain) (hcs : id ∈ s.created)
    (hct : id ∈ t.created) : s = t :=
  eq_of_nodup_flatMap (honest.consistent.created_once.sublist created_sublist) hs ht hcs hct

omit [CoinHash] [Clvm] in
theorem Includes.mem_take {coinSpend : CoinSpend} (h : Includes chain bundle height)
    (hmem : coinSpend ∈ bundle.coinSpends) (hlt : height < n) :
    coinSpend ∈ coinSpendsOf (chain.take n) := by
  obtain ⟨block, hblock, hsub⟩ := h
  have hget : (chain.take n)[height]? = some block := (List.getElem?_take_of_lt hlt).trans hblock
  exact List.mem_flatMap.2 ⟨block, List.mem_of_getElem? hget, hsub hmem⟩

omit [CoinHash] [Clvm] in
theorem mem_of_take {coinSpend : CoinSpend} (h : coinSpend ∈ coinSpendsOf (chain.take n)) :
    coinSpend ∈ coinSpendsOf chain := by
  obtain ⟨block, hblock, hmem⟩ := List.mem_flatMap.1 h
  exact List.mem_flatMap.2 ⟨block, List.mem_of_mem_take hblock, hmem⟩

theorem Includes.spentHeight_take {coinSpend : CoinSpend} (h : Includes chain bundle height)
    (honest : HonestChain chain) (hmem : coinSpend ∈ bundle.coinSpends) (n : Nat) :
    spentHeight ((ledgerOf chain).take n) (coinId coinSpend.coin) =
      if height < n then some height else none :=
  (mem_spends_of_includes h).spentHeight_take honest.consistent.causal
    (List.mem_map_of_mem hmem) n

theorem Includes.confirmedHeight_take {coinSpend : CoinSpend} {id : Bytes32}
    (h : Includes chain bundle height) (honest : HonestChain chain)
    (hmem : coinSpend ∈ bundle.coinSpends) (hid : id ∈ coinSpend.created) (n : Nat) :
    confirmedHeight ((ledgerOf chain).take n) id = if height < n then some height else none :=
  (mem_spends_of_includes h).confirmedHeight_take honest.consistent.created_once
    (List.mem_map_of_mem hmem) hid n

def SpendBundle.Spends (bundle : SpendBundle) (id : Bytes32) : Prop :=
  ∃ coinSpend ∈ bundle.coinSpends, coinId coinSpend.coin = id

def SpendBundle.Creates (bundle : SpendBundle) (id : Bytes32) : Prop :=
  ∃ coinSpend ∈ bundle.coinSpends, id ∈ coinSpend.created

instance {bundle : SpendBundle} {id : Bytes32} : Decidable (bundle.Spends id) :=
  inferInstanceAs (Decidable (∃ coinSpend ∈ bundle.coinSpends, coinId coinSpend.coin = id))

instance {bundle : SpendBundle} {id : Bytes32} : Decidable (bundle.Creates id) :=
  inferInstanceAs (Decidable (∃ coinSpend ∈ bundle.coinSpends, id ∈ coinSpend.created))

theorem Includes.spent_take {id : Bytes32} (h : Includes chain bundle height)
    (honest : HonestChain chain) (hid : bundle.Spends id) (n : Nat) :
    spentHeight ((ledgerOf chain).take n) id = if height < n then some height else none := by
  obtain ⟨coinSpend, hmem, rfl⟩ := hid
  exact h.spentHeight_take honest hmem n

theorem Includes.created_take {id : Bytes32} (h : Includes chain bundle height)
    (honest : HonestChain chain) (hid : bundle.Creates id) (n : Nat) :
    confirmedHeight ((ledgerOf chain).take n) id = if height < n then some height else none := by
  obtain ⟨coinSpend, hmem, hcreated⟩ := hid
  exact h.confirmedHeight_take honest hmem hcreated n

omit [CoinHash] [Clvm] in
theorem Includes.lt_length (h : Includes chain bundle height) : height < chain.length := by
  obtain ⟨block, hblock, -⟩ := h
  exact (List.getElem?_eq_some_iff.1 hblock).1

theorem Includes.spentHeight_eq {id : Bytes32} (h : Includes chain bundle height)
    (honest : HonestChain chain) (hid : bundle.Spends id) :
    spentHeight (ledgerOf chain) id = some height := by
  have hspent := h.spent_take honest hid chain.length
  rwa [if_pos h.lt_length, ← ledgerOf_take, List.take_length] at hspent

theorem Includes.confirmedHeight_eq {id : Bytes32} (h : Includes chain bundle height)
    (honest : HonestChain chain) (hid : bundle.Creates id) :
    confirmedHeight (ledgerOf chain) id = some height := by
  have hcreated := h.created_take honest hid chain.length
  rwa [if_pos h.lt_length, ← ledgerOf_take, List.take_length] at hcreated

theorem Includes.height_ne_zero {coinSpend : CoinSpend} (h : Includes chain bundle height)
    (honest : HonestChain chain) (hmem : coinSpend ∈ bundle.coinSpends) : height ≠ 0 := by
  rintro rfl
  obtain ⟨block, hblock, hsub⟩ := h
  have hempty := honest.genesis_unspent block hblock
  rw [hempty] at hsub
  exact List.not_mem_nil (hsub hmem)

namespace HonestSource

variable (source : HonestSource chain schedule) {i : Nat} {id : Bytes32}

theorem absent (h : source.answer i (.coinRecord id) = .ok none) :
    confirmedHeight ((ledgerOf chain).take (schedule.moment i)) id = none := by
  have htruth := source.truthful i (.coinRecord id)
  rw [h] at htruth
  rwa [← ledgerOf_take]

theorem recorded {record : CoinRecord} (h : source.answer i (.coinRecord id) = .ok (some record)) :
    coinId record.coin = id ∧
      record.confirmedHeight = confirmedHeight ((ledgerOf chain).take (schedule.moment i)) id ∧
      record.spentHeight = spentHeight ((ledgerOf chain).take (schedule.moment i)) id := by
  have htruth := source.truthful i (.coinRecord id)
  rw [h] at htruth
  rwa [← ledgerOf_take]

theorem walkedDid {launcherId : Bytes32} {tip : DidTip}
    (h : source.answer i (.walkDidLineageToTip launcherId) = .ok (some tip)) :
    tip.did = didState (coinId tip.coin) ∧
      (lineageOf launcherId (chain.take (schedule.moment i)) = .live (coinId tip.coin) ∨
        lineageOf launcherId (chain.take (schedule.moment i)) = .melted (coinId tip.coin)) := by
  have htruth := source.truthful i (.walkDidLineageToTip launcherId)
  rwa [h] at htruth

theorem walkedSingleton {launcherId : Bytes32} {lineage : SingletonLineage}
    (h : source.answer i (.resolveSingletonLineage launcherId) = .ok (some lineage)) :
    lineageOf launcherId (chain.take (schedule.moment i)) = .live lineage.tip ∨
      lineageOf launcherId (chain.take (schedule.moment i)) = .melted lineage.tip := by
  have htruth := source.truthful i (.resolveSingletonLineage launcherId)
  rw [h] at htruth
  exact htruth.2

theorem served {coinSpend : CoinSpend}
    (h : source.answer i (.parentSpend id) = .ok (some coinSpend)) :
    coinSpend ∈ coinSpendsOf (chain.take (schedule.moment i)) ∧ id ∈ coinSpend.created := by
  have htruth := source.truthful i (.parentSpend id)
  rwa [h] at htruth

theorem unserved (h : source.answer i (.parentSpend id) = .ok none) :
    schedule.pruned i id ∨
      ∀ coinSpend ∈ coinSpendsOf (chain.take (schedule.moment i)), id ∉ coinSpend.created := by
  have htruth := source.truthful i (.parentSpend id)
  rwa [h] at htruth

theorem untracked {launcherId : Bytes32}
    (h : source.answer i (.walkDidLineageToTip launcherId) = .ok none) :
    ∀ tip, lineageOf launcherId (chain.take (schedule.moment i)) = .live tip →
      schedule.pruned i tip := by
  have htruth := source.truthful i (.walkDidLineageToTip launcherId)
  rwa [h] at htruth

theorem unwalked {launcherId : Bytes32}
    (h : source.answer i (.resolveSingletonLineage launcherId) = .ok none) :
    ∀ tip, lineageOf launcherId (chain.take (schedule.moment i)) ≠ .live tip := by
  have htruth := source.truthful i (.resolveSingletonLineage launcherId)
  rwa [h] at htruth

theorem taken {bundle : SpendBundle}
    (h : source.answer i (.push bundle) = .ok .accepted ∨
      source.answer i (.push bundle) = .ok .alreadyInMempool) :
    ∀ coinSpend ∈ bundle.coinSpends,
      spentHeight ((ledgerOf chain).take (schedule.moment i)) (coinId coinSpend.coin) = none := by
  have htruth := source.truthful i (.push bundle)
  rw [← ledgerOf_take]
  rcases h with h | h
  · rwa [h] at htruth
  · rwa [h] at htruth

theorem taken_before {bundle other : SpendBundle} {id : Bytes32} (honest : HonestChain chain)
    (h : source.answer i (.push bundle) = .ok .accepted ∨
      source.answer i (.push bundle) = .ok .alreadyInMempool)
    (hspends : bundle.Spends id) (included : Includes chain other height)
    (hother : other.Spends id) : schedule.moment i ≤ height := by
  obtain ⟨coinSpend, hmem, rfl⟩ := hspends
  have hunspent := source.taken h coinSpend hmem
  rw [included.spent_take honest hother] at hunspent
  by_contra hlate
  rw [if_pos (Nat.lt_of_not_le hlate)] at hunspent
  cases hunspent

theorem peaked {peak : Nat} (h : source.answer i .peakHeight = .ok (some peak)) :
    peak = (chain.take (schedule.moment i)).length ∨
      peak + 1 = (chain.take (schedule.moment i)).length := by
  have htruth := source.truthful i .peakHeight
  rwa [h] at htruth

def withAnswer (j : Nat) (q : Query) (a : Answer q)
    (h : Truthful (chain.take (schedule.moment j)) (schedule.pruned j) q a) :
    HonestSource chain schedule where
  answer k := if k = j then Function.update (source.answer k) q a else source.answer k
  truthful k q' := by
    split
    · rename_i hk
      subst hk
      by_cases hq : q' = q
      · subst hq
        rw [Function.update_self]
        exact h
      · rw [Function.update_of_ne hq]
        exact source.truthful k q'
    · exact source.truthful k q'

section WithAnswer

variable {source} {j k : Nat} {q : Query} {a : Answer q}
  {h : Truthful (chain.take (schedule.moment j)) (schedule.pruned j) q a}

theorem withAnswer_self : (source.withAnswer j q a h).answer j q = a :=
  (congrFun (if_pos rfl) q).trans (Function.update_self ..)

theorem withAnswer_of_ne (hk : k ≠ j) :
    (source.withAnswer j q a h).answer k = source.answer k :=
  if_neg hk

end WithAnswer

end HonestSource

end DigAccount
