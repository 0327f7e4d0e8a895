import DigAccount.Chain.Honest

namespace DigAccount

open Ledger

variable [CoinHash] [Clvm] {chain : Chain} {schedule : Schedule} {launcherId tip : Bytes32}
  {m n : Nat}

def SpentBy (chain : Chain) (n : Nat) (id : Bytes32) : Prop :=
  (spentHeight ((ledgerOf chain).take n) id).isSome

def RecreatedBy (chain : Chain) (n : Nat) (id : Bytes32) : Prop :=
  ∃ coinSpend ∈ coinSpendsOf (chain.take n),
    coinId coinSpend.coin = id ∧ (recreation coinSpend).isSome

def HasLiveTip (chain : Chain) (n : Nat) (launcherId : Bytes32) : Prop :=
  ∃ tip, lineageOf launcherId (chain.take n) = .live tip

instance {id : Bytes32} : Decidable (SpentBy chain n id) := inferInstanceAs (Decidable (_ = true))

instance {id : Bytes32} : Decidable (RecreatedBy chain n id) :=
  inferInstanceAs (Decidable (∃ coinSpend ∈ coinSpendsOf (chain.take n), _))

theorem HonestSource.record_spent (source : HonestSource chain schedule) {i : Nat} {id : Bytes32}
    {record : CoinRecord} (h : source.answer i (.coinRecord id) = .ok (some record)) :
    record.spentHeight.isSome ↔ SpentBy chain (schedule.moment i) id := by
  rw [SpentBy, (source.recorded h).2.2]

theorem spentBy_iff {id : Bytes32} :
    SpentBy chain n id ↔ id ∈ (spends (ledgerOf (chain.take n))).map Spend.coin := by
  rw [SpentBy, ← ledgerOf_take, Option.isSome_iff_ne_none, ne_eq, spentHeight_eq_none, not_not]

theorem recreatedBy_iff {id : Bytes32} :
    RecreatedBy chain n id ↔ Lineage.Recreated (spends (ledgerOf (chain.take n))) id := by
  rw [spends_ledgerOf]
  constructor
  · rintro ⟨coinSpend, hmem, hcoin, hsome⟩
    refine ⟨coinSpend.onLedger, List.mem_map_of_mem hmem, hcoin, ?_⟩
    rwa [CoinSpend.onLedger, Option.isSome_map]
  · rintro ⟨s, hs, hcoin, hsome⟩
    obtain ⟨coinSpend, hmem, rfl⟩ := List.mem_map.1 hs
    rw [CoinSpend.onLedger, Option.isSome_map] at hsome
    exact ⟨coinSpend, hmem, hcoin, hsome⟩

theorem SpentBy.mono {id : Bytes32} (h : SpentBy chain m id) (hle : m ≤ n) :
    SpentBy chain n id := by
  rw [spentBy_iff] at h ⊢
  rw [ledgerOf_take] at h ⊢
  exact (List.IsPrefix.map Spend.coin (spends_take_isPrefix _ hle)).subset h

theorem HonestChain.causal_take (honest : HonestChain chain) (n : Nat) :
    Causal (spends (ledgerOf (chain.take n))) := by
  rw [ledgerOf_take]
  exact honest.consistent.causal.take n

theorem spends_take_split (chain : Chain) (hle : m ≤ n) :
    ∃ later, spends (ledgerOf (chain.take n)) = spends (ledgerOf (chain.take m)) ++ later := by
  rw [ledgerOf_take, ledgerOf_take]
  obtain ⟨later, hsplit⟩ := spends_take_isPrefix (ledgerOf chain) hle
  exact ⟨later, hsplit.symm⟩

theorem HonestChain.live_unspent (honest : HonestChain chain)
    (hlive : lineageOf launcherId (chain.take n) = .live tip) : ¬ SpentBy chain n tip := by
  rw [spentBy_iff]
  exact Lineage.live_unspent (honest.causal_take n) hlive

theorem melted_spentBy (h : lineageOf launcherId (chain.take n) = .melted tip) :
    SpentBy chain n tip := by
  obtain ⟨s, hs, hcoin, -⟩ := Lineage.melted_spent h
  rw [spentBy_iff, ← hcoin]
  exact List.mem_map_of_mem hs

theorem HonestChain.melted_iff_not_recreated (honest : HonestChain chain) (hle : m ≤ n)
    (hlive : lineageOf launcherId (chain.take m) = .live tip) (hspent : SpentBy chain n tip) :
    lineageOf launcherId (chain.take n) = .melted tip ↔ ¬ RecreatedBy chain n tip := by
  obtain ⟨later, hsplit⟩ := spends_take_split chain hle
  have hcausal := honest.causal_take n
  rw [spentBy_iff, hsplit] at hspent
  rw [hsplit] at hcausal
  rw [recreatedBy_iff, lineageOf, hsplit]
  exact Lineage.melted_iff_not_recreated hcausal hlive hspent

theorem mem_coinSpendsOf_of_heir {s : Spend Bytes32} (hs : s ∈ spends (ledgerOf (chain.take n)))
    (hheir : s.heir = some tip) :
    ∃ coinSpend ∈ coinSpendsOf (chain.take n), ∃ coin, recreation coinSpend = some coin ∧
      coinId coin = tip := by
  rw [spends_ledgerOf] at hs
  obtain ⟨coinSpend, hmem, rfl⟩ := List.mem_map.1 hs
  obtain ⟨coin, hcoin, hid⟩ := Option.map_eq_some_iff.1 hheir
  exact ⟨coinSpend, hmem, coin, hcoin, hid⟩

theorem tip_recreated (h : lineageOf launcherId (chain.take n) = .live tip ∨
      lineageOf launcherId (chain.take n) = .melted tip) :
    ∃ coinSpend ∈ coinSpendsOf (chain.take n), ∃ coin, recreation coinSpend = some coin ∧
      coinId coin = tip := by
  rcases h with hlive | hmelted
  · obtain ⟨s, hs, hheir⟩ := Lineage.heir_of_live hlive
    exact mem_coinSpendsOf_of_heir hs hheir
  · obtain ⟨s, hs, hheir⟩ := Lineage.heir_of_melted hmelted
    exact mem_coinSpendsOf_of_heir hs hheir

theorem HonestChain.recreation_created (honest : HonestChain chain) {coinSpend : CoinSpend}
    {coin : Coin} (hmem : coinSpend ∈ coinSpendsOf chain) (h : recreation coinSpend = some coin) :
    coinId coin ∈ coinSpend.created := by
  have hs : coinSpend.onLedger ∈ spends (ledgerOf chain) := by
    rw [spends_ledgerOf]
    exact List.mem_map_of_mem hmem
  refine honest.consistent.causal.heir_created _ hs (coinId coin) ?_
  rw [CoinSpend.onLedger, h]
  rfl

theorem HonestChain.creator_recreates (honest : HonestChain chain)
    (h : lineageOf launcherId (chain.take n) = .live tip ∨
      lineageOf launcherId (chain.take n) = .melted tip)
    {coinSpend : CoinSpend} (hmem : coinSpend ∈ coinSpendsOf chain)
    (hcreated : tip ∈ coinSpend.created) :
    ∃ coin, recreation coinSpend = some coin ∧ coinId coin = tip := by
  obtain ⟨creator, hcreator, coin, hcoin, rfl⟩ := tip_recreated h
  have howns := honest.recreation_created (mem_of_take hcreator) hcoin
  have hsame := honest.creator_unique hmem (mem_of_take hcreator) hcreated howns
  exact ⟨coin, by rw [hsame, hcoin], rfl⟩

theorem HonestChain.spender_unique (honest : HonestChain chain) {spend other : CoinSpend}
    (h : spend ∈ coinSpendsOf chain) (hother : other ∈ coinSpendsOf chain)
    (hid : coinId spend.coin = coinId other.coin) : spend = other := by
  have honce := honest.consistent.causal.spent_once
  rw [spends_ledgerOf, List.map_map] at honce
  exact List.inj_on_of_nodup_map honce h hother hid

omit [CoinHash] [Clvm] in
theorem Includes.mem {bundle : SpendBundle} {height : Nat} {coinSpend : CoinSpend}
    (h : Includes chain bundle height) (hmem : coinSpend ∈ bundle.coinSpends) :
    coinSpend ∈ coinSpendsOf chain :=
  mem_of_take (h.mem_take hmem (Nat.lt_succ_self height))

end DigAccount
