import DigAccount.Chain.Node
import DigAccount.Foundation.Reorganisation
import DigAccount.Mint.Evidence
import Mathlib.Data.List.Flatten

namespace DigAccount

open Ledger

variable [CoinHash] [Clvm]

def Reorganised (chain later : Chain) : Prop :=
  Reorganisation.Run minConfirmationDepth HonestChain chain later

structure History where
  snapshot : Nat → Chain
  honest : ∀ k, HonestChain (snapshot k)
  reorganised : ∀ k, Reorganised (snapshot k) (snapshot (k + 1))
  pruned : Nat → Bytes32 → Prop

structure TruthfulSource (history : History) where
  answer : Oracle
  truthful : ∀ i q, Truthful (history.snapshot i) (history.pruned i) q (answer i q)

structure SpentForGood (chain : Chain) (bundle : SpendBundle) (id : Bytes32) (height : Nat) :
    Prop where
  spent : spentHeight (ledgerOf chain) id = some height
  stays : ∀ later, Reorganised chain later →
    later[height]? = chain[height]? ∧ spentHeight (ledgerOf later) id = some height
  never_included : ∀ later, Reorganised chain later → ∀ h, ¬ Includes later bundle h

def Reorganised.emptied (chain : Chain) (height : Nat) : Chain :=
  chain.take height ++ List.replicate (chain.length - height) ⟨[], []⟩

section Reorganised

variable {chain later : Chain} {id : Bytes32} {height n m : Nat} {bundle : SpendBundle}

theorem HonestChain.rollback (honest : HonestChain chain) (n m : Nat) :
    HonestChain (chain.take n ++ List.replicate m ⟨[], []⟩) := by
  have hspends : spends (ledgerOf (chain.take n ++ List.replicate m ⟨[], []⟩)) =
      spends ((ledgerOf chain).take n) := by
    simp [ledgerOf, spends, ChainBlock.onLedger, List.map_take]
  have hcreated : (ledgerOf (chain.take n ++ List.replicate m ⟨[], []⟩)).flatMap Block.created =
      ((ledgerOf chain).take n).flatMap Block.created := by
    simp [ledgerOf, Block.created, ChainBlock.onLedger, List.map_take]
  refine ⟨⟨?_, ?_⟩, ?_⟩
  · rw [hspends]
    exact honest.consistent.causal.take n
  · rw [hcreated]
    exact honest.consistent.created_once.sublist ((List.take_sublist n _).flatMap _)
  · intro block hblock
    rcases Nat.eq_zero_or_pos (chain.take n).length with hempty | hpos
    · rw [List.eq_nil_of_length_eq_zero hempty, List.nil_append] at hblock
      rw [List.eq_of_mem_replicate (List.mem_of_getElem? hblock)]
    · rw [List.getElem?_append_left hpos] at hblock
      apply honest.genesis_unspent
      rw [List.length_take] at hpos
      rwa [List.getElem?_take_of_lt (by omega)] at hblock

theorem Reorganised.refl : Reorganised chain chain := Relation.ReflTransGen.refl

theorem spentHeight_lt (h : spentHeight (ledgerOf chain) id = some height) :
    height < chain.length := by
  obtain ⟨hlt, -⟩ := List.findIdx?_eq_some_iff_getElem.1 h
  simpa [ledgerOf] using hlt

theorem spentHeight_of_take (htake : later.take (height + 1) = chain.take (height + 1))
    (h : spentHeight (ledgerOf chain) id = some height) :
    spentHeight (ledgerOf later) id = some height := by
  have hearly : spentHeight ((ledgerOf later).take (height + 1)) id = some height := by
    rw [← ledgerOf_take, htake, ledgerOf_take]
    exact findIdx?_take.2 ⟨Nat.lt_succ_self height, h⟩
  exact (findIdx?_take.1 hearly).2

theorem Reorganised.keeps_spent (h : Reorganised chain later)
    (hspent : spentHeight (ledgerOf chain) id = some height)
    (hdeep : height + minConfirmationDepth ≤ chain.length) :
    spentHeight (ledgerOf later) id = some height ∧
      height + minConfirmationDepth ≤ later.length :=
  ⟨spentHeight_of_take (h.settled hdeep) hspent, hdeep.trans h.no_shorter⟩

theorem spentForGood_of_deep (honest : HonestChain chain)
    (hspent : spentHeight (ledgerOf chain) id = some height)
    (hdeep : height + minConfirmationDepth ≤ chain.length) (hid : bundle.Spends id)
    (hout : ∀ h, ¬ Includes chain bundle h) : SpentForGood chain bundle id height where
  spent := hspent
  stays later hlater := ⟨hlater.settled_getElem hdeep, (hlater.keeps_spent hspent hdeep).1⟩
  never_included later hlater h included := by
    have hat := included.spentHeight_eq (hlater.keeps honest) hid
    have hsame := hat.symm.trans (hlater.keeps_spent hspent hdeep).1
    obtain rfl : h = height := Option.some.inj hsame
    obtain ⟨block, hblock, hsub⟩ := included
    exact hout h ⟨block, (hlater.settled_getElem hdeep).symm.trans hblock, hsub⟩

theorem Reorganised.of_emptied (honest : HonestChain chain) (hheight : height ≤ chain.length)
    (hshallow : chain.length < height + minConfirmationDepth) :
    Reorganised chain (Reorganised.emptied chain height) := by
  apply Relation.ReflTransGen.single
  refine ⟨⟨height, Reorganisation.Step.replace hheight hshallow ?_⟩, honest.rollback ..⟩
  rw [List.length_replicate]
  omega

theorem emptied_unspent (hheight : height < chain.length) :
    spentHeight (ledgerOf (Reorganised.emptied chain height)) id ≠ some height := by
  intro hspent
  obtain ⟨hlt, hmem, -⟩ := List.findIdx?_eq_some_iff_getElem.1 hspent
  have hblock : (Reorganised.emptied chain height)[height]? = some ⟨[], []⟩ := by
    rw [Reorganised.emptied, List.getElem?_append_right (List.length_take_le ..), List.length_take,
      Nat.min_eq_left hheight.le, Nat.sub_self, List.getElem?_replicate]
    exact if_pos (by omega)
  have honLedger : (ledgerOf (Reorganised.emptied chain height))[height]? = some ⟨[], []⟩ := by
    rw [ledgerOf, List.getElem?_map, hblock]
    rfl
  rw [List.getElem?_eq_getElem hlt] at honLedger
  rw [Option.some.inj honLedger] at hmem
  simp [Block.spent] at hmem

theorem SpentForGood.deep (h : SpentForGood chain bundle id height) (honest : HonestChain chain) :
    height + minConfirmationDepth ≤ chain.length := by
  by_contra hshallow
  have hlt := spentHeight_lt h.spent
  have hrolled := Reorganised.of_emptied honest hlt.le (Nat.lt_of_not_le hshallow)
  exact emptied_unspent hlt (h.stays _ hrolled).2

theorem History.reorganised_le (history : History) {i j : Nat} (h : i ≤ j) :
    Reorganised (history.snapshot i) (history.snapshot j) := by
  induction j, h using Nat.le_induction with
  | base => exact Reorganised.refl
  | succ j _ ih => exact Relation.ReflTransGen.trans ih (history.reorganised j)

end Reorganised

namespace TruthfulSource

variable {history : History} (source : TruthfulSource history) {i : Nat} {id : Bytes32}

theorem absent (h : source.answer i (.coinRecord id) = .ok none) :
    confirmedHeight (ledgerOf (history.snapshot i)) id = none := by
  have htruth := source.truthful i (.coinRecord id)
  rwa [h] at htruth

theorem recorded {record : CoinRecord} (h : source.answer i (.coinRecord id) = .ok (some record)) :
    coinId record.coin = id ∧
      record.confirmedHeight = confirmedHeight (ledgerOf (history.snapshot i)) id ∧
      record.spentHeight = spentHeight (ledgerOf (history.snapshot i)) id := by
  have htruth := source.truthful i (.coinRecord id)
  rwa [h] at htruth

theorem peaked {peak : Nat} (h : source.answer i .peakHeight = .ok (some peak)) :
    peak = (history.snapshot i).length ∨ peak + 1 = (history.snapshot i).length := by
  have htruth := source.truthful i .peakHeight
  rwa [h] at htruth

def node (index : NodeIndex) (history : History) : TruthfulSource history where
  answer i := index.answer (history.snapshot i)
  truthful _ q := index.answer_truthful q

def sightings (coins : List Coin) (history : History) : TruthfulSource history where
  answer i
    | .peakHeight => .ok (some (history.snapshot i).length)
    | .coinRecord id =>
        match coins.find? fun coin => coinId coin = id with
        | some coin =>
            .ok (some ⟨coin, confirmedHeight (ledgerOf (history.snapshot i)) id,
              spentHeight (ledgerOf (history.snapshot i)) id⟩)
        | none =>
            if confirmedHeight (ledgerOf (history.snapshot i)) id = none then .ok none
            else .error "no preimage"
    | .parentSpend _ => .error "not served"
    | .resolveSingletonLineage _ => .error "not served"
    | .walkDidLineageToTip _ => .error "not served"
    | .proveLineage _ _ => .error (.other "not served")
    | .discoverDistributor _ => .error "not served"
    | .fetchProfileSlots _ _ => .error "not served"
    | .push _ => .error "not served"
  truthful i q := by
    cases q with
    | peakHeight => exact .inl rfl
    | coinRecord id =>
        dsimp only
        cases hfound : coins.find? fun coin => coinId coin = id with
        | some coin => exact ⟨by simpa using List.find?_some hfound, rfl, rfl⟩
        | none =>
            dsimp only
            split
            · assumption
            · trivial
    | parentSpend _ => trivial
    | resolveSingletonLineage _ => trivial
    | walkDidLineageToTip _ => trivial
    | proveLineage _ _ => trivial
    | discoverDistributor _ => trivial
    | fetchProfileSlots _ _ => trivial
    | push _ => trivial

theorem sightings_seen {coins : List Coin} {coin : Coin} (history : History) (i : Nat)
    (h : coins.find? (fun coin => coinId coin = id) = some coin) :
    (sightings coins history).answer i (.coinRecord id) =
      .ok (some ⟨coin, confirmedHeight (ledgerOf (history.snapshot i)) id,
        spentHeight (ledgerOf (history.snapshot i)) id⟩) := by
  simp only [sightings, h]

theorem sightings_unseen {coins : List Coin}
    (h : coins.find? (fun coin => coinId coin = id) = none)
    (hnone : confirmedHeight (ledgerOf (history.snapshot i)) id = none) :
    (sightings coins history).answer i (.coinRecord id) = .ok none := by
  simp only [sightings, h, hnone, if_true]

end TruthfulSource

end DigAccount
