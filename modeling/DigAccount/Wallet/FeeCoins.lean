import DigAccount.Wallet.CatTransfer
import DigAccount.Wallet.Selection

namespace DigAccount

open LargestFirst

variable [CoinHash] {puzzleHash : Bytes32} {feeMojos : Nat} {reserved : List Bytes32}
  {records : List CoinRecord} {held free : List Coin}

def freeCoins (puzzleHash : Bytes32) (reserved : List Bytes32) (records : List CoinRecord) :
    List Coin :=
  (confirmedUnspent puzzleHash records []).filter fun coin => coinId coin ∉ reserved

inductive FeeVerdict (feeMojos : Nat) (held free : List Coin) :
    Except CatTransferError (List Coin) → Prop
  | unjudged (hover : u64Max < totalMojos held) :
      FeeVerdict feeMojos held free (.error .balanceUnjudgeable)
  | paid {coin : Coin} (hfree : coin ∈ free) (hcovers : feeMojos ≤ coin.amount) :
      FeeVerdict feeMojos held free (.ok [coin])
  | busy (hfits : totalMojos held ≤ u64Max) (hfree : ∀ coin ∈ free, coin.amount < feeMojos)
      (howned : ∃ coin ∈ held, feeMojos ≤ coin.amount) :
      FeeVerdict feeMojos held free
        (.error (.coinsReserved feeMojos (totalMojos held) (totalMojos free)))
  | small (hfits : totalMojos held ≤ u64Max) (hfree : ∀ coin ∈ free, coin.amount < feeMojos)
      (hheld : ∀ coin ∈ held, coin.amount < feeMojos) :
      FeeVerdict feeMojos held free (.error (.noXchForFee feeMojos (totalMojos held)))

theorem sorted_perm :
    ((confirmedUnspent puzzleHash records []).mergeSort smallerFirst).Perm
      (confirmedUnspent puzzleHash records []) :=
  List.mergeSort_perm _ _

theorem sortedFree_perm :
    (((confirmedUnspent puzzleHash records []).mergeSort smallerFirst).filter
      fun coin => coinId coin ∉ reserved).Perm (freeCoins puzzleHash reserved records) :=
  sorted_perm.filter _

theorem chooseFeeCoins_eq :
    chooseFeeCoins puzzleHash feeMojos reserved records =
      let held := confirmedUnspent puzzleHash records []
      let sorted := held.mergeSort smallerFirst
      if u64Max < totalMojos held then .error .balanceUnjudgeable
      else
        match (sorted.filter fun coin => coinId coin ∉ reserved).find? fun coin =>
          feeMojos ≤ coin.amount with
        | some coin => .ok [coin]
        | none =>
            if sorted.any fun coin => feeMojos ≤ coin.amount then
              .error (.coinsReserved feeMojos (totalMojos held)
                (totalMojos (freeCoins puzzleHash reserved records)))
            else .error (.noXchForFee feeMojos (totalMojos held)) := by
  have hle : totalMojos (freeCoins puzzleHash reserved records) ≤
      totalMojos (confirmedUnspent puzzleHash records []) := totalMojos_filter_le _ _
  have htotal : totalMojos (((confirmedUnspent puzzleHash records []).mergeSort
      smallerFirst).filter fun coin => coinId coin ∉ reserved) =
        totalMojos (freeCoins puzzleHash reserved records) := total_perm sortedFree_perm
  rw [chooseFeeCoins]
  dsimp only
  rw [totalAmount_eq, totalAmount_eq, htotal]
  by_cases hover : u64Max < totalMojos (confirmedUnspent puzzleHash records [])
  · rw [if_pos hover, if_pos hover]
  · rewrite [if_neg hover, if_neg hover, if_neg (by omega)]
    rfl

theorem chooseFeeCoins_verdict :
    FeeVerdict feeMojos (confirmedUnspent puzzleHash records [])
      (freeCoins puzzleHash reserved records)
      (chooseFeeCoins puzzleHash feeMojos reserved records) := by
  rw [chooseFeeCoins_eq]
  dsimp only
  split
  · exact .unjudged ‹_›
  rename_i hover
  split
  · rename_i coin hfound
    have hcovers : feeMojos ≤ coin.amount := by simpa using List.find?_some hfound
    exact .paid (sortedFree_perm.mem_iff.1 (List.mem_of_find?_eq_some hfound)) hcovers
  rename_i hnone
  have hsmall : ∀ coin ∈ freeCoins puzzleHash reserved records, coin.amount < feeMojos := by
    intro coin hcoin
    simpa using List.find?_eq_none.1 hnone coin (sortedFree_perm.mem_iff.2 hcoin)
  split
  · rename_i howned
    obtain ⟨coin, hcoin, hcovers⟩ := List.any_eq_true.1 howned
    exact .busy (Nat.le_of_not_lt hover) hsmall
      ⟨coin, sorted_perm.mem_iff.1 hcoin, of_decide_eq_true hcovers⟩
  · rename_i hnot
    refine .small (Nat.le_of_not_lt hover) hsmall fun coin hcoin => Nat.lt_of_not_le ?_
    intro hcovers
    exact hnot (List.any_eq_true.2 ⟨coin, sorted_perm.mem_iff.2 hcoin, decide_eq_true hcovers⟩)

omit [CoinHash] in
theorem FeeVerdict.refused {result : Except CatTransferError (List Coin)}
    (h : FeeVerdict feeMojos held free result) (hfits : totalMojos held ≤ u64Max)
    (hfree : ∀ coin ∈ free, coin.amount < feeMojos) :
    result = .error (if ∃ coin ∈ held, feeMojos ≤ coin.amount then
      .coinsReserved feeMojos (totalMojos held) (totalMojos free)
    else .noXchForFee feeMojos (totalMojos held)) := by
  cases h with
  | unjudged hover => exact absurd hfits (Nat.not_le_of_lt hover)
  | paid hmem hcovers => exact absurd hcovers (Nat.not_le_of_lt (hfree _ hmem))
  | busy _ _ howned => rw [if_pos howned]
  | small _ _ hheld =>
      rw [if_neg]
      rintro ⟨coin, hmem, hcovers⟩
      exact absurd hcovers (Nat.not_le_of_lt (hheld coin hmem))

structure FeeRefusalTrue (feeMojos : Nat) (held free : List Coin)
    (result : Except CatTransferError (List Coin)) : Prop where
  short : ∀ required available, result = .error (.noXchForFee required available) →
    required = feeMojos ∧ available = totalMojos held ∧ available < required
  busy : ∀ required available selectable,
    result = .error (.coinsReserved required available selectable) →
      required = feeMojos ∧ available = totalMojos held ∧ selectable = totalMojos free ∧
        required ≤ available ∧ selectable < required

def FeeDecidedByTotals (feeMojos : Nat) (held free : List Coin) : Prop :=
  u64Max < totalMojos held ∨ (∃ coin ∈ free, feeMojos ≤ coin.amount) ∨
    totalMojos free < feeMojos ∧
      (totalMojos held < feeMojos ∨ ∃ coin ∈ held, feeMojos ≤ coin.amount)

omit [CoinHash] in
theorem FeeVerdict.refusalTrue {result : Except CatTransferError (List Coin)}
    (h : FeeVerdict feeMojos held free result) (hdecided : FeeDecidedByTotals feeMojos held free) :
    FeeRefusalTrue feeMojos held free result := by
  cases h with
  | unjudged hover =>
      exact ⟨fun _ _ hsame => (by cases hsame), fun _ _ _ hsame => (by cases hsame)⟩
  | paid hfree hcovers =>
      exact ⟨fun _ _ hsame => (by cases hsame), fun _ _ _ hsame => (by cases hsame)⟩
  | busy hfits hfree howned =>
      refine ⟨fun _ _ hsame => (by cases hsame), ?_⟩
      rintro required available selectable ⟨⟩
      obtain ⟨coin, hheld, hcovers⟩ := howned
      have hcounted : coin.amount ≤ totalMojos held :=
        List.le_sum_of_mem (List.mem_map_of_mem hheld)
      refine ⟨rfl, rfl, rfl, hcovers.trans hcounted, ?_⟩
      rcases hdecided with hover | ⟨coin, hmem, henough⟩ | ⟨hshort, -⟩
      · omega
      · exact absurd henough (Nat.not_le_of_lt (hfree coin hmem))
      · exact hshort
  | small hfits hfree hheld =>
      refine ⟨?_, fun _ _ _ hsame => (by cases hsame)⟩
      rintro required available ⟨⟩
      refine ⟨rfl, rfl, ?_⟩
      rcases hdecided with hover | ⟨coin, hmem, henough⟩ | ⟨-, hshort | ⟨coin, hmem, henough⟩⟩
      · omega
      · exact absurd henough (Nat.not_le_of_lt (hfree coin hmem))
      · exact hshort
      · exact absurd henough (Nat.not_le_of_lt (hheld coin hmem))

omit [CoinHash] in
theorem FeeVerdict.decided {result : Except CatTransferError (List Coin)}
    (h : FeeVerdict feeMojos held free result) (hle : totalMojos free ≤ totalMojos held)
    (htrue : FeeRefusalTrue feeMojos held free result) :
    FeeDecidedByTotals feeMojos held free := by
  cases h with
  | unjudged hover => exact .inl hover
  | paid hfree hcovers => exact .inr (.inl ⟨_, hfree, hcovers⟩)
  | busy hfits hfree howned =>
      obtain ⟨-, -, -, -, hshort⟩ := htrue.busy _ _ _ rfl
      exact .inr (.inr ⟨hshort, .inr howned⟩)
  | small hfits hfree hheld =>
      obtain ⟨-, -, hshort⟩ := htrue.short _ _ rfl
      exact .inr (.inr ⟨hle.trans_lt hshort, .inl hshort⟩)

structure FeeRefusalsTrue (oracle : HostOracle) (i : Nat) (puzzleHash : Bytes32)
    (feeMojos : Nat) (reserved : List Bytes32) : Prop where
  short : ∀ required available,
    (selectFeeCoins puzzleHash feeMojos reserved).run oracle i =
        .error (.noXchForFee required available) →
      ∃ records, oracle i (.coinRecordsByPuzzleHash puzzleHash false) = .ok records ∧
        required = feeMojos ∧
        available = totalMojos (confirmedUnspent puzzleHash records []) ∧
        available < required
  busy : ∀ required available selectable,
    (selectFeeCoins puzzleHash feeMojos reserved).run oracle i =
        .error (.coinsReserved required available selectable) →
      ∃ records, oracle i (.coinRecordsByPuzzleHash puzzleHash false) = .ok records ∧
        required = feeMojos ∧
        available = totalMojos (confirmedUnspent puzzleHash records []) ∧
        selectable = totalMojos (freeCoins puzzleHash reserved records) ∧
        required ≤ available ∧ selectable < required

theorem selectFeeCoins_eq (hfee : feeMojos ≠ 0) :
    selectFeeCoins puzzleHash feeMojos reserved =
      listThenConfirm .chainUnreachable puzzleHash
        (chooseFeeCoins puzzleHash feeMojos reserved) := by
  rw [selectFeeCoins, if_neg hfee]
  rfl

theorem selectFeeCoins_refused {oracle : HostOracle} {i : Nat} {e : CatTransferError}
    (hfee : feeMojos ≠ 0) (hreached : ∀ reason, e ≠ .chainUnreachable reason)
    (h : oracle i (.coinRecordsByPuzzleHash puzzleHash false) = .ok records) :
    (selectFeeCoins puzzleHash feeMojos reserved).run oracle i = .error e ↔
      chooseFeeCoins puzzleHash feeMojos reserved records = .error e := by
  rw [selectFeeCoins_eq hfee]
  exact listThenConfirm_refused hreached h

theorem selectFeeCoins_listed {oracle : HostOracle} {i : Nat} {e : CatTransferError}
    (hreached : ∀ reason, e ≠ .chainUnreachable reason)
    (h : (selectFeeCoins puzzleHash feeMojos reserved).run oracle i = .error e) :
    feeMojos ≠ 0 ∧
      ∃ records, oracle i (.coinRecordsByPuzzleHash puzzleHash false) = .ok records := by
  by_cases hfee : feeMojos = 0
  · rw [selectFeeCoins, if_pos hfee] at h
    cases h
  · rw [selectFeeCoins_eq hfee] at h
    refine ⟨hfee, listThenConfirm_listed (fun reason hsame => ?_) h⟩
    exact hreached reason (Except.error.inj hsame)

theorem selectFeeCoins_true {oracle : HostOracle} {i : Nat} {e : CatTransferError}
    (hdecided : feeMojos = 0 ∨
      ∀ records, oracle i (.coinRecordsByPuzzleHash puzzleHash false) = .ok records →
        FeeDecidedByTotals feeMojos (confirmedUnspent puzzleHash records [])
          (freeCoins puzzleHash reserved records))
    (hreached : ∀ reason, e ≠ .chainUnreachable reason)
    (h : (selectFeeCoins puzzleHash feeMojos reserved).run oracle i = .error e) :
    ∃ records, oracle i (.coinRecordsByPuzzleHash puzzleHash false) = .ok records ∧
      FeeRefusalTrue feeMojos (confirmedUnspent puzzleHash records [])
        (freeCoins puzzleHash reserved records) (.error e) := by
  obtain ⟨hfee, records, hlisted⟩ := selectFeeCoins_listed hreached h
  rw [selectFeeCoins_refused hfee hreached hlisted] at h
  have hverdict : FeeVerdict feeMojos (confirmedUnspent puzzleHash records [])
      (freeCoins puzzleHash reserved records) (.error e) := h ▸ chooseFeeCoins_verdict
  exact ⟨records, hlisted, hverdict.refusalTrue ((hdecided.resolve_left hfee) records hlisted)⟩

theorem fee_refusals_true_iff (oracle : HostOracle) (i : Nat) (puzzleHash : Bytes32)
    (feeMojos : Nat) (reserved : List Bytes32) :
    FeeRefusalsTrue oracle i puzzleHash feeMojos reserved ↔
      feeMojos = 0 ∨
        ∀ records, oracle i (.coinRecordsByPuzzleHash puzzleHash false) = .ok records →
          FeeDecidedByTotals feeMojos (confirmedUnspent puzzleHash records [])
            (freeCoins puzzleHash reserved records) := by
  constructor
  · intro htrue
    refine or_iff_not_imp_left.2 fun hfee records hlisted => ?_
    refine chooseFeeCoins_verdict.decided (totalMojos_filter_le _ _) ⟨?_, ?_⟩
    · intro required available hchosen
      obtain ⟨answered, hanswered, hcause⟩ := htrue.short required available
        ((selectFeeCoins_refused hfee (fun reason hsame => by cases hsame) hlisted).2 hchosen)
      cases hlisted.symm.trans hanswered
      exact hcause
    · intro required available selectable hchosen
      obtain ⟨answered, hanswered, hcause⟩ := htrue.busy required available selectable
        ((selectFeeCoins_refused hfee (fun reason hsame => by cases hsame) hlisted).2 hchosen)
      cases hlisted.symm.trans hanswered
      exact hcause
  · intro hdecided
    refine ⟨fun required available hrun => ?_, fun required available selectable hrun => ?_⟩
    · obtain ⟨records, hlisted, htrue⟩ :=
        selectFeeCoins_true hdecided (fun reason hsame => by cases hsame) hrun
      exact ⟨records, hlisted, htrue.short required available rfl⟩
    · obtain ⟨records, hlisted, htrue⟩ :=
        selectFeeCoins_true hdecided (fun reason hsame => by cases hsame) hrun
      exact ⟨records, hlisted, htrue.busy required available selectable rfl⟩

section Example

def fivesListing : List CoinRecord := [⟨⟨1, 5, 5⟩, some 4, none⟩, ⟨⟨2, 5, 5⟩, some 4, none⟩]

omit [CoinHash] in
theorem covered_fee_reported_missing :
    letI := pairHash
    (selectFeeCoins 5 8 []).run (listingOracle fivesListing) 0 = .error (.noXchForFee 8 10) ∧
      (selectFeeCoins 5 8 [coinId tenCoin]).run
          (listingOracle (confirmedRecord tenCoin :: fivesListing)) 0 =
        .error (.coinsReserved 8 20 10) ∧
      ¬ FeeRefusalsTrue (listingOracle fivesListing) 0 5 8 [] ∧
      ¬ FeeRefusalsTrue (listingOracle (confirmedRecord tenCoin :: fivesListing)) 0 5 8
        [coinId tenCoin] := by
  let _ := pairHash
  have hmissing : (selectFeeCoins 5 8 []).run (listingOracle fivesListing) 0 =
      .error (.noXchForFee 8 10) := by
    refine (selectFeeCoins_refused (by decide) (fun reason hsame => by cases hsame) rfl).2 ?_
    exact chooseFeeCoins_verdict.refused (by decide) (by decide)
  have hbusy : (selectFeeCoins 5 8 [coinId tenCoin]).run
      (listingOracle (confirmedRecord tenCoin :: fivesListing)) 0 =
        .error (.coinsReserved 8 20 10) := by
    refine (selectFeeCoins_refused (by decide) (fun reason hsame => by cases hsame) rfl).2 ?_
    exact chooseFeeCoins_verdict.refused (by decide) (by decide)
  refine ⟨hmissing, hbusy, fun htrue => ?_, fun htrue => ?_⟩
  · obtain ⟨-, -, -, -, hshort⟩ := htrue.short 8 10 hmissing
    omega
  · obtain ⟨-, -, -, -, -, -, hshort⟩ := htrue.busy 8 20 10 hbusy
    omega

end Example

end DigAccount
