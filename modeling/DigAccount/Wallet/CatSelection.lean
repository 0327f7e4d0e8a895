import DigAccount.Wallet.Selection
import DigAccount.Wallet.Stranded

namespace DigAccount

inductive SameRefusal : TransferError → CatTransferError → Prop
  | short (required available : Nat) :
      SameRefusal (.insufficientFunds required available) (.insufficientDig required available)
  | busy (required available selectable : Nat) :
      SameRefusal (.coinsReserved required available selectable)
        (.coinsReserved required available selectable)
  | crowded (needed cap : Nat) :
      SameRefusal (.tooManyInputCoins needed cap) (.tooManyInputCoins needed cap)
  | unjudged : SameRefusal .balanceUnjudgeable .balanceUnjudgeable
  | unreached (reason : String) :
      SameRefusal (.chainUnreachable reason) (.chainUnreachable reason)

inductive SameOutcome :
    Except TransferError (List Coin) → Except CatTransferError (List Coin) → Prop
  | selected (coins : List Coin) : SameOutcome (.ok coins) (.ok coins)
  | refused {xch : TransferError} {cat : CatTransferError} (h : SameRefusal xch cat) :
      SameOutcome (.error xch) (.error cat)

variable [CoinHash] {puzzleHash : Bytes32} {required : Nat} {reserved : List Bytes32}
  {records : List CoinRecord}

def HidesUnjudgeable (puzzleHash : Bytes32) (required : Nat) (records : List CoinRecord) : Prop :=
  totalMojos (confirmedUnspent puzzleHash records []) ≤ u64Max ∧
    totalMojos (confirmedUnspent puzzleHash records []) < required ∧
    ∃ record ∈ records, record.unjudgeableAt puzzleHash = true

theorem confirmedUnspent_eq (records : List CoinRecord) (seen : List Bytes32) :
    confirmedUnspent puzzleHash records seen = (judgeListing puzzleHash records seen).1 := by
  induction records generalizing seen with
  | nil => rfl
  | cons record records ih =>
      rw [confirmedUnspent, judgeListing]
      by_cases hspent : record.isSpent = true
      · rw [if_pos (.inl hspent), if_pos hspent, ih]
      by_cases hforeign : record.coin.puzzleHash ≠ puzzleHash
      · rw [if_neg hspent, if_pos hforeign, if_pos hforeign, ite_self, ih]
      by_cases hunknown : record.confirmedHeight.isNone = true
      · rw [if_pos (.inr hunknown), if_neg hspent, if_neg hforeign, if_pos hunknown, ih]
      · rw [if_neg (not_or.2 ⟨hspent, hunknown⟩), if_neg hforeign, if_neg hspent, if_neg hforeign,
          if_neg hunknown]
        split
        · exact ih seen
        · rw [ih]

omit [CoinHash] in
theorem fewestCatCoins_same (pool : List Coin) :
    SameOutcome (fewestCoins required pool) (fewestCatCoins required pool) := by
  rw [fewestCoins, fewestCatCoins]
  cases pool.find? fun coin => required ≤ coin.amount with
  | some single => exact .selected [single]
  | none =>
      rw [maxCatTransferInputCoins]
      dsimp only
      split
      · exact .refused (.crowded _ _)
      · exact .selected _

theorem hidesUnjudgeable_iff :
    HidesUnjudgeable puzzleHash required records ↔
      ∃ available id ids,
        totalAmount ((judgeListing puzzleHash records []).1.mergeSort smallerFirst) =
          some available ∧ available < required ∧
        (judgeListing puzzleHash records []).2 = id :: ids := by
  rw [HidesUnjudgeable, confirmedUnspent_eq, ← judgeListing_unjudgeable_ne_nil records []]
  constructor
  · rintro ⟨hfits, hshort, hsome⟩
    obtain ⟨id, ids, hids⟩ := List.exists_cons_of_ne_nil hsome
    refine ⟨_, id, ids, totalAmount_eq_some.2 ⟨?_, hfits⟩, hshort, hids⟩
    exact totalMojos_mergeSort _
  · rintro ⟨available, id, ids, htotal, hshort, hids⟩
    obtain ⟨hsum, hfits⟩ := totalAmount_eq_some.1 htotal
    rw [hsum.symm.trans (totalMojos_mergeSort _)] at hfits hshort
    exact ⟨hfits, hshort, hids ▸ List.cons_ne_nil id ids⟩

theorem chooseCatCoins_same (h : ¬ HidesUnjudgeable puzzleHash required records) :
    SameOutcome (chooseInputCoins puzzleHash required reserved records)
      (chooseCatCoins puzzleHash required reserved records) := by
  rw [hidesUnjudgeable_iff] at h
  rw [chooseInputCoins, chooseCatCoins, confirmedUnspent_eq]
  dsimp only
  cases htotal : totalAmount ((judgeListing puzzleHash records []).1.mergeSort smallerFirst) with
  | none => exact .refused .unjudged
  | some available =>
      dsimp only
      split
      · rename_i hshort
        cases hids : (judgeListing puzzleHash records []).2 with
        | nil => exact .refused (.short required available)
        | cons id ids => exact absurd ⟨available, id, ids, htotal, hshort, hids⟩ h
      generalize List.filter (fun coin => decide (coinId coin ∉ reserved))
        ((judgeListing puzzleHash records []).1.mergeSort smallerFirst) = free
      cases totalAmount free with
      | none => exact .refused .unjudged
      | some selectable =>
          dsimp only
          split
          · exact .refused (.busy required available selectable)
          · exact fewestCatCoins_same free

theorem chooseCatCoins_hides (reserved : List Bytes32)
    (h : HidesUnjudgeable puzzleHash required records) :
    ∃ id available,
      chooseInputCoins puzzleHash required reserved records = .error (.spendabilityUnknown id) ∧
      chooseCatCoins puzzleHash required reserved records =
        .error (.insufficientDig required available) := by
  obtain ⟨available, id, ids, htotal, hshort, hids⟩ := hidesUnjudgeable_iff.1 h
  refine ⟨id, available, ?_, ?_⟩
  · rw [chooseInputCoins]
    dsimp only
    rw [htotal, hids]
    exact if_pos hshort
  · rw [chooseCatCoins, confirmedUnspent_eq]
    dsimp only
    rw [htotal]
    exact if_pos hshort

section Run

variable [CatDrivers] {oracle : HostOracle} {i : Nat} {assetId p2PuzzleHash : Bytes32}

theorem selectCatCoins_eq :
    selectCatCoins assetId p2PuzzleHash required reserved =
      listThenConfirm .chainUnreachable (catCurriedPuzzleHash assetId p2PuzzleHash)
        (chooseCatCoins (catCurriedPuzzleHash assetId p2PuzzleHash) required reserved) := rfl

omit [CatDrivers] in
theorem confirmChosen_same (selected : List Coin) :
    SameOutcome (confirmChosen TransferError.chainUnreachable oracle i selected)
      (confirmChosen CatTransferError.chainUnreachable oracle i selected) := by
  rw [confirmChosen, confirmChosen]
  cases (confirmAllSpendableByName selected).run oracle.chainSide i with
  | error e => exact .refused (.unreached _)
  | ok confirmed => exact .selected selected

omit [CatDrivers] in
theorem SameOutcome.confirmed {xch : Except TransferError (List Coin)}
    {cat : Except CatTransferError (List Coin)} (h : SameOutcome xch cat) :
    SameOutcome (xch.bind (confirmChosen .chainUnreachable oracle i))
      (cat.bind (confirmChosen .chainUnreachable oracle i)) := by
  cases h with
  | selected coins => exact confirmChosen_same coins
  | refused h => exact .refused h

theorem selectors_agree_iff (oracle : HostOracle) (i : Nat)
    (assetId p2PuzzleHash : Bytes32) (required : Nat) (reserved : List Bytes32) :
    SameOutcome
        ((selectInputCoins (catCurriedPuzzleHash assetId p2PuzzleHash) required reserved).run
          oracle i)
        ((selectCatCoins assetId p2PuzzleHash required reserved).run oracle i) ↔
      ∀ records,
        oracle i (.coinRecordsByPuzzleHash (catCurriedPuzzleHash assetId p2PuzzleHash) false) =
          .ok records →
        ¬ HidesUnjudgeable (catCurriedPuzzleHash assetId p2PuzzleHash) required records := by
  rw [selectInputCoins_eq, selectCatCoins_eq]
  cases hread : oracle i
      (.coinRecordsByPuzzleHash (catCurriedPuzzleHash assetId p2PuzzleHash) false) with
  | error reason =>
      rw [run_listThenConfirm_of_error hread, run_listThenConfirm_of_error hread]
      exact iff_of_true (.refused (.unreached reason)) fun records hsame => by cases hsame
  | ok records =>
      rw [run_listThenConfirm_of_ok hread, run_listThenConfirm_of_ok hread]
      constructor
      · rintro hsame _ ⟨⟩ hhides
        obtain ⟨id, available, hxch, hcat⟩ := chooseCatCoins_hides reserved hhides
        rw [hxch, hcat] at hsame
        cases hsame with
        | refused h => cases h
      · intro hshown
        exact (chooseCatCoins_same (hshown records rfl)).confirmed

end Run

section Example

def unjudgeableDig : Coin := ⟨3, 13, 7⟩

def digListing : List CoinRecord := [digRecord, ⟨unjudgeableDig, none, none⟩]

omit [CoinHash] in
theorem dig_shortfall_blamed_on_balance :
    letI := pairHash
    letI := ringDrivers
    (selectInputCoins (catCurriedPuzzleHash 8 5) 15 []).run (listingOracle digListing) 0 =
        .error (.spendabilityUnknown (coinId unjudgeableDig)) ∧
      (selectCatCoins 8 5 15 []).run (listingOracle digListing) 0 =
        .error (.insufficientDig 15 10) ∧
      ¬ SameOutcome
        ((selectInputCoins (catCurriedPuzzleHash 8 5) 15 []).run (listingOracle digListing) 0)
        ((selectCatCoins 8 5 15 []).run (listingOracle digListing) 0) := by
  let _ := pairHash
  let _ := ringDrivers
  have hread : listingOracle digListing 0
      (.coinRecordsByPuzzleHash (catCurriedPuzzleHash 8 5) false) = .ok digListing := rfl
  have hxch : (selectInputCoins (catCurriedPuzzleHash 8 5) 15 []).run (listingOracle digListing) 0 =
      .error (.spendabilityUnknown (coinId unjudgeableDig)) := by
    rw [selectInputCoins_eq, run_listThenConfirm_of_ok hread]
    decide +kernel
  have hcat : (selectCatCoins 8 5 15 []).run (listingOracle digListing) 0 =
      .error (.insufficientDig 15 10) := by
    rw [selectCatCoins_eq, run_listThenConfirm_of_ok hread]
    decide +kernel
  refine ⟨hxch, hcat, fun hsame => ?_⟩
  rw [hxch, hcat] at hsame
  cases hsame with
  | refused h => cases h

end Example

end DigAccount
