import DigAccount.Foundation.LargestFirst
import DigAccount.Chain.Node
import DigAccount.Wallet.ListedCoins
import DigAccount.Wallet.Replacement
import Mathlib.Algebra.Order.Group.Nat
import Mathlib.Data.List.Dedup

namespace DigAccount

open LargestFirst

abbrev totalMojos (coins : List Coin) : Nat := total Coin.amount coins

def CoinRecord.unspentAt (puzzleHash : Bytes32) (record : CoinRecord) : Bool :=
  record.isSpent = false ∧ record.coin.puzzleHash = puzzleHash

def CoinRecord.spendableAt (puzzleHash : Bytes32) (record : CoinRecord) : Bool :=
  record.unspentAt puzzleHash && record.confirmedHeight.isSome

def CoinRecord.unjudgeableAt (puzzleHash : Bytes32) (record : CoinRecord) : Bool :=
  record.unspentAt puzzleHash && record.confirmedHeight.isNone

def listedSpendable (puzzleHash : Bytes32) (records : List CoinRecord) : List Coin :=
  ((records.filter (CoinRecord.spendableAt puzzleHash)).map CoinRecord.coin).dedup

def uncountedCoins (puzzleHash : Bytes32) (records : List CoinRecord) : List Coin :=
  ((records.filter (CoinRecord.unjudgeableAt puzzleHash)).map CoinRecord.coin).dedup.filter
    fun coin => coin ∉ listedSpendable puzzleHash records

theorem mem_listedSpendable {puzzleHash : Bytes32} {records : List CoinRecord} {coin : Coin} :
    coin ∈ listedSpendable puzzleHash records ↔
      ∃ record ∈ records, record.spendableAt puzzleHash ∧ record.coin = coin := by
  simp only [listedSpendable, List.mem_dedup, List.mem_map, List.mem_filter, and_assoc]

variable [CoinHash] {puzzleHash : Bytes32} {required : Nat} {reserved : List Bytes32}
  {records : List CoinRecord} {coins pool : List Coin}

def selectableCoins (puzzleHash : Bytes32) (reserved : List Bytes32)
    (records : List CoinRecord) : List Coin :=
  (listedSpendable puzzleHash records).filter fun coin => coinId coin ∉ reserved

section Judged

variable (hid : Function.Injective coinId)
include hid

theorem mem_judgeListing {coin : Coin} (seen : List Bytes32) :
    coin ∈ (judgeListing puzzleHash records seen).1 ↔
      coinId coin ∉ seen ∧ ∃ record ∈ records, record.spendableAt puzzleHash ∧
        record.coin = coin := by
  induction records generalizing seen with
  | nil => simp [judgeListing]
  | cons record records ih =>
      rw [judgeListing]
      simp only [List.exists_mem_cons_iff]
      split
      · rename_i hspent
        rw [ih]
        simp [CoinRecord.spendableAt, CoinRecord.unspentAt, hspent]
      split
      · rename_i hforeign
        rw [ih]
        simp [CoinRecord.spendableAt, CoinRecord.unspentAt, hforeign]
      split
      · rename_i hunknown
        rw [Option.isNone_iff_eq_none] at hunknown
        rw [ih]
        simp [CoinRecord.spendableAt, hunknown]
      rename_i hunspent hhome hconfirmed
      have hspendable : record.spendableAt puzzleHash = true := by
        simp_all [CoinRecord.spendableAt, CoinRecord.unspentAt, Option.isSome_iff_ne_none]
      split
      · rename_i hseen
        rw [ih]
        refine and_congr_right fun hfresh => (or_iff_right ?_).symm
        rintro ⟨-, rfl⟩
        exact hfresh hseen
      · rename_i hfresh
        rw [List.mem_cons, ih, List.mem_cons, not_or]
        constructor
        · rintro (rfl | ⟨⟨-, hnew⟩, hlisted⟩)
          · exact ⟨hfresh, .inl ⟨hspendable, rfl⟩⟩
          · exact ⟨hnew, .inr hlisted⟩
        · rintro ⟨hnew, ⟨-, rfl⟩ | hlisted⟩
          · exact .inl rfl
          · by_cases hsame : coinId coin = coinId record.coin
            · exact .inl (hid hsame)
            · exact .inr ⟨⟨hsame, hnew⟩, hlisted⟩

theorem nodup_judgeListing (records : List CoinRecord) (seen : List Bytes32) :
    (judgeListing puzzleHash records seen).1.Nodup := by
  induction records generalizing seen with
  | nil => exact List.nodup_nil
  | cons record records ih =>
      rw [judgeListing]
      split
      · exact ih seen
      split
      · exact ih seen
      split
      · exact ih seen
      split
      · exact ih seen
      · refine List.nodup_cons.2 ⟨fun hmem => ?_, ih _⟩
        exact ((mem_judgeListing hid _).1 hmem).1 (List.mem_cons_self ..)

theorem judgeListing_perm :
    (judgeListing puzzleHash records []).1.Perm (listedSpendable puzzleHash records) := by
  refine (List.perm_ext_iff_of_nodup (nodup_judgeListing hid records []) ?_).2 fun coin => ?_
  · exact List.nodup_dedup _
  · rw [mem_judgeListing hid, mem_listedSpendable]
    exact and_iff_right List.not_mem_nil

end Judged

theorem judgeListing_unjudgeable (records : List CoinRecord) (seen : List Bytes32) :
    (judgeListing puzzleHash records seen).2 = [] ↔
      ∀ record ∈ records, record.unjudgeableAt puzzleHash = false := by
  induction records generalizing seen with
  | nil => simp [judgeListing]
  | cons record records ih =>
      rw [judgeListing, List.forall_mem_cons]
      split
      · rename_i hspent
        rw [ih]
        simp [CoinRecord.unjudgeableAt, CoinRecord.unspentAt, hspent]
      split
      · rename_i hforeign
        rw [ih]
        simp [CoinRecord.unjudgeableAt, CoinRecord.unspentAt, hforeign]
      split
      · rename_i hunspent hhome hunknown
        simp_all [CoinRecord.unjudgeableAt, CoinRecord.unspentAt]
      rename_i hconfirmed
      have hjudged : record.unjudgeableAt puzzleHash = false := by
        simp_all [CoinRecord.unjudgeableAt, CoinRecord.unspentAt, Option.isSome_iff_ne_none]
      split
      · rw [ih]
        exact (and_iff_right hjudged).symm
      · exact (ih _).trans (and_iff_right hjudged).symm

theorem judgeListing_unjudgeable_ne_nil (records : List CoinRecord) (seen : List Bytes32) :
    (judgeListing puzzleHash records seen).2 ≠ [] ↔
      ∃ record ∈ records, record.unjudgeableAt puzzleHash = true := by
  rw [Ne, judgeListing_unjudgeable]
  simp only [not_forall, Bool.not_eq_false, exists_prop]

section Order

variable (hid : Function.Injective coinId)

theorem smallerFirst_iff {a b : Coin} :
    smallerFirst a b = true ↔
      a.amount < b.amount ∨ a.amount = b.amount ∧ coinId a ≤ coinId b := by
  simp [smallerFirst]

theorem smallerFirst_total (a b : Coin) : (smallerFirst a b || smallerFirst b a) = true := by
  rw [Bool.or_eq_true, smallerFirst_iff, smallerFirst_iff]
  rcases Nat.lt_trichotomy a.amount b.amount with hless | hsame | hmore
  · exact .inl (.inl hless)
  · rcases Nat.le_total (coinId a) (coinId b) with hle | hge
    · exact .inl (.inr ⟨hsame, hle⟩)
    · exact .inr (.inr ⟨hsame.symm, hge⟩)
  · exact .inr (.inl hmore)

theorem smallerFirst_trans (a b c : Coin) (hab : smallerFirst a b = true)
    (hbc : smallerFirst b c = true) : smallerFirst a c = true := by
  rw [smallerFirst_iff] at hab hbc ⊢
  rcases hab with hab | ⟨hab, hids⟩
  · exact .inl (by omega)
  rcases hbc with hbc | ⟨hbc, hids'⟩
  · exact .inl (by omega)
  · exact .inr ⟨hab.trans hbc, Nat.le_trans hids hids'⟩

include hid in
theorem smallerFirst_antisymm {a b : Coin} (hab : smallerFirst a b = true)
    (hba : smallerFirst b a = true) : a = b := by
  rw [smallerFirst_iff] at hab hba
  rcases hab with hab | ⟨hab, hids⟩
  · omega
  rcases hba with hba | ⟨hba, hids'⟩
  · omega
  · exact hid (Nat.le_antisymm hids hids')

theorem ordered_mergeSort (coins : List Coin) :
    (coins.mergeSort smallerFirst).Pairwise fun a b => smallerFirst a b = true :=
  List.pairwise_mergeSort smallerFirst_trans smallerFirst_total coins

include hid in
theorem ordered_eq {xs ys : List Coin} (hxs : xs.Pairwise fun a b => smallerFirst a b = true)
    (hys : ys.Pairwise fun a b => smallerFirst a b = true) (h : xs.Perm ys) : xs = ys :=
  h.eq_of_pairwise (fun _ _ _ _ => smallerFirst_antisymm hid) hxs hys

include hid in
theorem mergeSort_perm_eq {xs ys : List Coin} (h : xs.Perm ys) :
    xs.mergeSort smallerFirst = ys.mergeSort smallerFirst :=
  ordered_eq hid (ordered_mergeSort xs) (ordered_mergeSort ys)
    (((List.mergeSort_perm xs _).trans h).trans (List.mergeSort_perm ys _).symm)

include hid in
theorem filter_mergeSort (p : Coin → Bool) (coins : List Coin) :
    (coins.mergeSort smallerFirst).filter p = (coins.filter p).mergeSort smallerFirst :=
  ordered_eq hid ((ordered_mergeSort coins).filter p) (ordered_mergeSort _)
    (((List.mergeSort_perm coins _).filter p).trans (List.mergeSort_perm _ _).symm)

end Order

omit [CoinHash] in
theorem totalAmount_eq (coins : List Coin) :
    totalAmount coins = if u64Max < totalMojos coins then none else some (totalMojos coins) := by
  split
  · rename_i hover
    rw [Option.eq_none_iff_forall_not_mem]
    intro total htotal
    obtain ⟨rfl, hle⟩ := totalAmount_eq_some.1 htotal
    exact absurd hle (Nat.not_le_of_lt hover)
  · rename_i hfits
    exact totalAmount_eq_some.2 ⟨rfl, Nat.le_of_not_lt hfits⟩

theorem totalMojos_mergeSort (coins : List Coin) :
    totalMojos (coins.mergeSort smallerFirst) = totalMojos coins :=
  total_perm (List.mergeSort_perm coins _)

omit [CoinHash] in
theorem totalMojos_filter_le (p : Coin → Bool) (coins : List Coin) :
    totalMojos (coins.filter p) ≤ totalMojos coins :=
  (List.filter_sublist.map Coin.amount).sum_le_sum fun _ _ => Nat.zero_le _

theorem chooseInputCoins_eq (hid : Function.Injective coinId) :
    chooseInputCoins puzzleHash required reserved records =
      if u64Max < totalMojos (listedSpendable puzzleHash records) then .error .balanceUnjudgeable
      else if totalMojos (listedSpendable puzzleHash records) < required then
        match (judgeListing puzzleHash records []).2 with
        | coinId :: _ => .error (.spendabilityUnknown coinId)
        | [] => .error (.insufficientFunds required
            (totalMojos (listedSpendable puzzleHash records)))
      else if totalMojos (selectableCoins puzzleHash reserved records) < required then
        .error (.coinsReserved required (totalMojos (listedSpendable puzzleHash records))
          (totalMojos (selectableCoins puzzleHash reserved records)))
      else
        fewestCoins required
          ((selectableCoins puzzleHash reserved records).mergeSort smallerFirst) := by
  rw [chooseInputCoins]
  dsimp only
  rw [mergeSort_perm_eq hid (judgeListing_perm hid), totalAmount_eq, totalMojos_mergeSort,
    filter_mergeSort hid, totalAmount_eq, totalMojos_mergeSort]
  by_cases hover : u64Max < totalMojos (listedSpendable puzzleHash records)
  · rw [if_pos hover, if_pos hover]
  · have hfree : ¬ u64Max < totalMojos (selectableCoins puzzleHash reserved records) := by
      have hle : totalMojos (selectableCoins puzzleHash reserved records) ≤
          totalMojos (listedSpendable puzzleHash records) := totalMojos_filter_le _ _
      omega
    rw [selectableCoins] at hfree ⊢
    rewrite [if_neg hover, if_neg hover, if_neg hfree]
    rfl

theorem selectInputCoins_eq :
    selectInputCoins puzzleHash required reserved =
      listThenConfirm .chainUnreachable puzzleHash
        (chooseInputCoins puzzleHash required reserved) := rfl

theorem run_selectInputCoins {oracle : HostOracle} {i : Nat}
    (h : oracle i (.coinRecordsByPuzzleHash puzzleHash false) = .ok records) :
    (selectInputCoins puzzleHash required reserved).run oracle i =
      match chooseInputCoins puzzleHash required reserved records with
      | .error e => .error e
      | .ok selected =>
          match (confirmAllSpendableByName selected).run oracle.chainSide (i + 1) with
          | .error e => .error (.chainUnreachable e.display)
          | .ok () => .ok selected := by
  rw [selectInputCoins_eq, run_listThenConfirm_of_ok h]
  cases chooseInputCoins puzzleHash required reserved records with
  | error e => rfl
  | ok selected => rfl

theorem selectInputCoins_listed {oracle : HostOracle} {i : Nat}
    (h : (selectInputCoins puzzleHash required reserved).run oracle i = .ok coins) :
    ∃ records, oracle i (.coinRecordsByPuzzleHash puzzleHash false) = .ok records :=
  listThenConfirm_listed (fun reason hsame => by cases hsame) h

theorem selectInputCoins_answered {oracle : HostOracle} {i : Nat} {e : TransferError}
    (hreached : ∀ reason, e ≠ .chainUnreachable reason)
    (h : (selectInputCoins puzzleHash required reserved).run oracle i = .error e) :
    ∃ records, oracle i (.coinRecordsByPuzzleHash puzzleHash false) = .ok records :=
  listThenConfirm_listed (fun reason hsame => hreached reason (Except.error.inj hsame)) h

theorem selectInputCoins_ok {oracle : HostOracle} {i : Nat}
    (h : oracle i (.coinRecordsByPuzzleHash puzzleHash false) = .ok records) :
    (selectInputCoins puzzleHash required reserved).run oracle i = .ok coins ↔
      chooseInputCoins puzzleHash required reserved records = .ok coins ∧
        ∀ n (hn : n < coins.length), ∃ record,
          SpendableByName oracle.chainSide (i + 1 + n) coins[n] record := by
  rw [run_selectInputCoins h]
  cases chooseInputCoins puzzleHash required reserved records with
  | error e => simp
  | ok selected =>
      rw [Except.ok.injEq]
      constructor
      · intro hrun
        dsimp only at hrun
        split at hrun
        · cases hrun
        · rename_i hconfirmed
          cases hrun
          exact ⟨rfl, run_confirmAllSpendableByName.1 hconfirmed⟩
      · rintro ⟨rfl, hconfirmed⟩
        dsimp only
        rw [run_confirmAllSpendableByName.2 hconfirmed]

theorem selectInputCoins_refused {oracle : HostOracle} {i : Nat} {e : TransferError}
    (h : oracle i (.coinRecordsByPuzzleHash puzzleHash false) = .ok records)
    (hreached : ∀ reason, e ≠ .chainUnreachable reason) :
    (selectInputCoins puzzleHash required reserved).run oracle i = .error e ↔
      chooseInputCoins puzzleHash required reserved records = .error e :=
  listThenConfirm_refused hreached h

section Steering

inductive CoinRecord.Junk (puzzleHash : Bytes32) (record : CoinRecord) : Prop
  | foreign (h : record.coin.puzzleHash ≠ puzzleHash)
  | spent (h : record.isSpent = true)
  | unknownHeight (h : record.confirmedHeight = none)

inductive Steered (puzzleHash : Bytes32) : List CoinRecord → List CoinRecord → Prop
  | permuted {before after} (h : List.Perm before after) : Steered puzzleHash before after
  | duplicated {record before} (h : record ∈ before) : Steered puzzleHash before (record :: before)
  | inserted {record before} (h : record.Junk puzzleHash) :
      Steered puzzleHash before (record :: before)
  | trans {before between after} (first : Steered puzzleHash before between)
      (second : Steered puzzleHash between after) : Steered puzzleHash before after

omit [CoinHash] in
theorem CoinRecord.Junk.not_spendable {record : CoinRecord} (h : record.Junk puzzleHash) :
    record.spendableAt puzzleHash = false := by
  cases h with
  | foreign h => simp [spendableAt, unspentAt, h]
  | spent h => simp [spendableAt, unspentAt, h]
  | unknownHeight h => simp [spendableAt, h]

omit [CoinHash] in
theorem Steered.mem_listedSpendable {before after : List CoinRecord} {coin : Coin}
    (h : Steered puzzleHash before after) :
    coin ∈ listedSpendable puzzleHash after ↔ coin ∈ listedSpendable puzzleHash before := by
  induction h with
  | permuted h => simp only [DigAccount.mem_listedSpendable, h.mem_iff]
  | duplicated h =>
      simp only [DigAccount.mem_listedSpendable, List.exists_mem_cons_iff]
      exact or_iff_right_of_imp fun hspendable => ⟨_, h, hspendable⟩
  | inserted h =>
      simp only [DigAccount.mem_listedSpendable, List.exists_mem_cons_iff, h.not_spendable]
      exact or_iff_right fun hjunk => Bool.false_ne_true hjunk.1
  | trans first second ihfirst ihsecond => exact ihsecond.trans ihfirst

theorem Steered.chosen {before after : List CoinRecord} (hid : Function.Injective coinId)
    (h : Steered puzzleHash before after)
    (hchosen : chooseInputCoins puzzleHash required reserved before = .ok coins) :
    chooseInputCoins puzzleHash required reserved after = .ok coins := by
  have hperm : (listedSpendable puzzleHash after).Perm (listedSpendable puzzleHash before) :=
    (List.perm_ext_iff_of_nodup (List.nodup_dedup _) (List.nodup_dedup _)).2
      fun coin => h.mem_listedSpendable
  have hselectable : (selectableCoins puzzleHash reserved after).Perm
      (selectableCoins puzzleHash reserved before) := hperm.filter _
  rw [chooseInputCoins_eq hid] at hchosen ⊢
  have htotal : totalMojos (listedSpendable puzzleHash after) =
      totalMojos (listedSpendable puzzleHash before) := total_perm hperm
  have hfree : totalMojos (selectableCoins puzzleHash reserved after) =
      totalMojos (selectableCoins puzzleHash reserved before) := total_perm hselectable
  rw [htotal, hfree, mergeSort_perm_eq hid hselectable]
  split at hchosen
  · cases hchosen
  rename_i hfits
  split at hchosen
  · split at hchosen <;> cases hchosen
  rename_i hcovered
  rwa [if_neg hfits, if_neg hcovered]

theorem selectInputCoins_unsteered (hid : Function.Injective coinId)
    {oracle steered : HostOracle} {i : Nat} {before after : List CoinRecord}
    (hbefore : oracle i (.coinRecordsByPuzzleHash puzzleHash false) = .ok before)
    (hafter : steered i (.coinRecordsByPuzzleHash puzzleHash false) = .ok after)
    (hchain : steered.chainSide = oracle.chainSide)
    (hsteered : Steered puzzleHash before after)
    (h : (selectInputCoins puzzleHash required reserved).run oracle i = .ok coins) :
    (selectInputCoins puzzleHash required reserved).run steered i = .ok coins := by
  rw [selectInputCoins_ok hbefore] at h
  rw [selectInputCoins_ok hafter, hchain]
  exact ⟨hsteered.chosen hid h.1, h.2⟩

def tenCoin : Coin := ⟨1, 5, 10⟩

def sevenCoin : Coin := ⟨2, 5, 7⟩

def fourCoin : Coin := ⟨3, 5, 4⟩

def confirmedRecord (coin : Coin) : CoinRecord := ⟨coin, some 4, none⟩

def listingOracle (listing : List CoinRecord) : HostOracle := fun i call =>
  letI := pairHash
  match call with
  | .coinRecordsByPuzzleHash _ _ => .ok listing
  | .chain (.coinRecord id) =>
      .ok (([tenCoin, sevenCoin, fourCoin].map confirmedRecord).find? fun record =>
        coinId record.coin = id)
  | call => payerOracle i call

def honestListing : List CoinRecord := [tenCoin, sevenCoin, fourCoin].map confirmedRecord

def steeredListing : List CoinRecord :=
  ⟨⟨8, 6, 100⟩, some 2, none⟩ :: confirmedRecord tenCoin ::
    [fourCoin, sevenCoin, tenCoin].map confirmedRecord

omit [CoinHash] in
theorem steeredListing_steered : Steered 5 honestListing steeredListing := by
  have hpermuted : Steered 5 honestListing ([fourCoin, sevenCoin, tenCoin].map confirmedRecord) :=
    .permuted (by decide)
  have hduplicated : Steered 5 ([fourCoin, sevenCoin, tenCoin].map confirmedRecord)
      (confirmedRecord tenCoin :: [fourCoin, sevenCoin, tenCoin].map confirmedRecord) :=
    .duplicated (by decide)
  exact (hpermuted.trans hduplicated).trans (.inserted (.foreign (by decide)))

omit [CoinHash] in
theorem honestListing_chosen : letI := pairHash
    (selectInputCoins 5 15 []).run (listingOracle honestListing) 0 =
      .ok [tenCoin, sevenCoin] := by
  let _ := pairHash
  have hselectable : selectableCoins 5 [] honestListing = [tenCoin, sevenCoin, fourCoin] := by
    decide
  have hsorted : [tenCoin, sevenCoin, fourCoin].mergeSort smallerFirst =
      [fourCoin, sevenCoin, tenCoin] :=
    ordered_eq pairHash_injective (ordered_mergeSort _) (by decide)
      ((List.mergeSort_perm _ _).trans (by decide))
  rw [run_selectInputCoins rfl, chooseInputCoins_eq pairHash_injective, hselectable, hsorted]
  decide +kernel

omit [CoinHash] in
theorem selectInputCoins_unsteered_of_three_coins :
    letI := pairHash
    (selectInputCoins 5 15 []).run (listingOracle honestListing) 0 =
        .ok [tenCoin, sevenCoin] ∧
      (selectInputCoins 5 15 []).run (listingOracle steeredListing) 0 =
        .ok [tenCoin, sevenCoin] := by
  let _ := pairHash
  have hbefore : listingOracle honestListing 0 (.coinRecordsByPuzzleHash 5 false) =
      .ok honestListing := rfl
  have hafter : listingOracle steeredListing 0 (.coinRecordsByPuzzleHash 5 false) =
      .ok steeredListing := rfl
  have hchain : (listingOracle steeredListing).chainSide =
      (listingOracle honestListing).chainSide := by
    funext i query
    cases query <;> rfl
  exact ⟨honestListing_chosen, selectInputCoins_unsteered pairHash_injective hbefore hafter hchain
    steeredListing_steered honestListing_chosen⟩

end Steering

end DigAccount
