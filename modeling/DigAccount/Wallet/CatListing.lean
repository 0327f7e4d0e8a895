import DigAccount.Wallet.Stranded
import Mathlib.Data.List.Dedup

namespace DigAccount

open CatDrivers Fallible

def maxListedCatCoins : Nat := 64

structure CatCoinListing (π : Type) where
  cats : List (Cat π)
  omitted : Nat
  deriving DecidableEq, Repr

section Listing

variable [CoinHash]

def largerFirst (a b : Coin) : Bool :=
  b.amount < a.amount || (a.amount = b.amount && coinId a ≤ coinId b)

def listedCandidates (puzzleHash : Bytes32) (records : List CoinRecord) : List Coin :=
  ((records.filter fun record => record.spentHeight.isNone).filter fun record =>
    record.coin.puzzleHash = puzzleHash).map CoinRecord.coin

def catCoins [CatDrivers] (assetId p2PuzzleHash : Bytes32) :
    HostReads CatTransferError (CatCoinListing CatProof) := do
  let catPuzzleHash := catCurriedPuzzleHash assetId p2PuzzleHash
  let records ← .mapError CatTransferError.chainUnreachable
    (Reads.query (HostCall.coinRecordsByPuzzleHash catPuzzleHash false))
  let candidates := (listedCandidates catPuzzleHash records).mergeSort largerFirst
  let omitted := candidates.length - maxListedCatCoins
  let cats ← onChain (resolveLineage assetId (candidates.take maxListedCatCoins))
  pure { cats := cats, omitted := omitted }

def digCatCoins [CatDrivers] (p2PuzzleHash : Bytes32) :
    HostReads CatTransferError (CatCoinListing CatProof) :=
  catCoins CatDrivers.digAssetId p2PuzzleHash

end Listing

section Order

variable [CoinHash]

theorem largerFirst_iff {a b : Coin} :
    largerFirst a b = true ↔ b.amount < a.amount ∨ a.amount = b.amount ∧ coinId a ≤ coinId b := by
  simp [largerFirst]

theorem largerFirst_total (a b : Coin) : (largerFirst a b || largerFirst b a) = true := by
  rw [Bool.or_eq_true, largerFirst_iff, largerFirst_iff]
  rcases Nat.lt_trichotomy a.amount b.amount with hless | hsame | hmore
  · exact .inr (.inl hless)
  · rcases Nat.le_total (coinId a) (coinId b) with hle | hge
    · exact .inl (.inr ⟨hsame, hle⟩)
    · exact .inr (.inr ⟨hsame.symm, hge⟩)
  · exact .inl (.inl hmore)

theorem largerFirst_trans (a b c : Coin) (hab : largerFirst a b = true)
    (hbc : largerFirst b c = true) : largerFirst a c = true := by
  rw [largerFirst_iff] at hab hbc ⊢
  rcases hab with hab | ⟨hab, hids⟩
  · exact .inl (by omega)
  rcases hbc with hbc | ⟨hbc, hids'⟩
  · exact .inl (by omega)
  · exact .inr ⟨hab.trans hbc, Nat.le_trans hids hids'⟩

theorem pairwise_amount_mergeSort (coins : List Coin) :
    (coins.mergeSort largerFirst).Pairwise fun a b => b.amount ≤ a.amount := by
  refine (List.pairwise_mergeSort largerFirst_trans largerFirst_total coins).imp fun hle => ?_
  rcases largerFirst_iff.1 hle with hless | ⟨hsame, -⟩
  · exact Nat.le_of_lt hless
  · exact Nat.le_of_eq hsame.symm

end Order

section Candidates

variable {puzzleHash : Bytes32} {records : List CoinRecord} {coin : Coin}

theorem mem_listedCandidates : coin ∈ listedCandidates puzzleHash records ↔
    ∃ record ∈ records, record.spentHeight = none ∧ record.coin.puzzleHash = puzzleHash ∧
      record.coin = coin := by
  constructor
  · intro h
    obtain ⟨record, hrecord, rfl⟩ := List.mem_map.1 h
    simp only [List.mem_filter, decide_eq_true_eq, Option.isNone_iff_eq_none] at hrecord
    exact ⟨record, hrecord.1.1, hrecord.1.2, hrecord.2, rfl⟩
  · rintro ⟨record, hrecord, hunspent, hhash, rfl⟩
    refine List.mem_map_of_mem (List.mem_filter.2 ⟨List.mem_filter.2 ⟨hrecord, ?_⟩, ?_⟩)
    · rw [hunspent]
      rfl
    · exact decide_eq_true hhash

theorem length_eq_dedup_iff {coins : List Coin} :
    coins.length = coins.dedup.length ↔ coins.Nodup := by
  rw [← List.dedup_eq_self, eq_comm]
  exact (List.dedup_sublist coins).length_eq

end Candidates

structure ExactListing {π : Type} (puzzleHash : Bytes32) (records : List CoinRecord)
    (listing : CatCoinListing π) : Prop where
  distinct : (listing.cats.map Cat.coin).Nodup
  unspent : ∀ cat ∈ listing.cats, ∃ record ∈ records,
    record.coin = cat.coin ∧ record.spentHeight = none
  atHash : ∀ cat ∈ listing.cats, cat.coin.puzzleHash = puzzleHash
  largestFirst : (listing.cats.map Cat.coin).Pairwise fun a b => b.amount ≤ a.amount
  counted : listing.cats.length + listing.omitted =
    (listedCandidates puzzleHash records).dedup.length

section Runs

variable [CoinHash] [CatDrivers] {assetId p2PuzzleHash : Bytes32} {oracle : HostOracle} {i : Nat}
  {records : List CoinRecord} {listing : CatCoinListing CatProof}

theorem run_catCoins :
    (catCoins assetId p2PuzzleHash).run oracle i =
      match oracle i (.coinRecordsByPuzzleHash (catCurriedPuzzleHash assetId p2PuzzleHash) false)
        with
      | .error reason => .error (.chainUnreachable reason)
      | .ok records =>
          ((resolveLineage assetId
            (((listedCandidates (catCurriedPuzzleHash assetId p2PuzzleHash) records).mergeSort
              largerFirst).take maxListedCatCoins)).run oracle.chainSide (i + 1)).map fun cats =>
            ⟨cats, (listedCandidates (catCurriedPuzzleHash assetId p2PuzzleHash) records).length -
              maxListedCatCoins⟩ := by
  have hread : (mapError CatTransferError.chainUnreachable
      (Reads.query (HostCall.coinRecordsByPuzzleHash
        (catCurriedPuzzleHash assetId p2PuzzleHash) false)) :
        HostReads CatTransferError (List CoinRecord)).run oracle i =
      (oracle i (.coinRecordsByPuzzleHash (catCurriedPuzzleHash assetId p2PuzzleHash)
        false)).mapError .chainUnreachable := run_mapError
  rw [catCoins]
  dsimp only
  split
  · rename_i reason hanswer
    rw [hanswer] at hread
    exact run_bind_of_error hread
  · rename_i records hanswer
    rw [hanswer] at hread
    rw [run_bind_of_ok hread, List.length_mergeSort]
    generalize ((listedCandidates (catCurriedPuzzleHash assetId p2PuzzleHash) records).mergeSort
      largerFirst).take maxListedCatCoins = chosen
    have hlift : (onChain (resolveLineage assetId chosen)).run oracle (i + 1) =
        (resolveLineage assetId chosen).run oracle.chainSide (i + 1) := run_onChain
    cases hcats : (resolveLineage assetId chosen).run oracle.chainSide (i + 1) with
    | error e =>
        rw [hcats] at hlift
        exact run_bind_of_error hlift
    | ok cats =>
        rw [hcats] at hlift
        exact run_bind_of_ok hlift

theorem run_catCoins_ok (h : (catCoins assetId p2PuzzleHash).run oracle i = .ok listing) :
    ∃ records, oracle i (.coinRecordsByPuzzleHash (catCurriedPuzzleHash assetId p2PuzzleHash)
        false) = .ok records ∧
      (resolveLineage assetId
        (((listedCandidates (catCurriedPuzzleHash assetId p2PuzzleHash) records).mergeSort
          largerFirst).take maxListedCatCoins)).run oracle.chainSide (i + 1) = .ok listing.cats ∧
      listing.omitted = (listedCandidates (catCurriedPuzzleHash assetId p2PuzzleHash)
        records).length - maxListedCatCoins := by
  rw [run_catCoins] at h
  split at h
  · cases h
  · rename_i records hanswer
    obtain ⟨cats, hcats, rfl⟩ := map_eq_ok.1 h
    exact ⟨records, hanswer, hcats, rfl⟩

theorem run_catCoins_coins (hid : Function.Injective coinId)
    (h : (catCoins assetId p2PuzzleHash).run oracle i = .ok listing) :
    ∃ records, oracle i (.coinRecordsByPuzzleHash (catCurriedPuzzleHash assetId p2PuzzleHash)
        false) = .ok records ∧
      listing.cats.map Cat.coin =
        ((listedCandidates (catCurriedPuzzleHash assetId p2PuzzleHash) records).mergeSort
          largerFirst).take maxListedCatCoins ∧
      listing.cats.length + listing.omitted =
        (listedCandidates (catCurriedPuzzleHash assetId p2PuzzleHash) records).length := by
  obtain ⟨records, hrecords, hcats, homitted⟩ := run_catCoins_ok h
  have hcoins := resolveLineage_coins hid hcats
  have hlength := congrArg List.length hcoins
  rw [List.length_map, List.length_take, List.length_mergeSort] at hlength
  refine ⟨records, hrecords, hcoins, ?_⟩
  omega

theorem catCoins_exact (hid : Function.Injective coinId)
    (hrun : (catCoins assetId p2PuzzleHash).run oracle i = .ok listing) :
    ∃ records, oracle i (.coinRecordsByPuzzleHash (catCurriedPuzzleHash assetId p2PuzzleHash)
        false) = .ok records ∧
      (ExactListing (catCurriedPuzzleHash assetId p2PuzzleHash) records listing ↔
        (listedCandidates (catCurriedPuzzleHash assetId p2PuzzleHash) records).Nodup) := by
  obtain ⟨records, hrecords, hcoins, hcount⟩ := run_catCoins_coins hid hrun
  refine ⟨records, hrecords, fun hexact => ?_, fun hnodup => ?_⟩
  · rw [← length_eq_dedup_iff, ← hcount]
    exact hexact.counted
  · have hperm := List.mergeSort_perm
      (listedCandidates (catCurriedPuzzleHash assetId p2PuzzleHash) records) largerFirst
    have hmem : ∀ cat ∈ listing.cats, ∃ record ∈ records, record.spentHeight = none ∧
        record.coin.puzzleHash = catCurriedPuzzleHash assetId p2PuzzleHash ∧
        record.coin = cat.coin := by
      intro cat hcat
      have hcoin := List.mem_map_of_mem (f := Cat.coin) hcat
      rw [hcoins] at hcoin
      exact mem_listedCandidates.1 (hperm.mem_iff.1 (List.mem_of_mem_take hcoin))
    constructor
    · rw [hcoins]
      exact (List.take_sublist _ _).nodup (hperm.nodup_iff.2 hnodup)
    · intro cat hcat
      obtain ⟨record, hrecord, hunspent, -, hcoin⟩ := hmem cat hcat
      exact ⟨record, hrecord, hcoin, hunspent⟩
    · intro cat hcat
      obtain ⟨record, -, -, hhash, hcoin⟩ := hmem cat hcat
      exact hcoin ▸ hhash
    · rw [hcoins]
      exact (pairwise_amount_mergeSort _).sublist (List.take_sublist _ _)
    · rw [hcount]
      exact length_eq_dedup_iff.2 hnodup

end Runs

section Example

def digCat : letI := ringDrivers; Cat CatProof := ⟨digCoin, 8, ()⟩

def largeDigCoin : Coin := ⟨20, 13, 30⟩

def largeDigCat : letI := ringDrivers; Cat CatProof := ⟨largeDigCoin, 8, ()⟩

def mixedRecords : List CoinRecord :=
  [digRecord, ⟨⟨20, 7, 50⟩, some 4, none⟩, ⟨largeDigCoin, some 4, none⟩,
    ⟨⟨20, 13, 40⟩, some 4, some 9⟩]

def mixedOracle : HostOracle := fun i call =>
  match call with
  | .chain (.parentSpend _) => .ok (some ⟨⟨0, 13, 20⟩, [], [10, 30]⟩)
  | .coinRecordsByPuzzleHash _ _ => .ok mixedRecords
  | call => payerOracle i call

theorem coin_listed_once_exact :
    letI := pairHash
    letI := ringDrivers
    (catCoins 8 5).run mixedOracle 0 = .ok ⟨[largeDigCat, digCat], 0⟩ ∧
      ExactListing 13 mixedRecords ⟨[largeDigCat, digCat], 0⟩ := by
  let _ := pairHash
  let _ := ringDrivers
  let _ : DecidableEq CatProof := inferInstanceAs (DecidableEq Unit)
  have hlisted : listedCandidates (catCurriedPuzzleHash 8 5) mixedRecords =
      [digCoin, largeDigCoin] := by
    decide
  have hsorted : [digCoin, largeDigCoin].mergeSort largerFirst = [largeDigCoin, digCoin] := by
    simp [List.mergeSort, List.MergeSort.Internal.splitInTwo, largerFirst, digCoin, largeDigCoin]
  have hrun : (catCoins 8 5).run mixedOracle 0 = .ok ⟨[largeDigCat, digCat], 0⟩ := by
    rw [run_catCoins]
    dsimp only [mixedOracle]
    rw [hlisted, hsorted]
    decide
  obtain ⟨records, hrecords, hexact⟩ := catCoins_exact pairHash_injective hrun
  cases hrecords
  exact ⟨hrun, hexact.2 (by decide)⟩

def doubledOracle : HostOracle := fun i call =>
  match call with
  | .chain (.parentSpend _) => .ok (some digParent)
  | .coinRecordsByPuzzleHash _ _ => .ok [digRecord, digRecord]
  | call => payerOracle i call

theorem coin_listed_twice_counted_twice :
    letI := pairHash
    letI := ringDrivers
    (catCoins 8 5).run doubledOracle 0 = .ok ⟨[digCat, digCat], 0⟩ ∧
      ¬ ExactListing 13 [digRecord, digRecord] ⟨[digCat, digCat], 0⟩ := by
  let _ := pairHash
  let _ := ringDrivers
  let _ : DecidableEq CatProof := inferInstanceAs (DecidableEq Unit)
  have hlisted : listedCandidates (catCurriedPuzzleHash 8 5) [digRecord, digRecord] =
      List.replicate 2 digCoin := by
    decide
  have hsorted : (List.replicate 2 digCoin).mergeSort largerFirst = List.replicate 2 digCoin :=
    List.perm_replicate.1 (List.mergeSort_perm _ _)
  refine ⟨?_, fun hexact => ?_⟩
  · rw [run_catCoins]
    dsimp only [doubledOracle]
    rw [hlisted, hsorted]
    decide
  · exact absurd hexact.distinct (by decide)

end Example

end DigAccount
