import DigAccount.Wallet.Selection

namespace DigAccount

open LargestFirst

variable [CoinHash] {puzzleHash : Bytes32} {required : Nat} {reserved : List Bytes32}
  {records : List CoinRecord} {coins pool : List Coin}

section Fewest

omit [CoinHash] in
theorem accumulate_eq_cover (coins : List Coin) {sum : Nat}
    (h : sum + totalMojos coins ≤ u64Max) :
    accumulate required sum coins = cover Coin.amount required sum coins := by
  induction coins generalizing sum with
  | nil => rfl
  | cons coin coins ih =>
      rw [totalMojos, total_cons] at h
      have hsum : saturatingAdd u64Max sum coin.amount = sum + coin.amount :=
        Nat.min_eq_left (by omega)
      rw [accumulate, cover, hsum, ih (by rw [totalMojos]; omega)]

theorem smallest_of_find {single : Coin} (h : pool.Pairwise fun a b => smallerFirst a b = true)
    (hfind : (pool.find? fun coin => required ≤ coin.amount) = some single) :
    single ∈ pool ∧ required ≤ single.amount ∧
      ∀ coin ∈ pool, required ≤ coin.amount → single.amount ≤ coin.amount := by
  obtain ⟨hcovers, before, after, rfl, hbefore⟩ := List.find?_eq_some_iff_append.1 hfind
  refine ⟨List.mem_of_find?_eq_some hfind, of_decide_eq_true hcovers, fun coin hmem henough => ?_⟩
  rcases List.mem_append.1 hmem with hearlier | hlater
  · have hshort := hbefore coin hearlier
    simp [henough] at hshort
  · rcases List.mem_cons.1 hlater with rfl | hlater
    · exact Nat.le_refl _
    · have horder := (List.pairwise_cons.1 (List.pairwise_append.1 h).2.1).1 coin hlater
      rcases smallerFirst_iff.1 horder with hless | ⟨hsame, -⟩
      · exact Nat.le_of_lt hless
      · exact Nat.le_of_eq hsame

structure FewestCover (required : Nat) (pool coins : List Coin) : Prop where
  covers : required ≤ totalMojos coins
  distinct : coins.Nodup
  drawn : coins ⊆ pool
  capped : coins.length ≤ maxTransferInputCoins
  single : ∀ coin ∈ pool, required ≤ coin.amount →
    ∃ smallest, coins = [smallest] ∧ smallest.amount ≤ coin.amount
  fewest : (∀ coin ∈ pool, coin.amount < required) → ∀ chosen : List Coin, chosen.Nodup →
    chosen ⊆ pool → required ≤ totalMojos chosen → coins.length ≤ chosen.length

def largestFirst (required : Nat) (pool : List Coin) : List Coin :=
  cover Coin.amount required 0 (pool.mergeSort smallerFirst).reverse

theorem largestFirst_sublist :
    (largestFirst required pool).Sublist (pool.mergeSort smallerFirst).reverse :=
  cover_sublist 0 _

theorem largestFirst_drawn : largestFirst required pool ⊆ pool := fun _ hmem =>
  List.mem_mergeSort.1 (List.mem_reverse.1 (largestFirst_sublist.subset hmem))

theorem largestFirst_distinct (h : pool.Nodup) : (largestFirst required pool).Nodup :=
  largestFirst_sublist.nodup
    (List.nodup_reverse.2 ((List.mergeSort_perm pool smallerFirst).nodup_iff.2 h))

theorem largestFirst_covers (h : required ≤ totalMojos pool) :
    required ≤ totalMojos (largestFirst required pool) := by
  have htotal : total Coin.amount (pool.mergeSort smallerFirst).reverse = totalMojos pool :=
    total_perm ((List.reverse_perm _).trans (List.mergeSort_perm pool smallerFirst))
  have hcovers : required ≤ 0 + totalMojos (largestFirst required pool) :=
    le_total_cover (by rw [htotal, Nat.zero_add]; exact h)
  rwa [Nat.zero_add] at hcovers

theorem length_largestFirst_le (hshort : ∀ coin ∈ pool, coin.amount < required)
    {chosen : List Coin} (hdistinct : chosen.Nodup) (hdrawn : chosen ⊆ pool)
    (hcovers : required ≤ totalMojos chosen) :
    (largestFirst required pool).length ≤ chosen.length := by
  cases pool with
  | nil =>
      rw [largestFirst, List.mergeSort_nil]
      exact Nat.zero_le _
  | cons coin pool =>
      have hneeded : 0 < required := Nat.lt_of_le_of_lt (Nat.zero_le _)
        (hshort coin (List.mem_cons_self ..))
      have hdescending : ((coin :: pool).mergeSort smallerFirst).reverse.Pairwise
          fun a b => b.amount ≤ a.amount := by
        rw [List.pairwise_reverse]
        refine (ordered_mergeSort (coin :: pool)).imp fun {a b} h => ?_
        rcases smallerFirst_iff.1 h with hless | ⟨hsame, -⟩
        · exact Nat.le_of_lt hless
        · exact Nat.le_of_eq hsame
      refine length_cover_le hdescending hneeded ?_ (by rw [Nat.zero_add]; exact hcovers)
      exact hdistinct.subperm fun c hc =>
        List.mem_reverse.2 (List.mem_mergeSort.2 (hdrawn hc))

theorem fewestCoins_cases (hfits : totalMojos pool ≤ u64Max) :
    (∃ single, single ∈ pool ∧ required ≤ single.amount ∧
        (∀ coin ∈ pool, required ≤ coin.amount → single.amount ≤ coin.amount) ∧
        fewestCoins required (pool.mergeSort smallerFirst) = .ok [single]) ∨
      ((∀ coin ∈ pool, coin.amount < required) ∧
        fewestCoins required (pool.mergeSort smallerFirst) =
          if maxTransferInputCoins < (largestFirst required pool).length then
            .error (.tooManyInputCoins (largestFirst required pool).length maxTransferInputCoins)
          else .ok (largestFirst required pool)) := by
  cases hfind : (pool.mergeSort smallerFirst).find? fun coin => required ≤ coin.amount with
  | some single =>
      obtain ⟨hmem, hcovers, hsmallest⟩ := smallest_of_find (ordered_mergeSort pool) hfind
      refine .inl ⟨single, List.mem_mergeSort.1 hmem, hcovers, fun coin hcoin => ?_, ?_⟩
      · exact hsmallest coin (List.mem_mergeSort.2 hcoin)
      · rw [fewestCoins, hfind]
  | none =>
      refine .inr ⟨fun coin hcoin => ?_, ?_⟩
      · have hshort := List.find?_eq_none.1 hfind coin (List.mem_mergeSort.2 hcoin)
        rwa [decide_eq_true_eq, Nat.not_le] at hshort
      · have htotal : totalMojos (pool.mergeSort smallerFirst).reverse = totalMojos pool :=
          total_perm ((List.reverse_perm _).trans (List.mergeSort_perm pool smallerFirst))
        have haccumulate : accumulate required 0 (pool.mergeSort smallerFirst).reverse =
            largestFirst required pool :=
          accumulate_eq_cover _ (by rw [htotal, Nat.zero_add]; exact hfits)
        rw [fewestCoins, hfind, haccumulate]

theorem fewestCoins_ok (hdistinct : pool.Nodup) (hcovered : required ≤ totalMojos pool)
    (hfits : totalMojos pool ≤ u64Max)
    (h : fewestCoins required (pool.mergeSort smallerFirst) = .ok coins) :
    FewestCover required pool coins := by
  rcases fewestCoins_cases hfits with
    ⟨single, hmem, hcovers, hsmallest, hchosen⟩ | ⟨hshort, hchosen⟩
  · cases hchosen.symm.trans h
    refine ⟨?_, List.nodup_singleton _, ?_, Nat.succ_le_succ (Nat.zero_le 11), ?_, ?_⟩
    · rwa [totalMojos, total_cons, total_nil, Nat.add_zero]
    · exact List.cons_subset.2 ⟨hmem, List.nil_subset _⟩
    · exact fun coin hcoin henough => ⟨single, rfl, hsmallest coin hcoin henough⟩
    · exact fun hshort => absurd (hshort single hmem) (Nat.not_lt_of_le hcovers)
  · rw [hchosen] at h
    split at h
    · cases h
    rename_i hcap
    cases h
    refine ⟨largestFirst_covers hcovered, largestFirst_distinct hdistinct, largestFirst_drawn,
      Nat.le_of_not_lt hcap, ?_, ?_⟩
    · exact fun coin hcoin henough => absurd henough (Nat.not_le_of_lt (hshort coin hcoin))
    · exact fun hshort chosen => length_largestFirst_le hshort

theorem fewestCoins_error {e : TransferError} (hfits : totalMojos pool ≤ u64Max)
    (h : fewestCoins required (pool.mergeSort smallerFirst) = .error e) :
    (∃ needed, e = .tooManyInputCoins needed maxTransferInputCoins) ∧
      ∀ chosen : List Coin, chosen.Nodup → chosen ⊆ pool → required ≤ totalMojos chosen →
        maxTransferInputCoins < chosen.length := by
  rcases fewestCoins_cases hfits with ⟨single, -, -, -, hchosen⟩ | ⟨hshort, hchosen⟩
  · cases hchosen.symm.trans h
  · rw [hchosen] at h
    split at h
    · rename_i hmany
      cases h
      exact ⟨⟨_, rfl⟩, fun chosen hdistinct hdrawn hcovers =>
        Nat.lt_of_lt_of_le hmany (length_largestFirst_le hshort hdistinct hdrawn hcovers)⟩
    · cases h

theorem selectableCoins_nodup : (selectableCoins puzzleHash reserved records).Nodup :=
  (List.nodup_dedup _).filter _

theorem mem_selectableCoins {coin : Coin} :
    coin ∈ selectableCoins puzzleHash reserved records ↔
      (∃ record ∈ records, record.spendableAt puzzleHash ∧ record.coin = coin) ∧
        coinId coin ∉ reserved := by
  rw [selectableCoins, List.mem_filter, mem_listedSpendable, decide_eq_true_eq]

inductive Verdict (puzzleHash : Bytes32) (required : Nat) (reserved : List Bytes32)
    (records : List CoinRecord) : Except TransferError (List Coin) → Prop
  | unjudged (hover : u64Max < totalMojos (listedSpendable puzzleHash records)) :
      Verdict puzzleHash required reserved records (.error .balanceUnjudgeable)
  | unknown {coinId : Bytes32}
      (hfits : totalMojos (listedSpendable puzzleHash records) ≤ u64Max)
      (hshort : totalMojos (listedSpendable puzzleHash records) < required)
      (hsome : ∃ record ∈ records, record.unjudgeableAt puzzleHash = true) :
      Verdict puzzleHash required reserved records (.error (.spendabilityUnknown coinId))
  | short (hshort : totalMojos (listedSpendable puzzleHash records) < required)
      (hnone : ∀ record ∈ records, record.unjudgeableAt puzzleHash = false) :
      Verdict puzzleHash required reserved records (.error (.insufficientFunds required
        (totalMojos (listedSpendable puzzleHash records))))
  | busy (hcovered : required ≤ totalMojos (listedSpendable puzzleHash records))
      (hbusy : totalMojos (selectableCoins puzzleHash reserved records) < required) :
      Verdict puzzleHash required reserved records (.error (.coinsReserved required
        (totalMojos (listedSpendable puzzleHash records))
        (totalMojos (selectableCoins puzzleHash reserved records))))
  | counted {result : Except TransferError (List Coin)}
      (hfits : totalMojos (selectableCoins puzzleHash reserved records) ≤ u64Max)
      (hcovered : required ≤ totalMojos (selectableCoins puzzleHash reserved records))
      (hresult : fewestCoins required
        ((selectableCoins puzzleHash reserved records).mergeSort smallerFirst) = result) :
      Verdict puzzleHash required reserved records result

theorem chooseInputCoins_verdict (hid : Function.Injective coinId) :
    Verdict puzzleHash required reserved records
      (chooseInputCoins puzzleHash required reserved records) := by
  have hle : totalMojos (selectableCoins puzzleHash reserved records) ≤
      totalMojos (listedSpendable puzzleHash records) := totalMojos_filter_le _ _
  have hnone : (judgeListing puzzleHash records []).2 = [] ↔
      ∀ record ∈ records, record.unjudgeableAt puzzleHash = false :=
    judgeListing_unjudgeable records []
  rw [chooseInputCoins_eq hid]
  split
  · exact .unjudged ‹_›
  rename_i hfits
  split
  · rename_i hshort
    split
    · rename_i hunjudgeable
      rw [hunjudgeable] at hnone
      refine .unknown (Nat.le_of_not_lt hfits) hshort ?_
      by_contra hall
      simp only [not_exists, not_and, Bool.not_eq_true] at hall
      cases hnone.2 hall
    · rename_i hempty
      exact .short hshort (hnone.1 hempty)
  rename_i hcovered
  split
  · rename_i hbusy
    exact .busy (Nat.le_of_not_lt hcovered) hbusy
  · rename_i hfree
    exact .counted (Nat.le_trans hle (Nat.le_of_not_lt hfits)) (Nat.le_of_not_lt hfree) rfl

structure SoundSelection (oracle : HostOracle) (i : Nat) (puzzleHash : Bytes32)
    (reserved : List Bytes32) (records : List CoinRecord) (coins : List Coin) : Prop where
  distinct : (coins.map coinId).Nodup
  home : ∀ coin ∈ coins, coin.puzzleHash = puzzleHash
  listed : ∀ coin ∈ coins, ∃ record ∈ records, record.coin = coin ∧
    record.confirmedHeight.isSome ∧ record.isSpent = false
  named : ∀ n (hn : n < coins.length), ∃ record,
    SpendableByName oracle.chainSide (i + 1 + n) coins[n] record
  unreserved : ∀ coin ∈ coins, coinId coin ∉ reserved

theorem FewestCover.sound (hid : Function.Injective coinId) {oracle : HostOracle} {i : Nat}
    (h : FewestCover required (selectableCoins puzzleHash reserved records) coins)
    (hnamed : ∀ n (hn : n < coins.length), ∃ record,
      SpendableByName oracle.chainSide (i + 1 + n) coins[n] record) :
    SoundSelection oracle i puzzleHash reserved records coins := by
  have hdrawn : ∀ coin ∈ coins, (∃ record ∈ records, record.spendableAt puzzleHash ∧
      record.coin = coin) ∧ coinId coin ∉ reserved := fun coin hcoin =>
    mem_selectableCoins.1 (h.drawn hcoin)
  have hspendable : ∀ coin ∈ coins, ∃ record ∈ records, record.coin = coin ∧
      record.isSpent = false ∧ record.coin.puzzleHash = puzzleHash ∧
      record.confirmedHeight.isSome := by
    intro coin hcoin
    obtain ⟨⟨record, hlisted, hspendable, hsame⟩, -⟩ := hdrawn coin hcoin
    rw [CoinRecord.spendableAt, CoinRecord.unspentAt, Bool.and_eq_true, decide_eq_true_eq]
      at hspendable
    exact ⟨record, hlisted, hsame, hspendable.1.1, hspendable.1.2, hspendable.2⟩
  refine ⟨h.distinct.map hid, fun coin hcoin => ?_, fun coin hcoin => ?_, hnamed,
    fun coin hcoin => (hdrawn coin hcoin).2⟩
  · obtain ⟨record, -, rfl, -, hhome, -⟩ := hspendable coin hcoin
    exact hhome
  · obtain ⟨record, hlisted, hsame, hunspent, -, hconfirmed⟩ := hspendable coin hcoin
    exact ⟨record, hlisted, hsame, hconfirmed, hunspent⟩

theorem selectInputCoins_cover (hid : Function.Injective coinId) {oracle : HostOracle} {i : Nat}
    (h : (selectInputCoins puzzleHash required reserved).run oracle i = .ok coins) :
    ∃ records, oracle i (.coinRecordsByPuzzleHash puzzleHash false) = .ok records ∧
      FewestCover required (selectableCoins puzzleHash reserved records) coins ∧
      ∀ n (hn : n < coins.length), ∃ record,
        SpendableByName oracle.chainSide (i + 1 + n) coins[n] record := by
  obtain ⟨records, hlisted⟩ := selectInputCoins_listed h
  obtain ⟨hchosen, hnamed⟩ := (selectInputCoins_ok hlisted).1 h
  have hverdict : Verdict puzzleHash required reserved records (.ok coins) :=
    hchosen ▸ chooseInputCoins_verdict hid
  cases hverdict with
  | counted hfits hcovered hresult =>
      exact ⟨records, hlisted, fewestCoins_ok selectableCoins_nodup hcovered hfits hresult, hnamed⟩

theorem selectInputCoins_sound_and_minimal (hid : Function.Injective coinId)
    {oracle : HostOracle} {i : Nat} :
    (∀ coins, (selectInputCoins puzzleHash required reserved).run oracle i = .ok coins →
      ∃ records, oracle i (.coinRecordsByPuzzleHash puzzleHash false) = .ok records ∧
        SoundSelection oracle i puzzleHash reserved records coins ∧
        FewestCover required (selectableCoins puzzleHash reserved records) coins) ∧
      ∀ needed cap, (selectInputCoins puzzleHash required reserved).run oracle i =
          .error (.tooManyInputCoins needed cap) →
        ∃ records, oracle i (.coinRecordsByPuzzleHash puzzleHash false) = .ok records ∧
          cap = maxTransferInputCoins ∧
          ∀ chosen : List Coin, chosen.Nodup →
            chosen ⊆ selectableCoins puzzleHash reserved records →
            required ≤ totalMojos chosen → maxTransferInputCoins < chosen.length := by
  constructor
  · intro coins h
    obtain ⟨records, hlisted, hcover, hnamed⟩ := selectInputCoins_cover hid h
    exact ⟨records, hlisted, hcover.sound hid hnamed, hcover⟩
  · intro needed cap h
    obtain ⟨records, hlisted⟩ := selectInputCoins_answered (e := .tooManyInputCoins needed cap)
      (fun reason hsame => by cases hsame) h
    have hchosen := (selectInputCoins_refused hlisted fun reason hsame => by cases hsame).1 h
    have hverdict : Verdict puzzleHash required reserved records
        (.error (.tooManyInputCoins needed cap)) := hchosen ▸ chooseInputCoins_verdict hid
    cases hverdict with
    | counted hfits hcovered hresult =>
        obtain ⟨⟨_, hsame⟩, hfewest⟩ := fewestCoins_error hfits hresult
        cases hsame
        exact ⟨records, hlisted, rfl, hfewest⟩

omit [CoinHash] in
theorem selectInputCoins_sound_and_minimal_of_three_coins :
    letI := pairHash
    ∃ records, listingOracle honestListing 0 (.coinRecordsByPuzzleHash 5 false) = .ok records ∧
      SoundSelection (listingOracle honestListing) 0 5 [] records [tenCoin, sevenCoin] ∧
      FewestCover 15 (selectableCoins 5 [] records) [tenCoin, sevenCoin] := by
  let _ := pairHash
  exact (selectInputCoins_sound_and_minimal pairHash_injective).1 _ honestListing_chosen

end Fewest

section Refusals

structure TrueRefusal (puzzleHash : Bytes32) (required : Nat) (reserved : List Bytes32)
    (records : List CoinRecord) (result : Except TransferError (List Coin)) : Prop where
  insufficient : ∀ needed available, result = .error (.insufficientFunds needed available) →
    totalMojos (listedSpendable puzzleHash records) +
      totalMojos (uncountedCoins puzzleHash records) < required
  unknown : ∀ coinId, result = .error (.spendabilityUnknown coinId) →
    required ≤ totalMojos (listedSpendable puzzleHash records) +
      totalMojos (uncountedCoins puzzleHash records)
  busy : ∀ needed available selectable,
    result = .error (.coinsReserved needed available selectable) →
      required ≤ totalMojos (listedSpendable puzzleHash records) ∧
        totalMojos (selectableCoins puzzleHash reserved records) < required

def UnjudgeableMatters (puzzleHash : Bytes32) (required : Nat) (records : List CoinRecord) :
    Prop :=
  (∀ record ∈ records, record.unjudgeableAt puzzleHash = false) ∨
    u64Max < totalMojos (listedSpendable puzzleHash records) ∨
    required ≤ totalMojos (listedSpendable puzzleHash records) +
      totalMojos (uncountedCoins puzzleHash records)

omit [CoinHash] in
theorem uncountedCoins_eq_nil
    (h : ∀ record ∈ records, record.unjudgeableAt puzzleHash = false) :
    uncountedCoins puzzleHash records = [] := by
  have hnone : records.filter (CoinRecord.unjudgeableAt puzzleHash) = [] :=
    List.filter_eq_nil_iff.2 fun record hrecord => by simp [h record hrecord]
  rw [uncountedCoins, hnone]
  rfl

theorem Verdict.trueRefusal {result : Except TransferError (List Coin)}
    (h : Verdict puzzleHash required reserved records result)
    (hmatters : UnjudgeableMatters puzzleHash required records) :
    TrueRefusal puzzleHash required reserved records result := by
  cases h with
  | unjudged hover =>
      exact ⟨fun _ _ hsame => (by cases hsame), fun _ hsame => (by cases hsame),
        fun _ _ _ hsame => (by cases hsame)⟩
  | unknown hfits hshort hsome =>
      refine ⟨fun _ _ hsame => (by cases hsame), fun _ _ => ?_,
        fun _ _ _ hsame => (by cases hsame)⟩
      rcases hmatters with hnone | hover | hcounted
      · obtain ⟨record, hrecord, hunjudgeable⟩ := hsome
        cases (hnone record hrecord).symm.trans hunjudgeable
      · exact absurd hfits (Nat.not_le_of_lt hover)
      · exact hcounted
  | short hshort hnone =>
      refine ⟨fun _ _ _ => ?_, fun _ hsame => (by cases hsame),
        fun _ _ _ hsame => (by cases hsame)⟩
      rw [uncountedCoins_eq_nil hnone]
      exact hshort
  | busy hcovered hbusy =>
      exact ⟨fun _ _ hsame => (by cases hsame), fun _ hsame => (by cases hsame),
        fun _ _ _ _ => ⟨hcovered, hbusy⟩⟩
  | counted hfits hcovered hresult =>
      have htooMany : ∀ e, result = .error e →
          ∃ needed, e = .tooManyInputCoins needed maxTransferInputCoins :=
        fun e he => (fewestCoins_error hfits (hresult.trans he)).1
      refine ⟨fun _ _ hsame => ?_, fun _ hsame => ?_, fun _ _ _ hsame => ?_⟩ <;>
      · obtain ⟨needed, hneeded⟩ := htooMany _ hsame
        cases hneeded

theorem Verdict.unknown_of_not_matters {result : Except TransferError (List Coin)}
    (h : Verdict puzzleHash required reserved records result)
    (hmatters : ¬ UnjudgeableMatters puzzleHash required records) :
    (∃ id, result = .error (.spendabilityUnknown id)) ∧
      totalMojos (listedSpendable puzzleHash records) +
        totalMojos (uncountedCoins puzzleHash records) < required := by
  simp only [UnjudgeableMatters, not_or, Nat.not_lt, Nat.not_le] at hmatters
  obtain ⟨hsome, hfits, hshort⟩ := hmatters
  refine ⟨?_, hshort⟩
  cases h with
  | unjudged hover => exact absurd hfits (Nat.not_le_of_lt hover)
  | unknown hfits hshort hunjudgeable => exact ⟨_, rfl⟩
  | short hless hnone => exact absurd hnone hsome
  | busy hcovered hbusy => omega
  | counted hfree hcovered hresult =>
      have hle : totalMojos (selectableCoins puzzleHash reserved records) ≤
          totalMojos (listedSpendable puzzleHash records) := totalMojos_filter_le _ _
      omega

theorem selectInputCoins_refusal_true_iff (hid : Function.Injective coinId)
    {oracle : HostOracle} {i : Nat}
    (hlisted : oracle i (.coinRecordsByPuzzleHash puzzleHash false) = .ok records) :
    TrueRefusal puzzleHash required reserved records
        ((selectInputCoins puzzleHash required reserved).run oracle i) ↔
      UnjudgeableMatters puzzleHash required records := by
  have hverdict : Verdict puzzleHash required reserved records
      (chooseInputCoins puzzleHash required reserved records) := chooseInputCoins_verdict hid
  constructor
  · intro htrue
    by_contra hmatters
    obtain ⟨⟨id, hchosen⟩, hshort⟩ := hverdict.unknown_of_not_matters hmatters
    have hrun : (selectInputCoins puzzleHash required reserved).run oracle i =
        .error (.spendabilityUnknown id) :=
      (selectInputCoins_refused hlisted fun reason hsame => by cases hsame).2 hchosen
    exact absurd (htrue.unknown id hrun) (Nat.not_le_of_lt hshort)
  · intro hmatters
    have htrue := hverdict.trueRefusal hmatters
    refine ⟨fun needed available h => ?_, fun id h => ?_, fun needed available selectable h => ?_⟩
    · exact htrue.insufficient _ _
        ((selectInputCoins_refused hlisted fun reason hsame => by cases hsame).1 h)
    · exact htrue.unknown _
        ((selectInputCoins_refused hlisted fun reason hsame => by cases hsame).1 h)
    · exact htrue.busy _ _ _
        ((selectInputCoins_refused hlisted fun reason hsame => by cases hsame).1 h)

def shortListing : List CoinRecord := [confirmedRecord sevenCoin, ⟨fourCoin, none, none⟩]

omit [CoinHash] in
theorem selectInputCoins_refusal_true_iff_of_two_coins :
    letI := pairHash
    TrueRefusal 5 15 [] shortListing
        ((selectInputCoins 5 15 []).run (listingOracle shortListing) 0) ↔
      UnjudgeableMatters 5 15 shortListing :=
  let _ := pairHash
  selectInputCoins_refusal_true_iff pairHash_injective rfl

omit [CoinHash] in
theorem spendabilityUnknown_blamed_for_shortfall :
    letI := pairHash
    (selectInputCoins 5 15 []).run (listingOracle shortListing) 0 =
        .error (.spendabilityUnknown (coinId fourCoin)) ∧
      totalMojos (listedSpendable 5 shortListing) + totalMojos (uncountedCoins 5 shortListing) =
        11 ∧
      ¬ TrueRefusal 5 15 [] shortListing
        ((selectInputCoins 5 15 []).run (listingOracle shortListing) 0) := by
  let _ := pairHash
  have hrun : (selectInputCoins 5 15 []).run (listingOracle shortListing) 0 =
      .error (.spendabilityUnknown (coinId fourCoin)) := by
    rw [run_selectInputCoins rfl, chooseInputCoins_eq pairHash_injective]
    decide +kernel
  have htotal : totalMojos (listedSpendable 5 shortListing) +
      totalMojos (uncountedCoins 5 shortListing) = 11 := by decide
  refine ⟨hrun, htotal, fun htrue => ?_⟩
  have hcounted := htrue.unknown _ hrun
  omega

end Refusals

end DigAccount
