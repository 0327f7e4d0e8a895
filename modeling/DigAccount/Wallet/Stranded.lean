import DigAccount.Foundation.Validator
import DigAccount.Wallet.CatTransfer
import DigAccount.Wallet.Holdings
import DigAccount.Wallet.ListedCoins
import DigAccount.Wallet.Replacement

namespace DigAccount

open Relation Desk Fallible CoinReservations Validator

section Selectors

variable {oracle : HostOracle} {ε α : Type}

theorem onChain_readsChain {reads : ChainReads ε α} : OnlyAsks ReadsChain (onChain reads) :=
  onlyAsks_onChain fun _ _ _ _ => trivial

theorem onChain_sparesStore {reads : ChainReads ε α} : OnlyAsks SparesStore (onChain reads) :=
  onlyAsks_onChain fun _ _ _ _ => trivial

theorem listing_sparesStore {puzzleHash : Bytes32} {unreachable : String → ε} :
    OnlyAsks SparesStore (.mapError unreachable
      (Reads.query (HostCall.coinRecordsByPuzzleHash puzzleHash false)) :
        HostReads ε (List CoinRecord)) :=
  onlyAsks_mapError_query (fun _ _ => rfl) trivial

variable [CoinHash]

theorem listThenConfirm_sparesStore {puzzleHash : Bytes32} {unreachable : String → ε}
    {choose : List CoinRecord → Except ε (List Coin)} :
    OnlyAsks SparesStore (listThenConfirm unreachable puzzleHash choose) := by
  refine listing_sparesStore.bind fun records => onlyAsks_ofExcept.bind fun selected => ?_
  exact onChain_sparesStore.bind fun _ => onlyAsks_ofExcept

theorem selectWithIds_sparesStore {puzzleHash : Bytes32} {required : Nat}
    (excluded : List Bytes32) :
    OnlyAsks SparesStore (selectWithIds puzzleHash required excluded) :=
  listThenConfirm_sparesStore.bind fun _ => onlyAsks_ofExcept

theorem selectFeeCoins_sparesStore {p2PuzzleHash : Bytes32} {feeMojos : Nat}
    {reserved : List Bytes32} :
    OnlyAsks SparesStore (selectFeeCoins p2PuzzleHash feeMojos reserved) := by
  rw [selectFeeCoins]
  split
  · exact onlyAsks_ofExcept
  · exact listThenConfirm_sparesStore

theorem selectBothLegs_sparesStore [CatDrivers] {assetId p2PuzzleHash : Bytes32}
    {request : CatTransferRequest} (excluded : List Bytes32) :
    OnlyAsks SparesStore (selectBothLegs assetId p2PuzzleHash request excluded) :=
  listThenConfirm_sparesStore.bind fun _ =>
    selectFeeCoins_sparesStore.bind fun _ => onlyAsks_ofExcept

theorem chose_selectWithIds {puzzleHash : Bytes32} {required : Nat} {selected : List Coin}
    {coinIds : List Bytes32}
    (h : Chose oracle (selectWithIds puzzleHash required) selected coinIds) :
    coinIds = selected.map coinId := by
  obtain ⟨excluded, i, hrun⟩ := h
  rw [selectWithIds, run_bind_eq_ok] at hrun
  obtain ⟨coins, -, hpure⟩ := hrun
  cases hpure
  rfl

theorem chose_selectBothLegs [CatDrivers] {assetId p2PuzzleHash : Bytes32}
    {request : CatTransferRequest} {legs : List Coin × List Coin} {coinIds : List Bytes32}
    (h : Chose oracle (selectBothLegs assetId p2PuzzleHash request) legs coinIds) :
    coinIds = (legs.1 ++ legs.2).map coinId := by
  obtain ⟨excluded, i, hrun⟩ := h
  rw [selectBothLegs, run_bind_eq_ok] at hrun
  obtain ⟨catCoins, -, hrun⟩ := hrun
  rw [run_bind_eq_ok] at hrun
  obtain ⟨feeCoins, -, hpure⟩ := hrun
  cases hpure
  rfl

def Unreserved (reserved : List Bytes32) (coins : List Coin) : Prop :=
  ∀ coin ∈ coins, coinId coin ∉ reserved

variable {reserved : List Bytes32} {coins pool : List Coin}

theorem unreserved_of_subset
    (h : coins ⊆ pool.filter fun coin => decide (coinId coin ∉ reserved)) :
    Unreserved reserved coins := fun _ hcoin =>
  of_decide_eq_true (List.mem_filter.1 (h hcoin)).2

omit [CoinHash] in
theorem fewestCatCoins_subset {required : Nat} (h : fewestCatCoins required pool = .ok coins) :
    coins ⊆ pool := by
  rw [fewestCatCoins] at h
  split at h
  · rename_i single hsingle
    cases h
    exact List.cons_subset.2 ⟨List.mem_of_find?_eq_some hsingle, List.nil_subset _⟩
  · dsimp only at h
    split at h
    · cases h
    · cases h
      exact fun coin hcoin => List.mem_reverse.1 (accumulate_subset _ 0 hcoin)

theorem chooseCatCoins_unreserved {catPuzzleHash : Bytes32} {required : Nat}
    {records : List CoinRecord}
    (h : chooseCatCoins catPuzzleHash required reserved records = .ok coins) :
    Unreserved reserved coins := by
  rw [chooseCatCoins] at h
  dsimp only at h
  split at h
  · cases h
  split at h
  · cases h
  split at h
  · cases h
  split at h
  · cases h
  exact unreserved_of_subset (fewestCatCoins_subset h)

theorem chooseFeeCoins_unreserved {p2PuzzleHash : Bytes32} {feeMojos : Nat}
    {records : List CoinRecord}
    (h : chooseFeeCoins p2PuzzleHash feeMojos reserved records = .ok coins) :
    Unreserved reserved coins := by
  rw [chooseFeeCoins] at h
  dsimp only at h
  split at h
  · cases h
  split at h
  · cases h
  split at h
  · rename_i chosen hchosen
    cases h
    exact unreserved_of_subset
      (List.cons_subset.2 ⟨List.mem_of_find?_eq_some hchosen, List.nil_subset _⟩)
  · split at h
    · cases h
    · cases h

theorem selectFeeCoins_unreserved {p2PuzzleHash : Bytes32} {feeMojos i : Nat}
    (h : (selectFeeCoins p2PuzzleHash feeMojos reserved).run oracle i = .ok coins) :
    Unreserved reserved coins := by
  rw [selectFeeCoins] at h
  split at h
  · cases h
    exact fun coin hcoin => by cases hcoin
  · obtain ⟨records, hchosen⟩ := listThenConfirm_chosen h
    exact chooseFeeCoins_unreserved hchosen

theorem selectBothLegs_respects [CatDrivers] {assetId p2PuzzleHash : Bytes32}
    {request : CatTransferRequest} :
    RespectsExclusions oracle (selectBothLegs assetId p2PuzzleHash request) := by
  intro excluded i selected coinIds hrun coinId hcoinId
  rw [selectBothLegs, run_bind_eq_ok] at hrun
  obtain ⟨catCoins, hcat, hrun⟩ := hrun
  rw [run_bind_eq_ok] at hrun
  obtain ⟨feeCoins, hfee, hpure⟩ := hrun
  cases hpure
  obtain ⟨records, hchosen⟩ := listThenConfirm_chosen hcat
  obtain ⟨coin, hcoin, rfl⟩ := List.mem_map.1 hcoinId
  rcases List.mem_append.1 hcoin with hleg | hleg
  · exact chooseCatCoins_unreserved hchosen coin hleg
  · exact selectFeeCoins_unreserved hfee coin hleg

end Selectors

section Builders

variable [CoinHash]

theorem buildTransferSpends_sources [TransferDrivers] {wallet : WalletKey} {selected : List Coin}
    {request : TransferRequest} {reservation : Option ReservationId} {plan : TransferPlan}
    (h : buildTransferSpends wallet selected request reservation = .ok plan) :
    plan.sourceCoinIds = selected.map coinId := by
  obtain ⟨lead, change, memos, leadSpend, secondaries, -, -, -, -, rfl⟩ :=
    buildTransferSpends_eq_ok h
  rfl

variable [CatDrivers] {wallet : WalletKey} {request : CatTransferRequest} {plan : CatTransferPlan}
  {oracle : HostOracle}

open CatDrivers

theorem buildDigTransferSpends_ok {cats : List (Cat CatProof)} {feeCoins : List Coin}
    {reservation : Option ReservationId}
    (h : buildDigTransferSpends wallet cats feeCoins request reservation = .ok plan) :
    ∃ lead change recipientHint changeHint inputs ring fees, cats.getLast? = some lead ∧
      digChangeOf cats request = .ok change ∧
      catInputs wallet
        (catLeadConditions wallet request change recipientHint changeHint feeCoins) 0 cats =
          .ok inputs ∧
      spendAll inputs = .ok ring ∧
      feeSpends wallet request
        (TransferDrivers.announcementId (coinId lead.coin) feeBindingMessage) feeCoins =
          .ok fees ∧
      plan = {
        coinSpends := ring ++ fees
        digSourceCoinIds := cats.map fun cat => coinId cat.coin
        xchSourceCoinIds := feeCoins.map coinId
        recipient := request.recipient
        amountBaseUnits := request.amountBaseUnits
        feeMojos := request.feeMojos
        changeBaseUnits := change
        reservation := reservation } := by
  simp only [buildDigTransferSpends] at h
  split at h
  · cases h
  rename_i lead hlead
  obtain ⟨change, hchange, h⟩ := bind_ok.1 h
  obtain ⟨recipientHint, -, h⟩ := bind_ok.1 h
  obtain ⟨changeHint, -, h⟩ := bind_ok.1 h
  obtain ⟨inputs, hinputs, h⟩ := bind_ok.1 h
  obtain ⟨ring, hring, h⟩ := bind_ok.1 h
  obtain ⟨fees, hfees, h⟩ := bind_ok.1 h
  cases h
  exact ⟨lead, change, recipientHint, changeHint, inputs, ring, fees, hlead, hchange, hinputs,
    mapError_eq_ok.1 hring, hfees, rfl⟩

theorem buildDigTransferSpends_sources {cats : List (Cat CatProof)} {feeCoins : List Coin}
    {reservation : Option ReservationId}
    (h : buildDigTransferSpends wallet cats feeCoins request reservation = .ok plan) :
    plan.digSourceCoinIds = cats.map (fun cat => coinId cat.coin) ∧
      plan.xchSourceCoinIds = feeCoins.map coinId := by
  obtain ⟨_, _, _, _, _, _, _, -, -, -, -, -, rfl⟩ := buildDigTransferSpends_ok h
  exact ⟨rfl, rfl⟩

theorem proveCat_ok {assetId : Bytes32} {coin : Coin} {parent : Option CoinSpend}
    {cat : Cat CatProof} (h : proveCat assetId coin parent = .ok cat) :
    ∃ spend puzzle solution children, parent = some spend ∧
      nodeFromBytes spend.puzzleReveal = .ok puzzle ∧
      nodeFromBytes spend.solution = .ok solution ∧
      parseChildren spend.coin puzzle solution = .ok (some children) ∧
      cat ∈ children ∧ coinId cat.coin = coinId coin ∧ cat.assetId = assetId := by
  cases parent with
  | none => cases h
  | some parent =>
      obtain ⟨puzzle, hpuzzle, h⟩ := bind_ok.1 h
      obtain ⟨solution, hsolution, h⟩ := bind_ok.1 h
      obtain ⟨parsed, hparsed, h⟩ := bind_ok.1 h
      split at h
      · cases h
      rename_i children
      split at h
      · cases h
      rename_i found hfound
      split at h
      · cases h
      rename_i hasset
      cases h
      exact ⟨parent, puzzle, solution, children, rfl, mapError_eq_ok.1 hpuzzle,
        mapError_eq_ok.1 hsolution, mapError_eq_ok.1 hparsed, List.mem_of_find?_eq_some hfound,
        by simpa using List.find?_some hfound, not_not.1 hasset⟩

theorem proveCat_coinId {assetId : Bytes32} {coin : Coin} {parent : Option CoinSpend}
    {cat : Cat CatProof} (h : proveCat assetId coin parent = .ok cat) :
    coinId cat.coin = coinId coin := by
  obtain ⟨_, _, _, _, -, -, -, -, -, hid, -⟩ := proveCat_ok h
  exact hid

theorem resolveLineage_coinIds {assetId : Bytes32} {coins : List Coin}
    {cats : List (Cat CatProof)} {oracle : Oracle} {i : Nat}
    (h : (resolveLineage assetId coins).run oracle i = .ok cats) :
    cats.map (fun cat => coinId cat.coin) = coins.map coinId := by
  induction coins generalizing cats i with
  | nil =>
      cases h
      rfl
  | cons coin coins ih =>
      rw [resolveLineage, run_bind_eq_ok] at h
      obtain ⟨parent, -, h⟩ := h
      rw [run_bind_eq_ok] at h
      obtain ⟨cat, hcat, h⟩ := h
      rw [run_bind_eq_ok] at h
      obtain ⟨rest, hrest, hpure⟩ := h
      cases hpure
      rw [List.map_cons, List.map_cons, proveCat_coinId hcat, ih hrest]

theorem resolveLineage_proved {assetId : Bytes32} {coins : List Coin} {coin : Coin}
    {cats : List (Cat CatProof)} {cat : Cat CatProof} {oracle : Oracle} {i : Nat}
    (h : (resolveLineage assetId coins).run oracle i = .ok cats) {n : Nat}
    (hcoin : coins[n]? = some coin) (hcat : cats[n]? = some cat) :
    ∃ parent, oracle (i + n) (.parentSpend (coinId coin)) = .ok parent ∧
      proveCat assetId coin parent = .ok cat := by
  induction coins generalizing cats i n with
  | nil => cases hcoin
  | cons first rest ih =>
      obtain ⟨parent, hparent, h⟩ := run_bind_eq_ok.1 h
      obtain ⟨proved, hproved, h⟩ := run_bind_eq_ok.1 h
      obtain ⟨tail, htail, hpure⟩ := run_bind_eq_ok.1 h
      cases hpure
      cases n with
      | zero =>
          cases hcoin
          cases hcat
          rw [run_readParentSpend, mapError_eq_ok] at hparent
          exact ⟨parent, hparent, hproved⟩
      | succ n =>
          have hlater := ih htail hcoin hcat
          rwa [after_ofExcept, after_readParentSpend, Nat.add_assoc, Nat.add_comm 1 n] at hlater

theorem resolveLineage_length {assetId : Bytes32} {coins : List Coin}
    {cats : List (Cat CatProof)} {oracle : Oracle} {i : Nat}
    (h : (resolveLineage assetId coins).run oracle i = .ok cats) :
    cats.length = coins.length := by
  have hids := congrArg List.length (resolveLineage_coinIds h)
  rwa [List.length_map, List.length_map] at hids

theorem resolveLineage_assets {assetId : Bytes32} {coins : List Coin}
    {cats : List (Cat CatProof)} {oracle : Oracle} {i : Nat}
    (h : (resolveLineage assetId coins).run oracle i = .ok cats) :
    ∀ cat ∈ cats, cat.assetId = assetId := by
  intro cat hmem
  obtain ⟨n, hn, hcat⟩ := List.getElem_of_mem hmem
  have hinside : n < coins.length := resolveLineage_length h ▸ hn
  obtain ⟨parent, -, hproved⟩ := resolveLineage_proved h (List.getElem?_eq_getElem hinside)
    (List.getElem?_eq_some_iff.2 ⟨hn, hcat⟩)
  obtain ⟨_, _, _, _, -, -, -, -, -, -, hasset⟩ := proveCat_ok hproved
  exact hasset

theorem resolveLineage_coins (hid : Function.Injective coinId) {assetId : Bytes32}
    {coins : List Coin} {cats : List (Cat CatProof)} {oracle : Oracle} {i : Nat}
    (h : (resolveLineage assetId coins).run oracle i = .ok cats) :
    cats.map Cat.coin = coins := by
  refine (List.map_injective_iff.2 hid) ?_
  rw [← resolveLineage_coinIds h, List.map_map]
  rfl

theorem resolveAndBuild_readsChain {assetId : Bytes32} {catCoins feeCoins : List Coin} :
    OnlyAsks ReadsChain (resolveAndBuild wallet assetId request catCoins feeCoins) :=
  onChain_readsChain.bind fun _ => onlyAsks_ofExcept

theorem resolveAndBuild_sources {assetId : Bytes32} {catCoins feeCoins : List Coin} {i : Nat}
    (h : (resolveAndBuild wallet assetId request catCoins feeCoins).run oracle i = .ok plan) :
    plan.digSourceCoinIds ++ plan.xchSourceCoinIds = (catCoins ++ feeCoins).map coinId := by
  rw [resolveAndBuild, run_bind_eq_ok] at h
  obtain ⟨cats, hcats, hbuilt⟩ := h
  rw [run_onChain] at hcats
  obtain ⟨hdig, hxch⟩ := buildDigTransferSpends_sources hbuilt
  rw [hdig, hxch, resolveLineage_coinIds hcats, List.map_append]

end Builders

section Transfers

variable [CoinHash] {wallet : WalletKey} {custody : CustodyPolicy} {oracle : HostOracle}
  {moves : Shelf → Shelf → Prop} {shelf : Shelf} {reservations : CoinReservations}

theorem buildTransfer_ensures [TransferDrivers] {request : TransferRequest} :
    Ensures oracle (Serves moves) (Untaken moves shelf)
      (buildTransfer wallet custody request reservations)
      (fun plan desk => ∃ id, plan.reservation = some id ∧
        HoldsExactly moves shelf reservations id plan.sourceCoinIds desk)
      fun _ => Untouched moves shelf := by
  cases custody with
  | vault vault => exact ensures_fail fun desk h => h.untouched
  | hot hot =>
      rw [buildTransfer]
      split
      · exact ensures_fail fun desk h => h.untouched
      split
      · exact ensures_fail fun desk h => h.untouched
      have hrequired : Ensures oracle (Serves moves) (Untaken moves shelf)
          (.ofExcept request.requiredTotal) (fun _ => Untaken moves shelf)
          fun _ => Untouched moves shelf := by
        refine ensures_ofExcept fun desk h => ?_
        cases request.requiredTotal with
        | ok required => exact h
        | error e => exact h.untouched
      refine hrequired.bind fun required => ?_
      refine selectAndReserve_bind selectWithIds_sparesStore fun selected id coinIds hchose => ?_
      refine orRelease_ensures.bind fun plan => ensures_pure fun desk h => ⟨id, rfl, ?_⟩
      rw [buildTransferSpends_sources h.1, ← chose_selectWithIds hchose]
      exact h.2

theorem buildCatTransfer_ensures [CatDrivers] {assetId : Bytes32} {request : CatTransferRequest} :
    Ensures oracle (Serves moves) (Untaken moves shelf)
      (buildCatTransfer wallet custody assetId request reservations)
      (fun plan desk => ∃ id, plan.reservation = some id ∧ HoldsExactly moves shelf reservations id
        (plan.digSourceCoinIds ++ plan.xchSourceCoinIds) desk)
      fun _ => Untouched moves shelf := by
  cases custody with
  | vault vault => exact ensures_fail fun desk h => h.untouched
  | hot hot =>
      rw [buildCatTransfer]
      split
      · exact ensures_fail fun desk h => h.untouched
      split
      · exact ensures_fail fun desk h => h.untouched
      refine selectAndReserve_bind selectBothLegs_sparesStore
        fun ⟨catCoins, feeCoins⟩ id coinIds hchose => ?_
      refine (readsChain_ensures resolveAndBuild_readsChain).outcome.bind fun built => ?_
      cases built with
      | error e =>
          refine orRelease_ensures.bind fun plan => ensures_pure fun desk h => ?_
          cases h.1
      | ok built =>
          refine ensures_given fun ⟨i, hbuilt⟩ => ?_
          refine orRelease_ensures.bind fun plan => ensures_pure fun desk h => ⟨id, rfl, ?_⟩
          obtain ⟨hplan, hholds⟩ := h
          cases hplan
          rw [resolveAndBuild_sources hbuilt, ← chose_selectBothLegs hchose]
          exact hholds

end Transfers

theorem no_stranded_reservation [CoinHash] [CatDrivers] (oracle : HostOracle)
    (moves : Shelf → Shelf → Prop) (reservations : CoinReservations) :
    (∀ {ε α : Type} (select : List Bytes32 → HostReads ε (α × List Bytes32))
        (unusable : ReservationError → ε) (attempts i : Nat),
      (selectorCalls oracle reservations attempts select i).length ≤ max attempts 1 ∧
      (RespectsExclusions oracle select → NamesRequested oracle →
        (selectorCalls oracle reservations attempts select i).IsChain Grows) ∧
      (∀ other, (∀ called ∈ selectorCalls oracle reservations attempts select i,
          other called = select called) →
        (reservations.selectAndReserve attempts other unusable).run oracle i =
            (reservations.selectAndReserve attempts select unusable).run oracle i ∧
          (reservations.selectAndReserve attempts other unusable).transcript oracle i =
            (reservations.selectAndReserve attempts select unusable).transcript oracle i) ∧
      ((∀ excluded, OnlyAsks SparesStore (select excluded)) → ∀ shelf,
        Ensures oracle (Serves moves) (Untaken moves shelf)
          (reservations.selectAndReserve attempts select unusable)
          (fun granted desk => ∃ coinIds,
            HoldsExactly moves shelf reservations granted.2 coinIds desk ∧
              Chose oracle select granted.1 coinIds)
          fun _ => Untaken moves shelf)) ∧
    (∀ wallet custody request shelf,
      Ensures oracle (Serves moves) (Untaken moves shelf)
        (buildTransfer wallet custody request reservations)
        (fun plan desk => ∃ id, plan.reservation = some id ∧
          HoldsExactly moves shelf reservations id plan.sourceCoinIds desk)
        fun _ => Untouched moves shelf) ∧
    ∀ wallet custody assetId request shelf,
      Ensures oracle (Serves moves) (Untaken moves shelf)
        (buildCatTransfer wallet custody assetId request reservations)
        (fun plan desk => ∃ id, plan.reservation = some id ∧
          HoldsExactly moves shelf reservations id
            (plan.digSourceCoinIds ++ plan.xchSourceCoinIds) desk)
        fun _ => Untouched moves shelf := by
  refine ⟨fun select unusable attempts i => ⟨length_selectorCalls_le, ?_, ?_, ?_⟩,
    fun _ _ _ _ => buildTransfer_ensures, fun _ _ _ _ _ => buildCatTransfer_ensures⟩
  · exact fun hrespects hnames => selectorCalls_grow hrespects hnames
  · exact fun other h => selectAndReserve_congr h
  · exact fun hselect shelf => selectAndReserve_ensures hselect

section Example

@[reducible] def ringDrivers : CatDrivers where
  toTransferDrivers := plainDrivers
  CatProof := Unit
  Node := Program
  InnerSpend := Nat
  digAssetId := 8
  curryTreeHash assetId p2PuzzleHash := assetId + p2PuzzleHash
  nodeFromBytes program := .ok program
  parseChildren parent _ solution :=
    .ok (some (solution.map fun byte => ⟨⟨parent.amount, parent.puzzleHash, byte.toNat⟩, 8, ()⟩))
  spendWithConditions _ conditions := .ok conditions.length
  spendAll inputs :=
    .ok (inputs.map fun (cat, conditions) => ⟨cat.coin, [], [UInt8.ofNat conditions]⟩)

def digCoin : Coin := ⟨20, 13, 10⟩

def digParent : CoinSpend := ⟨⟨0, 13, 20⟩, [], [10]⟩

def digRecord : CoinRecord := ⟨digCoin, some 4, none⟩

def digOracle (parent : Option CoinSpend) (released : Except ReservationError Unit) : HostOracle :=
  fun i call =>
    match call with
    | .chain (.coinRecord _) => .ok (some digRecord)
    | .chain (.parentSpend _) => .ok parent
    | .coinRecordsByPuzzleHash _ _ => .ok [digRecord]
    | .reservation (.release _) => released
    | call => payerOracle i call

def digPlan : CatTransferPlan where
  coinSpends := [⟨digCoin, [], [2]⟩]
  digSourceCoinIds := [10]
  xchSourceCoinIds := []
  recipient := 9
  amountBaseUnits := 6
  feeMojos := 0
  changeBaseUnits := 4
  reservation := some 0

def digHeld (refusals : List ReservationId) : Desk := ⟨[], [(0, ⟨[10], 400⟩)], 100, refusals⟩

def digTransfer : letI := amountNames; HostReads CatTransferError CatTransferPlan :=
  letI := amountNames
  letI := ringDrivers
  buildCatTransfer payerKey (.hot ⟨0⟩) 8 ⟨9, 6, 0⟩ ⟨300⟩

def bothLegs (excluded : List Bytes32) :
    HostReads CatTransferError ((List Coin × List Coin) × List Bytes32) :=
  letI := amountNames
  letI := ringDrivers
  selectBothLegs 8 5 ⟨9, 6, 0⟩ excluded

theorem no_stranded_reservation_of_dig_transfer :
    letI := amountNames
    letI := ringDrivers
    digTransfer.run (digOracle (some digParent) (.ok ())) 0 = .ok digPlan ∧
      (selectorCalls (digOracle (some digParent) (.ok ())) ⟨300⟩ 16 bothLegs 0).length ≤ 16 ∧
      (selectorCalls (digOracle (some digParent) (.ok ())) ⟨300⟩ 16 bothLegs 0).IsChain Grows ∧
      ∃ id, digPlan.reservation = some id ∧
        HoldsExactly (fun _ _ => False) [] ⟨300⟩ id [10] (digHeld []) := by
  let _ := amountNames
  let _ := ringDrivers
  have hrun : digTransfer.run (digOracle (some digParent) (.ok ())) 0 = .ok digPlan := by
    decide +kernel
  have hserved : PartialMachine.run Desk.serve (opened [])
      (digTransfer.transcript (digOracle (some digParent) (.ok ())) 0) = some (digHeld []) := by
    decide +kernel
  have hnames : NamesRequested (digOracle (some digParent) (.ok ())) := by
    intro i coins nowUnix expiresAtUnix coinId h
    cases h
  obtain ⟨hselect, -, htransfer⟩ := no_stranded_reservation
    (digOracle (some digParent) (.ok ())) (fun _ _ => False) ⟨300⟩
  obtain ⟨hlength, hgrow, -⟩ := hselect bothLegs (fun e => .reservationUnusable e.display) 16 0
  have hsettles := htransfer payerKey (.hot ⟨0⟩) 8 ⟨9, 6, 0⟩ [] 0 _ _ untaken_opened
    (Reads.walk_of_run (fun _ _ _ _ => serves_of_serve) hserved)
  rw [show (buildCatTransfer payerKey (.hot ⟨0⟩) 8 ⟨9, 6, 0⟩ ⟨300⟩).run
    (digOracle (some digParent) (.ok ())) 0 = .ok digPlan from hrun] at hsettles
  exact ⟨hrun, hlength, hgrow selectBothLegs_respects hnames, hsettles⟩

def unreadableStore : HostOracle := digOracle none (.error (.unavailable "unreadable"))

def stubbornStore : HostOracle := fun i call =>
  match call with
  | .reservation (.held _) => .ok [77]
  | .reservation (.reserveAll _ _ _) => .error (.conflict 77)
  | call => digOracle (some digParent) (.ok ()) i call

theorem refused_release_and_foreign_conflict :
    letI := amountNames
    letI := ringDrivers
    (digTransfer.run unreadableStore 0 =
        .error (.lineageUnavailable 10 "its parent spend is unknown to this source") ∧
      Reads.Walk (Serves fun _ _ => False) (opened []) (digTransfer.transcript unreadableStore 0)
        (digHeld [0]) ∧
      (digHeld [0]).ours ≠ (opened []).ours) ∧
    RespectsExclusions stubbornStore bothLegs ∧
      ¬ (selectorCalls stubbornStore ⟨300⟩ 2 bothLegs 0).IsChain Grows := by
  let _ := amountNames
  let _ := ringDrivers
  have hserved : PartialMachine.run Desk.serve (opened [])
      (digTransfer.transcript unreadableStore 0) = some (digHeld [0]) := by
    decide +kernel
  have hcalls : selectorCalls stubbornStore ⟨300⟩ 2 bothLegs 0 = [[77], [77, 77]] := by
    decide +kernel
  refine ⟨⟨by decide +kernel, ?_, by decide⟩, selectBothLegs_respects, ?_⟩
  · exact Reads.walk_of_run (fun _ _ _ _ => serves_of_serve) hserved
  · intro hchain
    rw [hcalls, List.isChain_pair] at hchain
    obtain ⟨-, coinId, hmem, hfresh⟩ := hchain
    exact hfresh (by simpa using hmem)

end Example

end DigAccount
