import DigAccount.Foundation.Machine
import DigAccount.Foundation.Validator
import DigAccount.Wallet.TransferPlan

namespace DigAccount

open PartialMachine TransferDrivers

theorem totalAmount_eq_some {coins : List Coin} {total : Nat} :
    totalAmount coins = some total ↔ (coins.map Coin.amount).sum = total ∧ total ≤ u64Max := by
  rw [totalAmount, checkedSum_iff (Nat.zero_le _), Nat.zero_add]

theorem requiredTotal_ok {request : TransferRequest} {required : Nat} :
    request.requiredTotal = .ok required ↔
      request.amountMojos + request.feeMojos = required ∧ required ≤ u64Max := by
  rw [TransferRequest.requiredTotal]
  cases h : checkedAdd u64Max request.amountMojos request.feeMojos with
  | none =>
      have hover : ¬ request.amountMojos + request.feeMojos ≤ u64Max := by
        intro hle
        rw [checkedAdd_eq_some.2 ⟨hle, rfl⟩] at h
        cases h
      simp only [reduceCtorEq, false_iff]
      rintro ⟨rfl, hle⟩
      exact hover hle
  | some total =>
      obtain ⟨hle, rfl⟩ := checkedAdd_eq_some.1 h
      simp only [Except.ok.injEq]
      constructor
      · rintro rfl
        exact ⟨rfl, hle⟩
      · exact fun h => h.1

section Selection

variable [CoinHash] {puzzleHash : Bytes32} {required : Nat} {reserved : List Bytes32}
  {selected : List Coin}

theorem judgeListing_home (records : List CoinRecord) (seen : List Bytes32) :
    ∀ coin ∈ (judgeListing puzzleHash records seen).1, coin.puzzleHash = puzzleHash := by
  induction records generalizing seen with
  | nil => exact fun coin h => by cases h
  | cons record records ih =>
      rw [judgeListing]
      split
      · exact ih seen
      split
      · exact ih seen
      rename_i hhome
      split
      · exact ih seen
      split
      · exact ih seen
      · intro coin hmem
        rcases List.mem_cons.1 hmem with rfl | hmem
        · exact not_not.1 hhome
        · exact ih _ coin hmem

omit [CoinHash] in
theorem accumulate_subset (coins : List Coin) (total : Nat) :
    accumulate required total coins ⊆ coins := by
  induction coins generalizing total with
  | nil => exact List.Subset.refl _
  | cons coin coins ih =>
      unfold accumulate
      dsimp only
      split
      · exact List.cons_subset_cons coin (List.nil_subset coins)
      · exact List.cons_subset_cons coin (ih _)

omit [CoinHash] in
theorem fewestCoins_subset {spendable : List Coin}
    (h : fewestCoins required spendable = .ok selected) : selected ⊆ spendable := by
  rw [fewestCoins] at h
  split at h
  · rename_i single hfind
    cases h
    intro coin hmem
    rw [List.mem_singleton.1 hmem]
    exact List.mem_of_find?_eq_some hfind
  · dsimp only at h
    split at h
    · cases h
    · cases h
      exact fun coin hmem => List.mem_reverse.1 (accumulate_subset _ _ hmem)

theorem chooseInputCoins_home {records : List CoinRecord}
    (h : chooseInputCoins puzzleHash required reserved records = .ok selected) :
    ∀ coin ∈ selected, coin.puzzleHash = puzzleHash := by
  rw [chooseInputCoins] at h
  dsimp only at h
  split at h
  · cases h
  split at h
  · split at h <;> cases h
  split at h
  · cases h
  split at h
  · cases h
  · intro coin hmem
    have hfree := List.mem_of_mem_filter (fewestCoins_subset h hmem)
    exact judgeListing_home records [] coin (List.mem_mergeSort.1 hfree)

theorem selectWithIds_home {oracle : HostOracle} {i : Nat} {ids : List Bytes32}
    (h : (selectWithIds puzzleHash required reserved).run oracle i = .ok (selected, ids)) :
    ∀ coin ∈ selected, coin.puzzleHash = puzzleHash := by
  rw [selectWithIds, Fallible.run_bind_eq_ok] at h
  obtain ⟨coins, hcoins, hpair⟩ := h
  cases hpair
  rw [selectInputCoins, Fallible.run_bind_eq_ok] at hcoins
  obtain ⟨records, -, hchosen⟩ := hcoins
  rw [Fallible.run_bind_eq_ok] at hchosen
  obtain ⟨chosen, hchoose, hconfirmed⟩ := hchosen
  rw [Fallible.run_bind_eq_ok] at hconfirmed
  obtain ⟨-, -, hsame⟩ := hconfirmed
  cases hsame
  exact chooseInputCoins_home hchoose

end Selection

section Builder

variable [CoinHash] [TransferDrivers] {wallet : WalletKey}

structure PendingTransfer.SpendsFrom (wallet : WalletKey) (coins : List Coin)
    (pending : PendingTransfer) : Prop where
  payment : ∃ lead, coins.getLast? = some lead ∧
    pending.paymentCoinId = coinId ⟨coinId lead, pending.recipient, pending.amountMojos⟩
  sources : pending.sourceCoinIds = coins.map coinId
  home : ∀ coin ∈ coins, coin.puzzleHash = wallet.puzzleHash
  balance : pending.amountMojos + pending.feeMojos + pending.changeMojos =
    (coins.map Coin.amount).sum
  judged : (coins.map Coin.amount).sum ≤ u64Max

class DriversBuild : Prop where
  hint_ok : ∀ recipient, ∃ memos, hint recipient = .ok memos
  standardSpend_ok : ∀ publicKey coin conditions,
    ∃ spend, standardSpend publicKey coin conditions = .ok spend

variable {selected : List Coin} {request : TransferRequest} {reservation : Option ReservationId}

omit [CoinHash] [TransferDrivers] in
theorem changeOf_ok {change : Nat} :
    changeOf selected request = .ok change ↔
      request.amountMojos + request.feeMojos + change = (selected.map Coin.amount).sum ∧
        (selected.map Coin.amount).sum ≤ u64Max := by
  cases htotal : totalAmount selected with
  | none =>
      have hover : ¬ (selected.map Coin.amount).sum ≤ u64Max := by
        intro hle
        rw [totalAmount_eq_some.2 ⟨rfl, hle⟩] at htotal
        cases htotal
      simp [changeOf, htotal, hover]
  | some total =>
      obtain ⟨hsum, hle⟩ := totalAmount_eq_some.1 htotal
      cases hrequired : request.requiredTotal with
      | error e =>
          have hover : ¬ request.amountMojos + request.feeMojos ≤ u64Max := by
            intro hle
            rw [requiredTotal_ok.2 ⟨rfl, hle⟩] at hrequired
            cases hrequired
          simp only [changeOf, htotal, hrequired, Bind.bind, Except.bind, reduceCtorEq, false_iff]
          omega
      | ok required =>
          obtain ⟨hrequire, -⟩ := requiredTotal_ok.1 hrequired
          by_cases hshort : total < required
          · simp only [changeOf, htotal, hrequired, Bind.bind, Except.bind, if_pos hshort,
              reduceCtorEq, false_iff]
            omega
          · simp only [changeOf, htotal, hrequired, Bind.bind, Except.bind, if_neg hshort,
              Except.ok.injEq]
            omega

theorem buildTransferSpends_eq_ok {plan : TransferPlan}
    (h : buildTransferSpends wallet selected request reservation = .ok plan) :
    ∃ lead change memos leadSpend secondaries, selected.getLast? = some lead ∧
      changeOf selected request = .ok change ∧
      spendLead wallet lead (leadConditions wallet request change memos selected.dropLast) =
        .ok leadSpend ∧
      selected.dropLast.mapM (spendSecondary wallet
        (announcementId (coinId lead) inputBindingMessage)) = .ok secondaries ∧
      plan = ⟨leadSpend :: secondaries,
        coinId ⟨coinId lead, request.recipient, request.amountMojos⟩, selected.map coinId,
        request.recipient, request.amountMojos, request.feeMojos, change, reservation⟩ := by
  simp only [buildTransferSpends] at h
  split at h
  · cases h
  rename_i lead hlead
  obtain ⟨change, hchange, h⟩ := Validator.bind_ok.1 h
  obtain ⟨memos, -, h⟩ := Validator.bind_ok.1 h
  obtain ⟨leadSpend, hleadSpend, h⟩ := Validator.bind_ok.1 h
  obtain ⟨secondaries, hsecondaries, h⟩ := Validator.bind_ok.1 h
  cases h
  exact ⟨lead, change, memos, leadSpend, secondaries, hlead, hchange, hleadSpend, hsecondaries, rfl⟩

theorem buildTransferSpends_spendsFrom {plan : TransferPlan}
    (h : buildTransferSpends wallet selected request reservation = .ok plan)
    (home : ∀ coin ∈ selected, coin.puzzleHash = wallet.puzzleHash) (peak : Nat) :
    (plan.pushedAt peak).SpendsFrom wallet selected ∧ plan.recipient = request.recipient ∧
      plan.amountMojos = request.amountMojos ∧ plan.feeMojos = request.feeMojos := by
  obtain ⟨lead, change, memos, leadSpend, secondaries, hlead, hchange, -, -, rfl⟩ :=
    buildTransferSpends_eq_ok h
  obtain ⟨hbalance, hjudged⟩ := changeOf_ok.1 hchange
  exact ⟨⟨⟨lead, hlead, rfl⟩, rfl, home, hbalance, hjudged⟩, rfl, rfl, rfl⟩

omit [CoinHash] in
theorem mapM_spendSecondary_ok [DriversBuild] (binding : Bytes32) (coins : List Coin) :
    ∃ spends, coins.mapM (spendSecondary wallet binding) = .ok spends := by
  induction coins with
  | nil => exact ⟨[], rfl⟩
  | cons coin coins ih =>
      obtain ⟨spends, hspends⟩ := ih
      obtain ⟨spend, hspend⟩ :=
        DriversBuild.standardSpend_ok wallet.publicKey coin [.assertCoinAnnouncement binding]
      refine ⟨spend :: spends, ?_⟩
      rw [List.mapM_cons, hspends]
      simp [spendSecondary, hspend, Bind.bind, Except.bind, Pure.pure, Except.pure]

theorem buildTransferSpends_ok [DriversBuild] {lead : Coin} (hlead : selected.getLast? = some lead)
    {change : Nat} (hchange : changeOf selected request = .ok change) :
    ∃ plan, buildTransferSpends wallet selected request reservation = .ok plan := by
  obtain ⟨memos, hmemos⟩ := DriversBuild.hint_ok request.recipient
  obtain ⟨leadSpend, hleadSpend⟩ := DriversBuild.standardSpend_ok wallet.publicKey lead
    (leadConditions wallet request change memos selected.dropLast)
  have hsecondaries : ∃ spends, selected.dropLast.mapM (spendSecondary wallet
      (announcementId (coinId lead) inputBindingMessage)) = .ok spends :=
    mapM_spendSecondary_ok _ _
  obtain ⟨spends, hspends⟩ := hsecondaries
  simp [buildTransferSpends, hlead, hchange, recipientHint, hmemos, spendLead, hleadSpend, hspends,
    Bind.bind, Except.bind, Pure.pure, Except.pure]

theorem buildTransfer_spendsFrom {custody : CustodyPolicy} {reservations : CoinReservations}
    {oracle : HostOracle} {i : Nat} {plan : TransferPlan}
    (h : (buildTransfer wallet custody request reservations).run oracle i = .ok plan)
    (peak : Nat) :
    (∃ hot, custody = .hot hot) ∧
      ∃ coins, (plan.pushedAt peak).SpendsFrom wallet coins := by
  simp only [buildTransfer] at h
  split at h
  · cases h
  rename_i hot
  refine ⟨⟨hot, rfl⟩, ?_⟩
  split at h
  · cases h
  split at h
  · cases h
  rw [Fallible.run_bind_eq_ok] at h
  obtain ⟨required, -, h⟩ := h
  rw [Fallible.run_bind_eq_ok] at h
  obtain ⟨⟨selected, held⟩, hselected, h⟩ := h
  rw [Fallible.run_bind_eq_ok] at h
  obtain ⟨built, hbuilt, hplan⟩ := h
  cases hplan
  obtain ⟨excluded, ids, j, hchosen⟩ := CoinReservations.selectAndReserve_chosen hselected
  have hspends := buildTransferSpends_spendsFrom (CoinReservations.orRelease_ok.1 hbuilt)
    (selectWithIds_home hchosen) peak
  exact ⟨selected, hspends.1⟩

end Builder

section Reread

variable [CoinHash] {wallet : WalletKey} {oracle : Oracle} {i : Nat}

def SourcesSpendable (oracle : Oracle) (i : Nat) (ids : List Bytes32) : Prop :=
  ∀ k, i ≤ k → ∀ id ∈ ids, ∃ record, oracle k (.coinRecord id) = .ok (some record) ∧
    coinId record.coin = id ∧ record.confirmedHeight.isSome ∧ record.isSpent = false

theorem judgeReread_ok {id : Bytes32} {found : Option CoinRecord} {coin : Coin} :
    judgeReread wallet id found = .ok coin ↔
      ∃ record, found = some record ∧ coinId record.coin = id ∧ record.confirmedHeight.isSome ∧
        record.isSpent = false ∧ record.coin.puzzleHash = wallet.puzzleHash ∧
        record.coin = coin := by
  cases found with
  | none => simp [judgeReread]
  | some record =>
      by_cases hid : coinId record.coin = id <;>
        by_cases hhome : record.coin.puzzleHash = wallet.puzzleHash <;>
        cases hspent : record.isSpent <;> cases hconfirmed : record.confirmedHeight <;>
        simp [judgeReread, hid, hhome, hspent, hconfirmed]

theorem rereadInputs_ok {ids : List Bytes32} {inputs : List Coin}
    (h : (rereadInputs wallet ids).run oracle i = .ok inputs) :
    inputs.map coinId = ids ∧ ∀ coin ∈ inputs, coin.puzzleHash = wallet.puzzleHash := by
  induction ids generalizing inputs i with
  | nil =>
      cases h
      exact ⟨rfl, fun coin hmem => by cases hmem⟩
  | cons id ids ih =>
      rw [rereadInputs, Fallible.run_bind_eq_ok] at h
      obtain ⟨coin, hcoin, h⟩ := h
      rw [Fallible.run_bind_eq_ok] at h
      obtain ⟨coins, hcoins, hinputs⟩ := h
      cases hinputs
      rw [rereadSpendableInput, Fallible.run_bind_eq_ok] at hcoin
      obtain ⟨found, -, hjudged⟩ := hcoin
      obtain ⟨record, -, hid, -, -, hhome, rfl⟩ := judgeReread_ok.1 hjudged
      obtain ⟨hids, hhomes⟩ := ih hcoins
      refine ⟨by rw [List.map_cons, hid, hids], fun coin hmem => ?_⟩
      rcases List.mem_cons.1 hmem with rfl | hmem
      · exact hhome
      · exact hhomes coin hmem

theorem run_rereadInputs (injective : Function.Injective coinId) {coins : List Coin}
    (home : ∀ coin ∈ coins, coin.puzzleHash = wallet.puzzleHash)
    (spendable : SourcesSpendable oracle i (coins.map coinId)) :
    (rereadInputs wallet (coins.map coinId)).run oracle i = .ok coins := by
  induction coins generalizing i with
  | nil => rfl
  | cons coin coins ih =>
      obtain ⟨record, hread, hid, hconfirmed, hunspent⟩ :=
        spendable i (Nat.le_refl i) (coinId coin) (List.mem_cons_self ..)
      have hcoin : record.coin = coin := injective hid
      have hjudged : judgeReread wallet (coinId coin) (some record) = .ok coin :=
        judgeReread_ok.2 ⟨record, rfl, hid, hconfirmed, hunspent,
          hcoin ▸ home coin (List.mem_cons_self ..), hcoin⟩
      have hfirst : (rereadSpendableInput wallet (coinId coin)).run oracle i = .ok coin := by
        rw [rereadSpendableInput, run_readCoinRecord_bind hread]
        exact hjudged
      have hafter : (rereadSpendableInput wallet (coinId coin)).after oracle i = i + 1 := by
        rw [rereadSpendableInput, Fallible.after_bind_of_ok (run_readCoinRecord_ok hread)]
        rfl
      rw [List.map_cons, rereadInputs, Fallible.run_bind_of_ok hfirst, Fallible.run_bind_eq_ok]
      refine ⟨coins, ih (fun c hc => home c (List.mem_cons_of_mem _ hc)) ?_, rfl⟩
      intro k hk id hmem
      rw [hafter] at hk
      exact spendable k (Nat.le_of_succ_le hk) id (List.mem_cons_of_mem _ hmem)

end Reread

section Replacement

variable [CoinHash] [TransferDrivers] {wallet : WalletKey} {coins : List Coin}
  {original pending next : PendingTransfer}

structure ReplaceStep where
  oracle : Oracle
  start : Nat
  custody : CustodyPolicy
  newFeeMojos : Nat
  prePushPeak : Nat

def replaceStep (wallet : WalletKey) (pending : PendingTransfer) (s : ReplaceStep) :
    Option PendingTransfer :=
  match (buildTransferReplacing wallet s.custody pending s.newFeeMojos).run s.oracle s.start with
  | .error _ => none
  | .ok plan => some (plan.pushedAt s.prePushPeak)

structure PendingTransfer.SamePayment (original pending : PendingTransfer) : Prop where
  sourceCoinIds : pending.sourceCoinIds = original.sourceCoinIds
  paymentCoinId : pending.paymentCoinId = original.paymentCoinId
  amountMojos : pending.amountMojos = original.amountMojos
  recipient : pending.recipient = original.recipient
  feeAndChange : pending.feeMojos + pending.changeMojos =
    original.feeMojos + original.changeMojos

theorem buildTransferReplacing_ok (injective : Function.Injective coinId)
    (hspends : pending.SpendsFrom wallet coins) {custody : CustodyPolicy} {newFeeMojos : Nat}
    {oracle : Oracle} {i : Nat} {plan : TransferPlan}
    (h : (buildTransferReplacing wallet custody pending newFeeMojos).run oracle i = .ok plan)
    (peak : Nat) :
    pending.feeMojos < newFeeMojos ∧ (plan.pushedAt peak).SpendsFrom wallet coins ∧
      plan.recipient = pending.recipient ∧ plan.amountMojos = pending.amountMojos ∧
      plan.feeMojos = newFeeMojos := by
  simp only [buildTransferReplacing] at h
  split at h
  · cases h
  split at h
  · cases h
  rename_i hfee
  rw [Fallible.run_bind_eq_ok] at h
  obtain ⟨required, -, h⟩ := h
  rw [Fallible.run_bind_eq_ok] at h
  obtain ⟨inputs, hinputs, h⟩ := h
  rw [Fallible.run_bind_eq_ok] at h
  obtain ⟨-, -, hbuilt⟩ := h
  obtain ⟨hids, hhome⟩ := rereadInputs_ok hinputs
  rw [hspends.sources] at hids
  have hsame : inputs = coins := injective.list_map hids
  rw [hsame] at hbuilt
  exact ⟨Nat.lt_of_not_le hfee, buildTransferSpends_spendsFrom hbuilt hspends.home peak⟩

theorem buildTransferReplacing_iff [DriversBuild] (injective : Function.Injective coinId)
    (hspends : pending.SpendsFrom wallet coins) (hot : HotWallet) {newFeeMojos : Nat}
    {oracle : Oracle} {i : Nat} (spendable : SourcesSpendable oracle i pending.sourceCoinIds) :
    (∃ plan, (buildTransferReplacing wallet (.hot hot) pending newFeeMojos).run oracle i =
        .ok plan) ↔
      pending.feeMojos < newFeeMojos ∧ newFeeMojos ≤ pending.maxReplacementFeeMojos := by
  have hbalance := hspends.balance
  constructor
  · rintro ⟨plan, hplan⟩
    obtain ⟨hfee, hnext, -, hamount, hnewFee⟩ :=
      buildTransferReplacing_ok injective hspends hplan 0
    have hnextBalance := hnext.balance
    simp only [TransferPlan.pushedAt, hamount, hnewFee] at hnextBalance
    refine ⟨hfee, ?_⟩
    simp only [PendingTransfer.maxReplacementFeeMojos]
    omega
  · rintro ⟨hfee, hmax⟩
    simp only [PendingTransfer.maxReplacementFeeMojos] at hmax
    have hjudged := hspends.judged
    let request : TransferRequest := ⟨pending.recipient, pending.amountMojos, newFeeMojos⟩
    have hrequired : request.requiredTotal = .ok (pending.amountMojos + newFeeMojos) :=
      requiredTotal_ok.2 ⟨rfl, by omega⟩
    have hinputs : (rereadInputs wallet pending.sourceCoinIds).run oracle i = .ok coins := by
      rw [hspends.sources] at spendable ⊢
      exact run_rereadInputs injective hspends.home spendable
    have hcover : coverReplacement (pending.amountMojos + newFeeMojos) coins = .ok () := by
      have hcovered : ¬ (coins.map Coin.amount).sum < pending.amountMojos + newFeeMojos := by omega
      simp [coverReplacement, totalAmount_eq_some.2 ⟨rfl, hjudged⟩, hcovered]
    obtain ⟨lead, hlead, -⟩ := hspends.payment
    have hchange : changeOf coins request =
        .ok (pending.feeMojos + pending.changeMojos - newFeeMojos) := by
      refine changeOf_ok.2 ⟨?_, hjudged⟩
      change pending.amountMojos + newFeeMojos +
        (pending.feeMojos + pending.changeMojos - newFeeMojos) = _
      omega
    have hbuilds : ∃ plan, buildTransferSpends wallet coins request none = .ok plan :=
      buildTransferSpends_ok hlead hchange
    obtain ⟨plan, hplan⟩ := hbuilds
    refine ⟨plan, ?_⟩
    simp only [buildTransferReplacing, if_neg (Nat.not_le_of_lt hfee)]
    rw [Fallible.run_bind_of_ok (Fallible.run_ofExcept.trans hrequired)]
    rw [Fallible.after_ofExcept, Fallible.run_bind_of_ok hinputs]
    rw [Fallible.run_bind_of_ok (Fallible.run_ofExcept.trans hcover)]
    exact hplan

theorem replaceStep_cases (injective : Function.Injective coinId)
    (hspends : pending.SpendsFrom wallet coins) {s : ReplaceStep}
    (h : replaceStep wallet pending s = some next) :
    next.SpendsFrom wallet coins ∧ next.recipient = pending.recipient ∧
      next.amountMojos = pending.amountMojos ∧ next.feeMojos = s.newFeeMojos ∧
      pending.feeMojos < s.newFeeMojos := by
  simp only [replaceStep] at h
  split at h
  · cases h
  · rename_i plan hplan
    cases h
    obtain ⟨hfee, hnext, hrecipient, hamount, hnewFee⟩ :=
      buildTransferReplacing_ok injective hspends hplan s.prePushPeak
    exact ⟨hnext, hrecipient, hamount, hnewFee, hfee⟩

omit [TransferDrivers] in
theorem samePayment (horiginal : original.SpendsFrom wallet coins)
    (hpending : pending.SpendsFrom wallet coins)
    (hrecipient : pending.recipient = original.recipient)
    (hamount : pending.amountMojos = original.amountMojos) : original.SamePayment pending := by
  obtain ⟨lead, hlead, hpayment⟩ := horiginal.payment
  obtain ⟨lead', hlead', hpayment'⟩ := hpending.payment
  have hsame : lead' = lead := Option.some.inj (hlead'.symm.trans hlead)
  refine ⟨hpending.sources.trans horiginal.sources.symm, ?_, hamount, hrecipient, ?_⟩
  · rw [hpayment', hpayment, hsame, hrecipient, hamount]
  · have hbalance := horiginal.balance
    have hbalance' := hpending.balance
    omega

theorem run_replaceStep (injective : Function.Injective coinId)
    (horiginal : original.SpendsFrom wallet coins) {steps : List ReplaceStep}
    (hrun : run (replaceStep wallet) original steps = some pending) :
    pending.SpendsFrom wallet coins ∧ pending.recipient = original.recipient ∧
      pending.amountMojos = original.amountMojos ∧
      (original.feeMojos :: steps.map ReplaceStep.newFeeMojos).IsChain (· < ·) ∧
      (original.feeMojos :: steps.map ReplaceStep.newFeeMojos).getLast? =
        some pending.feeMojos := by
  induction steps generalizing original with
  | nil =>
      cases hrun
      exact ⟨horiginal, rfl, rfl, .singleton _, rfl⟩
  | cons s steps ih =>
      rw [run_cons, Option.bind_eq_some_iff] at hrun
      obtain ⟨next, hstep, hrest⟩ := hrun
      obtain ⟨hnext, hrecipient, hamount, hfee, hhigher⟩ :=
        replaceStep_cases injective horiginal hstep
      obtain ⟨hpending, hrecipient', hamount', hchain, hlast⟩ := ih hnext hrest
      rw [hfee] at hchain hlast
      refine ⟨hpending, hrecipient'.trans hrecipient, hamount'.trans hamount, ?_, ?_⟩
      · exact .cons_cons hhigher hchain
      · rw [List.map_cons, List.getLast?_cons_cons]
        exact hlast

theorem fee_replacement_keeps_payment (injective : Function.Injective coinId)
    {custody : CustodyPolicy} {request : TransferRequest} {reservations : CoinReservations}
    {oracle : HostOracle} {i : Nat} {plan : TransferPlan}
    (hbuild : (buildTransfer wallet custody request reservations).run oracle i = .ok plan)
    (prePushPeak : Nat) {steps : List ReplaceStep}
    (hrun : run (replaceStep wallet) (plan.pushedAt prePushPeak) steps = some pending) :
    (plan.pushedAt prePushPeak).SamePayment pending ∧
      (plan.feeMojos :: steps.map ReplaceStep.newFeeMojos).Pairwise (· < ·) ∧
      (plan.feeMojos :: steps.map ReplaceStep.newFeeMojos).getLast? = some pending.feeMojos ∧
      (DriversBuild → ∀ oracle i newFeeMojos,
        SourcesSpendable oracle i pending.sourceCoinIds →
          ((∃ plan, (buildTransferReplacing wallet custody pending newFeeMojos).run oracle i =
              .ok plan) ↔
            pending.feeMojos < newFeeMojos ∧ newFeeMojos ≤ pending.maxReplacementFeeMojos)) := by
  obtain ⟨⟨hot, rfl⟩, coins, horiginal⟩ := buildTransfer_spendsFrom hbuild prePushPeak
  obtain ⟨hpending, hrecipient, hamount, hchain, hlast⟩ :=
    run_replaceStep injective horiginal hrun
  refine ⟨samePayment horiginal hpending hrecipient hamount, List.isChain_iff_pairwise.1 hchain,
    hlast, fun _ oracle i newFeeMojos spendable => ?_⟩
  exact buildTransferReplacing_iff injective hpending hot spendable

end Replacement

section Example

@[reducible] def plainDrivers : TransferDrivers where
  Memos := Unit
  hint _ := .ok ()
  announcementId coinId _ := coinId
  standardSpend _ coin conditions := .ok ⟨coin, [], [UInt8.ofNat conditions.length]⟩

theorem plainDrivers_build : letI := plainDrivers; DriversBuild :=
  let _ := plainDrivers
  { hint_ok := fun _ => ⟨(), rfl⟩
    standardSpend_ok := fun _ _ _ => ⟨_, rfl⟩ }

def payerKey : WalletKey := ⟨3, 5⟩

def payerCoin : Coin := ⟨1, 5, 10⟩

def payerRecord : CoinRecord := ⟨payerCoin, some 4, none⟩

def payerOracle : HostOracle := fun _ call =>
  match call with
  | .chain (.coinRecord _) => .ok (some payerRecord)
  | .chain .peakHeight => .ok none
  | .chain (.parentSpend _) => .ok none
  | .chain (.resolveSingletonLineage _) => .ok none
  | .chain (.walkDidLineageToTip _) => .ok none
  | .chain (.proveLineage _ _) => .error (.other "")
  | .chain (.discoverDistributor _) => .ok none
  | .chain (.fetchProfileSlots _ _) => .ok []
  | .chain (.push _) => .ok .accepted
  | .coinRecordsByPuzzleHash _ _ => .ok [payerRecord]
  | .reservation (.held _) => .ok []
  | .reservation (.reserveAll _ _ _) => .ok 0
  | .reservation (.release _) => .ok ()
  | .nowUnix => .ok 100
  | .isLive => true

def payerPlan (fee change : Nat) (outputs : UInt8) (held : Option ReservationId) : TransferPlan :=
  letI := pairHash
  { coinSpends := [⟨payerCoin, [], [outputs]⟩]
    paymentCoinId := coinId ⟨coinId payerCoin, 9, 6⟩
    sourceCoinIds := [coinId payerCoin]
    recipient := 9
    amountMojos := 6
    feeMojos := fee
    changeMojos := change
    reservation := held }

def twoBumps : List ReplaceStep :=
  [⟨payerOracle.chainSide, 0, .hot ⟨0⟩, 1, 7⟩, ⟨payerOracle.chainSide, 0, .hot ⟨0⟩, 2, 8⟩]

def payerPending (fee change : Nat) (peak : Nat) : PendingTransfer :=
  (payerPlan fee change 0 none).pushedAt peak

theorem fee_replacement_keeps_payment_of_two_bumps :
    letI := pairHash; letI := plainDrivers
    (buildTransfer payerKey (.hot ⟨0⟩) ⟨9, 6, 0⟩ ⟨300⟩).run payerOracle 0 =
        .ok (payerPlan 0 4 2 (some 0)) ∧
      run (replaceStep payerKey) (payerPending 0 4 5) twoBumps = some (payerPending 2 2 8) ∧
      (payerPending 0 4 5).SamePayment (payerPending 2 2 8) ∧
      ([0, 1, 2] : List Nat).Pairwise (· < ·) ∧ ([0, 1, 2] : List Nat).getLast? = some 2 ∧
      ∀ oracle i newFeeMojos, SourcesSpendable oracle i [coinId payerCoin] →
        ((∃ plan, (buildTransferReplacing payerKey (.hot ⟨0⟩) (payerPending 2 2 8)
            newFeeMojos).run oracle i = .ok plan) ↔ 2 < newFeeMojos ∧ newFeeMojos ≤ 4) := by
  let _ := pairHash
  let _ := plainDrivers
  have hbuild : (buildTransfer payerKey (.hot ⟨0⟩) ⟨9, 6, 0⟩ ⟨300⟩).run payerOracle 0 =
      .ok (payerPlan 0 4 2 (some 0)) := by decide +kernel
  have hrun : run (replaceStep payerKey) ((payerPlan 0 4 2 (some 0)).pushedAt 5) twoBumps =
      some (payerPending 2 2 8) := by decide +kernel
  obtain ⟨hsame, hrising, hlast, hiff⟩ :=
    fee_replacement_keeps_payment pairHash_injective hbuild 5 hrun
  exact ⟨hbuild, hrun, hsame, hrising, hlast, hiff plainDrivers_build⟩

end Example

end DigAccount
