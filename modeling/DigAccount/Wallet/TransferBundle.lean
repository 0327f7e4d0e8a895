import DigAccount.Wallet.FewestCoins

namespace DigAccount

open TransferDrivers LargestFirst

class EmittingDrivers extends TransferDrivers where
  emits : CoinSpend → List (Condition Memos)
  standardSpend_emits : ∀ publicKey coin conditions spend,
    standardSpend publicKey coin conditions = .ok spend →
      spend.coin = coin ∧ emits spend = conditions

open EmittingDrivers

section Consensus

variable [CoinHash] [EmittingDrivers]

def outputsOf (spend : CoinSpend) : List Coin :=
  (emits spend).filterMap fun
    | .createCoin puzzleHash amount _ => some ⟨coinId spend.coin, puzzleHash, amount⟩
    | _ => none

def announcedBy (spend : CoinSpend) : List Bytes32 :=
  (emits spend).filterMap fun
    | .createCoinAnnouncement message => some (announcementId (coinId spend.coin) message)
    | _ => none

omit [CoinHash] in
def feeOf (spend : CoinSpend) : Nat :=
  ((emits spend).filterMap fun
    | .reserveFee amount => some amount
    | _ => none).sum

omit [CoinHash] in
def assertedBy (spend : CoinSpend) : List Bytes32 :=
  (emits spend).filterMap fun
    | .assertCoinAnnouncement announcementId => some announcementId
    | _ => none

structure AssertionsMet (bundle : List CoinSpend) : Prop where
  nonempty : bundle ≠ []
  met : ∀ spend ∈ bundle, ∀ id ∈ assertedBy spend, ∃ other ∈ bundle, id ∈ announcedBy other

omit [CoinHash] in
theorem sum_feeOf_eq_zero {spends : List CoinSpend} (h : ∀ spend ∈ spends, feeOf spend = 0) :
    (spends.map feeOf).sum = 0 := by
  refine List.sum_eq_zero fun fee hfee => ?_
  obtain ⟨spend, hmem, rfl⟩ := List.mem_map.1 hfee
  exact h spend hmem

end Consensus

section Builder

variable [CoinHash] [EmittingDrivers] {wallet : WalletKey} {selected : List Coin}
  {request : TransferRequest} {reservation : Option ReservationId} {plan : TransferPlan}

def paymentCoin (lead : Coin) (plan : TransferPlan) : Coin :=
  ⟨coinId lead, plan.recipient, plan.amountMojos⟩

def changeCoin (wallet : WalletKey) (lead : Coin) (plan : TransferPlan) : Coin :=
  ⟨coinId lead, wallet.puzzleHash, plan.changeMojos⟩

omit [CoinHash] in
theorem spendLead_ok {lead : Coin} {conditions : List (Condition Memos)} {spend : CoinSpend}
    (h : spendLead wallet lead conditions = .ok spend) :
    spend.coin = lead ∧ emits spend = conditions := by
  rw [spendLead] at h
  split at h
  · cases h
  · rename_i built hbuilt
    cases h
    exact standardSpend_emits _ _ _ _ hbuilt

omit [CoinHash] in
theorem spendSecondary_ok {binding : Bytes32} {coin : Coin} {spend : CoinSpend}
    (h : spendSecondary wallet binding coin = .ok spend) :
    spend.coin = coin ∧ emits spend = [.assertCoinAnnouncement binding] := by
  rw [spendSecondary] at h
  split at h
  · cases h
  · rename_i built hbuilt
    cases h
    exact standardSpend_emits _ _ _ _ hbuilt

omit [CoinHash] in
theorem spendSecondaries_ok {binding : Bytes32} {coins : List Coin} {spends : List CoinSpend}
    (h : coins.mapM (spendSecondary wallet binding) = .ok spends) :
    spends.map CoinSpend.coin = coins ∧
      ∀ spend ∈ spends, emits spend = [.assertCoinAnnouncement binding] := by
  induction coins generalizing spends with
  | nil =>
      cases h
      exact ⟨rfl, fun spend hmem => by cases hmem⟩
  | cons coin coins ih =>
      rw [List.mapM_cons] at h
      obtain ⟨first, hfirst, h⟩ := Validator.bind_ok.1 h
      obtain ⟨rest, hrest, h⟩ := Validator.bind_ok.1 h
      cases h
      obtain ⟨hcoin, hemits⟩ := spendSecondary_ok hfirst
      obtain ⟨hcoins, hall⟩ := ih hrest
      exact ⟨by rw [List.map_cons, hcoin, hcoins], List.forall_mem_cons.2 ⟨hemits, hall⟩⟩

structure BuiltFrom (wallet : WalletKey) (selected : List Coin) (request : TransferRequest)
    (plan : TransferPlan) (lead : Coin) (leadSpend : CoinSpend) (secondaries : List CoinSpend) :
    Prop where
  isLast : selected.getLast? = some lead
  spends : plan.coinSpends = leadSpend :: secondaries
  leadCoin : leadSpend.coin = lead
  leadEmits : ∃ memos, emits leadSpend =
    leadConditions wallet request plan.changeMojos memos selected.dropLast
  coins : secondaries.map CoinSpend.coin = selected.dropLast
  secondaryEmits : ∀ spend ∈ secondaries, emits spend =
    [.assertCoinAnnouncement (announcementId (coinId lead) inputBindingMessage)]
  balance : request.amountMojos + request.feeMojos + plan.changeMojos = totalMojos selected
  recipient : plan.recipient = request.recipient
  amount : plan.amountMojos = request.amountMojos
  fee : plan.feeMojos = request.feeMojos
  paymentId : plan.paymentCoinId = coinId (paymentCoin lead plan)

theorem buildTransferSpends_built
    (h : buildTransferSpends wallet selected request reservation = .ok plan) :
    ∃ lead leadSpend secondaries,
      BuiltFrom wallet selected request plan lead leadSpend secondaries := by
  obtain ⟨lead, change, memos, leadSpend, secondaries, hlead, hchange, hleadSpend, hsecondaries,
    rfl⟩ := buildTransferSpends_eq_ok h
  obtain ⟨hcoin, hemits⟩ := spendLead_ok hleadSpend
  obtain ⟨hcoins, hall⟩ := spendSecondaries_ok hsecondaries
  exact ⟨lead, leadSpend, secondaries, hlead, rfl, hcoin, ⟨memos, hemits⟩, hcoins, hall,
    (changeOf_ok.1 hchange).1, rfl, rfl, rfl, rfl⟩

variable {lead : Coin} {leadSpend : CoinSpend} {secondaries : List CoinSpend}

namespace BuiltFrom

variable (h : BuiltFrom wallet selected request plan lead leadSpend secondaries)
include h

theorem outputsOf_lead :
    outputsOf leadSpend =
      paymentCoin lead plan ::
        if 0 < plan.changeMojos then [changeCoin wallet lead plan] else [] := by
  obtain ⟨memos, hemits⟩ := h.leadEmits
  rw [outputsOf, hemits, h.leadCoin, leadConditions, paymentCoin, h.recipient, h.amount]
  split_ifs <;> rfl

theorem feeOf_lead : feeOf leadSpend = plan.feeMojos := by
  obtain ⟨memos, hemits⟩ := h.leadEmits
  rw [feeOf, hemits, leadConditions, h.fee]
  split_ifs <;> simp <;> omega

theorem announcedBy_lead (hsecondaries : secondaries ≠ []) :
    announcementId (coinId lead) inputBindingMessage ∈ announcedBy leadSpend := by
  obtain ⟨memos, hemits⟩ := h.leadEmits
  have hinputs : selected.dropLast.isEmpty = false := by
    rw [← h.coins, List.isEmpty_eq_false_iff, ne_eq, List.map_eq_nil_iff]
    exact hsecondaries
  rw [announcedBy, hemits, h.leadCoin, leadConditions, hinputs, if_neg Bool.false_ne_true]
  split_ifs <;> simp

theorem assertedBy_lead : assertedBy leadSpend = [] := by
  obtain ⟨memos, hemits⟩ := h.leadEmits
  rw [assertedBy, hemits, leadConditions]
  split_ifs <;> rfl

theorem silent {spend : CoinSpend} (hmem : spend ∈ secondaries) :
    outputsOf spend = [] ∧ feeOf spend = 0 ∧ announcedBy spend = [] ∧
      assertedBy spend = [announcementId (coinId lead) inputBindingMessage] := by
  have hemits := h.secondaryEmits spend hmem
  rw [outputsOf, feeOf, announcedBy, assertedBy, hemits]
  exact ⟨rfl, rfl, rfl, rfl⟩

theorem mem_secondaries {spend : CoinSpend} (hmem : spend ∈ plan.coinSpends)
    (hother : spend.coin ≠ lead) : spend ∈ secondaries := by
  rw [h.spends] at hmem
  rcases List.mem_cons.1 hmem with rfl | hmem
  · exact absurd h.leadCoin hother
  · exact hmem

theorem outputs :
    plan.coinSpends.flatMap outputsOf =
      paymentCoin lead plan ::
        if 0 < plan.changeMojos then [changeCoin wallet lead plan] else [] := by
  have hsilent : secondaries.flatMap outputsOf = [] :=
    List.flatMap_eq_nil_iff.2 fun spend hmem => (h.silent hmem).1
  rw [h.spends, List.flatMap_cons, hsilent, List.append_nil, h.outputsOf_lead]

theorem fees : (plan.coinSpends.map feeOf).sum = plan.feeMojos := by
  have hsilent : (secondaries.map feeOf).sum = 0 :=
    sum_feeOf_eq_zero fun spend hmem => (h.silent hmem).2.1
  rw [h.spends, List.map_cons, List.sum_cons, hsilent, h.feeOf_lead, Nat.add_zero]

theorem inputs : (plan.coinSpends.map CoinSpend.coin).Perm selected := by
  have hselected : selected.dropLast ++ [lead] = selected :=
    List.dropLast_append_getLast? lead h.isLast
  have hperm : (lead :: selected.dropLast).Perm (selected.dropLast ++ [lead]) :=
    (List.perm_append_singleton lead _).symm
  rw [h.spends, List.map_cons, h.leadCoin, h.coins]
  rwa [hselected] at hperm

theorem assertionsMet : AssertionsMet plan.coinSpends := by
  rw [h.spends]
  refine ⟨List.cons_ne_nil _ _, fun spend hmem id hasserted => ?_⟩
  rcases List.mem_cons.1 hmem with rfl | hmem
  · rw [h.assertedBy_lead] at hasserted
    cases hasserted
  · rw [(h.silent hmem).2.2.2, List.mem_singleton] at hasserted
    subst hasserted
    exact ⟨leadSpend, List.mem_cons_self .., h.announcedBy_lead (List.ne_nil_of_mem hmem)⟩

theorem indivisible {bundle : List CoinSpend} (hsub : bundle ⊆ plan.coinSpends)
    (hdropped : ∀ spend ∈ bundle, spend.coin ≠ lead) : ¬ AssertionsMet bundle := by
  rintro ⟨hnonempty, hmet⟩
  have hsecondary : ∀ spend ∈ bundle, spend ∈ secondaries := fun spend hmem =>
    h.mem_secondaries (hsub hmem) (hdropped spend hmem)
  obtain ⟨spend, hmem⟩ := List.exists_mem_of_ne_nil bundle hnonempty
  have hasserted : announcementId (coinId lead) inputBindingMessage ∈ assertedBy spend := by
    rw [(h.silent (hsecondary spend hmem)).2.2.2]
    exact List.mem_singleton_self _
  obtain ⟨other, hother, hannounced⟩ := hmet spend hmem _ hasserted
  rw [(h.silent (hsecondary other hother)).2.2.1] at hannounced
  cases hannounced

theorem mem_outputs {coin : Coin} :
    coin ∈ plan.coinSpends.flatMap outputsOf ↔
      coin = paymentCoin lead plan ∨ 0 < plan.changeMojos ∧ coin = changeCoin wallet lead plan := by
  rw [h.outputs, List.mem_cons]
  split_ifs with hchange <;> simp [hchange]

theorem plan_balance :
    totalMojos selected = plan.amountMojos + plan.changeMojos + plan.feeMojos := by
  have hbalance := h.balance
  rw [← h.amount, ← h.fee] at hbalance
  omega

theorem spent :
    totalMojos selected = totalMojos (plan.coinSpends.flatMap outputsOf) +
      (plan.coinSpends.map feeOf).sum := by
  rw [h.plan_balance, h.outputs, h.fees]
  split_ifs with hchange
  · simp only [totalMojos, total_cons, total_nil, paymentCoin, changeCoin]
    omega
  · simp only [totalMojos, total_cons, total_nil, paymentCoin]
    omega

theorem payment_abroad (hself : request.recipient ≠ wallet.puzzleHash) :
    (paymentCoin lead plan).puzzleHash ≠ wallet.puzzleHash := by
  rw [paymentCoin, h.recipient]
  exact hself

theorem outputs_distinct (hid : Function.Injective coinId)
    (hself : request.recipient ≠ wallet.puzzleHash) :
    ((plan.coinSpends.flatMap outputsOf).map coinId).Nodup := by
  refine List.Nodup.map hid ?_
  rw [h.outputs]
  split_ifs with hchange
  · refine List.nodup_cons.2 ⟨fun hsame => ?_, List.nodup_singleton _⟩
    exact h.payment_abroad hself (congrArg Coin.puzzleHash (List.mem_singleton.1 hsame))
  · exact List.nodup_singleton _

theorem bound {spend : CoinSpend} (hmem : spend ∈ plan.coinSpends) (hother : spend.coin ≠ lead) :
    ∃ id ∈ assertedBy spend, ∃ other ∈ plan.coinSpends, other.coin = lead ∧
      id ∈ announcedBy other := by
  have hsecondary := h.mem_secondaries hmem hother
  refine ⟨announcementId (coinId lead) inputBindingMessage, ?_, leadSpend, ?_, h.leadCoin,
    h.announcedBy_lead (List.ne_nil_of_mem hsecondary)⟩
  · rw [(h.silent hsecondary).2.2.2]
    exact List.mem_singleton_self _
  · rw [h.spends]
    exact List.mem_cons_self ..

end BuiltFrom

structure ValueConserved (wallet : WalletKey) (selected : List Coin) (request : TransferRequest)
    (plan : TransferPlan) (lead : Coin) : Prop where
  isLast : selected.getLast? = some lead
  inputs : (plan.coinSpends.map CoinSpend.coin).Perm selected
  once : (plan.coinSpends.map CoinSpend.coin).Nodup
  requested : plan.recipient = request.recipient ∧ plan.amountMojos = request.amountMojos ∧
    plan.feeMojos = request.feeMojos
  balance : totalMojos selected = plan.amountMojos + plan.changeMojos + plan.feeMojos
  spent : totalMojos selected = totalMojos (plan.coinSpends.flatMap outputsOf) +
    (plan.coinSpends.map feeOf).sum
  pending : ∀ peak, (plan.pushedAt peak).inputTotalMojos = totalMojos selected
  payment : ∃ coin ∈ plan.coinSpends.flatMap outputsOf, coin.puzzleHash = plan.recipient ∧
    coin.amount = plan.amountMojos ∧ coinId coin = plan.paymentCoinId
  paidOnce : ∀ coin ∈ plan.coinSpends.flatMap outputsOf, coin.puzzleHash = plan.recipient →
    coinId coin = plan.paymentCoinId
  change : (∃ coin ∈ plan.coinSpends.flatMap outputsOf, coin.puzzleHash = wallet.puzzleHash) ↔
    0 < plan.changeMojos
  changeAmount : ∀ coin ∈ plan.coinSpends.flatMap outputsOf,
    coin.puzzleHash = wallet.puzzleHash → coin.amount = plan.changeMojos
  distinct : ((plan.coinSpends.flatMap outputsOf).map coinId).Nodup
  onlyLead : ∀ spend ∈ plan.coinSpends, spend.coin ≠ lead → outputsOf spend = [] ∧ feeOf spend = 0
  bound : ∀ spend ∈ plan.coinSpends, spend.coin ≠ lead → ∃ id ∈ assertedBy spend,
    ∃ other ∈ plan.coinSpends, other.coin = lead ∧ id ∈ announcedBy other
  whole : AssertionsMet plan.coinSpends
  indivisible : ∀ bundle, bundle ⊆ plan.coinSpends → (∀ spend ∈ bundle, spend.coin ≠ lead) →
    ¬ AssertionsMet bundle

theorem BuiltFrom.conserved
    (h : BuiltFrom wallet selected request plan lead leadSpend secondaries)
    (hid : Function.Injective coinId) (hdistinct : selected.Nodup)
    (hself : request.recipient ≠ wallet.puzzleHash) :
    ValueConserved wallet selected request plan lead := by
  have hrecipient := h.payment_abroad hself
  refine ⟨h.isLast, h.inputs, h.inputs.nodup_iff.2 hdistinct,
    ⟨h.recipient, h.amount, h.fee⟩, h.plan_balance, h.spent, fun peak => ?_, ?_, ?_, ?_, ?_,
    h.outputs_distinct hid hself, ?_, fun spend hmem hother => h.bound hmem hother,
    h.assertionsMet, fun bundle hsub hdropped => h.indivisible hsub hdropped⟩
  · have hbalance := h.plan_balance
    simp only [TransferPlan.pushedAt]
    omega
  · exact ⟨_, h.mem_outputs.2 (.inl rfl), rfl, rfl, h.paymentId.symm⟩
  · intro coin hmem hpaid
    rcases h.mem_outputs.1 hmem with rfl | ⟨-, rfl⟩
    · exact h.paymentId.symm
    · exact absurd (h.recipient.symm.trans hpaid.symm) hself
  · constructor
    · rintro ⟨coin, hmem, hhome⟩
      rcases h.mem_outputs.1 hmem with rfl | ⟨hchange, -⟩
      · exact absurd hhome hrecipient
      · exact hchange
    · exact fun hchange => ⟨_, h.mem_outputs.2 (.inr ⟨hchange, rfl⟩), rfl⟩
  · intro coin hmem hhome
    rcases h.mem_outputs.1 hmem with rfl | ⟨-, rfl⟩
    · exact absurd hhome hrecipient
    · rfl
  · intro spend hmem hother
    have hsilent := h.silent (h.mem_secondaries hmem hother)
    exact ⟨hsilent.1, hsilent.2.1⟩

theorem transfer_conserves_value (hid : Function.Injective coinId) (hdistinct : selected.Nodup)
    (hself : request.recipient ≠ wallet.puzzleHash)
    (h : buildTransferSpends wallet selected request reservation = .ok plan) :
    ∃ lead, ValueConserved wallet selected request plan lead := by
  obtain ⟨lead, leadSpend, secondaries, hbuilt⟩ := buildTransferSpends_built h
  exact ⟨lead, hbuilt.conserved hid hdistinct hself⟩

theorem BuiltFrom.reserved (h : BuiltFrom wallet selected request plan lead leadSpend secondaries)
    (held : Option ReservationId) :
    BuiltFrom wallet selected request { plan with reservation := held } lead leadSpend
      secondaries :=
  ⟨h.isLast, h.spends, h.leadCoin, h.leadEmits, h.coins, h.secondaryEmits, h.balance, h.recipient,
    h.amount, h.fee, h.paymentId⟩

omit [EmittingDrivers] in
theorem selectWithIds_distinct (hid : Function.Injective coinId) {puzzleHash : Bytes32}
    {required : Nat} {reserved ids : List Bytes32} {oracle : HostOracle} {i : Nat}
    (h : (selectWithIds puzzleHash required reserved).run oracle i = .ok (selected, ids)) :
    selected.Nodup := by
  rw [selectWithIds, Fallible.run_bind_eq_ok] at h
  obtain ⟨coins, hcoins, hpair⟩ := h
  cases hpair
  obtain ⟨records, -, hcover, -⟩ := selectInputCoins_cover hid hcoins
  exact hcover.distinct

theorem buildTransfer_conserves_value (hid : Function.Injective coinId) {custody : CustodyPolicy}
    {reservations : CoinReservations} {oracle : HostOracle} {i : Nat}
    (h : (buildTransfer wallet custody request reservations).run oracle i = .ok plan) :
    ∃ selected lead, ValueConserved wallet selected request plan lead := by
  simp only [buildTransfer] at h
  split at h
  · cases h
  split at h
  · cases h
  split at h
  · cases h
  rename_i hself
  rw [Fallible.run_bind_eq_ok] at h
  obtain ⟨required, -, h⟩ := h
  rw [Fallible.run_bind_eq_ok] at h
  obtain ⟨⟨selected, held⟩, hselected, h⟩ := h
  rw [Fallible.run_bind_eq_ok] at h
  obtain ⟨built, hbuilt, hplan⟩ := h
  cases hplan
  obtain ⟨excluded, ids, j, hchosen⟩ := CoinReservations.selectAndReserve_chosen hselected
  obtain ⟨lead, leadSpend, secondaries, hbuiltFrom⟩ :=
    buildTransferSpends_built (CoinReservations.orRelease_ok.1 hbuilt)
  exact ⟨selected, lead,
    (hbuiltFrom.reserved (some held)).conserved hid (selectWithIds_distinct hid hchosen) hself⟩

end Builder

section Example

def writeCondition : Condition Unit → List UInt8
  | .createCoin puzzleHash amount memos =>
      [1, UInt8.ofNat puzzleHash, UInt8.ofNat amount, if memos.isSome then 1 else 0]
  | .reserveFee amount => [2, UInt8.ofNat amount]
  | .createCoinAnnouncement _ => [3]
  | .assertCoinAnnouncement announcementId => [4, UInt8.ofNat announcementId]

def readConditions : List UInt8 → List (Condition Unit)
  | 1 :: puzzleHash :: amount :: memos :: rest =>
      .createCoin puzzleHash.toNat amount.toNat (if memos = 1 then some () else none) ::
        readConditions rest
  | 2 :: amount :: rest => .reserveFee amount.toNat :: readConditions rest
  | 3 :: rest => .createCoinAnnouncement inputBindingMessage :: readConditions rest
  | 4 :: announcementId :: rest =>
      .assertCoinAnnouncement announcementId.toNat :: readConditions rest
  | _ => []

@[reducible] def byteDrivers : EmittingDrivers where
  Memos := Unit
  hint _ := .ok ()
  announcementId coinId _ := coinId % 251
  standardSpend _ coin conditions :=
    let solution := conditions.flatMap writeCondition
    if readConditions solution = conditions then .ok ⟨coin, [], solution⟩
    else .error "the conditions do not fit the solution"
  emits spend := readConditions spend.solution
  standardSpend_emits _ coin conditions spend h := by
    dsimp only at h
    split at h
    · rename_i hread
      cases h
      exact ⟨rfl, hread⟩
    · cases h

def twoInputPlan : TransferPlan :=
  letI := pairHash
  letI := byteDrivers
  { coinSpends :=
      [⟨tenCoin, [], [1, 9, 12, 1, 1, 5, 4, 0, 2, 1, 3]⟩,
        ⟨sevenCoin, [], [4, UInt8.ofNat (coinId tenCoin % 251)]⟩]
    paymentCoinId := coinId ⟨coinId tenCoin, 9, 12⟩
    sourceCoinIds := [coinId sevenCoin, coinId tenCoin]
    recipient := 9
    amountMojos := 12
    feeMojos := 1
    changeMojos := 4
    reservation := none }

theorem transfer_conserves_value_of_two_inputs :
    letI := pairHash; letI := byteDrivers
    buildTransferSpends payerKey [sevenCoin, tenCoin] ⟨9, 12, 1⟩ none = .ok twoInputPlan ∧
      ∃ lead, ValueConserved payerKey [sevenCoin, tenCoin] ⟨9, 12, 1⟩ twoInputPlan lead := by
  let _ := pairHash
  let _ := byteDrivers
  have hbuilt : buildTransferSpends payerKey [sevenCoin, tenCoin] ⟨9, 12, 1⟩ none =
      .ok twoInputPlan := by decide +kernel
  exact ⟨hbuilt, transfer_conserves_value pairHash_injective (by decide) (by decide) hbuilt⟩

end Example

end DigAccount
