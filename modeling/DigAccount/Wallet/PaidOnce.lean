import DigAccount.Chain.Singleton
import DigAccount.Mint.BuriedInclusion
import DigAccount.Wallet.TransferBundle

namespace DigAccount

open EmittingDrivers Ledger

section Family

variable [CoinHash] {wallet : WalletKey} {coins : List Coin} {request : TransferRequest}
  {plan next : TransferPlan}

def Bumps [TransferDrivers] (wallet : WalletKey) (plan next : TransferPlan) : Prop :=
  ∃ custody newFeeMojos prePushPeak oracle i,
    (buildTransferReplacing wallet custody (plan.pushedAt prePushPeak) newFeeMojos).run oracle i =
      .ok next

def BumpFamily [TransferDrivers] (wallet : WalletKey) : TransferPlan → TransferPlan → Prop :=
  Relation.ReflTransGen (Bumps wallet)

structure TransferOf [TransferDrivers] (wallet : WalletKey) (coins : List Coin)
    (request : TransferRequest) (plan : TransferPlan) : Prop where
  built : buildTransferSpends wallet coins
    ⟨request.recipient, request.amountMojos, plan.feeMojos⟩ none =
      .ok { plan with reservation := none }
  distinct : coins.Nodup
  abroad : request.recipient ≠ wallet.puzzleHash

theorem buildTransferReplacing_built [TransferDrivers] (hid : Function.Injective coinId)
    {pending : PendingTransfer} (hsources : pending.sourceCoinIds = coins.map coinId)
    {custody : CustodyPolicy} {newFeeMojos : Nat} {oracle : Oracle} {i : Nat}
    (h : (buildTransferReplacing wallet custody pending newFeeMojos).run oracle i = .ok next) :
    pending.feeMojos < newFeeMojos ∧
      buildTransferSpends wallet coins ⟨pending.recipient, pending.amountMojos, newFeeMojos⟩
        none = .ok next := by
  simp only [buildTransferReplacing] at h
  split at h
  · cases h
  split at h
  · cases h
  rename_i hfee
  rw [Fallible.run_bind_eq_ok] at h
  obtain ⟨required, -, h⟩ := h
  rw [Fallible.run_bind_eq_ok] at h
  obtain ⟨inputs, hinputs, h⟩ := h
  rw [Fallible.run_bind_eq_ok] at h
  obtain ⟨-, -, hbuilt⟩ := h
  have hsame : inputs = coins := by
    have hids := (rereadInputs_ok hinputs).1
    rw [hsources] at hids
    exact hid.list_map hids
  rw [hsame] at hbuilt
  exact ⟨Nat.lt_of_not_le hfee, hbuilt⟩

variable [EmittingDrivers]

theorem buildTransfer_transferOf (hid : Function.Injective coinId) {custody : CustodyPolicy}
    {reservations : CoinReservations} {oracle : HostOracle} {i : Nat}
    (h : (buildTransfer wallet custody request reservations).run oracle i = .ok plan) :
    ∃ coins, TransferOf wallet coins request plan := by
  simp only [buildTransfer] at h
  split at h
  · cases h
  split at h
  · cases h
  split at h
  · cases h
  rename_i hself
  rw [Fallible.run_bind_eq_ok] at h
  obtain ⟨required, -, h⟩ := h
  rw [Fallible.run_bind_eq_ok] at h
  obtain ⟨⟨selected, held⟩, hselected, h⟩ := h
  rw [Fallible.run_bind_eq_ok] at h
  obtain ⟨built, hbuilt, hplan⟩ := h
  cases hplan
  have hspends := CoinReservations.orRelease_ok.1 hbuilt
  obtain ⟨excluded, ids, j, hchosen⟩ := CoinReservations.selectAndReserve_chosen hselected
  obtain ⟨lead, change, memos, leadSpend, secondaries, -, -, -, -, rfl⟩ :=
    buildTransferSpends_eq_ok hspends
  exact ⟨selected, hspends, selectWithIds_distinct hid hchosen, hself⟩

namespace TransferOf

variable (h : TransferOf wallet coins request plan)
include h

theorem builtFrom : ∃ lead leadSpend secondaries,
    BuiltFrom wallet coins ⟨request.recipient, request.amountMojos, plan.feeMojos⟩
      { plan with reservation := none } lead leadSpend secondaries :=
  buildTransferSpends_built h.built

theorem requested :
    plan.recipient = request.recipient ∧ plan.amountMojos = request.amountMojos := by
  obtain ⟨lead, leadSpend, secondaries, hbuilt⟩ := h.builtFrom
  exact ⟨hbuilt.recipient, hbuilt.amount⟩

theorem sources : plan.sourceCoinIds = coins.map coinId := by
  obtain ⟨lead, change, memos, leadSpend, secondaries, -, -, -, -, hplan⟩ :=
    buildTransferSpends_eq_ok h.built
  exact congrArg TransferPlan.sourceCoinIds hplan

theorem bump (hid : Function.Injective coinId) (hbump : Bumps wallet plan next) :
    TransferOf wallet coins request next ∧ plan.feeMojos < next.feeMojos := by
  obtain ⟨custody, newFeeMojos, prePushPeak, oracle, i, hnext⟩ := hbump
  obtain ⟨hfee, hbuilt⟩ := buildTransferReplacing_built hid h.sources hnext
  obtain ⟨hrecipient, hamount⟩ := h.requested
  simp only [TransferPlan.pushedAt, hrecipient, hamount] at hbuilt hfee
  obtain ⟨lead, change, memos, leadSpend, secondaries, -, -, -, -, rfl⟩ :=
    buildTransferSpends_eq_ok hbuilt
  exact ⟨⟨hbuilt, h.distinct, h.abroad⟩, hfee⟩

theorem family (hid : Function.Injective coinId) (hfamily : BumpFamily wallet plan next) :
    TransferOf wallet coins request next ∧ plan.feeMojos ≤ next.feeMojos := by
  induction hfamily with
  | refl => exact ⟨h, Nat.le_refl _⟩
  | tail _ hbump ih =>
      obtain ⟨hnext, hfee⟩ := ih.1.bump hid hbump
      exact ⟨hnext, ih.2.trans hfee.le⟩

theorem same_spends {other : TransferPlan} (hother : TransferOf wallet coins request other)
    (hfee : other.feeMojos = plan.feeMojos) : other.coinSpends = plan.coinSpends := by
  have hbuilt := hother.built
  rw [hfee, h.built, Except.ok.injEq] at hbuilt
  exact (congrArg TransferPlan.coinSpends hbuilt).symm

theorem family_ids (hid : Function.Injective coinId) (hfamily : BumpFamily wallet plan next) :
    next.sourceCoinIds = plan.sourceCoinIds ∧ next.paymentCoinId = plan.paymentCoinId := by
  have hnext := (h.family hid hfamily).1
  obtain ⟨lead, leadSpend, secondaries, hbuilt⟩ := h.builtFrom
  obtain ⟨lead', leadSpend', secondaries', hbuilt'⟩ := hnext.builtFrom
  have hlead : lead' = lead := Option.some.inj (hbuilt'.isLast.symm.trans hbuilt.isLast)
  refine ⟨hnext.sources.trans h.sources.symm, ?_⟩
  calc next.paymentCoinId
      = coinId ⟨coinId lead', request.recipient, request.amountMojos⟩ := by
        rw [← hnext.requested.1, ← hnext.requested.2]
        exact hbuilt'.paymentId
    _ = coinId ⟨coinId lead, request.recipient, request.amountMojos⟩ := by rw [hlead]
    _ = plan.paymentCoinId := by
        rw [← h.requested.1, ← h.requested.2]
        exact hbuilt.paymentId.symm

theorem mem_sources {id : Bytes32} :
    id ∈ plan.sourceCoinIds ↔ ∃ spend ∈ plan.coinSpends, coinId spend.coin = id := by
  obtain ⟨lead, leadSpend, secondaries, hbuilt⟩ := h.builtFrom
  have hperm := (hbuilt.inputs.map coinId).mem_iff (a := id)
  rw [h.sources, ← hperm, List.map_map, List.mem_map]
  rfl

end TransferOf

end Family

section Chain

variable [CoinHash] [Clvm] {chain : Chain} {pending : PendingTransfer} {oracle : Oracle} {i : Nat}
  {settled : ConfirmedTransfer} {bundle : SpendBundle} {height : Nat}

omit [Clvm] in
theorem transferStatus_confirmed_ok
    (h : (transferStatus pending).run oracle i = .ok (.confirmed settled)) :
    ∃ peak record, oracle (i + 1) (.coinRecord pending.paymentCoinId) = .ok (some record) ∧
      ConfirmedTransfer.fromConfirmed pending record peak = some settled := by
  obtain ⟨peak, hpeak, h⟩ := Fallible.run_bind_eq_ok.1 h
  rw [after_peakHeight hpeak] at h
  obtain ⟨payment, hpayment, h⟩ := Fallible.run_bind_eq_ok.1 h
  rw [run_readCoinRecord, Fallible.mapError_eq_ok] at hpayment
  split at h
  · rename_i found hfound
    cases h
    obtain ⟨record, rfl, hrecord⟩ := Option.bind_eq_some_iff.1 hfound
    exact ⟨peak, record, hpayment, hrecord⟩
  · obtain ⟨death, -, hverdict⟩ := Fallible.run_bind_eq_ok.1 h
    cases death with
    | none => cases hverdict
    | some reason => cases hverdict

theorem transferStatus_reports {schedule : Schedule} (honest : HonestChain chain)
    (source : HonestSource chain schedule) (own : pending.Broadcast bundle)
    (included : Includes chain bundle height)
    (h : (transferStatus pending).run source.answer i = .ok (.confirmed settled)) :
    settled = ⟨pending.paymentCoinId, pending.recipient, pending.amountMojos, height⟩ := by
  obtain ⟨peak, record, hrecord, hconfirmed⟩ := transferStatus_confirmed_ok h
  obtain ⟨reported, hburied, rfl⟩ := Option.map_eq_some_iff.1 hconfirmed
  obtain ⟨-, hheight, -⟩ := buriedHeight_eq_some.1 hburied
  rw [(source.recorded hrecord).2.1, included.created_take honest own.creates_payment] at hheight
  split at hheight
  · cases hheight
    rfl
  · cases hheight

theorem Includes.never_missing {schedule : Schedule} (honest : HonestChain chain)
    (source : HonestSource chain schedule) (included : Includes chain bundle height)
    {spentId createdId : Bytes32} (hspends : bundle.Spends spentId)
    (hcreates : bundle.Creates createdId) {record : CoinRecord} {spent : Nat}
    (hrecord : source.answer i (.coinRecord spentId) = .ok (some record))
    (hspent : record.spentHeight = some spent) :
    source.answer (i + 1) (.coinRecord createdId) ≠ .ok none := by
  intro habsent
  rw [(source.recorded hrecord).2.2, included.spent_take honest hspends] at hspent
  have hmissing := source.absent habsent
  rw [included.created_take honest hcreates] at hmissing
  split at hspent
  · rename_i hseen
    rw [if_pos (hseen.trans_le (schedule.forward (Nat.le_succ i)))] at hmissing
    cases hmissing
  · cases hspent

end Chain

structure PaidOnce [CoinHash] [Clvm] [EmittingDrivers] (chain : Chain) (wallet : WalletKey)
    (request : TransferRequest) (plan member : TransferPlan) (height : Nat) : Prop where
  alone : ∀ other, BumpFamily wallet plan other → ∀ signature height',
    Includes chain ⟨other.coinSpends, signature⟩ height' →
      height' = height ∧ other.feeMojos = member.feeMojos ∧ other.coinSpends = member.coinSpends
  paid : ∃ coin ∈ (coinSpendsOf chain).flatMap additions, coinId coin = plan.paymentCoinId ∧
    coin.puzzleHash = request.recipient ∧ coin.amount = request.amountMojos
  nothing_else : ∀ coinSpend ∈ coinSpendsOf chain, coinId coinSpend.coin ∈ plan.sourceCoinIds →
    ∀ coin ∈ additions coinSpend, coinId coin = plan.paymentCoinId ∨
      coin.puzzleHash = wallet.puzzleHash ∧ coin.amount = member.changeMojos
  cost : plan.feeMojos ≤ member.feeMojos ∧
    member.feeMojos + member.changeMojos = plan.feeMojos + plan.changeMojos
  never_failed : ∀ other, BumpFamily wallet plan other → ∀ prePushPeak schedule
    (source : HonestSource chain schedule) i reason,
      (transferStatus (other.pushedAt prePushPeak)).run source.answer i ≠ .ok (.failed reason)
  reported : ∀ other, BumpFamily wallet plan other → ∀ prePushPeak schedule
    (source : HonestSource chain schedule) i settled,
      (transferStatus (other.pushedAt prePushPeak)).run source.answer i =
        .ok (.confirmed settled) →
          settled = ⟨plan.paymentCoinId, request.recipient, request.amountMojos, height⟩
  confirmed : ∀ other, BumpFamily wallet plan other → ∀ prePushPeak
    (source : HonestSource chain (steadyAt chain.length)) i peak,
      CurrentReads source.answer i peak → height + minConfirmationDepth ≤ peak + 1 →
        ((∃ settled, (transferStatus (other.pushedAt prePushPeak)).run source.answer i =
          .ok (.confirmed settled)) ↔ prePushPeak ≤ height)

section Settlement

variable [CoinHash] [Clvm] [EmittingDrivers] {wallet : WalletKey} {coins : List Coin}
  {request : TransferRequest} {plan member other : TransferPlan} {chain : Chain} {height : Nat}
  {signature : List SignedMessage}

namespace TransferOf

variable (hid : Function.Injective coinId) (hdraws : ∀ spend, additions spend = outputsOf spend)
  (h : TransferOf wallet coins request plan)
include h

include hdraws in
theorem pays : ∃ lead spend, spend ∈ plan.coinSpends ∧
    ⟨coinId lead, request.recipient, request.amountMojos⟩ ∈ additions spend ∧
      coinId ⟨coinId lead, request.recipient, request.amountMojos⟩ = plan.paymentCoinId := by
  obtain ⟨lead, leadSpend, secondaries, hbuilt⟩ := h.builtFrom
  obtain ⟨hrecipient, hamount⟩ := h.requested
  have hspends : plan.coinSpends = leadSpend :: secondaries := hbuilt.spends
  have hpayment : paymentCoin lead plan = ⟨coinId lead, request.recipient, request.amountMojos⟩ :=
    by rw [paymentCoin, hrecipient, hamount]
  refine ⟨lead, leadSpend, ?_, ?_, ?_⟩
  · rw [hspends]
    exact List.mem_cons_self ..
  · rw [hdraws, hbuilt.outputsOf_lead, ← hpayment]
    exact List.mem_cons_self ..
  · rw [← hpayment]
    exact hbuilt.paymentId.symm

include hdraws in
theorem broadcast (hsources : other.sourceCoinIds = plan.sourceCoinIds)
    (hpayment : other.paymentCoinId = plan.paymentCoinId) (signature : List SignedMessage)
    (peak : Nat) : (other.pushedAt peak).Broadcast ⟨plan.coinSpends, signature⟩ := by
  obtain ⟨lead, spend, hmem, hcreated, hcoin⟩ := h.pays hdraws
  refine ⟨fun id hsource => h.mem_sources.1 (hsources ▸ hsource), spend, hmem, ?_⟩
  exact List.mem_map.2 ⟨_, hcreated, hcoin.trans hpayment.symm⟩

theorem conflict (honest : HonestChain chain)
    (included : Includes chain ⟨plan.coinSpends, signature⟩ height)
    (hother : TransferOf wallet coins request other) {signature' : List SignedMessage}
    {height' : Nat} (included' : Includes chain ⟨other.coinSpends, signature'⟩ height') :
    height' = height ∧ other.feeMojos = plan.feeMojos ∧ other.coinSpends = plan.coinSpends := by
  obtain ⟨lead, leadSpend, secondaries, hbuilt⟩ := h.builtFrom
  obtain ⟨lead', leadSpend', secondaries', hbuilt'⟩ := hother.builtFrom
  have hlead : lead' = lead := Option.some.inj (hbuilt'.isLast.symm.trans hbuilt.isLast)
  have hmem : leadSpend ∈ plan.coinSpends := by
    have hspends : plan.coinSpends = leadSpend :: secondaries := hbuilt.spends
    rw [hspends]
    exact List.mem_cons_self ..
  have hmem' : leadSpend' ∈ other.coinSpends := by
    have hspends : other.coinSpends = leadSpend' :: secondaries' := hbuilt'.spends
    rw [hspends]
    exact List.mem_cons_self ..
  have hcoin : coinId leadSpend'.coin = coinId leadSpend.coin := by
    rw [hbuilt'.leadCoin, hbuilt.leadCoin, hlead]
  have hsame : leadSpend' = leadSpend :=
    honest.spender_unique (included'.mem hmem') (included.mem hmem) hcoin
  have hfee : other.feeMojos = plan.feeMojos := by
    have hreserved := hbuilt'.feeOf_lead
    rw [hsame, hbuilt.feeOf_lead] at hreserved
    exact hreserved.symm
  have hheight : height' = height := by
    have hspent := included'.spentHeight_eq honest ⟨leadSpend', hmem', hcoin⟩
    rw [included.spentHeight_eq honest ⟨leadSpend, hmem, rfl⟩] at hspent
    exact (Option.some.inj hspent).symm
  exact ⟨hheight, hfee, h.same_spends hother hfee⟩

include hdraws in
theorem draws (honest : HonestChain chain)
    (included : Includes chain ⟨plan.coinSpends, signature⟩ height) {coinSpend : CoinSpend}
    (hspend : coinSpend ∈ coinSpendsOf chain)
    (hsource : coinId coinSpend.coin ∈ plan.sourceCoinIds) {coin : Coin}
    (hcoin : coin ∈ additions coinSpend) :
    coinId coin = plan.paymentCoinId ∨
      coin.puzzleHash = wallet.puzzleHash ∧ coin.amount = plan.changeMojos := by
  obtain ⟨own, hown, hsame⟩ := h.mem_sources.1 hsource
  have hspender : coinSpend = own :=
    honest.spender_unique hspend (included.mem hown) hsame.symm
  rw [hspender, hdraws] at hcoin
  obtain ⟨lead, leadSpend, secondaries, hbuilt⟩ := h.builtFrom
  rcases hbuilt.mem_outputs.1 (List.mem_flatMap.2 ⟨own, hown, hcoin⟩) with rfl | ⟨-, rfl⟩
  · exact .inl hbuilt.paymentId.symm
  · exact .inr ⟨rfl, rfl⟩

omit [Clvm] in
theorem same_balance (hother : TransferOf wallet coins request other) :
    other.feeMojos + other.changeMojos = plan.feeMojos + plan.changeMojos := by
  obtain ⟨lead, leadSpend, secondaries, hbuilt⟩ := h.builtFrom
  obtain ⟨lead', leadSpend', secondaries', hbuilt'⟩ := hother.builtFrom
  have hbalance := hbuilt.balance
  have hbalance' := hbuilt'.balance
  dsimp only at hbalance hbalance'
  omega

end TransferOf

theorem bumped_payment_settles_once (hid : Function.Injective coinId)
    (hdraws : ∀ spend, additions spend = outputsOf spend) {custody : CustodyPolicy}
    {reservations : CoinReservations} {oracle : HostOracle} {i : Nat}
    (hbuild : (buildTransfer wallet custody request reservations).run oracle i = .ok plan)
    (hmember : BumpFamily wallet plan member) (honest : HonestChain chain)
    (included : Includes chain ⟨member.coinSpends, signature⟩ height) :
    PaidOnce chain wallet request plan member height := by
  obtain ⟨coins, horiginal⟩ := buildTransfer_transferOf hid hbuild
  obtain ⟨hof, hfee⟩ := horiginal.family hid hmember
  obtain ⟨hsources, hpayment⟩ := horiginal.family_ids hid hmember
  have hfamily : ∀ other, BumpFamily wallet plan other → TransferOf wallet coins request other ∧
      ∀ peak, (other.pushedAt peak).Broadcast ⟨member.coinSpends, signature⟩ := by
    intro other hother
    obtain ⟨hsources', hpayment'⟩ := horiginal.family_ids hid hother
    exact ⟨(horiginal.family hid hother).1, hof.broadcast hdraws (hsources'.trans hsources.symm)
      (hpayment'.trans hpayment.symm) signature⟩
  refine ⟨fun other hother signature' height' included' => ?_, ?_,
    fun coinSpend hspend hsource coin hcoin => ?_, ⟨hfee, horiginal.same_balance hof⟩,
    fun other hother peak schedule source j reason => ?_,
    fun other hother peak schedule source j settled hsettled => ?_,
    fun other hother pushed source j peak reads deep => ?_⟩
  · exact hof.conflict honest included (hfamily other hother).1 included'
  · obtain ⟨lead, spend, hmem, hcreated, hcoin⟩ := hof.pays hdraws
    exact ⟨_, List.mem_flatMap.2 ⟨spend, included.mem hmem, hcreated⟩, hcoin.trans hpayment, rfl,
      rfl⟩
  · rw [← hsources] at hsource
    rw [← hpayment]
    exact hof.draws hdraws honest included hspend hsource hcoin
  · intro hfailed
    obtain ⟨hspends, hcreates⟩ := (hfamily other hother).2 peak
    obtain ⟨id, hid, k, record, spent, hrecord, hspent, habsent⟩ := transferStatus_failed hfailed
    exact included.never_missing honest source (hspends id hid) hcreates hrecord hspent habsent
  · obtain ⟨hother', hbroadcast⟩ := hfamily other hother
    rw [transferStatus_reports honest source (hbroadcast peak) included hsettled]
    simp only [TransferPlan.pushedAt, hother'.requested, (horiginal.family_ids hid hother).2]
  · exact transfer_confirmed_iff honest reads included deep ((hfamily other hother).2 pushed)

end Settlement

section Example

@[reducible] def drawingClvm : letI := pairHash; Clvm :=
  letI := pairHash
  letI := byteDrivers
  { additions := outputsOf
    recreation := fun _ => none
    advertisedDistributor := fun _ _ => none
    didState := fun id => ⟨namedCoin id, id, 0⟩ }

def bytePlan (fee change : Nat) (solution : List UInt8) (held : Option ReservationId) :
    TransferPlan :=
  { payerPlan fee change 0 held with coinSpends := [⟨payerCoin, [], solution⟩] }

def bumpedPlan : TransferPlan := bytePlan 1 3 [1, 9, 6, 1, 1, 5, 3, 0, 2, 1] none

def bumpedChain : Chain :=
  [⟨[payerCoin], []⟩, ⟨[], bumpedPlan.coinSpends⟩] ++ List.replicate 6 ⟨[], []⟩

theorem bumped_payment_settles_once_desk :
    letI := pairHash; letI := byteDrivers; letI := drawingClvm
    ∃ plan, (buildTransfer payerKey (.hot ⟨0⟩) ⟨9, 6, 0⟩ ⟨300⟩).run payerOracle 0 = .ok plan ∧
      BumpFamily payerKey plan bumpedPlan ∧ Includes bumpedChain ⟨bumpedPlan.coinSpends, []⟩ 1 ∧
      PaidOnce bumpedChain payerKey ⟨9, 6, 0⟩ plan bumpedPlan 1 := by
  let _ := pairHash
  let _ := byteDrivers
  let _ := drawingClvm
  let plan := bytePlan 0 4 [1, 9, 6, 1, 1, 5, 4, 0] (some 0)
  have hbuild : (buildTransfer payerKey (.hot ⟨0⟩) ⟨9, 6, 0⟩ ⟨300⟩).run payerOracle 0 =
      .ok plan := by decide +kernel
  have hbump : (buildTransferReplacing payerKey (.hot ⟨0⟩) (plan.pushedAt 0) 1).run
      payerOracle.chainSide 0 = .ok bumpedPlan := by decide +kernel
  have hfamily : BumpFamily payerKey plan bumpedPlan := .single ⟨_, _, _, _, _, hbump⟩
  have honest : HonestChain bumpedChain := FreshChain.honest (by decide +kernel)
  have included : Includes bumpedChain ⟨bumpedPlan.coinSpends, []⟩ 1 :=
    ⟨⟨[], bumpedPlan.coinSpends⟩, rfl, List.Subset.refl _⟩
  exact ⟨plan, hbuild, hfamily, included, bumped_payment_settles_once pairHash_injective
    (fun _ => rfl) hbuild hfamily honest included⟩

end Example

end DigAccount
