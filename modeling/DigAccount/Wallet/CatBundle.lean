import DigAccount.Wallet.CatSelection
import DigAccount.Wallet.FeeCoins
import DigAccount.Wallet.TransferBundle
import Mathlib.Data.List.Forall2

namespace DigAccount

open TransferDrivers CatDrivers EmittingDrivers LargestFirst Validator

def ringMorphByte : UInt8 := 0xcb

def catWrap [CatDrivers] (assetId : Bytes32) : Condition Memos → Condition Memos
  | .createCoin puzzleHash amount memos =>
      .createCoin (curryTreeHash assetId puzzleHash) amount memos
  | condition => condition

def BindsRing {μ : Type} : Condition μ → Prop
  | .createCoinAnnouncement _ => True
  | .assertCoinAnnouncement _ => True
  | _ => False

class CatEmittingDrivers extends CatDrivers, EmittingDrivers where
  innerEmits : InnerSpend → List (Condition Memos)
  spendWithConditions_emits : ∀ publicKey conditions spend,
    spendWithConditions publicKey conditions = .ok spend → innerEmits spend = conditions
  spendAll_emits : ∀ inputs spends, spendAll inputs = .ok spends →
    (∀ input ∈ inputs, ∀ message, .createCoinAnnouncement message ∈ innerEmits input.2 →
      message.head? ≠ some ringMorphByte) →
    List.Forall₂ (fun input spend => spend.coin = input.1.coin ∧
      ∃ ring : List (Condition Memos), (∀ condition ∈ ring, BindsRing condition) ∧
        emits spend = ring ++ (innerEmits input.2).map (catWrap input.1.assetId)) inputs spends

open CatEmittingDrivers (innerEmits spendWithConditions_emits spendAll_emits)

section Ring

variable [CatEmittingDrivers] {wallet : WalletKey} {lead : Cat CatProof}
  {cats : List (Cat CatProof)} {conditions : List (Condition Memos)}
  {inputs : List (Cat CatProof × InnerSpend)}

structure LedBy (cats : List (Cat CatProof)) (lead : Cat CatProof)
    (conditions : List (Condition Memos)) (inputs before : List (Cat CatProof × InnerSpend))
    (leadSpend : InnerSpend) : Prop where
  isLast : inputs = before ++ [(lead, leadSpend)]
  carries : inputs.map Prod.fst = cats
  leads : innerEmits leadSpend = conditions
  silent : ∀ input ∈ before, innerEmits input.2 = []

theorem catInputs_ok {index : Nat} (hlead : cats.getLast? = some lead)
    (h : catInputs wallet conditions index cats = .ok inputs) :
    ∃ before leadSpend, LedBy cats lead conditions inputs before leadSpend := by
  induction cats generalizing index inputs with
  | nil => cases hlead
  | cons cat cats ih =>
      rw [catInputs] at h
      obtain ⟨spend, hspend, h⟩ := bind_ok.1 h
      obtain ⟨spends, hspends, h⟩ := bind_ok.1 h
      cases h
      have hemits := spendWithConditions_emits _ _ _ (Fallible.mapError_eq_ok.1 hspend)
      cases cats with
      | nil =>
          cases hspends
          cases hlead
          exact ⟨[], spend, rfl, rfl, hemits, fun input hmem => by cases hmem⟩
      | cons next rest =>
          rw [List.getLast?_cons_cons] at hlead
          obtain ⟨before, leadSpend, hled⟩ := ih hlead hspends
          refine ⟨(cat, spend) :: before, leadSpend, ?_, ?_, hled.leads,
            List.forall_mem_cons.2 ⟨hemits, hled.silent⟩⟩
          · rw [hled.isLast, List.cons_append]
          · rw [List.map_cons, hled.carries]

theorem digChangeOf_ok {request : CatTransferRequest} {change : Nat}
    (h : digChangeOf cats request = .ok change) :
    request.amountBaseUnits + change = totalMojos (cats.map Cat.coin) := by
  rw [digChangeOf] at h
  split at h
  · cases h
  rename_i total htotal
  obtain ⟨hsum, -⟩ := totalAmount_eq_some.1 htotal
  split at h
  · cases h
  rename_i hcovered
  cases h
  change _ = (List.map Coin.amount (cats.map Cat.coin)).sum
  rw [hsum]
  omega

end Ring

section Emitted

variable {μ : Type} {parent : Coin} {ring : List (Condition μ)}

def createdFrom [CoinHash] (parent : Coin) (conditions : List (Condition μ)) : List Coin :=
  conditions.filterMap fun
    | .createCoin puzzleHash amount _ => some ⟨coinId parent, puzzleHash, amount⟩
    | _ => none

def reservedIn (conditions : List (Condition μ)) : Nat :=
  (conditions.filterMap fun
    | .reserveFee amount => some amount
    | _ => none).sum

theorem outputsOf_eq_createdFrom [CoinHash] [EmittingDrivers] (spend : CoinSpend) :
    outputsOf spend = createdFrom spend.coin (emits spend) := by
  refine List.filterMap_congr fun condition _ => ?_
  cases condition <;> rfl

theorem feeOf_eq_reservedIn [EmittingDrivers] (spend : CoinSpend) :
    feeOf spend = reservedIn (emits spend) := by
  refine congrArg List.sum (List.filterMap_congr fun condition _ => ?_)
  cases condition <;> rfl

theorem createdFrom_append [CoinHash] (conditions : List (Condition μ)) :
    createdFrom parent (ring ++ conditions) =
      createdFrom parent ring ++ createdFrom parent conditions :=
  List.filterMap_append

theorem reservedIn_append (conditions : List (Condition μ)) :
    reservedIn (ring ++ conditions) = reservedIn ring + reservedIn conditions := by
  rw [reservedIn, reservedIn, reservedIn, List.filterMap_append, List.sum_append]

theorem createdFrom_binding [CoinHash] (h : ∀ condition ∈ ring, BindsRing condition) :
    createdFrom parent ring = [] := by
  refine List.filterMap_eq_nil_iff.2 fun condition hmem => ?_
  have hbinds := h condition hmem
  cases condition with
  | createCoin puzzleHash amount memos => exact absurd hbinds id
  | reserveFee amount => rfl
  | createCoinAnnouncement message => rfl
  | assertCoinAnnouncement announcementId => rfl

theorem reservedIn_binding (h : ∀ condition ∈ ring, BindsRing condition) :
    reservedIn ring = 0 := by
  refine List.sum_eq_zero fun fee hfee => ?_
  obtain ⟨condition, hmem, hreserved⟩ := List.mem_filterMap.1 hfee
  have hbinds := h condition hmem
  cases condition with
  | createCoin puzzleHash amount memos => cases hreserved
  | reserveFee amount => exact absurd hbinds id
  | createCoinAnnouncement message => cases hreserved
  | assertCoinAnnouncement announcementId => cases hreserved

end Emitted

section Wrapped

variable [CoinHash] [CatEmittingDrivers] {assetId : Bytes32} {parent : Coin}
  {conditions : List (Condition Memos)} {spend : CoinSpend}

structure WrapsInner (assetId : Bytes32) (parent : Coin) (conditions : List (Condition Memos))
    (spend : CoinSpend) : Prop where
  coin : spend.coin = parent
  emitted : ∃ ring : List (Condition Memos), (∀ condition ∈ ring, BindsRing condition) ∧
    emits spend = ring ++ conditions.map (catWrap assetId)

namespace WrapsInner

variable (h : WrapsInner assetId parent conditions spend)
include h

theorem outputsOf_eq :
    outputsOf spend = createdFrom parent (conditions.map (catWrap assetId)) := by
  obtain ⟨ring, hring, hemits⟩ := h.emitted
  rw [outputsOf_eq_createdFrom, hemits, createdFrom_append, createdFrom_binding hring, h.coin,
    List.nil_append]

omit [CoinHash] in
theorem feeOf_eq : feeOf spend = reservedIn (conditions.map (catWrap assetId)) := by
  obtain ⟨ring, hring, hemits⟩ := h.emitted
  rw [feeOf_eq_reservedIn, hemits, reservedIn_append, reservedIn_binding hring, Nat.zero_add]

theorem announces {message : Bytes} (hmessage : .createCoinAnnouncement message ∈ conditions) :
    announcementId (coinId parent) message ∈ announcedBy spend := by
  obtain ⟨ring, -, hemits⟩ := h.emitted
  have hwrapped := List.mem_map_of_mem (f := catWrap assetId) hmessage
  refine List.mem_filterMap.2 ⟨.createCoinAnnouncement message, ?_, ?_⟩
  · rw [hemits]
    exact List.mem_append_right _ hwrapped
  · rw [h.coin]

end WrapsInner

end Wrapped

section Paired

variable {α β γ : Type} {R : α → β → Prop} {as : List α} {bs : List β} {a : α}

theorem forall₂_concat (h : List.Forall₂ R (as ++ [a]) bs) :
    ∃ cs c, bs = cs ++ [c] ∧ List.Forall₂ R as cs ∧ R a c := by
  induction as generalizing bs with
  | nil =>
      cases h with
      | cons hlast hnil =>
          cases hnil
          exact ⟨[], _, rfl, .nil, hlast⟩
  | cons first rest ih =>
      cases h with
      | cons hfirst hrest =>
          obtain ⟨cs, c, rfl, hpaired, hlast⟩ := ih hrest
          exact ⟨_ :: cs, c, rfl, .cons hfirst hpaired, hlast⟩

theorem forall_of_forall₂ {P : β → Prop} (h : List.Forall₂ R as bs)
    (hall : ∀ a ∈ as, ∀ b, R a b → P b) : ∀ b ∈ bs, P b := by
  induction h with
  | nil => exact fun b hmem => by cases hmem
  | cons hfirst _ ih =>
      exact List.forall_mem_cons.2 ⟨hall _ (List.mem_cons_self ..) _ hfirst,
        ih fun a hmem => hall a (List.mem_cons_of_mem _ hmem)⟩

theorem map_eq_of_forall₂ {f : α → γ} {g : β → γ} (h : List.Forall₂ R as bs)
    (hfg : ∀ a b, R a b → g b = f a) : bs.map g = as.map f := by
  induction h with
  | nil => rfl
  | cons hfirst _ ih => rw [List.map_cons, List.map_cons, hfg _ _ hfirst, ih]

end Paired

section Bundle

variable [CoinHash] [CatEmittingDrivers] {wallet : WalletKey} {lead : Cat CatProof}
  {cats : List (Cat CatProof)} {conditions : List (Condition Memos)}
  {inputs before : List (Cat CatProof × InnerSpend)} {leadSpend : InnerSpend}
  {ring fees : List CoinSpend} {feeCoins : List Coin} {request : CatTransferRequest}
  {change : Nat} {recipientHint changeHint : Memos} {binding : Bytes32} {plan : CatTransferPlan}

structure LedRing (cats : List (Cat CatProof)) (lead : Cat CatProof)
    (conditions : List (Condition Memos)) (ring : List CoinSpend) : Prop where
  coins : ring.map CoinSpend.coin = cats.map Cat.coin
  outputs : ring.flatMap outputsOf = createdFrom lead.coin (conditions.map (catWrap lead.assetId))
  fees : (ring.map feeOf).sum = reservedIn (conditions.map (catWrap lead.assetId))
  onlyLead : ∀ spend ∈ ring, spend.coin ≠ lead.coin → outputsOf spend = []
  leadSpend : ∃ spend ∈ ring, WrapsInner lead.assetId lead.coin conditions spend

theorem LedBy.ledRing (hled : LedBy cats lead conditions inputs before leadSpend)
    (h : List.Forall₂ (fun input spend =>
      WrapsInner input.1.assetId input.1.coin (innerEmits input.2) spend) inputs ring) :
    LedRing cats lead conditions ring := by
  have hcoins : ring.map CoinSpend.coin = cats.map Cat.coin := by
    rw [← hled.carries, List.map_map]
    exact map_eq_of_forall₂ h fun _ _ hwraps => hwraps.coin
  rw [hled.isLast] at h
  obtain ⟨first, last, rfl, hfirst, hlast⟩ := forall₂_concat h
  dsimp only at hlast
  rw [hled.leads] at hlast
  have hsilent : ∀ spend ∈ first, outputsOf spend = [] ∧ feeOf spend = 0 := by
    refine forall_of_forall₂ hfirst fun input hmem spend hwraps => ?_
    rw [hled.silent input hmem] at hwraps
    exact ⟨hwraps.outputsOf_eq, hwraps.feeOf_eq⟩
  have hnothing : first.flatMap outputsOf = [] :=
    List.flatMap_eq_nil_iff.2 fun spend hmem => (hsilent spend hmem).1
  have hfree : (first.map feeOf).sum = 0 :=
    sum_feeOf_eq_zero fun spend hmem => (hsilent spend hmem).2
  refine ⟨hcoins, ?_, ?_, fun spend hmem hother => ?_,
    last, List.mem_append_right _ (List.mem_singleton_self _), hlast⟩
  · rw [List.flatMap_append, hnothing, List.nil_append, List.flatMap_singleton,
      hlast.outputsOf_eq]
  · rw [List.map_append, List.sum_append, hfree, Nat.zero_add, List.map_singleton,
      List.sum_singleton, hlast.feeOf_eq]
  · rcases List.mem_append.1 hmem with hmem | hmem
    · exact (hsilent spend hmem).1
    · rw [List.mem_singleton.1 hmem] at hother
      exact absurd hlast.coin hother

omit [CoinHash] in
theorem catLeadConditions_announces {message : Bytes}
    (h : .createCoinAnnouncement message ∈
      catLeadConditions wallet request change recipientHint changeHint feeCoins) :
    message = feeBindingMessage := by
  unfold catLeadConditions at h
  split_ifs at h <;> simp at h <;> exact h

omit [CoinHash] in
theorem ring_wraps (hled : LedBy cats lead
      (catLeadConditions wallet request change recipientHint changeHint feeCoins) inputs before
        leadSpend)
    (h : spendAll inputs = .ok ring) :
    List.Forall₂ (fun input spend =>
      WrapsInner input.1.assetId input.1.coin (innerEmits input.2) spend) inputs ring := by
  have hplain : ∀ input ∈ inputs, ∀ message,
      .createCoinAnnouncement message ∈ innerEmits input.2 →
        message.head? ≠ some ringMorphByte := by
    intro input hmem message hmessage
    rw [hled.isLast] at hmem
    rcases List.mem_append.1 hmem with hmem | hmem
    · rw [hled.silent input hmem] at hmessage
      cases hmessage
    · rw [List.mem_singleton.1 hmem, hled.leads] at hmessage
      rw [catLeadConditions_announces hmessage]
      decide
  exact (spendAll_emits inputs ring h hplain).imp fun _ _ hemits => ⟨hemits.1, hemits.2⟩

theorem createdFrom_lead :
    createdFrom lead.coin ((catLeadConditions wallet request change recipientHint changeHint
      feeCoins).map (catWrap lead.assetId)) =
        ⟨coinId lead.coin, curryTreeHash lead.assetId request.recipient,
          request.amountBaseUnits⟩ ::
        if 0 < change then [⟨coinId lead.coin, curryTreeHash lead.assetId wallet.puzzleHash,
          change⟩] else [] := by
  unfold catLeadConditions
  split_ifs <;> rfl

omit [CoinHash] in
theorem reservedIn_lead :
    reservedIn ((catLeadConditions wallet request change recipientHint changeHint
      feeCoins).map (catWrap lead.assetId)) = 0 := by
  unfold catLeadConditions
  split_ifs <;> rfl

omit [CoinHash] in
theorem lead_announces (hfees : feeCoins ≠ []) :
    .createCoinAnnouncement feeBindingMessage ∈
      catLeadConditions wallet request change recipientHint changeHint feeCoins := by
  have hbound : ¬ feeCoins.isEmpty = true := by rwa [List.isEmpty_iff]
  rw [catLeadConditions, if_neg hbound]
  exact List.mem_append_right _ (List.mem_singleton_self _)

omit [CoinHash] in
theorem feeInputs_ok {conditionsAt : Nat → List (Condition Memos)} {index : Nat}
    (hsame : ∀ k, index ≤ k → conditionsAt k = conditions)
    (h : feeInputs wallet conditionsAt index feeCoins = .ok fees) :
    fees.map CoinSpend.coin = feeCoins ∧ ∀ spend ∈ fees, emits spend = conditions := by
  induction feeCoins generalizing index fees with
  | nil =>
      cases h
      exact ⟨rfl, fun spend hmem => by cases hmem⟩
  | cons coin coins ih =>
      rw [feeInputs] at h
      obtain ⟨spend, hspend, h⟩ := bind_ok.1 h
      obtain ⟨spends, hspends, h⟩ := bind_ok.1 h
      cases h
      obtain ⟨hcoin, hemits⟩ :=
        standardSpend_emits _ _ _ _ (Fallible.mapError_eq_ok.1 hspend)
      obtain ⟨hcoins, hall⟩ := ih (fun k hk => hsame k (Nat.le_of_succ_le hk)) hspends
      refine ⟨?_, List.forall_mem_cons.2 ⟨?_, hall⟩⟩
      · rw [List.map_cons, hcoin, hcoins]
      · rw [hemits, hsame index (Nat.le_refl index)]

omit [CatEmittingDrivers] in
def feeChangeCoins (wallet : WalletKey) (feeCoins : List Coin) (feeChange : Nat) : List Coin :=
  match feeCoins with
  | [] => []
  | first :: _ =>
      if 0 < feeChange then [⟨coinId first, wallet.puzzleHash, feeChange⟩] else []

omit [CatEmittingDrivers] in
theorem createdFrom_feeConditions [CatDrivers] {first : Coin} {feeChange : Nat} :
    createdFrom first (feeConditions wallet request binding feeChange 0) =
      if 0 < feeChange then [⟨coinId first, wallet.puzzleHash, feeChange⟩] else [] := by
  rw [feeConditions, if_pos rfl]
  split_ifs <;> rfl

omit [CoinHash] [CatEmittingDrivers] in
theorem reservedIn_feeConditions [CatDrivers] {feeChange : Nat} :
    reservedIn (feeConditions wallet request binding feeChange 0) = request.feeMojos := by
  rw [feeConditions, if_pos rfl]
  split_ifs with hfee
  · rfl
  · rfl
  · exact (Nat.eq_zero_of_not_pos hfee).symm
  · exact (Nat.eq_zero_of_not_pos hfee).symm

structure FeeLeg (wallet : WalletKey) (request : CatTransferRequest) (binding : Bytes32)
    (feeCoins : List Coin) (fees : List CoinSpend) : Prop where
  coins : fees.map CoinSpend.coin = feeCoins
  paid : (fees.map feeOf).sum = request.feeMojos
  outputs : fees.flatMap outputsOf =
    feeChangeCoins wallet feeCoins (totalMojos feeCoins - request.feeMojos)
  bound : ∀ spend ∈ fees, binding ∈ assertedBy spend

theorem feeSpends_ok (hcover : request.feeMojos ≤ totalMojos feeCoins)
    (h : feeSpends wallet request binding feeCoins = .ok fees) :
    FeeLeg wallet request binding feeCoins fees := by
  rw [feeSpends] at h
  split at h
  · cases h
  rename_i feeTotal htotal
  have hsum : feeTotal = totalMojos feeCoins := (totalAmount_eq_some.1 htotal).1.symm
  rw [hsum] at h
  cases feeCoins with
  | nil =>
      cases h
      exact ⟨rfl, (Nat.le_zero.1 hcover).symm, rfl, fun spend hmem => by cases hmem⟩
  | cons first rest =>
      rw [if_neg (by simp), if_neg (Nat.not_lt_of_le hcover), feeInputs] at h
      obtain ⟨spend, hspend, h⟩ := bind_ok.1 h
      obtain ⟨spends, hspends, h⟩ := bind_ok.1 h
      cases h
      obtain ⟨hcoin, hemits⟩ :=
        standardSpend_emits _ _ _ _ (Fallible.mapError_eq_ok.1 hspend)
      have hlater : ∀ k, 1 ≤ k →
          feeConditions wallet request binding (totalMojos (first :: rest) - request.feeMojos) k =
            [.assertCoinAnnouncement binding] := by
        intro k hk
        rw [feeConditions, if_neg (Nat.ne_of_gt hk), List.append_nil]
      obtain ⟨hcoins, hall⟩ := feeInputs_ok hlater hspends
      have houtputs : spends.flatMap outputsOf = [] := by
        refine List.flatMap_eq_nil_iff.2 fun spend hmem => ?_
        rw [outputsOf, hall spend hmem]
        rfl
      have hfree : (spends.map feeOf).sum = 0 := by
        refine sum_feeOf_eq_zero fun spend hmem => ?_
        rw [feeOf, hall spend hmem]
        rfl
      refine ⟨?_, ?_, ?_, List.forall_mem_cons.2 ⟨?_, fun spend hmem => ?_⟩⟩
      · rw [List.map_cons, hcoin, hcoins]
      · rw [List.map_cons, List.sum_cons, hfree, feeOf_eq_reservedIn, hemits,
          reservedIn_feeConditions, Nat.add_zero]
      · rw [List.flatMap_cons, houtputs, List.append_nil, outputsOf_eq_createdFrom, hemits, hcoin,
          createdFrom_feeConditions, feeChangeCoins]
      · rw [assertedBy, hemits, feeConditions]
        exact List.mem_cons_self ..
      · rw [assertedBy, hall spend hmem]
        exact List.mem_cons_self ..

omit [CatEmittingDrivers] in
theorem totalMojos_feeChangeCoins {fee : Nat} (hcover : fee ≤ totalMojos feeCoins) :
    fee + totalMojos (feeChangeCoins wallet feeCoins (totalMojos feeCoins - fee)) =
      totalMojos feeCoins := by
  cases feeCoins with
  | nil => exact congrArg (· + 0) (Nat.le_zero.1 hcover)
  | cons first rest =>
      rw [feeChangeCoins]
      split
      · rw [totalMojos, total_cons, total_nil, Nat.add_zero]
        exact Nat.add_sub_of_le hcover
      · rw [totalMojos, total_nil]
        omega

omit [CatEmittingDrivers] in
theorem feeChangeCoins_ne_nil {fee : Nat} :
    feeChangeCoins wallet feeCoins (totalMojos feeCoins - fee) ≠ [] ↔
      0 < totalMojos feeCoins - fee := by
  cases feeCoins with
  | nil =>
      rw [totalMojos, total_nil, Nat.zero_sub]
      exact iff_of_false (fun hne => hne rfl) (Nat.lt_irrefl 0)
  | cons first rest =>
      rw [feeChangeCoins]
      split
      · rename_i hchange
        exact iff_of_true (List.cons_ne_nil _ _) hchange
      · rename_i hnone
        exact iff_of_false (fun hne => hne rfl) hnone

def catPayment (lead : Cat CatProof) (puzzleHash : Bytes32) (amount : Nat) : Coin :=
  ⟨coinId lead.coin, curryTreeHash lead.assetId puzzleHash, amount⟩

structure AssetsConserved (wallet : WalletKey) (cats : List (Cat CatProof)) (feeCoins : List Coin)
    (request : CatTransferRequest) (plan : CatTransferPlan) (lead : Cat CatProof)
    (ring fees : List CoinSpend) : Prop where
  isLast : cats.getLast? = some lead
  spends : plan.coinSpends = ring ++ fees
  ringCoins : ring.map CoinSpend.coin = cats.map Cat.coin
  legCoins : fees.map CoinSpend.coin = feeCoins
  once : (plan.coinSpends.map CoinSpend.coin).Nodup
  requested : plan.recipient = request.recipient ∧
    plan.amountBaseUnits = request.amountBaseUnits ∧ plan.feeMojos = request.feeMojos
  catBalance : plan.amountBaseUnits + plan.changeBaseUnits = totalMojos (cats.map Cat.coin)
  catOutputs : ring.flatMap outputsOf = catPayment lead plan.recipient plan.amountBaseUnits ::
    if 0 < plan.changeBaseUnits then [catPayment lead wallet.puzzleHash plan.changeBaseUnits]
    else []
  catSpent : totalMojos (ring.flatMap outputsOf) = totalMojos (cats.map Cat.coin)
  onlyLead : ∀ spend ∈ ring, spend.coin ≠ lead.coin → outputsOf spend = []
  feePaid : (plan.coinSpends.map feeOf).sum = plan.feeMojos
  feeSpent : plan.feeMojos + totalMojos (fees.flatMap outputsOf) = totalMojos feeCoins
  feeOutputs : fees.flatMap outputsOf =
    feeChangeCoins wallet feeCoins (totalMojos feeCoins - plan.feeMojos)
  feeChange : fees.flatMap outputsOf ≠ [] ↔ 0 < totalMojos feeCoins - plan.feeMojos
  bound : ∀ spend ∈ fees, ∃ id ∈ assertedBy spend, ∃ leadSpend ∈ ring,
    leadSpend.coin = lead.coin ∧ id ∈ announcedBy leadSpend

structure DigBuilt (wallet : WalletKey) (cats : List (Cat CatProof)) (feeCoins : List Coin)
    (request : CatTransferRequest) (plan : CatTransferPlan) (lead : Cat CatProof)
    (ring fees : List CoinSpend) : Prop where
  isLast : cats.getLast? = some lead
  spends : plan.coinSpends = ring ++ fees
  led : ∃ recipientHint changeHint, LedRing cats lead (catLeadConditions wallet request
    plan.changeBaseUnits recipientHint changeHint feeCoins) ring
  leg : FeeLeg wallet request (announcementId (coinId lead.coin) feeBindingMessage) feeCoins fees
  balance : request.amountBaseUnits + plan.changeBaseUnits = totalMojos (cats.map Cat.coin)
  recipient : plan.recipient = request.recipient
  amount : plan.amountBaseUnits = request.amountBaseUnits
  fee : plan.feeMojos = request.feeMojos

theorem buildDigTransferSpends_built {reservation : Option ReservationId}
    (hcover : request.feeMojos ≤ totalMojos feeCoins)
    (h : buildDigTransferSpends wallet cats feeCoins request reservation = .ok plan) :
    ∃ lead ring fees, DigBuilt wallet cats feeCoins request plan lead ring fees := by
  obtain ⟨lead, change, recipientHint, changeHint, inputs, ring, fees, hlead, hchange, hinputs,
    hring, hfees, rfl⟩ := buildDigTransferSpends_ok h
  obtain ⟨before, leadSpend, hled⟩ := catInputs_ok hlead hinputs
  exact ⟨lead, ring, fees, hlead, rfl,
    ⟨recipientHint, changeHint, hled.ledRing (ring_wraps hled hring)⟩, feeSpends_ok hcover hfees,
    digChangeOf_ok hchange, rfl, rfl, rfl⟩

namespace DigBuilt

theorem reserved (h : DigBuilt wallet cats feeCoins request plan lead ring fees)
    (held : Option ReservationId) :
    DigBuilt wallet cats feeCoins request { plan with reservation := held } lead ring fees :=
  ⟨h.isLast, h.spends, h.led, h.leg, h.balance, h.recipient, h.amount, h.fee⟩

variable (h : DigBuilt wallet cats feeCoins request plan lead ring fees)
include h

theorem ringCoins : ring.map CoinSpend.coin = cats.map Cat.coin := by
  obtain ⟨_, _, hled⟩ := h.led
  exact hled.coins

theorem catOutputs :
    ring.flatMap outputsOf = catPayment lead plan.recipient plan.amountBaseUnits ::
      if 0 < plan.changeBaseUnits then [catPayment lead wallet.puzzleHash plan.changeBaseUnits]
      else [] := by
  obtain ⟨_, _, hled⟩ := h.led
  rw [hled.outputs, createdFrom_lead, h.recipient, h.amount]
  rfl

theorem catSpent : totalMojos (ring.flatMap outputsOf) = totalMojos (cats.map Cat.coin) := by
  rw [h.catOutputs, ← h.balance, ← h.amount]
  split_ifs with hpositive
  · rw [totalMojos, total_cons, total_cons, total_nil, Nat.add_zero]
    rfl
  · rw [totalMojos, total_cons, total_nil, Nat.eq_zero_of_not_pos hpositive]
    rfl

theorem onlyLead {spend : CoinSpend} (hmem : spend ∈ ring) (hother : spend.coin ≠ lead.coin) :
    outputsOf spend = [] := by
  obtain ⟨_, _, hled⟩ := h.led
  exact hled.onlyLead spend hmem hother

theorem feePaid : (plan.coinSpends.map feeOf).sum = plan.feeMojos := by
  obtain ⟨_, _, hled⟩ := h.led
  rw [h.spends, List.map_append, List.sum_append, hled.fees, reservedIn_lead, h.leg.paid,
    Nat.zero_add, h.fee]

theorem bound {spend : CoinSpend} (hmem : spend ∈ fees) :
    ∃ id ∈ assertedBy spend, ∃ leadSpend ∈ ring, leadSpend.coin = lead.coin ∧
      id ∈ announcedBy leadSpend := by
  obtain ⟨_, _, hled⟩ := h.led
  obtain ⟨leadSpend, hleadSpend, hwraps⟩ := hled.leadSpend
  have hne : feeCoins ≠ [] := by
    rw [← h.leg.coins]
    exact List.ne_nil_of_mem (List.mem_map_of_mem hmem)
  exact ⟨_, h.leg.bound spend hmem, leadSpend, hleadSpend, hwraps.coin,
    hwraps.announces (lead_announces hne)⟩

theorem conserved (hdistinct : (cats.map Cat.coin ++ feeCoins).Nodup)
    (hcover : request.feeMojos ≤ totalMojos feeCoins) :
    AssetsConserved wallet cats feeCoins request plan lead ring fees := by
  have houtputs := h.leg.outputs
  have hcovered := hcover
  rw [← h.fee] at houtputs hcovered
  refine ⟨h.isLast, h.spends, h.ringCoins, h.leg.coins, ?_, ⟨h.recipient, h.amount, h.fee⟩, ?_,
    h.catOutputs, h.catSpent, fun spend hmem hother => h.onlyLead hmem hother, h.feePaid, ?_,
    houtputs, ?_, fun spend hmem => h.bound hmem⟩
  · rwa [h.spends, List.map_append, h.ringCoins, h.leg.coins]
  · rw [h.amount]
    exact h.balance
  · rw [houtputs]
    exact totalMojos_feeChangeCoins hcovered
  · rw [houtputs]
    exact feeChangeCoins_ne_nil

end DigBuilt

theorem dig_transfer_conserves_assets {reservation : Option ReservationId}
    (hdistinct : (cats.map Cat.coin ++ feeCoins).Nodup)
    (hcover : request.feeMojos ≤ totalMojos feeCoins)
    (h : buildDigTransferSpends wallet cats feeCoins request reservation = .ok plan) :
    ∃ lead ring fees, AssetsConserved wallet cats feeCoins request plan lead ring fees := by
  obtain ⟨lead, ring, fees, hbuilt⟩ := buildDigTransferSpends_built hcover h
  exact ⟨lead, ring, fees, hbuilt.conserved hdistinct hcover⟩

end Bundle

section Selected

variable [CoinHash] {puzzleHash assetId : Bytes32} {required feeMojos : Nat}
  {reserved : List Bytes32} {coins : List Coin} {oracle : HostOracle} {i : Nat}

theorem chooseCatCoins_ok {records : List CoinRecord}
    (h : chooseCatCoins puzzleHash required reserved records = .ok coins) :
    chooseInputCoins puzzleHash required reserved records = .ok coins := by
  have hshown : ¬ HidesUnjudgeable puzzleHash required records := by
    intro hhides
    obtain ⟨_, _, -, hrefused⟩ := chooseCatCoins_hides reserved hhides
    rw [hrefused] at h
    cases h
  have hsame : SameOutcome (chooseInputCoins puzzleHash required reserved records)
      (chooseCatCoins puzzleHash required reserved records) := chooseCatCoins_same hshown
  rw [h] at hsame
  cases hchosen : chooseInputCoins puzzleHash required reserved records with
  | ok chosen =>
      rw [hchosen] at hsame
      cases hsame
      rfl
  | error e =>
      rw [hchosen] at hsame
      cases hsame

theorem selectCatCoins_held [CatDrivers] (hid : Function.Injective coinId)
    (h : (selectCatCoins assetId puzzleHash required reserved).run oracle i = .ok coins) :
    coins.Nodup ∧ ∀ coin ∈ coins, coin.puzzleHash = catCurriedPuzzleHash assetId puzzleHash := by
  obtain ⟨records, hchosen⟩ := listThenConfirm_chosen h
  have hinput := chooseCatCoins_ok hchosen
  refine ⟨?_, chooseInputCoins_home hinput⟩
  have hverdict : Verdict (catCurriedPuzzleHash assetId puzzleHash) required reserved records
      (.ok coins) := hinput ▸ chooseInputCoins_verdict hid
  cases hverdict with
  | counted hfits hcovered hresult =>
      exact (fewestCoins_ok selectableCoins_nodup hcovered hfits hresult).distinct

theorem selectFeeCoins_held
    (h : (selectFeeCoins puzzleHash feeMojos reserved).run oracle i = .ok coins) :
    coins.Nodup ∧ (∀ coin ∈ coins, coin.puzzleHash = puzzleHash) ∧
      feeMojos ≤ totalMojos coins := by
  by_cases hfee : feeMojos = 0
  · rw [selectFeeCoins, if_pos hfee] at h
    cases h
    exact ⟨List.nodup_nil, fun _ hmem => absurd hmem List.not_mem_nil, Nat.le_of_eq hfee⟩
  · rw [selectFeeCoins_eq hfee] at h
    obtain ⟨records, hchosen⟩ := listThenConfirm_chosen h
    have hverdict : FeeVerdict feeMojos (confirmedUnspent puzzleHash records [])
        (freeCoins puzzleHash reserved records) (.ok coins) := hchosen ▸ chooseFeeCoins_verdict
    cases hverdict with
    | paid hfree hcovers =>
        refine ⟨List.nodup_singleton _, List.forall_mem_singleton.2 ?_, ?_⟩
        · have hlisted := (List.mem_filter.1 hfree).1
          rw [confirmedUnspent_eq] at hlisted
          exact judgeListing_home records [] _ hlisted
        · rwa [totalMojos, total_cons, total_nil, Nat.add_zero]

end Selected

section Transfers

variable [CoinHash] [CatEmittingDrivers] {wallet : WalletKey} {custody : CustodyPolicy}
  {assetId : Bytes32} {request : CatTransferRequest} {reservations : CoinReservations}
  {plan : CatTransferPlan} {oracle : HostOracle} {i : Nat}

theorem buildCatTransfer_conserves_assets (hid : Function.Injective coinId)
    (hwrapped : catCurriedPuzzleHash assetId wallet.puzzleHash ≠ wallet.puzzleHash)
    (h : (buildCatTransfer wallet custody assetId request reservations).run oracle i = .ok plan) :
    ∃ cats feeCoins lead ring fees, (∀ cat ∈ cats, cat.assetId = assetId) ∧
      AssetsConserved wallet cats feeCoins request plan lead ring fees := by
  unfold buildCatTransfer at h
  split at h
  · cases h
  split at h
  · cases h
  split at h
  · cases h
  obtain ⟨⟨⟨catCoins, feeCoins⟩, held⟩, hselected, h⟩ := Fallible.run_bind_eq_ok.1 h
  obtain ⟨built, hbuilt, h⟩ := Fallible.run_bind_eq_ok.1 h
  obtain ⟨released, hreleased, hplan⟩ := Fallible.run_bind_eq_ok.1 h
  cases hplan
  obtain ⟨excluded, ids, j, hchosen⟩ := CoinReservations.selectAndReserve_chosen hselected
  obtain ⟨chosenCats, hcats, hchosen⟩ := Fallible.run_bind_eq_ok.1 hchosen
  obtain ⟨chosenFees, hfees, hpair⟩ := Fallible.run_bind_eq_ok.1 hchosen
  cases hpair
  obtain ⟨hcatsDistinct, hcatsHome⟩ := selectCatCoins_held hid hcats
  obtain ⟨hfeesDistinct, hfeesHome, hcover⟩ := selectFeeCoins_held hfees
  rw [CoinReservations.orRelease_ok] at hreleased
  rw [hreleased, Fallible.run_outcome, Except.ok.injEq] at hbuilt
  obtain ⟨cats, hresolved, hspends⟩ := Fallible.run_bind_eq_ok.1 hbuilt
  rw [run_onChain] at hresolved
  have hcoins := resolveLineage_coins hid hresolved
  have hdistinct : (cats.map Cat.coin ++ feeCoins).Nodup := by
    rw [hcoins]
    refine List.nodup_append'.2 ⟨hcatsDistinct, hfeesDistinct, fun coin hcat hfee => ?_⟩
    exact hwrapped ((hcatsHome coin hcat).symm.trans (hfeesHome coin hfee))
  obtain ⟨lead, ring, fees, hdig⟩ := buildDigTransferSpends_built hcover hspends
  exact ⟨cats, feeCoins, lead, ring, fees, resolveLineage_assets hresolved,
    (hdig.reserved (some held)).conserved hdistinct hcover⟩

end Transfers

section Example

def feeAnnouncement : Condition Unit → Condition Unit
  | .createCoinAnnouncement _ => .createCoinAnnouncement feeBindingMessage
  | condition => condition

def readFeeConditions (solution : List UInt8) : List (Condition Unit) :=
  (readConditions solution).map feeAnnouncement

def addWrap (assetId : Bytes32) : Condition Unit → Condition Unit
  | .createCoin puzzleHash amount memos => .createCoin (assetId + puzzleHash) amount memos
  | condition => condition

def revealedSpend (coin : Coin) (puzzleReveal : Program) (conditions : List (Condition Unit)) :
    Except String CoinSpend :=
  let solution := conditions.flatMap writeCondition
  if readFeeConditions solution = conditions then .ok ⟨coin, puzzleReveal, solution⟩
  else .error "the conditions do not fit the solution"

def ringEmits (spend : CoinSpend) : List (Condition Unit) :=
  (if spend.puzzleReveal = [] then [] else [.createCoinAnnouncement [ringMorphByte]]) ++
    readFeeConditions spend.solution

theorem revealedSpend_ok {coin : Coin} {puzzleReveal : Program}
    {conditions : List (Condition Unit)} {spend : CoinSpend}
    (h : revealedSpend coin puzzleReveal conditions = .ok spend) :
    spend.coin = coin ∧ ringEmits spend =
      (if puzzleReveal = [] then [] else [.createCoinAnnouncement [ringMorphByte]]) ++
        conditions := by
  unfold revealedSpend at h
  dsimp only at h
  split at h
  · rename_i hread
    cases h
    exact ⟨rfl, congrArg _ hread⟩
  · cases h

@[reducible] def ringByteCats : CatDrivers where
  Memos := Unit
  hint _ := .ok ()
  announcementId coinId _ := coinId % 251
  standardSpend _ coin conditions := revealedSpend coin [] conditions
  CatProof := Unit
  Node := Program
  InnerSpend := List (Condition Unit)
  digAssetId := 8
  curryTreeHash assetId p2PuzzleHash := assetId + p2PuzzleHash
  nodeFromBytes program := .ok program
  parseChildren _ _ _ := .ok none
  spendWithConditions _ conditions := .ok conditions
  spendAll inputs := inputs.mapM fun (cat, inner) =>
    revealedSpend cat.coin [1] (inner.map (addWrap cat.assetId))

theorem catWrap_ringByteCats (assetId : Bytes32) (condition : Condition Unit) :
    letI := ringByteCats; catWrap assetId condition = addWrap assetId condition := by
  cases condition <;> rfl

theorem ringByteCats_spendAll :
    letI := ringByteCats
    ∀ (inputs : List (Cat CatProof × InnerSpend)) (spends : List CoinSpend),
      spendAll inputs = .ok spends →
        List.Forall₂ (fun input spend => spend.coin = input.1.coin ∧
          ringEmits spend = [.createCoinAnnouncement [ringMorphByte]] ++
            List.map (catWrap input.1.assetId) input.2) inputs spends := by
  let _ := ringByteCats
  intro inputs spends h
  induction inputs generalizing spends with
  | nil =>
      cases h
      exact .nil
  | cons input inputs ih =>
      change List.mapM _ _ = _ at h
      rw [List.mapM_cons] at h
      obtain ⟨spend, hspend, h⟩ := bind_ok.1 h
      obtain ⟨rest, hrest, h⟩ := bind_ok.1 h
      cases h
      obtain ⟨hcoin, hemits⟩ := revealedSpend_ok hspend
      refine .cons ⟨hcoin, ?_⟩ (ih _ hrest)
      rw [hemits, if_neg (List.cons_ne_nil _ _)]
      refine congrArg _ (List.map_congr_left fun condition _ => ?_)
      exact (catWrap_ringByteCats _ condition).symm

@[reducible] def ringByteDrivers : CatEmittingDrivers where
  toCatDrivers := ringByteCats
  emits := ringEmits
  standardSpend_emits _ _ _ _ h := revealedSpend_ok h
  innerEmits inner := inner
  spendWithConditions_emits _ _ _ h := (Except.ok.inj h).symm
  spendAll_emits inputs spends h _ :=
    (ringByteCats_spendAll inputs spends h).imp fun _ _ hemits =>
      ⟨hemits.1, [.createCoinAnnouncement [ringMorphByte]], List.forall_mem_singleton.2 trivial,
        hemits.2⟩

def smallDig : Coin := ⟨1, 13, 6⟩

def largeDig : Coin := ⟨2, 13, 9⟩

def heldCats : letI := ringByteCats; List (Cat CatProof) := [⟨smallDig, 8, ()⟩, ⟨largeDig, 8, ()⟩]

def fourInputPlan : CatTransferPlan :=
  letI := pairHash
  { coinSpends :=
      [⟨smallDig, [1], []⟩, ⟨largeDig, [1], [1, 17, 12, 1, 1, 13, 3, 1, 3]⟩,
        ⟨tenCoin, [], [4, UInt8.ofNat (coinId largeDig % 251), 2, 1, 1, 5, 16, 0]⟩,
        ⟨sevenCoin, [], [4, UInt8.ofNat (coinId largeDig % 251)]⟩]
    digSourceCoinIds := [coinId smallDig, coinId largeDig]
    xchSourceCoinIds := [coinId tenCoin, coinId sevenCoin]
    recipient := 9
    amountBaseUnits := 12
    feeMojos := 1
    changeBaseUnits := 3
    reservation := none }

theorem dig_transfer_conserves_assets_of_four_inputs :
    letI := pairHash
    letI := ringByteDrivers
    buildDigTransferSpends payerKey heldCats [tenCoin, sevenCoin] ⟨9, 12, 1⟩ none =
        .ok fourInputPlan ∧
      ∃ lead ring fees, AssetsConserved payerKey heldCats [tenCoin, sevenCoin] ⟨9, 12, 1⟩
        fourInputPlan lead ring fees := by
  let _ := pairHash
  let _ := ringByteDrivers
  have hbuilt : buildDigTransferSpends payerKey heldCats [tenCoin, sevenCoin] ⟨9, 12, 1⟩ none =
      .ok fourInputPlan := by decide +kernel
  exact ⟨hbuilt, dig_transfer_conserves_assets (by decide) (by decide) hbuilt⟩

end Example

end DigAccount
