import DigAccount.Wallet.AddedSpends
import DigAccount.Foundation.Validator
import Mathlib.Algebra.Order.BigOperators.Group.List
import Mathlib.Algebra.Order.Group.Nat

namespace DigAccount

open WalletSdk Validator

class ConservingSdk extends WalletSdk where
  xchCreated : List CoinSpend → List DecodedOutput
  conserves : ∀ coinSpends effect, analyze coinSpends = .ok effect →
    (coinSpends.map fun spend => spend.coin.amount).sum =
      ((xchCreated coinSpends).map DecodedOutput.amount).sum + effect.fee
  lists_once : ∀ coinSpends effect, analyze coinSpends = .ok effect →
    ((effect.outputs ++ effect.protocolSink).filter fun output => output.assetId.isNone).Subperm
      (xchCreated coinSpends)

def runningSums (amounts : List Nat) : List Nat := amounts.scanl (· + ·) 0

theorem le_of_mem_scanl {start s : Nat} {amounts : List Nat}
    (h : s ∈ amounts.scanl (· + ·) start) : s ≤ start + amounts.sum := by
  induction amounts generalizing start with
  | nil =>
      rw [List.scanl_nil, List.mem_singleton] at h
      simp [h]
  | cons amount amounts ih =>
      rw [List.scanl_cons, List.mem_cons] at h
      rw [List.sum_cons]
      rcases h with rfl | hlater
      · omega
      · have hle := ih hlater
        omega

theorem le_of_mem_runningSums {s : Nat} {amounts : List Nat} (h : s ∈ runningSums amounts) :
    s ≤ amounts.sum :=
  (le_of_mem_scanl h).trans_eq (Nat.zero_add _)

theorem sum_le_of_subperm {counted created : List DecodedOutput} (h : counted.Subperm created) :
    (counted.map DecodedOutput.amount).sum ≤ (created.map DecodedOutput.amount).sum := by
  obtain ⟨listed, hperm, hsublist⟩ := h
  calc (counted.map DecodedOutput.amount).sum
      = (listed.map DecodedOutput.amount).sum := (hperm.map _).symm.sum_eq
    _ ≤ (created.map DecodedOutput.amount).sum :=
        (hsublist.map _).sum_le_sum fun _ _ => Nat.zero_le _

def SpendSummary.nativeAmounts (summary : SpendSummary) : List Nat :=
  (summary.recipients.filter fun recipient => recipient.assetId.isNone).map
    SpendRecipient.amountMojos

theorem checkedNativeTotalMojos_of_le {summary : SpendSummary}
    (h : summary.nativeAmounts.sum + summary.fee ≤ u64Max) :
    summary.checkedNativeTotalMojos = .ok (summary.nativeAmounts.sum + summary.fee) := by
  have hnative : checkedSum u64Max 0 summary.nativeAmounts = some summary.nativeAmounts.sum :=
    (checkedSum_iff (Nat.zero_le _)).2 ⟨Nat.zero_add _, by omega⟩
  have htotal : checkedAdd u64Max summary.nativeAmounts.sum summary.fee =
      some (summary.nativeAmounts.sum + summary.fee) := checkedAdd_eq_some.2 ⟨h, rfl⟩
  simp only [SpendSummary.nativeAmounts] at hnative htotal ⊢
  simp only [SpendSummary.checkedNativeTotalMojos, hnative, htotal]

section Derivation

variable [WalletSdk] {coinSpends : List CoinSpend} {effect : SpendEffect NftOperation}

theorem deriveEffect_spent (h : deriveEffect coinSpends = .ok effect) :
    (coinSpends.map fun spend => spend.coin.amount).sum ≤ u64Max := by
  rw [deriveEffect] at h
  split at h
  · cases h
  · rename_i total htotal
    have hsum := (checkedSum_iff (Nat.zero_le _)).1 htotal
    omega

theorem fromEffect_nativeAmounts {tier : SpendTier} {summary : SpendSummary}
    (h : SpendSummary.fromEffect effect coinSpends tier = .ok summary) :
    summary.nativeAmounts.sum =
      nativeValue (leavesToAnAddress effect coinSpends ++ effect.protocolSink) := by
  rw [SpendSummary.nativeAmounts, (fromEffect_ok h).1, List.filter_append, List.map_append,
    List.sum_append, nativeAmounts_addressLine, nativeAmounts_protocolStructureLine,
    nativeValue_append]

def NamesNoOverflow (e : AccountError) : Prop := ∀ what, e ≠ SpendSummary.unsummable what

theorem fromEffect_namesNoOverflow {tier : SpendTier} :
    RefusesWith NamesNoOverflow (SpendSummary.fromEffect effect coinSpends tier) := by
  rw [SpendSummary.fromEffect]
  refine (refusesWith_mapM (fun operation => ?_) _).bind fun nftOperations => refusesWith_ok
  rw [nameNft]
  split
  · refine refusesWith_error fun what h => ?_
    cases h
  · exact refusesWith_ok

end Derivation

section Totals

variable [ConservingSdk] {coinSpends : List CoinSpend} {effect : SpendEffect NftOperation}

theorem counted_le_spent (h : deriveEffect coinSpends = .ok effect) {tier : SpendTier}
    {summary : SpendSummary}
    (hsummary : SpendSummary.fromEffect effect coinSpends tier = .ok summary) :
    summary.nativeAmounts.sum + summary.fee ≤
      (coinSpends.map fun spend => spend.coin.amount).sum := by
  have hanalyzed := deriveEffect_ok h
  have hleaves : (leavesToAnAddress effect coinSpends ++ effect.protocolSink).Sublist
      (effect.outputs ++ effect.protocolSink) := List.filter_sublist.append (List.Sublist.refl _)
  have hcounted := sum_le_of_subperm
    ((hleaves.filter fun output => output.assetId.isNone).subperm.trans
      (ConservingSdk.lists_once _ _ hanalyzed))
  have hconserved := ConservingSdk.conserves _ _ hanalyzed
  rw [fromEffect_nativeAmounts hsummary, (fromEffect_ok hsummary).2, nativeValue]
  omega

theorem checked_native_total_never_overflows (h : deriveEffect coinSpends = .ok effect) :
    (∀ s ∈ runningSums (coinSpends.map fun spend => spend.coin.amount), s < 2 ^ 64) ∧
    (∀ tier summary, SpendSummary.fromEffect effect coinSpends tier = .ok summary →
      summary.checkedNativeTotalMojos = .ok (summary.nativeAmounts.sum + summary.fee) ∧
      ∀ s ∈ runningSums (summary.nativeAmounts ++ [summary.fee]), s < 2 ^ 64) ∧
    ∀ policy what,
      DerivedSpend.derive coinSpends policy ≠ .error (SpendSummary.unsummable what) := by
  have hspent := deriveEffect_spent h
  have hmax : u64Max < 2 ^ 64 := by decide
  have hsummed : ∀ tier summary, SpendSummary.fromEffect effect coinSpends tier = .ok summary →
      summary.nativeAmounts.sum + summary.fee ≤ u64Max :=
    fun _ _ hsummary => (counted_le_spent h hsummary).trans hspent
  refine ⟨fun s hs => ?_, fun tier summary hsummary => ⟨?_, fun s hs => ?_⟩, ?_⟩
  · exact ((le_of_mem_runningSums hs).trans hspent).trans_lt hmax
  · exact checkedNativeTotalMojos_of_le (hsummed tier summary hsummary)
  · have hle := le_of_mem_runningSums hs
    rw [List.sum_append, List.sum_singleton] at hle
    exact (hle.trans (hsummed tier summary hsummary)).trans_lt hmax
  · intro policy what hderive
    rw [DerivedSpend.derive, h] at hderive
    cases hsummary : SpendSummary.fromEffect effect coinSpends .confirm with
    | error e =>
        have herror : e = SpendSummary.unsummable what := by
          simpa [Bind.bind, Except.bind, hsummary] using hderive
        exact fromEffect_namesNoOverflow e hsummary what herror
    | ok summary =>
        have htotal := checkedNativeTotalMojos_of_le (hsummed _ _ hsummary)
        simp [Bind.bind, Except.bind, Pure.pure, Except.pure, hsummary, htotal] at hderive

end Totals

section Example

theorem createdBy_native (solution : Program) :
    ∀ output ∈ createdBy solution, output.assetId = none := by
  induction solution using createdBy.induct with
  | case1 puzzleHash amount rest ih =>
      intro output houtput
      rw [createdBy, List.mem_cons] at houtput
      rcases houtput with rfl | hlater
      · rfl
      · exact ih output hlater
  | case2 solution hshort =>
      intro output houtput
      rw [createdBy] at houtput
      · cases houtput
      · exact hshort

theorem byteEffect_native (coinSpends : List CoinSpend) :
    ((byteEffect coinSpends).outputs.filter fun output => output.assetId.isNone) =
      (byteEffect coinSpends).outputs := by
  rw [List.filter_eq_self]
  intro output houtput
  obtain ⟨spend, -, hcreated⟩ := List.mem_flatMap.1 houtput
  rw [createdBy_native _ output hcreated]
  rfl

theorem byteAnalyze_conserves {coinSpends : List CoinSpend} {effect : SpendEffect Empty}
    (h : byteAnalyze coinSpends = .ok effect) :
    (coinSpends.map fun spend => spend.coin.amount).sum =
      nativeValue (byteEffect coinSpends).outputs + (byteEffect coinSpends).fee := by
  simp only [byteAnalyze] at h
  split at h
  · assumption
  · cases h

@[reducible] def conservingByteSdk : ConservingSdk where
  toWalletSdk := byteSdk.toWalletSdk
  xchCreated coinSpends := (byteEffect coinSpends).outputs
  conserves coinSpends effect h := by
    rw [byteAnalyze_ok h, byteAnalyze_conserves h, nativeValue, byteEffect_native]
  lists_once coinSpends effect h := by
    rw [byteAnalyze_ok h, List.filter_append, byteEffect_native]
    show ((byteEffect coinSpends).outputs ++ []).Subperm _
    rw [List.append_nil]

theorem checked_native_total_never_overflows_of_a_send :
    letI := conservingByteSdk
    deriveEffect sendOfSix = .ok (byteEffect sendOfSix) ∧
      (∀ s ∈ runningSums (sendOfSix.map fun spend => spend.coin.amount), s < 2 ^ 64) ∧
      (∀ tier summary, SpendSummary.fromEffect (byteEffect sendOfSix) sendOfSix tier = .ok summary →
        summary.checkedNativeTotalMojos = .ok (summary.nativeAmounts.sum + summary.fee) ∧
        ∀ s ∈ runningSums (summary.nativeAmounts ++ [summary.fee]), s < 2 ^ 64) ∧
      ∀ policy what,
        DerivedSpend.derive sendOfSix policy ≠ .error (SpendSummary.unsummable what) :=
  letI := conservingByteSdk
  ⟨rfl, checked_native_total_never_overflows rfl⟩

end Example

end DigAccount
