import DigAccount.Foundation.Decimal
import DigAccount.Wallet.Summary

namespace DigAccount

def mojosPerXch : Nat := 1000000000000

def zeroPadded (width n : Nat) : String := String.ofList (Decimal.padded width n)

def trimEndMatches (c : Char) (s : String) : String :=
  String.ofList (s.toList.rdropWhile (· = c))

def formatXch (mojos : Nat) : String :=
  let whole := mojos / mojosPerXch
  let fraction := mojos % mojosPerXch
  if fraction = 0 then toString whole
  else
    let digits := zeroPadded 12 fraction
    toString whole ++ "." ++ trimEndMatches '0' digits

def SpendTier.debug : SpendTier → String
  | .autoSend => "AutoSend"
  | .confirm => "Confirm"
  | .vault => "Vault"

def SpendRecipient.display (recipient : SpendRecipient) : String :=
  match recipient.assetId with
  | none => formatXch recipient.amountMojos ++ " XCH -> " ++ recipient.address
  | some asset =>
      toString recipient.amountMojos ++ " base units of CAT " ++ asset ++ " -> " ++
        recipient.address

def SpendSummary.display (summary : SpendSummary) : String :=
  summary.tier.debug ++ ": " ++
    (if summary.recipients.isEmpty then "no recipients"
      else ", ".intercalate (summary.recipients.map SpendRecipient.display)) ++
    (" (fee " ++ formatXch summary.fee ++ " XCH)") ++
    String.join (summary.meltedSingletons.map fun coinId =>
      " — destroys singleton " ++ coinId ++ " permanently") ++
    String.join (summary.nftOperations.map fun operation => " — " ++ operation)

example : formatXch 1500000000000 = "1.5" := by decide +kernel

theorem formatXch_eq_fixedPoint (mojos : Nat) :
    formatXch mojos = String.ofList (Decimal.fixedPoint 12 mojos) := by
  have hplaces : mojosPerXch = 10 ^ 12 := rfl
  simp only [formatXch, Decimal.fixedPoint, hplaces, Nat.toString_eq_ofList_toDigits]
  split
  · rfl
  · have htrim : trimEndMatches '0' (zeroPadded 12 (mojos % 10 ^ 12)) =
        String.ofList (Decimal.trimmed (Decimal.padded 12 (mojos % 10 ^ 12))) := by
      rw [trimEndMatches, zeroPadded, String.toList_ofList]
      rfl
    have hpoint (digits : List Char) :
        "." ++ String.ofList digits = String.ofList ('.' :: digits) :=
      String.ofList_append.symm
    rw [htrim, String.append_assoc, hpoint, String.ofList_append]

theorem toList_formatXch (mojos : Nat) :
    (formatXch mojos).toList = Decimal.fixedPoint 12 mojos := by
  rw [formatXch_eq_fixedPoint, String.toList_ofList]

theorem formatXch_injective : Function.Injective formatXch := by
  intro mojos other h
  have hdigits := congrArg String.toList h
  rw [toList_formatXch, toList_formatXch] at hdigits
  exact Decimal.fixedPoint_injective 12 hdigits

theorem formatXch_exact :
    (∀ mojos : Nat, (Decimal.read (formatXch mojos).toList).map (fun xch => xch * 10 ^ 12) =
      some (mojos : ℚ)) ∧ Function.Injective formatXch := by
  refine ⟨fun mojos => ?_, formatXch_injective⟩
  rw [toList_formatXch, Decimal.read_fixedPoint, Option.map_some,
    div_mul_cancel₀ _ (by norm_num : (10 : ℚ) ^ 12 ≠ 0)]

theorem SpendRecipient.display_amountMojos {recipient : SpendRecipient} {amount : Nat}
    (h : recipient.display = { recipient with amountMojos := amount }.display) :
    recipient.amountMojos = amount := by
  unfold SpendRecipient.display at h
  cases hasset : recipient.assetId with
  | none =>
      simp only [hasset, String.append_left_inj] at h
      exact formatXch_injective h
  | some asset =>
      simp only [hasset, String.append_left_inj] at h
      rw [Nat.toString_eq_ofList_toDigits, Nat.toString_eq_ofList_toDigits,
        String.ofList_inj] at h
      exact Decimal.toDigits_injective h

theorem SpendSummary.display_fee {summary : SpendSummary} {fee : Nat}
    (h : summary.display = { summary with fee := fee }.display) : summary.fee = fee := by
  simp only [SpendSummary.display, String.append_left_inj, String.append_right_inj] at h
  exact formatXch_injective h

end DigAccount
