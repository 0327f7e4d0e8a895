import Mathlib.Order.Basic

inductive Kleene where
  | holds
  | fails
  | unsettled
  deriving DecidableEq, Repr

namespace Kleene

def and : Kleene → Kleene → Kleene
  | fails, _ => fails
  | _, fails => fails
  | holds, holds => holds
  | _, _ => unsettled

instance : PartialOrder Kleene where
  le a b := a = unsettled ∨ a = b
  le_refl a := Or.inr rfl
  le_trans a b c hab hbc := by
    rcases hab with rfl | rfl
    · exact Or.inl rfl
    · exact hbc
  le_antisymm a b hab hba := by
    rcases hab with rfl | rfl
    · rcases hba with rfl | hba
      · rfl
      · exact hba.symm
    · rfl

variable {a b c d : Kleene}

theorem unsettled_le (a : Kleene) : unsettled ≤ a := Or.inl rfl

theorem eq_of_le_of_ne (h : a ≤ b) (ha : a ≠ unsettled) : a = b := h.resolve_left ha

theorem and_eq_holds : a.and b = holds ↔ a = holds ∧ b = holds := by
  cases a <;> cases b <;> decide

theorem and_eq_fails : a.and b = fails ↔ a = fails ∨ b = fails := by
  cases a <;> cases b <;> decide

theorem and_le_and (hab : a ≤ b) (hcd : c ≤ d) : a.and c ≤ b.and d := by
  rcases hab with rfl | rfl
  · rcases hcd with rfl | rfl
    · exact unsettled_le _
    · cases c with
      | holds => exact unsettled_le _
      | unsettled => exact unsettled_le _
      | fails => exact Or.inr (and_eq_fails.2 (Or.inr rfl)).symm
  · rcases hcd with rfl | rfl
    · cases a with
      | holds => exact unsettled_le _
      | unsettled => exact unsettled_le _
      | fails => exact le_refl fails
    · exact le_refl _

end Kleene
