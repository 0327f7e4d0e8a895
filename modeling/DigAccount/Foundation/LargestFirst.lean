import Mathlib.Algebra.Order.BigOperators.Group.List
import Mathlib.Data.List.Perm.Subperm

namespace LargestFirst

variable {α M : Type} [AddCommMonoid M] [LinearOrder M] [IsOrderedAddMonoid M]
  {weight : α → M} {needed : M} {items chosen : List α} {item : α}

def total (weight : α → M) (items : List α) : M := (items.map weight).sum

def cover (weight : α → M) (needed : M) : M → List α → List α
  | _, [] => []
  | sum, item :: items =>
      if needed ≤ sum + weight item then [item]
      else item :: cover weight needed (sum + weight item) items

omit [LinearOrder M] [IsOrderedAddMonoid M] in
@[simp] theorem total_nil : total weight [] = 0 := rfl

omit [LinearOrder M] [IsOrderedAddMonoid M] in
@[simp] theorem total_cons : total weight (item :: items) = weight item + total weight items :=
  List.sum_cons

omit [LinearOrder M] [IsOrderedAddMonoid M] in
theorem total_perm (h : items.Perm chosen) : total weight items = total weight chosen :=
  (h.map weight).sum_eq

omit [IsOrderedAddMonoid M] in
theorem cover_sublist (sum : M) (items : List α) :
    (cover weight needed sum items).Sublist items := by
  induction items generalizing sum with
  | nil => exact List.Sublist.refl _
  | cons item items ih =>
      rw [cover]
      split
      · exact (List.nil_sublist items).cons_cons item
      · exact (ih (sum + weight item)).cons_cons item

omit [IsOrderedAddMonoid M] in
theorem le_total_cover {sum : M} (h : needed ≤ sum + total weight items) :
    needed ≤ sum + total weight (cover weight needed sum items) := by
  induction items generalizing sum with
  | nil => exact h
  | cons item items ih =>
      rw [cover]
      split
      · rename_i henough
        rwa [total_cons, total_nil, add_zero]
      · rw [total_cons, ← add_assoc] at h ⊢
        exact ih h

theorem exchange (hlargest : ∀ other ∈ items, weight other ≤ weight item)
    (hsub : chosen.Subperm (item :: items)) (hne : chosen ≠ []) :
    ∃ rest : List α, rest.Subperm items ∧ chosen.length = rest.length + 1 ∧
      total weight chosen ≤ weight item + total weight rest := by
  obtain ⟨picked, hperm, hsublist⟩ := hsub
  rw [← total_perm hperm, ← hperm.length_eq]
  cases hsublist with
  | cons _ hpicked =>
      cases picked with
      | nil => exact absurd hperm.symm.eq_nil hne
      | cons other rest =>
          have hother : weight other ≤ weight item :=
            hlargest other (hpicked.subset (List.mem_cons_self ..))
          refine ⟨rest, ((List.sublist_cons_self other rest).trans hpicked).subperm, rfl, ?_⟩
          rw [total_cons]
          exact add_le_add_left hother _
  | cons_cons _ hrest =>
      exact ⟨_, hrest.subperm, rfl, le_of_eq total_cons⟩

theorem length_cover_le (hlargest : items.Pairwise fun a b => weight b ≤ weight a) {sum : M}
    (hshort : sum < needed) (hsub : chosen.Subperm items)
    (hcover : needed ≤ sum + total weight chosen) :
    (cover weight needed sum items).length ≤ chosen.length := by
  induction items generalizing sum chosen with
  | nil => exact Nat.zero_le _
  | cons item items ih =>
      obtain ⟨hitem, htail⟩ := List.pairwise_cons.1 hlargest
      have hne : chosen ≠ [] := by
        rintro rfl
        rw [total_nil, add_zero] at hcover
        exact absurd hcover (not_le_of_gt hshort)
      obtain ⟨rest, hrest, hlength, htotal⟩ := exchange hitem hsub hne
      rw [cover, hlength]
      split
      · exact Nat.succ_le_succ (Nat.zero_le _)
      · rename_i hless
        refine Nat.succ_le_succ (ih htail (lt_of_not_ge hless) hrest ?_)
        calc needed ≤ sum + total weight chosen := hcover
          _ ≤ sum + (weight item + total weight rest) := add_le_add_right htotal sum
          _ = sum + weight item + total weight rest := (add_assoc ..).symm

end LargestFirst
