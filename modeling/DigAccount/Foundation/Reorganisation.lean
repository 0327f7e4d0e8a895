import Mathlib.Data.List.Basic
import Mathlib.Logic.Relation

namespace Reorganisation

variable {α : Type} {depth s : Nat} {old new : List α} {sound : List α → Prop}

structure Step (depth : Nat) (old new : List α) (kept : Nat) : Prop where
  within : kept ≤ old.length
  shallow : old.length < kept + depth
  agrees : new.take kept = old.take kept
  no_shorter : old.length ≤ new.length

def Run (depth : Nat) (sound : List α → Prop) : List α → List α → Prop :=
  Relation.ReflTransGen fun old new => (∃ kept, Step depth old new kept) ∧ sound new

theorem Step.grow (hdepth : 0 < depth) (blocks : List α) :
    Step depth old (old ++ blocks) old.length where
  within := Nat.le_refl _
  shallow := Nat.lt_add_of_pos_right hdepth
  agrees := by simp
  no_shorter := by simp

theorem Step.replace (hwithin : s ≤ old.length) (hshallow : old.length < s + depth)
    {branch : List α} (hlength : old.length ≤ s + branch.length) :
    Step depth old (old.take s ++ branch) s where
  within := hwithin
  shallow := hshallow
  agrees := by simp [hwithin]
  no_shorter := by
    simp only [List.length_append, List.length_take]
    omega

theorem Step.settled {kept : Nat} (h : Step depth old new kept) (hs : s + depth ≤ old.length) :
    new.take (s + 1) = old.take (s + 1) := by
  have hkept : s + 1 ≤ kept := by
    have := h.shallow
    omega
  have hagree := congrArg (List.take (s + 1)) h.agrees
  simpa only [List.take_take, Nat.min_eq_left hkept] using hagree

theorem Run.no_shorter (h : Run depth sound old new) : old.length ≤ new.length := by
  induction h with
  | refl => exact Nat.le_refl _
  | tail _ hstep ih =>
      obtain ⟨⟨kept, hkept⟩, -⟩ := hstep
      exact Nat.le_trans ih hkept.no_shorter

theorem Run.keeps (h : Run depth sound old new) (hold : sound old) : sound new := by
  induction h with
  | refl => exact hold
  | tail _ hstep _ => exact hstep.2

theorem Run.settled (h : Run depth sound old new) (hs : s + depth ≤ old.length) :
    new.take (s + 1) = old.take (s + 1) := by
  induction h with
  | refl => rfl
  | tail hrun hstep ih =>
      obtain ⟨⟨kept, hkept⟩, -⟩ := hstep
      have hdeep := Nat.le_trans hs (Run.no_shorter hrun)
      rw [hkept.settled hdeep, ih]

theorem Run.settled_getElem (h : Run depth sound old new) (hs : s + depth ≤ old.length) :
    new[s]? = old[s]? := by
  rw [← List.getElem?_take_of_lt (Nat.lt_succ_self s), h.settled hs,
    List.getElem?_take_of_lt (Nat.lt_succ_self s)]

end Reorganisation
