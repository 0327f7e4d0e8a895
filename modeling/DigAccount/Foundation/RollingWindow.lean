import Mathlib.Algebra.GroupWithZero.Nat
import Mathlib.Algebra.Order.BigOperators.Group.List
import Mathlib.Algebra.Order.Group.Nat
import Mathlib.Data.List.Perm.Subperm

namespace RollingWindow

structure Charge where
  time : Nat
  amount : Nat
  deriving DecidableEq, Repr

variable {p cap now : Nat} {ledger hist : List Charge}

def total (charges : List Charge) : Nat := (charges.map Charge.amount).sum

def unexpired (p now : Nat) (charges : List Charge) : List Charge :=
  charges.filter fun c => now < c.time + p

def spentIn (p s : Nat) (charges : List Charge) : Nat :=
  total (charges.filter fun c => s ≤ c.time ∧ c.time < s + p)

def WindowBounded (p cap : Nat) (hist : List Charge) : Prop := ∀ s, spentIn p s hist ≤ cap

def Remembers (p since : Nat) (ledger hist : List Charge) : Prop :=
  ∀ now, since ≤ now → total (unexpired p now hist) ≤ total (unexpired p now ledger)

@[simp] theorem total_nil : total [] = 0 := rfl

@[simp] theorem total_cons (c : Charge) (cs : List Charge) :
    total (c :: cs) = c.amount + total cs := rfl

@[simp] theorem total_append (xs ys : List Charge) : total (xs ++ ys) = total xs + total ys := by
  simp [total]

theorem total_le_of_sublist {xs ys : List Charge} (h : xs.Sublist ys) : total xs ≤ total ys :=
  (h.map Charge.amount).sum_le_sum fun _ _ => Nat.zero_le _

theorem total_le_of_subperm {xs ys : List Charge} (h : xs.Subperm ys) : total xs ≤ total ys := by
  obtain ⟨kept, hperm, hsub⟩ := h
  have hsame : total kept = total xs := (hperm.map Charge.amount).sum_eq
  exact hsame ▸ total_le_of_sublist hsub

theorem unexpired_append (xs ys : List Charge) :
    unexpired p now (xs ++ ys) = unexpired p now xs ++ unexpired p now ys :=
  List.filter_append ..

theorem windowBounded_nil : WindowBounded p cap [] := fun _ => Nat.zero_le _

theorem WindowBounded.of_subperm {fewer : List Charge} (h : WindowBounded p cap hist)
    (hfewer : fewer.Subperm hist) : WindowBounded p cap fewer :=
  fun s => (total_le_of_subperm (hfewer.filter _)).trans (h s)

theorem spentIn_le_unexpired {s : Nat} (hnow : now < s + p) :
    spentIn p s hist ≤ total (unexpired p now hist) := by
  refine total_le_of_sublist (List.monotone_filter_right _ fun c hc => ?_)
  simp only [decide_eq_true_eq] at hc ⊢
  omega

theorem windowBounded_snoc {amount : Nat} (h : WindowBounded p cap hist)
    (fits : total (unexpired p now hist) + amount ≤ cap) :
    WindowBounded p cap (hist ++ [⟨now, amount⟩]) := by
  intro s
  rw [spentIn]
  rw [List.filter_append, total_append]
  rcases Decidable.em (s ≤ now ∧ now < s + p) with hin | hout
  · have hpast : spentIn p s hist ≤ total (unexpired p now hist) :=
      spentIn_le_unexpired hin.2
    have hlast : total ([⟨now, amount⟩].filter fun c : Charge => s ≤ c.time ∧ c.time < s + p) =
        amount := by
      simp [hin]
    rw [hlast]
    exact (Nat.add_le_add_right hpast amount).trans fits
  · have hlast : total ([⟨now, amount⟩].filter fun c : Charge => s ≤ c.time ∧ c.time < s + p) =
        0 := by
      simp [hout]
    rw [hlast]
    exact h s

theorem remembers_nil (since : Nat) : Remembers p since [] [] := fun _ _ => le_rfl

theorem Remembers.later {since later : Nat} (h : Remembers p since ledger hist)
    (hle : since ≤ later) : Remembers p later ledger hist :=
  fun now hnow => h now (hle.trans hnow)

theorem Remembers.filter {since : Nat} (h : Remembers p since ledger hist) (hle : since ≤ now)
    {keep : Charge → Bool}
    (dropped : ∀ c ∈ ledger, keep c = false → c.time + p ≤ now) :
    Remembers p now (ledger.filter keep) hist := by
  intro t ht
  have hsame : unexpired p t (ledger.filter keep) = unexpired p t ledger := by
    rw [unexpired]
    rw [List.filter_filter]
    refine List.filter_congr fun c hc => ?_
    cases hk : keep c with
    | true => simp
    | false =>
        have hexp := dropped c hc hk
        have hlive : ¬ t < c.time + p := by omega
        simp [hlive]
  rw [hsame]
  exact h t (hle.trans ht)

theorem Remembers.snoc {since : Nat} (h : Remembers p since ledger hist) (c : Charge) :
    Remembers p since (ledger ++ [c]) (hist ++ [c]) := by
  intro t ht
  rw [unexpired_append, unexpired_append, total_append, total_append]
  exact Nat.add_le_add_right (h t ht) _

theorem Remembers.snoc_zero {since time : Nat} (h : Remembers p since ledger hist) :
    Remembers p since ledger (hist ++ [⟨time, 0⟩]) := by
  intro t ht
  have hzero : total (unexpired p t [⟨time, 0⟩]) = 0 := by
    have hle := total_le_of_sublist (List.filter_sublist (l := [(⟨time, 0⟩ : Charge)])
      (p := fun c => decide (t < c.time + p)))
    exact Nat.le_zero.1 hle
  rw [unexpired_append, total_append, hzero]
  exact h t ht

theorem Remembers.fits {amount : Nat} (h : Remembers p now ledger hist)
    (room : total ledger + amount ≤ cap) : total (unexpired p now hist) + amount ≤ cap := by
  have hhist := h now le_rfl
  have hledger : total (unexpired p now ledger) ≤ total ledger :=
    total_le_of_sublist List.filter_sublist
  omega

end RollingWindow
