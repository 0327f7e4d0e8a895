import Mathlib.Data.List.Nodup

namespace Validator

universe u

variable {ε κ : Type*} {α β : Type u}

def refuseWhen (p : Prop) [Decidable p] (e : ε) : Except ε Unit :=
  if p then .error e else .ok ()

def each (f : α → Except ε Unit) : List α → Except ε Unit
  | [] => .ok ()
  | x :: xs => do
      f x
      each f xs

def distinct [DecidableEq κ] (key : α → κ) (clash : α → α → ε) (seen : List α) :
    List α → Except ε Unit
  | [] => .ok ()
  | x :: xs =>
      match seen.find? (fun y => key y = key x) with
      | some y => .error (clash y x)
      | none => distinct key clash (x :: seen) xs

theorem bind_ok {a : Except ε α} {f : α → Except ε β} {b : β} :
    (a >>= f) = .ok b ↔ ∃ x, a = .ok x ∧ f x = .ok b := by
  cases a <;> simp [bind, Except.bind]

@[simp] theorem andThen_ok {a : Except ε Unit} {b : Except ε Unit} :
    (a >>= fun _ => b) = .ok () ↔ a = .ok () ∧ b = .ok () := by
  cases a <;> simp [bind, Except.bind]

theorem andThen_eq_ok {γ : Type} {a : Except ε Unit} {b : Except ε γ} {y : γ} :
    (a >>= fun _ => b) = .ok y ↔ a = .ok () ∧ b = .ok y := by
  cases a <;> simp [bind, Except.bind]

@[simp] theorem refuseWhen_ok {p : Prop} [Decidable p] {e : ε} :
    refuseWhen p e = .ok () ↔ ¬ p := by
  rw [refuseWhen]
  split <;> simp_all

@[simp] theorem each_ok {f : α → Except ε Unit} {xs : List α} :
    each f xs = .ok () ↔ ∀ x ∈ xs, f x = .ok () := by
  induction xs with
  | nil => simp [each]
  | cons x xs ih => simp [each, ih]

theorem distinct_ok_of_seen [DecidableEq κ] {key : α → κ} {clash : α → α → ε} {seen xs : List α} :
    distinct key clash seen xs = .ok () ↔
      (xs.map key).Nodup ∧ ∀ x ∈ xs, ∀ y ∈ seen, key y ≠ key x := by
  induction xs generalizing seen with
  | nil => simp [distinct]
  | cons x xs ih =>
      cases h : seen.find? (fun y => key y = key x) with
      | some y =>
          have hy := List.find?_some h
          have hmem := List.mem_of_find?_eq_some h
          simp only [distinct, h, reduceCtorEq, List.mem_cons, forall_eq_or_imp, false_iff, not_and]
          intro _ hfresh
          exact absurd (by simpa using hy) (hfresh y hmem)
      | none =>
          have hfresh : ∀ y ∈ seen, key y ≠ key x := by simpa using h
          simp only [distinct, h, ih, List.map_cons, List.nodup_cons, List.mem_cons,
            forall_eq_or_imp, List.mem_map, not_exists, not_and]
          constructor
          · rintro ⟨hnd, hnew⟩
            exact ⟨⟨fun z hz => ((hnew z hz).1).symm, hnd⟩, hfresh, fun z hz => (hnew z hz).2⟩
          · rintro ⟨⟨hx, hnd⟩, -, hrest⟩
            exact ⟨hnd, fun z hz => ⟨fun he => hx z hz he.symm, hrest z hz⟩⟩

@[simp] theorem distinct_ok [DecidableEq κ] {key : α → κ} {clash : α → α → ε} {xs : List α} :
    distinct key clash [] xs = .ok () ↔ (xs.map key).Nodup := by
  simp [distinct_ok_of_seen]

theorem ok_or_error (a : Except ε Unit) : a = .ok () ∨ ∃ e, a = .error e := by
  cases a with
  | error e => exact Or.inr ⟨e, rfl⟩
  | ok u => exact Or.inl rfl

theorem ok_of_any {result : Except ε α} {p : α → Bool} (h : result.toOption.any p) :
    ∃ value, result = .ok value ∧ p value := by
  cases result with
  | ok value => exact ⟨value, rfl, h⟩
  | error e => cases h

theorem mapM_ok_mem {f : α → Except ε β} {xs : List α} {ys : List β} (h : xs.mapM f = .ok ys) :
    ∀ x ∈ xs, ∃ y ∈ ys, f x = .ok y := by
  induction xs generalizing ys with
  | nil =>
      intro x hmem
      cases hmem
  | cons x xs ih =>
      rw [List.mapM_cons] at h
      obtain ⟨y, hy, h⟩ := bind_ok.1 h
      obtain ⟨rest, hrest, h⟩ := bind_ok.1 h
      cases h
      refine List.forall_mem_cons.2 ⟨⟨y, List.mem_cons_self .., hy⟩, fun z hmem => ?_⟩
      obtain ⟨w, hw, hz⟩ := ih hrest z hmem
      exact ⟨w, List.mem_cons_of_mem _ hw, hz⟩

def RefusesWith (E : ε → Prop) (result : Except ε α) : Prop := ∀ e, result = .error e → E e

section RefusesWith

variable {E F : ε → Prop}

theorem RefusesWith.mono {result : Except ε α} (h : RefusesWith E result) (hsub : ∀ e, E e → F e) :
    RefusesWith F result :=
  fun e he => hsub e (h e he)

theorem refusesWith_ok {x : α} : RefusesWith E (.ok x) := by
  intro e he
  cases he

theorem refusesWith_error {e : ε} (h : E e) : RefusesWith E (.error e : Except ε α) := by
  intro d hd
  cases hd
  exact h

theorem refusesWith_refuseWhen {p : Prop} [Decidable p] {e : ε} (h : E e) :
    RefusesWith E (refuseWhen p e) := by
  rw [refuseWhen]
  split
  · exact refusesWith_error h
  · exact refusesWith_ok

theorem RefusesWith.bind {a : Except ε α} {f : α → Except ε β} (ha : RefusesWith E a)
    (hf : ∀ x, RefusesWith E (f x)) : RefusesWith E (a >>= f) := by
  cases a with
  | error d =>
      intro e he
      cases he
      exact ha d rfl
  | ok x => exact hf x

theorem refusesWith_mapError {δ : Type*} {f : δ → ε} {result : Except δ α}
    (h : ∀ d, result = .error d → E (f d)) : RefusesWith E (result.mapError f) := by
  cases result with
  | error d => exact refusesWith_error (h d rfl)
  | ok x => exact refusesWith_ok

theorem refusesWith_each {f : α → Except ε Unit} (h : ∀ x, RefusesWith E (f x)) (xs : List α) :
    RefusesWith E (each f xs) := by
  induction xs with
  | nil => exact refusesWith_ok
  | cons x xs ih => exact (h x).bind fun _ => ih

theorem refusesWith_mapM {f : α → Except ε β} (h : ∀ x, RefusesWith E (f x)) (xs : List α) :
    RefusesWith E (xs.mapM f) := by
  induction xs with
  | nil => exact refusesWith_ok
  | cons x xs ih =>
      rw [List.mapM_cons]
      exact (h x).bind fun y => ih.bind fun ys => refusesWith_ok

end RefusesWith

end Validator
