import DigAccount.Foundation.Reads

namespace Fallible

variable {Q : Type} {A : Q → Type} {α β γ δ ε : Type} {oracle oracle' : Nat → (q : Q) → A q}
  {i j : Nat} {E : ε → ε → Prop} {R : α → β → Prop} {S : γ → δ → Prop}

inductive Agree (E : ε → ε → Prop) (R : α → β → Prop) :
    Except ε α × Nat → Except ε β × Nat → Prop where
  | failed {d e : ε} (m n : Nat) (h : E d e) : Agree E R (.error d, m) (.error e, n)
  | returned {a : α} {b : β} (m : Nat) (h : R a b) : Agree E R (.ok a, m) (.ok b, m)

theorem Agree.refl (hE : ∀ e, E e e) (x : Except ε α × Nat) : Agree E Eq x x := by
  rcases x with ⟨e | a, m⟩
  · exact .failed m m (hE e)
  · exact .returned m rfl

theorem agree_ofExcept (hE : ∀ e, E e e) {result : Except ε α} :
    Agree E Eq (exec oracle i (ofExcept result : Fallible Q A ε α))
      (exec oracle' i (ofExcept result : Fallible Q A ε α)) :=
  .refl hE (result, i)

theorem agree_pure {a : α} {b : β} (h : R a b) :
    Agree E R (exec oracle i (pure a : Fallible Q A ε α))
      (exec oracle' i (pure b : Fallible Q A ε β)) :=
  .returned i h

theorem agree_fail {d e : ε} (h : E d e) :
    Agree E R (exec oracle i (fail d : Fallible Q A ε α))
      (exec oracle' j (fail e : Fallible Q A ε β)) :=
  .failed i j h

theorem Agree.bind_run {p : Fallible Q A ε α} {p' : Fallible Q A ε β} {f : α → Fallible Q A ε γ}
    {g : β → Fallible Q A ε δ} (h : Agree E R (exec oracle i p) (exec oracle' j p'))
    (hf : ∀ a b k, exec oracle i p = (.ok a, k) → R a b →
      Agree E S (exec oracle k (f a)) (exec oracle' k (g b))) :
    Agree E S (exec oracle i (p >>= f)) (exec oracle' j (p' >>= g)) := by
  generalize hx : exec oracle i p = x at h
  generalize hy : exec oracle' j p' = y at h
  cases h with
  | failed m n hE =>
      rw [exec_bind_of_error hx, exec_bind_of_error hy]
      exact .failed m n hE
  | returned m hR =>
      rw [exec_bind_of_ok hx, exec_bind_of_ok hy]
      exact hf _ _ m hx hR

theorem Agree.bind {p : Fallible Q A ε α} {p' : Fallible Q A ε β} {f : α → Fallible Q A ε γ}
    {g : β → Fallible Q A ε δ} (h : Agree E R (exec oracle i p) (exec oracle' j p'))
    (hf : ∀ a b k, R a b → Agree E S (exec oracle k (f a)) (exec oracle' k (g b))) :
    Agree E S (exec oracle i (p >>= f)) (exec oracle' j (p' >>= g)) :=
  h.bind_run fun a b k _ => hf a b k

theorem Agree.map_eq {x y : Except ε α × Nat} {f : ε → ε}
    (h : Agree (fun d e => f d = f e) Eq x y) : x.1.mapError f = y.1.mapError f := by
  cases h with
  | failed m n hE => exact congrArg Except.error hE
  | returned m hR => exact congrArg (fun a => Except.ok a) hR

theorem Agree.map_ok_eq {x y : Except ε α × Nat} {f : α → γ}
    (h : Agree Eq (fun a b => f a = f b) x y) : x.1.map f = y.1.map f := by
  cases h with
  | failed m n hE => exact congrArg Except.error hE
  | returned m hR => exact congrArg Except.ok hR

theorem Agree.fst_eq {x y : Except ε α × Nat} (h : Agree Eq Eq x y) : x.1 = y.1 := by
  cases h with
  | failed m n hE => exact congrArg Except.error hE
  | returned m hR => exact congrArg Except.ok hR

end Fallible
