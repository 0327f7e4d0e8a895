import Mathlib.Data.List.Basic

inductive Reads (Q : Type) (A : Q → Type) (α : Type) where
  | ret (value : α)
  | ask (query : Q) (next : A query → Reads Q A α)

namespace Reads

variable {Q : Type} {A : Q → Type} {α β ε : Type}

def bind : Reads Q A α → (α → Reads Q A β) → Reads Q A β
  | ret value, f => f value
  | ask query next, f => ask query fun answer => (next answer).bind f

def query (q : Q) : Reads Q A (A q) := ask q ret

def runFrom (oracle : Nat → (q : Q) → A q) : Nat → Reads Q A α → α × Nat
  | i, ret value => (value, i)
  | i, ask query next => runFrom oracle (i + 1) (next (oracle i query))

def run (oracle : Nat → (q : Q) → A q) (i : Nat) (p : Reads Q A α) : α := (runFrom oracle i p).1

def after (oracle : Nat → (q : Q) → A q) (i : Nat) (p : Reads Q A α) : Nat :=
  (runFrom oracle i p).2

def asked (oracle : Nat → (q : Q) → A q) : Nat → Reads Q A α → List Q
  | _, ret _ => []
  | i, ask query next => query :: asked oracle (i + 1) (next (oracle i query))

def transcript (oracle : Nat → (q : Q) → A q) : Nat → Reads Q A α → List ((q : Q) × A q)
  | _, ret _ => []
  | i, ask query next =>
      ⟨query, oracle i query⟩ :: transcript oracle (i + 1) (next (oracle i query))

variable {oracle : Nat → (q : Q) → A q} {i : Nat}

@[simp] theorem run_ret {value : α} : run oracle i (ret value : Reads Q A α) = value := rfl

@[simp] theorem after_ret {value : α} : after oracle i (ret value : Reads Q A α) = i := rfl

@[simp] theorem asked_ret {value : α} : asked oracle i (ret value : Reads Q A α) = [] := rfl

@[simp] theorem run_ask {q : Q} {next : A q → Reads Q A α} :
    run oracle i (ask q next) = run oracle (i + 1) (next (oracle i q)) := rfl

@[simp] theorem after_ask {q : Q} {next : A q → Reads Q A α} :
    after oracle i (ask q next) = after oracle (i + 1) (next (oracle i q)) := rfl

@[simp] theorem asked_ask {q : Q} {next : A q → Reads Q A α} :
    asked oracle i (ask q next) = q :: asked oracle (i + 1) (next (oracle i q)) := rfl

@[simp] theorem run_query {q : Q} : run oracle i (query q : Reads Q A (A q)) = oracle i q := rfl

@[simp] theorem after_query {q : Q} : after oracle i (query q : Reads Q A (A q)) = i + 1 := rfl

@[simp] theorem asked_query {q : Q} : asked oracle i (query q : Reads Q A (A q)) = [q] := rfl

theorem runFrom_bind {p : Reads Q A α} {f : α → Reads Q A β} :
    runFrom oracle i (p.bind f) = runFrom oracle (after oracle i p) (f (run oracle i p)) := by
  induction p generalizing i with
  | ret value => rfl
  | ask q next ih => exact ih (oracle i q)

@[simp] theorem run_bind {p : Reads Q A α} {f : α → Reads Q A β} :
    run oracle i (p.bind f) = run oracle (after oracle i p) (f (run oracle i p)) :=
  congrArg Prod.fst runFrom_bind

@[simp] theorem after_bind {p : Reads Q A α} {f : α → Reads Q A β} :
    after oracle i (p.bind f) = after oracle (after oracle i p) (f (run oracle i p)) :=
  congrArg Prod.snd runFrom_bind

@[simp] theorem asked_bind {p : Reads Q A α} {f : α → Reads Q A β} :
    asked oracle i (p.bind f) =
      asked oracle i p ++ asked oracle (after oracle i p) (f (run oracle i p)) := by
  induction p generalizing i with
  | ret value => rfl
  | ask q next ih => exact congrArg (q :: ·) (ih (oracle i q))

@[simp] theorem transcript_bind {p : Reads Q A α} {f : α → Reads Q A β} :
    transcript oracle i (p.bind f) =
      transcript oracle i p ++ transcript oracle (after oracle i p) (f (run oracle i p)) := by
  induction p generalizing i with
  | ret value => rfl
  | ask q next ih => exact congrArg (⟨q, oracle i q⟩ :: ·) (ih (oracle i q))

theorem run_shift {oracle oracle' : Nat → (q : Q) → A q} {p : Reads Q A α} {i j : Nat}
    (h : ∀ k q, oracle (i + k) q = oracle' (j + k) q) : run oracle i p = run oracle' j p := by
  induction p generalizing i j with
  | ret value => rfl
  | ask q next ih =>
      have hfirst : oracle i q = oracle' j q := h 0 q
      rw [run_ask, run_ask, hfirst]
      refine ih (oracle' j q) fun k q' => ?_
      simpa only [Nat.add_assoc, Nat.add_comm 1 k] using h (k + 1) q'

theorem le_after {p : Reads Q A α} : i ≤ after oracle i p := by
  induction p generalizing i with
  | ret value => exact Nat.le_refl i
  | ask q next ih => exact Nat.le_trans (Nat.le_succ i) (ih (oracle i q))

section Lift

variable {Q' : Type} {A' : Q' → Type} {embed : Q → Q'} {answer : ∀ q, A' (embed q) → A q}
  {oracle : Nat → (q : Q') → A' q} {i : Nat}

def lift (embed : Q → Q') (answer : ∀ q, A' (embed q) → A q) : Reads Q A α → Reads Q' A' α
  | ret value => ret value
  | ask q next => ask (embed q) fun a => (next (answer q a)).lift embed answer

def seenBy (embed : Q → Q') (answer : ∀ q, A' (embed q) → A q) (oracle : Nat → (q : Q') → A' q) :
    Nat → (q : Q) → A q :=
  fun i q => answer q (oracle i (embed q))

theorem runFrom_lift {p : Reads Q A α} :
    runFrom oracle i (p.lift embed answer) = runFrom (seenBy embed answer oracle) i p := by
  induction p generalizing i with
  | ret value => rfl
  | ask q next ih => exact ih (seenBy embed answer oracle i q)

theorem asked_lift {p : Reads Q A α} :
    asked oracle i (p.lift embed answer) =
      (asked (seenBy embed answer oracle) i p).map embed := by
  induction p generalizing i with
  | ret value => rfl
  | ask q next ih => exact congrArg (embed q :: ·) (ih (seenBy embed answer oracle i q))

end Lift

end Reads

def Fallible (Q : Type) (A : Q → Type) (ε α : Type) := Reads Q A (Except ε α)

namespace Fallible

open Reads

variable {Q : Type} {A : Q → Type} {α β δ ε : Type}

def fail (e : ε) : Fallible Q A ε α := Reads.ret (.error e)

def attempt (p : Fallible Q A ε α) (f : α → Fallible Q A ε β) : Fallible Q A ε β :=
  Reads.bind p fun
    | .error e => fail e
    | .ok a => f a

instance : Monad (Fallible Q A ε) where
  pure a := Reads.ret (.ok a)
  bind := attempt

def ofExcept (result : Except ε α) : Fallible Q A ε α := Reads.ret result

def mapError (f : δ → ε) (p : Reads Q A (Except δ α)) : Fallible Q A ε α :=
  Reads.bind p fun result => Reads.ret (result.mapError f)

def outcome (p : Fallible Q A δ α) : Fallible Q A ε (Except δ α) :=
  Reads.bind p fun result => Reads.ret (.ok result)

variable {oracle : Nat → (q : Q) → A q} {i : Nat}

def run (oracle : Nat → (q : Q) → A q) (i : Nat) (p : Fallible Q A ε α) : Except ε α :=
  Reads.run oracle i p

def after (oracle : Nat → (q : Q) → A q) (i : Nat) (p : Fallible Q A ε α) : Nat :=
  Reads.after oracle i p

def asked (oracle : Nat → (q : Q) → A q) (i : Nat) (p : Fallible Q A ε α) : List Q :=
  Reads.asked oracle i p

def transcript (oracle : Nat → (q : Q) → A q) (i : Nat) (p : Fallible Q A ε α) :
    List ((q : Q) × A q) :=
  Reads.transcript oracle i p

@[simp] theorem run_pure {a : α} : run oracle i (pure a : Fallible Q A ε α) = .ok a := rfl

@[simp] theorem after_pure {a : α} : after oracle i (pure a : Fallible Q A ε α) = i := rfl

@[simp] theorem asked_pure {a : α} : asked oracle i (pure a : Fallible Q A ε α) = [] := rfl

@[simp] theorem run_fail {e : ε} : run oracle i (fail e : Fallible Q A ε α) = .error e := rfl

@[simp] theorem asked_fail {e : ε} : asked oracle i (fail e : Fallible Q A ε α) = [] := rfl

@[simp] theorem run_ofExcept {result : Except ε α} :
    run oracle i (ofExcept result : Fallible Q A ε α) = result := rfl

@[simp] theorem after_ofExcept {result : Except ε α} :
    after oracle i (ofExcept result : Fallible Q A ε α) = i := rfl

@[simp] theorem asked_ofExcept {result : Except ε α} :
    asked oracle i (ofExcept result : Fallible Q A ε α) = [] := rfl

@[simp] theorem run_mapError {f : δ → ε} {p : Reads Q A (Except δ α)} :
    run oracle i (mapError f p) = (Reads.run oracle i p).mapError f :=
  Reads.run_bind

@[simp] theorem after_mapError {f : δ → ε} {p : Reads Q A (Except δ α)} :
    after oracle i (mapError f p) = Reads.after oracle i p :=
  Reads.after_bind

@[simp] theorem asked_mapError {f : δ → ε} {p : Reads Q A (Except δ α)} :
    asked oracle i (mapError f p) = Reads.asked oracle i p :=
  Reads.asked_bind.trans (List.append_nil _)

@[simp] theorem run_outcome {p : Fallible Q A δ α} :
    run oracle i (outcome p : Fallible Q A ε (Except δ α)) = .ok (p.run oracle i) :=
  Reads.run_bind

@[simp] theorem after_outcome {p : Fallible Q A δ α} :
    after oracle i (outcome p : Fallible Q A ε (Except δ α)) = p.after oracle i :=
  Reads.after_bind

@[simp] theorem asked_outcome {p : Fallible Q A δ α} :
    asked oracle i (outcome p : Fallible Q A ε (Except δ α)) = p.asked oracle i :=
  Reads.asked_bind.trans (List.append_nil _)

theorem mapError_eq_ok {f : δ → ε} {result : Except δ α} {a : α} :
    result.mapError f = .ok a ↔ result = .ok a := by
  cases result with
  | error e => simp [Except.mapError]
  | ok b => simp [Except.mapError]

theorem map_eq_ok {f : α → β} {result : Except ε α} {b : β} :
    result.map f = .ok b ↔ ∃ a, result = .ok a ∧ f a = b := by
  cases result with
  | error e => simp [Except.map]
  | ok a => simp [Except.map]

theorem mapError_eq_error {f : δ → ε} {result : Except δ α} {e : ε} :
    result.mapError f = .error e ↔ ∃ d, result = .error d ∧ f d = e := by
  cases result with
  | error d => simp [Except.mapError]
  | ok b => simp [Except.mapError]

section Bind

variable {p : Fallible Q A ε α} {f : α → Fallible Q A ε β}

theorem run_bind_of_ok {a : α} (h : run oracle i p = .ok a) :
    run oracle i (p >>= f) = run oracle (after oracle i p) (f a) := by
  refine Reads.run_bind.trans ?_
  rw [show Reads.run oracle i p = .ok a from h]
  rfl

theorem run_bind_of_error {e : ε} (h : run oracle i p = .error e) :
    run oracle i (p >>= f) = .error e := by
  refine Reads.run_bind.trans ?_
  rw [show Reads.run oracle i p = .error e from h]
  rfl

theorem after_bind_of_ok {a : α} (h : run oracle i p = .ok a) :
    after oracle i (p >>= f) = after oracle (after oracle i p) (f a) := by
  refine Reads.after_bind.trans ?_
  rw [show Reads.run oracle i p = .ok a from h]
  rfl

theorem after_bind_of_error {e : ε} (h : run oracle i p = .error e) :
    after oracle i (p >>= f) = after oracle i p := by
  refine Reads.after_bind.trans ?_
  rw [show Reads.run oracle i p = .error e from h]
  rfl

theorem asked_bind_of_ok {a : α} (h : run oracle i p = .ok a) :
    asked oracle i (p >>= f) = asked oracle i p ++ asked oracle (after oracle i p) (f a) := by
  refine Reads.asked_bind.trans ?_
  rw [show Reads.run oracle i p = .ok a from h]
  rfl

theorem asked_bind_of_error {e : ε} (h : run oracle i p = .error e) :
    asked oracle i (p >>= f) = asked oracle i p := by
  refine Reads.asked_bind.trans ?_
  rw [show Reads.run oracle i p = .error e from h]
  exact List.append_nil _

theorem transcript_bind_of_ok {a : α} (h : run oracle i p = .ok a) :
    transcript oracle i (p >>= f) =
      transcript oracle i p ++ transcript oracle (after oracle i p) (f a) := by
  refine Reads.transcript_bind.trans ?_
  rw [show Reads.run oracle i p = .ok a from h]
  rfl

theorem run_bind_eq_ok {b : β} :
    run oracle i (p >>= f) = .ok b ↔
      ∃ a, run oracle i p = .ok a ∧ run oracle (after oracle i p) (f a) = .ok b := by
  cases h : run oracle i p with
  | error e => simp [run_bind_of_error h]
  | ok a => simp [run_bind_of_ok h]

theorem run_bind_eq_error {e : ε} :
    run oracle i (p >>= f) = .error e ↔
      run oracle i p = .error e ∨
        ∃ a, run oracle i p = .ok a ∧ run oracle (after oracle i p) (f a) = .error e := by
  cases h : run oracle i p with
  | error e => simp [run_bind_of_error h]
  | ok a => simp [run_bind_of_ok h]

theorem mem_asked_bind {q : Q} :
    q ∈ asked oracle i (p >>= f) ↔
      q ∈ asked oracle i p ∨
        ∃ a, run oracle i p = .ok a ∧ q ∈ asked oracle (after oracle i p) (f a) := by
  cases h : run oracle i p with
  | error e => simp [asked_bind_of_error h]
  | ok a => simp [asked_bind_of_ok h]

def exec (oracle : Nat → (q : Q) → A q) (i : Nat) (p : Fallible Q A ε α) : Except ε α × Nat :=
  (run oracle i p, after oracle i p)

theorem fst_exec : (exec oracle i p).1 = run oracle i p := rfl

theorem le_of_exec {result : Except ε α} {k : Nat} (h : exec oracle i p = (result, k)) : i ≤ k :=
  (Prod.mk.inj h).2 ▸ Reads.le_after

theorem exec_of_run {result : Except ε α} (h : run oracle i p = result) :
    exec oracle i p = (result, after oracle i p) :=
  Prod.ext h rfl

theorem exec_mapError {f : ε → δ} {result : Except ε α} {k : Nat}
    (h : exec oracle i p = (result, k)) :
    exec oracle i (mapError f p) = (result.mapError f, k) := by
  obtain ⟨rfl, rfl⟩ := Prod.mk.inj h
  exact Prod.ext run_mapError after_mapError

theorem exec_outcome_eq_ok {p : Fallible Q A δ α} {result : Except δ α} {k : Nat} :
    (outcome p : Fallible Q A ε (Except δ α)).exec oracle i = (.ok result, k) ↔
      p.exec oracle i = (result, k) := by
  simp only [exec, run_outcome, after_outcome, Prod.mk.injEq, Except.ok.injEq]

theorem exec_bind_of_ok {a : α} {k : Nat} (h : exec oracle i p = (.ok a, k)) :
    exec oracle i (p >>= f) = exec oracle k (f a) := by
  obtain ⟨hrun, rfl⟩ := Prod.mk.inj h
  exact Prod.ext (run_bind_of_ok hrun) (after_bind_of_ok hrun)

theorem exec_bind_of_error {e : ε} {k : Nat} (h : exec oracle i p = (.error e, k)) :
    exec oracle i (p >>= f) = (.error e, k) := by
  obtain ⟨hrun, rfl⟩ := Prod.mk.inj h
  exact Prod.ext (run_bind_of_error hrun) (after_bind_of_error hrun)

theorem exec_bind_congr {p' : Fallible Q A ε α} {j : Nat}
    (h : exec oracle i p = exec oracle j p') :
    exec oracle i (p >>= f) = exec oracle j (p' >>= f) := by
  rcases hp : exec oracle i p with ⟨e | a, m⟩
  · rw [exec_bind_of_error hp, exec_bind_of_error (h.symm.trans hp)]
  · rw [exec_bind_of_ok hp, exec_bind_of_ok (h.symm.trans hp)]

theorem exec_bind_eq_ok {b : β} {k : Nat} :
    exec oracle i (p >>= f) = (.ok b, k) ↔
      ∃ a m, exec oracle i p = (.ok a, m) ∧ exec oracle m (f a) = (.ok b, k) := by
  rcases hp : exec oracle i p with ⟨e | a, m⟩
  · simp [exec_bind_of_error hp]
  · simp [exec_bind_of_ok hp]

theorem exec_bind_eq_error {e : ε} {k : Nat} :
    exec oracle i (p >>= f) = (.error e, k) ↔
      exec oracle i p = (.error e, k) ∨
        ∃ a m, exec oracle i p = (.ok a, m) ∧ exec oracle m (f a) = (.error e, k) := by
  rcases hp : exec oracle i p with ⟨d | a, m⟩
  · simp [exec_bind_of_error hp]
  · simp [exec_bind_of_ok hp]

theorem exec_bind_ofExcept {result : Except ε α} {a : α} (h : result = .ok a) :
    exec oracle i (ofExcept result >>= f) = exec oracle i (f a) :=
  exec_bind_of_ok (Prod.ext h rfl)

theorem mem_asked_bind_ofExcept {result : Except ε α} {q : Q} :
    q ∈ asked oracle i (ofExcept result >>= f) ↔ ∃ a, result = .ok a ∧ q ∈ asked oracle i (f a) :=
  mem_asked_bind.trans (or_iff_right List.not_mem_nil)

def OnlyAsks (P : Q → Prop) (p : Fallible Q A ε α) : Prop :=
  ∀ oracle i, ∀ q ∈ asked oracle i p, P q

variable {P : Q → Prop}

theorem onlyAsks_ofExcept {result : Except ε α} :
    OnlyAsks P (ofExcept result : Fallible Q A ε α) := by
  intro oracle i q hq
  cases hq

theorem OnlyAsks.bind (hp : OnlyAsks P p) (hf : ∀ a, OnlyAsks P (f a)) : OnlyAsks P (p >>= f) := by
  intro oracle i q hq
  rcases mem_asked_bind.1 hq with hfirst | ⟨a, -, hrest⟩
  · exact hp oracle i q hfirst
  · exact hf a oracle _ q hrest

theorem mem_asked_bind_of_onlyAsks {q : Q} (hp : OnlyAsks P p) (hq : ¬ P q) :
    q ∈ asked oracle i (p >>= f) ↔
      ∃ a k, exec oracle i p = (.ok a, k) ∧ q ∈ asked oracle k (f a) := by
  rw [mem_asked_bind]
  constructor
  · rintro (hfirst | ⟨a, hrun, hrest⟩)
    · exact absurd (hp oracle i q hfirst) hq
    · exact ⟨a, _, Prod.ext hrun rfl, hrest⟩
  · rintro ⟨a, k, hexec, hrest⟩
    obtain ⟨hrun, rfl⟩ := Prod.mk.inj hexec
    exact .inr ⟨a, hrun, hrest⟩

end Bind

theorem OnlyAsks.outcome {P : Q → Prop} {p : Fallible Q A δ α} (h : OnlyAsks P p) :
    OnlyAsks P (outcome p : Fallible Q A ε (Except δ α)) := by
  intro oracle i q hq
  rw [asked_outcome] at hq
  exact h oracle i q hq

theorem OnlyAsks.mapError {P : Q → Prop} {p : Fallible Q A δ α} {f : δ → ε} (h : OnlyAsks P p) :
    OnlyAsks P (mapError f p : Fallible Q A ε α) := by
  intro oracle i q hq
  have hasked : asked oracle i (Fallible.mapError f p : Fallible Q A ε α) = asked oracle i p :=
    asked_mapError
  exact h oracle i q (hasked ▸ hq)

theorem onlyAsks_mapError_query {P : Q → Prop} {q : Q} {f : δ → ε}
    {p : Reads Q A (Except δ α)} (h : ∀ oracle i, Reads.asked oracle i p = [q]) (hq : P q) :
    OnlyAsks P (mapError f p : Fallible Q A ε α) := by
  intro oracle i r hr
  rw [asked_mapError, h, List.mem_singleton] at hr
  exact hr ▸ hq

end Fallible
