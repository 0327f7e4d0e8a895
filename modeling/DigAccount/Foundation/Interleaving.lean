import DigAccount.Foundation.Machine
import DigAccount.Foundation.Reads
import Mathlib.Logic.Function.Basic

namespace Reads

variable {Q : Type} {A : Q → Type} {α σ : Type}

instance : Monad (Reads Q A) where
  pure := ret
  bind := Reads.bind

def execute (perform : σ → (q : Q) → A q × σ) : Reads Q A α → σ → α × σ
  | ret value, s => (value, s)
  | ask q next, s => execute perform (next (perform s q).1) (perform s q).2

end Reads

namespace Interleaving

variable {σ Q ι ε α β : Type} {A : Q → Type}

structure Protocol (σ Q : Type) (A : Q → Type) where
  perform : σ → (q : Q) → A q × σ
  Inv : σ → Prop
  Rely : σ → σ → Prop
  Guard : σ → Q → Prop
  rely_refl : ∀ s, Rely s s
  rely_trans : ∀ s t u, Rely s t → Rely t u → Rely s u

structure System (σ Q : Type) (A : Q → Type) (β : Type) where
  shared : σ
  threads : Nat → Option (Reads Q A β)

def System.idle (shared : σ) : System σ Q A β := ⟨shared, fun _ => none⟩

inductive Action (ι ε : Type) where
  | call (thread : Nat) (operation : ι)
  | step (thread : Nat)
  | disturb (event : ε)
  deriving DecidableEq, Repr

def advance (perform : σ → (q : Q) → A q × σ) (s : System σ Q A β) (thread : Nat) :
    Reads Q A β → System σ Q A β
  | .ret _ => { s with threads := Function.update s.threads thread none }
  | .ask q next =>
      { shared := (perform s.shared q).2
        threads := Function.update s.threads thread (some (next (perform s.shared q).1)) }

def next (perform : σ → (q : Q) → A q × σ) (program : ι → Reads Q A β) (disturb : ε → σ → σ)
    (s : System σ Q A β) : Action ι ε → Option (System σ Q A β)
  | .call thread operation =>
      if (s.threads thread).isSome then none
      else some { s with threads := Function.update s.threads thread (some (program operation)) }
  | .step thread => (s.threads thread).map (advance perform s thread)
  | .disturb event => some { s with shared := disturb event s.shared }

def System.pendingAccess (s : System σ Q A β) : Action ι ε → Option Q
  | .step thread =>
      match s.threads thread with
      | some (.ask q _) => some q
      | _ => none
  | _ => none

theorem System.pendingAccess_ask {s : System σ Q A β} {thread : Nat} {q : Q}
    {next : A q → Reads Q A β} (h : s.threads thread = some (.ask q next)) :
    q ∈ s.pendingAccess (.step thread : Action ι ε) := by
  simp only [pendingAccess, h]
  exact rfl

namespace Protocol

variable (P : Protocol σ Q A)

def Upholds (post : α → σ → Prop) : Reads Q A α → σ → Prop
  | .ret value, s => post value s
  | .ask q next, s => ∀ t, P.Inv t → P.Rely s t → P.Guard t q →
      P.Inv (P.perform t q).2 ∧ P.Rely t (P.perform t q).2 ∧
        Upholds post (next (P.perform t q).1) (P.perform t q).2

def Done : β → σ → Prop := fun _ _ => True

def Guarded (s : System σ Q A β) (action : Action ι ε) : Prop :=
  ∀ q ∈ s.pendingAccess action, P.Guard s.shared q

structure Coherent (s : System σ Q A β) : Prop where
  inv : P.Inv s.shared
  upheld : ∀ thread p, s.threads thread = some p → P.Upholds Done p s.shared

variable {P} {p : Reads Q A α} {f : α → Reads Q A β} {s t : σ} {post : α → σ → Prop}

theorem Upholds.mono {weaker : α → σ → Prop} (h : P.Upholds post p s)
    (hpost : ∀ a t, post a t → weaker a t) : P.Upholds weaker p s := by
  induction p generalizing s with
  | ret value => exact hpost value s h
  | ask q next ih =>
      intro t hinv hrely hguard
      obtain ⟨hkept, hown, hrest⟩ := h t hinv hrely hguard
      exact ⟨hkept, hown, ih _ hrest⟩

theorem Upholds.bind {after : β → σ → Prop}
    (h : P.Upholds (fun a t => P.Upholds after (f a) t) p s) : P.Upholds after (p.bind f) s := by
  induction p generalizing s with
  | ret value => exact h
  | ask q next ih =>
      intro t hinv hrely hguard
      obtain ⟨hkept, hown, hrest⟩ := h t hinv hrely hguard
      exact ⟨hkept, hown, ih _ hrest⟩

theorem upholds_query {q : Q} {post : A q → σ → Prop}
    (h : ∀ t, P.Inv t → P.Rely s t → P.Guard t q → P.Inv (P.perform t q).2 ∧
      P.Rely t (P.perform t q).2 ∧ post (P.perform t q).1 (P.perform t q).2) :
    P.Upholds post (Reads.query q) s := h

theorem Upholds.rely (h : P.Upholds Done p s) (hrely : P.Rely s t) : P.Upholds Done p t := by
  cases p with
  | ret value => trivial
  | ask q next => exact fun u hinv hlater => h u hinv (P.rely_trans s t u hrely hlater)

theorem Coherent.rely {sys : System σ Q A β} (h : P.Coherent sys) (hinv : P.Inv t)
    (hrely : P.Rely sys.shared t) : P.Coherent { sys with shared := t } :=
  ⟨hinv, fun thread p hp => (h.upheld thread p hp).rely hrely⟩

theorem Coherent.assign {sys : System σ Q A β} (h : P.Coherent sys) (thread : Nat)
    {program : Option (Reads Q A β)} (hp : ∀ p, program = some p → P.Upholds Done p sys.shared) :
    P.Coherent { sys with threads := Function.update sys.threads thread program } := by
  refine ⟨h.inv, fun other p hother => ?_⟩
  dsimp only at hother ⊢
  by_cases hsame : other = thread
  · subst hsame
    rw [Function.update_self] at hother
    exact hp p hother
  · rw [Function.update_of_ne hsame] at hother
    exact h.upheld other p hother

theorem Coherent.next {program : ι → Reads Q A β} {disturb : ε → σ → σ}
    (calls : ∀ operation s, P.Inv s → P.Upholds Done (program operation) s)
    (disturbs : ∀ event s, P.Inv s → P.Inv (disturb event s) ∧ P.Rely s (disturb event s))
    {sys after : System σ Q A β} {action : Action ι ε} (h : P.Coherent sys)
    (guarded : P.Guarded sys action)
    (hstep : Interleaving.next P.perform program disturb sys action = some after) :
    P.Coherent after := by
  cases action with
  | call thread operation =>
      simp only [Interleaving.next] at hstep
      split at hstep
      · cases hstep
      · cases hstep
        refine h.assign thread fun p hp => ?_
        cases hp
        exact calls operation sys.shared h.inv
  | step thread =>
      obtain ⟨p, hp, rfl⟩ := Option.map_eq_some_iff.1 hstep
      cases p with
      | ret value => exact h.assign thread fun p hp => by cases hp
      | ask q next =>
          obtain ⟨hkept, hown, hrest⟩ := h.upheld thread _ hp sys.shared h.inv
            (P.rely_refl sys.shared) (guarded q (System.pendingAccess_ask hp))
          refine (h.rely hkept hown).assign thread fun p hp => ?_
          cases hp
          exact hrest
  | disturb event =>
      cases hstep
      obtain ⟨hkept, hrely⟩ := disturbs event sys.shared h.inv
      exact h.rely hkept hrely

theorem inv_of_meets {program : ι → Reads Q A β} {disturb : ε → σ → σ}
    (calls : ∀ operation s, P.Inv s → P.Upholds Done (program operation) s)
    (disturbs : ∀ event s, P.Inv s → P.Inv (disturb event s) ∧ P.Rely s (disturb event s))
    {start : σ} (hstart : P.Inv start) {actions : List (Action ι ε)}
    (met : PartialMachine.Meets (Interleaving.next P.perform program disturb) P.Guarded
      (.idle start) actions)
    {done : List (Action ι ε)} (hdone : done <+: actions) {sys : System σ Q A β}
    (hrun : PartialMachine.run (Interleaving.next P.perform program disturb) (.idle start) done =
      some sys) : P.Inv sys.shared := by
  have hidle : P.Coherent (System.idle start : System σ Q A β) :=
    ⟨hstart, fun thread p hp => by cases hp⟩
  have hcoherent : P.Coherent sys := PartialMachine.invariant_of_meets
    (fun _ _ _ h hguard hstep => Coherent.next calls disturbs h hguard hstep) hidle met hdone hrun
  exact hcoherent.inv

end Protocol

end Interleaving
