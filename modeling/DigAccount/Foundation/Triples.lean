import DigAccount.Foundation.Machine
import DigAccount.Foundation.Reads

namespace Reads

variable {Q : Type} {A : Q → Type} {α σ : Type} {Step : σ → (q : Q) → A q → σ → Prop}
  {oracle : Nat → (q : Q) → A q} {i : Nat} {s t : σ} {xs ys : List ((q : Q) × A q)}

inductive Walk (Step : σ → (q : Q) → A q → σ → Prop) : σ → List ((q : Q) × A q) → σ → Prop
  | done (s : σ) : Walk Step s [] s
  | step {s mid t : σ} {q : Q} {answer : A q} {rest : List ((q : Q) × A q)}
      (first : Step s q answer mid) (later : Walk Step mid rest t) :
      Walk Step s (⟨q, answer⟩ :: rest) t

theorem walk_nil : Walk Step s [] t ↔ t = s := by
  constructor
  · intro h
    cases h
    rfl
  · rintro rfl
    exact .done t

theorem walk_cons {q : Q} {answer : A q} :
    Walk Step s (⟨q, answer⟩ :: xs) t ↔ ∃ mid, Step s q answer mid ∧ Walk Step mid xs t := by
  constructor
  · intro h
    cases h with
    | step first later => exact ⟨_, first, later⟩
  · rintro ⟨mid, first, later⟩
    exact .step first later

theorem walk_append :
    Walk Step s (xs ++ ys) t ↔ ∃ mid, Walk Step s xs mid ∧ Walk Step mid ys t := by
  induction xs generalizing s with
  | nil => simp [walk_nil]
  | cons event xs ih =>
      rw [List.cons_append, walk_cons]
      constructor
      · rintro ⟨next, hfirst, hrest⟩
        obtain ⟨mid, hxs, hys⟩ := ih.1 hrest
        exact ⟨mid, .step hfirst hxs, hys⟩
      · rintro ⟨mid, hxs, hys⟩
        obtain ⟨next, hfirst, hrest⟩ := walk_cons.1 hxs
        exact ⟨next, hfirst, ih.2 ⟨mid, hrest, hys⟩⟩

theorem walk_of_run {serve : σ → ((q : Q) × A q) → Option σ}
    (hserve : ∀ s q answer t, serve s ⟨q, answer⟩ = some t → Step s q answer t)
    (h : PartialMachine.run serve s xs = some t) : Walk Step s xs t := by
  induction xs generalizing s with
  | nil => exact walk_nil.2 (Option.some.inj h).symm
  | cons event xs ih =>
      obtain ⟨mid, hfirst, hrest⟩ := Option.bind_eq_some_iff.1 h
      exact .step (hserve _ _ _ _ hfirst) (ih hrest)

theorem Walk.invariant {Inv : σ → Prop} (hwalk : Walk Step s xs t) (hs : Inv s)
    (hstep : ∀ event ∈ xs, ∀ s t, Inv s → Step s event.1 event.2 t → Inv t) : Inv t := by
  induction hwalk with
  | done s => exact hs
  | step first later ih =>
      have hmid := hstep _ (List.mem_cons_self ..) _ _ hs first
      exact ih hmid fun event hevent => hstep event (List.mem_cons_of_mem _ hevent)

theorem map_fst_transcript {p : Reads Q A α} :
    (transcript oracle i p).map Sigma.fst = asked oracle i p := by
  induction p generalizing i with
  | ret value => rfl
  | ask q next ih => exact congrArg (q :: ·) (ih (oracle i q))

end Reads

namespace Fallible

open Reads

variable {Q : Type} {A : Q → Type} {α β δ ε σ : Type} {Step : σ → (q : Q) → A q → σ → Prop}
  {oracle : Nat → (q : Q) → A q}

def Settles (ok : α → σ → Prop) (err : ε → σ → Prop) : Except ε α → σ → Prop
  | .ok a, s => ok a s
  | .error e, s => err e s

def Ensures (oracle : Nat → (q : Q) → A q) (Step : σ → (q : Q) → A q → σ → Prop)
    (pre : σ → Prop) (p : Fallible Q A ε α) (ok : α → σ → Prop) (err : ε → σ → Prop) : Prop :=
  ∀ i s t, pre s → Walk Step s (p.transcript oracle i) t → Settles ok err (p.run oracle i) t

variable {pre : σ → Prop} {ok : α → σ → Prop} {err : ε → σ → Prop}

theorem ensures_ofExcept {result : Except ε α} (h : ∀ s, pre s → Settles ok err result s) :
    Ensures oracle Step pre (ofExcept result) ok err := by
  intro i s t hs hwalk
  cases hwalk
  exact h s hs

theorem ensures_pure {a : α} (h : ∀ s, pre s → ok a s) :
    Ensures oracle Step pre (pure a : Fallible Q A ε α) ok err := by
  intro i s t hs hwalk
  cases hwalk
  exact h s hs

theorem ensures_fail {e : ε} (h : ∀ s, pre s → err e s) :
    Ensures oracle Step pre (fail e : Fallible Q A ε α) ok err := by
  intro i s t hs hwalk
  cases hwalk
  exact h s hs

theorem Ensures.imp {pre' : σ → Prop} {ok' : α → σ → Prop} {err' : ε → σ → Prop}
    {p : Fallible Q A ε α} (h : Ensures oracle Step pre p ok err) (hpre : ∀ s, pre' s → pre s)
    (hok : ∀ a s, ok a s → ok' a s) (herr : ∀ e s, err e s → err' e s) :
    Ensures oracle Step pre' p ok' err' := by
  intro i s t hs hwalk
  have hsettles := h i s t (hpre s hs) hwalk
  cases hrun : p.run oracle i with
  | ok a =>
      rw [hrun] at hsettles
      exact hok a t hsettles
  | error e =>
      rw [hrun] at hsettles
      exact herr e t hsettles

theorem ensures_given {φ : Prop} {p : Fallible Q A ε α}
    (h : φ → Ensures oracle Step pre p ok err) :
    Ensures oracle Step (fun s => pre s ∧ φ) p ok err :=
  fun i s t hs => h hs.2 i s t hs.1

theorem ensures_exists {ι : Type} {pre : ι → σ → Prop} {p : Fallible Q A ε α}
    (h : ∀ x, Ensures oracle Step (pre x) p ok err) :
    Ensures oracle Step (fun s => ∃ x, pre x s) p ok err :=
  fun i s t ⟨x, hx⟩ => h x i s t hx

theorem transcript_bind_of_error {p : Fallible Q A ε α} {f : α → Fallible Q A ε β} {e : ε} {i : Nat}
    (h : p.run oracle i = .error e) :
    (p >>= f).transcript oracle i = p.transcript oracle i := by
  refine Reads.transcript_bind.trans ?_
  rw [show Reads.run oracle i p = .error e from h]
  exact List.append_nil _

theorem Ensures.bind {mid : α → σ → Prop} {ok : β → σ → Prop} {p : Fallible Q A ε α}
    {f : α → Fallible Q A ε β} (hp : Ensures oracle Step pre p mid err)
    (hf : ∀ a, Ensures oracle Step (mid a) (f a) ok err) :
    Ensures oracle Step pre (p >>= f) ok err := by
  intro i s t hs hwalk
  cases hrun : p.run oracle i with
  | error e =>
      rw [transcript_bind_of_error hrun] at hwalk
      have hsettles := hp i s t hs hwalk
      rw [hrun] at hsettles
      rw [run_bind_of_error hrun]
      exact hsettles
  | ok a =>
      rw [transcript_bind_of_ok hrun] at hwalk
      obtain ⟨reached, hfirst, hrest⟩ := walk_append.1 hwalk
      have hsettles := hp i s reached hs hfirst
      rw [hrun] at hsettles
      rw [run_bind_of_ok hrun]
      exact hf a _ reached t hsettles hrest

theorem Ensures.mapError {f : δ → ε} {p : Fallible Q A δ α}
    (h : Ensures oracle Step pre p ok fun e => err (f e)) :
    Ensures oracle Step pre (mapError f p) ok err := by
  intro i s t hs hwalk
  have htranscript : (Fallible.mapError f p : Fallible Q A ε α).transcript oracle i =
      p.transcript oracle i := Reads.transcript_bind.trans (List.append_nil _)
  have hrun : (Fallible.mapError f p : Fallible Q A ε α).run oracle i =
      (p.run oracle i).mapError f := run_mapError
  have hsettles := h i s t hs (htranscript ▸ hwalk)
  rw [hrun]
  cases hresult : p.run oracle i with
  | ok a =>
      rw [hresult] at hsettles
      exact hsettles
  | error e =>
      rw [hresult] at hsettles
      exact hsettles

theorem Ensures.outcome {err : δ → σ → Prop} {p : Fallible Q A δ α}
    (h : Ensures oracle Step pre p ok err) {impossible : ε → σ → Prop} :
    Ensures oracle Step pre (outcome p : Fallible Q A ε (Except δ α)) (Settles ok err)
      impossible := by
  intro i s t hs hwalk
  have htranscript : (Fallible.outcome p : Fallible Q A ε (Except δ α)).transcript oracle i =
      p.transcript oracle i := Reads.transcript_bind.trans (List.append_nil _)
  rw [run_outcome]
  exact h i s t hs (htranscript ▸ hwalk)

theorem ensures_query {q : Q} {p : Fallible Q A ε α} {read : A q → Except ε α}
    (hp : p = Reads.ask q fun answer => Reads.ret (read answer))
    (h : ∀ i s t, pre s → Step s q (oracle i q) t → Settles ok err (read (oracle i q)) t) :
    Ensures oracle Step pre p ok err := by
  rintro i s t hs hwalk
  subst hp
  obtain ⟨mid, hstep, hdone⟩ := walk_cons.1 hwalk
  rw [walk_nil.1 hdone]
  exact h i s mid hs hstep

theorem map_fst_transcript {p : Fallible Q A ε α} {i : Nat} :
    (p.transcript oracle i).map Sigma.fst = p.asked oracle i :=
  Reads.map_fst_transcript

theorem OnlyAsks.ensures {P : Q → Prop} {p : Fallible Q A ε α} (hp : OnlyAsks P p)
    (hstep : ∀ q, P q → ∀ s answer t, pre s → Step s q answer t → pre t) :
    Ensures oracle Step pre p (fun a t => pre t ∧ ∃ i, p.run oracle i = .ok a) fun _ => pre := by
  intro i s t hs hwalk
  have hpost : pre t := by
    refine hwalk.invariant hs fun event hevent before after hbefore hserved => ?_
    have hasked : event.1 ∈ p.asked oracle i :=
      map_fst_transcript (p := p) ▸ List.mem_map_of_mem hevent
    exact hstep _ (hp oracle i _ hasked) _ _ _ hbefore hserved
  cases hrun : p.run oracle i with
  | ok a => exact ⟨hpost, i, hrun⟩
  | error e => exact hpost

end Fallible
