import Mathlib.Data.List.Infix

namespace PartialMachine

variable {σ ι : Type*}

def run (step : σ → ι → Option σ) : σ → List ι → Option σ
  | s, [] => some s
  | s, op :: ops => (step s op).bind fun next => run step next ops

def Survives (step : σ → ι → Option σ) (Safe : σ → Prop) (start : σ) (ops : List ι) : Prop :=
  ∀ done, done <+: ops → ∃ s, run step start done = some s ∧ Safe s

def Meets (step : σ → ι → Option σ) (Guard : σ → ι → Prop) (start : σ) (ops : List ι) : Prop :=
  ∀ done op, done ++ [op] <+: ops → ∀ s, run step start done = some s → Guard s op

variable {step : σ → ι → Option σ} {Inv Safe : σ → Prop} {Guard : σ → ι → Prop}

@[simp] theorem run_nil (s : σ) : run step s [] = some s := rfl

@[simp] theorem run_cons (s : σ) (op : ι) (ops : List ι) :
    run step s (op :: ops) = (step s op).bind fun next => run step next ops := rfl

theorem run_append (s : σ) (xs ys : List ι) :
    run step s (xs ++ ys) = (run step s xs).bind fun mid => run step mid ys := by
  induction xs generalizing s with
  | nil => rfl
  | cons x xs ih =>
      cases h : step s x with
      | none => simp [h]
      | some next => simpa [h] using ih next

theorem run_snoc (s : σ) (xs : List ι) (op : ι) :
    run step s (xs ++ [op]) = (run step s xs).bind fun mid => step mid op := by
  rw [run_append]
  cases run step s xs with
  | none => rfl
  | some mid => cases h : step mid op <;> simp [h]

theorem run_invariant {ops : List ι}
    (preserves : ∀ op ∈ ops, ∀ s next, Inv s → step s op = some next → Inv next)
    {s t : σ} (hs : Inv s) (h : run step s ops = some t) : Inv t := by
  induction ops generalizing s with
  | nil =>
      simp only [run_nil, Option.some.injEq] at h
      exact h ▸ hs
  | cons op ops ih =>
      rw [run_cons, Option.bind_eq_some_iff] at h
      obtain ⟨next, hstep, hrest⟩ := h
      have hnext := preserves op (List.mem_cons_self ..) s next hs hstep
      exact ih (fun op' hop => preserves op' (List.mem_cons_of_mem _ hop)) hnext hrest

theorem meets_nil (start : σ) : Meets step Guard start [] := by
  intro done op hdone
  simp at hdone

theorem meets_cons {start : σ} {op : ι} {ops : List ι} :
    Meets step Guard start (op :: ops) ↔
      Guard start op ∧ ∀ next, step start op = some next → Meets step Guard next ops := by
  constructor
  · intro h
    refine ⟨h [] op ⟨ops, rfl⟩ start rfl, fun next hnext done op' hdone s hrun => ?_⟩
    refine h (op :: done) op' ?_ s (by rw [run_cons, hnext]; exact hrun)
    simpa using hdone
  · rintro ⟨hop, hrest⟩ done op' hdone s hrun
    cases done with
    | nil =>
        simp only [List.nil_append, List.cons_prefix_cons, List.nil_prefix, and_true] at hdone
        rw [run_nil, Option.some.injEq] at hrun
        rw [hdone, ← hrun]
        exact hop
    | cons x done =>
        simp only [List.cons_append, List.cons_prefix_cons] at hdone
        obtain ⟨rfl, hdone⟩ := hdone
        rw [run_cons, Option.bind_eq_some_iff] at hrun
        obtain ⟨next, hnext, hrun⟩ := hrun
        exact hrest next hnext done op' hdone s hrun

instance decidableMeets [∀ s op, Decidable (Guard s op)] (start : σ) :
    ∀ ops : List ι, Decidable (Meets step Guard start ops)
  | [] => isTrue (meets_nil start)
  | op :: ops =>
      match hstep : step start op with
      | none => decidable_of_iff (Guard start op) (by simp [meets_cons, hstep])
      | some next =>
          have := decidableMeets next ops
          decidable_of_iff (Guard start op ∧ Meets step Guard next ops)
            (by simp [meets_cons, hstep])

theorem mem_of_snoc {done ops : List ι} {op : ι} (h : done ++ [op] <+: ops) : op ∈ ops :=
  h.subset (by simp)

theorem survives_of_meets {ops : List ι}
    (enabled : ∀ op ∈ ops, ∀ s, Inv s → Guard s op → ∃ next, step s op = some next ∧ Inv next)
    (safe : ∀ s, Inv s → Safe s) {start : σ} (hs : Inv start) (h : Meets step Guard start ops) :
    Survives step Safe start ops := by
  have reach : ∀ done, done <+: ops → ∃ s, run step start done = some s ∧ Inv s := by
    intro done
    induction done using List.reverseRecOn with
    | nil => exact fun _ => ⟨start, rfl, hs⟩
    | append_singleton done op ih =>
        intro hp
        obtain ⟨s, hrun, hinv⟩ := ih ((List.prefix_append done [op]).trans hp)
        obtain ⟨next, hstep, hnext⟩ :=
          enabled op (mem_of_snoc hp) s hinv (h done op hp s hrun)
        exact ⟨next, by rw [run_snoc, hrun]; exact hstep, hnext⟩
  intro done hp
  obtain ⟨s, hrun, hinv⟩ := reach done hp
  exact ⟨s, hrun, safe s hinv⟩

theorem meets_of_survives {ops : List ι}
    (preserves : ∀ op ∈ ops, ∀ s next, Inv s → step s op = some next → Inv next)
    (stuck : ∀ op ∈ ops, ∀ s, Inv s → ¬ Guard s op → step s op = none)
    {start : σ} (hs : Inv start) (h : Survives step Safe start ops) :
    Meets step Guard start ops := by
  intro done op hp s hrun
  by_contra hguard
  have hsub : ∀ x ∈ done, x ∈ ops := fun x hx =>
    hp.subset (List.mem_append_left _ hx)
  have hinv : Inv s := run_invariant (fun x hx => preserves x (hsub x hx)) hs hrun
  have hnone := stuck op (mem_of_snoc hp) s hinv hguard
  obtain ⟨t, ht, -⟩ := h (done ++ [op]) hp
  rw [run_snoc, hrun, Option.bind_some, hnone] at ht
  cases ht

theorem invariant_of_meets {ops : List ι}
    (preserves : ∀ s op next, Inv s → Guard s op → step s op = some next → Inv next)
    {start : σ} (hs : Inv start) (h : Meets step Guard start ops) {done : List ι}
    (hdone : done <+: ops) {s : σ} (hrun : run step start done = some s) : Inv s := by
  induction done using List.reverseRecOn generalizing s with
  | nil =>
      rw [run_nil, Option.some.injEq] at hrun
      exact hrun ▸ hs
  | append_singleton done op ih =>
      rw [run_snoc, Option.bind_eq_some_iff] at hrun
      obtain ⟨mid, hmid, hstep⟩ := hrun
      have hinv := ih ((List.prefix_append done [op]).trans hdone) hmid
      exact preserves mid op s hinv (h done op hdone mid hmid) hstep

theorem invariant_iff_meets {ops : List ι}
    (decides : ∀ s op next, Inv s → step s op = some next → (Inv next ↔ Guard s op))
    (stuck : ∀ s op, step s op = none → Guard s op) {start : σ} (hs : Inv start) :
    (∀ done, done <+: ops → ∀ s, run step start done = some s → Inv s) ↔
      Meets step Guard start ops := by
  constructor
  · intro h done op hdone s hrun
    have hinv := h done ((List.prefix_append done [op]).trans hdone) s hrun
    cases hstep : step s op with
    | none => exact stuck s op hstep
    | some next =>
        refine (decides s op next hinv hstep).1 (h (done ++ [op]) hdone next ?_)
        rw [run_snoc, hrun]
        exact hstep
  · intro h done hdone s hrun
    exact invariant_of_meets (fun s op next hinv hguard hstep =>
      (decides s op next hinv hstep).2 hguard) hs h hdone hrun

theorem Meets.imp {Strong : σ → ι → Prop} {start : σ} {ops : List ι}
    (preserves : ∀ s op next, Inv s → Strong s op → step s op = some next → Inv next)
    (weaken : ∀ s op, Inv s → Strong s op → Guard s op) (hs : Inv start)
    (h : Meets step Strong start ops) : Meets step Guard start ops := by
  intro done op hdone s hrun
  have hinv := invariant_of_meets preserves hs h
    ((List.prefix_append done [op]).trans hdone) hrun
  exact weaken s op hinv (h done op hdone s hrun)

theorem survives_iff_meets {ops : List ι}
    (enabled : ∀ op ∈ ops, ∀ s, Inv s → Guard s op → ∃ next, step s op = some next ∧ Inv next)
    (stuck : ∀ op ∈ ops, ∀ s, Inv s → ¬ Guard s op → step s op = none)
    (safe : ∀ s, Inv s → Safe s) {start : σ} (hs : Inv start) :
    Survives step Safe start ops ↔ Meets step Guard start ops := by
  have preserves : ∀ op ∈ ops, ∀ s next, Inv s → step s op = some next → Inv next := by
    intro op hop s next hinv hstep
    by_cases hg : Guard s op
    · obtain ⟨t, ht, hti⟩ := enabled op hop s hinv hg
      rw [ht, Option.some.injEq] at hstep
      exact hstep ▸ hti
    · rw [stuck op hop s hinv hg] at hstep
      cases hstep
  exact ⟨meets_of_survives preserves stuck hs, survives_of_meets enabled safe hs⟩

end PartialMachine
