import DigAccount.Foundation.Machine

namespace PartialMachine

variable {σ ι ε : Type*}

def logged (step : σ → ι → Option (σ × Option ε)) (s : σ × List ε) (op : ι) :
    Option (σ × List ε) :=
  (step s.1 op).map fun next => (next.1, s.2 ++ next.2.toList)

variable {step : σ → ι → Option (σ × Option ε)} {Inv Shut : σ → Prop} {counts : ε → Bool}

theorem logged_eq_some {s t : σ × List ε} {op : ι} :
    logged step s op = some t ↔
      ∃ event, step s.1 op = some (t.1, event) ∧ t.2 = s.2 ++ event.toList := by
  rw [logged, Option.map_eq_some_iff]
  constructor
  · rintro ⟨⟨next, event⟩, hstep, rfl⟩
    exact ⟨event, hstep, rfl⟩
  · rintro ⟨event, hstep, hlog⟩
    exact ⟨_, hstep, Prod.ext rfl hlog.symm⟩

theorem exists_run_logged
    (enabled : ∀ s op, Inv s → ∃ next event, step s op = some (next, event) ∧ Inv next)
    (ops : List ι) {s : σ × List ε} (hs : Inv s.1) : ∃ t, run (logged step) s ops = some t := by
  induction ops generalizing s with
  | nil => exact ⟨s, rfl⟩
  | cons op ops ih =>
      obtain ⟨next, event, hstep, hnext⟩ := enabled s.1 op hs
      have hlogged : logged step s op = some (next, s.2 ++ event.toList) :=
        logged_eq_some.2 ⟨event, hstep, rfl⟩
      rw [run_cons, hlogged]
      exact ih hnext

structure Latch (step : σ → ι → Option (σ × Option ε)) (Inv Shut : σ → Prop)
    (counts : ε → Bool) : Prop where
  keeps : ∀ s op next event, Inv s → step s op = some (next, event) → Inv next
  shuts : ∀ s op next event, Inv s → step s op = some (next, some event) → counts event →
    ¬ Shut s ∧ Shut next
  stays : ∀ s op next event, Inv s → Shut s → step s op = some (next, event) → Shut next

def Latched (Inv Shut : σ → Prop) (counts : ε → Bool) (s : σ × List ε) : Prop :=
  Inv s.1 ∧ (s.2.countP counts = 0 ∨ s.2.countP counts = 1 ∧ Shut s.1)

theorem Latch.step_latched (latch : Latch step Inv Shut counts) {s t : σ × List ε} {op : ι}
    (h : Latched Inv Shut counts s) (hstep : logged step s op = some t) :
    Latched Inv Shut counts t := by
  obtain ⟨event, hnext, hlog⟩ := logged_eq_some.1 hstep
  refine ⟨latch.keeps s.1 op t.1 event h.1 hnext, ?_⟩
  rw [hlog, List.countP_append]
  cases event with
  | none =>
      rcases h.2 with hzero | ⟨hone, hshut⟩
      · exact .inl hzero
      · exact .inr ⟨hone, latch.stays s.1 op t.1 none h.1 hshut hnext⟩
  | some event =>
      rw [Option.toList_some, List.countP_singleton]
      by_cases hcounts : counts event
      · obtain ⟨hopen, hshut⟩ := latch.shuts s.1 op t.1 event h.1 hnext hcounts
        rcases h.2 with hzero | ⟨-, hshut'⟩
        · exact .inr ⟨by rw [hzero, if_pos hcounts], hshut⟩
        · exact absurd hshut' hopen
      · rw [if_neg hcounts]
        rcases h.2 with hzero | ⟨hone, hshut⟩
        · exact .inl hzero
        · exact .inr ⟨hone, latch.stays s.1 op t.1 (some event) h.1 hshut hnext⟩

theorem Latch.run_latched (latch : Latch step Inv Shut counts) {start t : σ} {ops : List ι}
    {log : List ε} (hs : Inv start) (hrun : run (logged step) (start, []) ops = some (t, log)) :
    Inv t ∧ (log.countP counts = 0 ∨ log.countP counts = 1 ∧ Shut t) := by
  have preserves : ∀ op ∈ ops, ∀ s next, Latched Inv Shut counts s →
      logged step s op = some next → Latched Inv Shut counts next :=
    fun op _ s next h hstep => latch.step_latched h hstep
  exact run_invariant preserves (s := (start, [])) ⟨hs, .inl rfl⟩ hrun

theorem run_logged_forall {P : ε → Prop}
    (keeps : ∀ s op next event, Inv s → step s op = some (next, event) → Inv next)
    (emits : ∀ s op next event, Inv s → step s op = some (next, some event) → P event)
    {start t : σ} {ops : List ι} {log : List ε} (hs : Inv start)
    (hrun : run (logged step) (start, []) ops = some (t, log)) :
    Inv t ∧ ∀ event ∈ log, P event := by
  have preserves : ∀ op ∈ ops, ∀ s next : σ × List ε, (Inv s.1 ∧ ∀ event ∈ s.2, P event) →
      logged step s op = some next → Inv next.1 ∧ ∀ event ∈ next.2, P event := by
    intro op _ s next h hstep
    obtain ⟨event, hnext, hlog⟩ := logged_eq_some.1 hstep
    refine ⟨keeps s.1 op next.1 event h.1 hnext, fun found hfound => ?_⟩
    rw [hlog, List.mem_append, Option.mem_toList] at hfound
    rcases hfound with hold | rfl
    · exact h.2 found hold
    · exact emits s.1 op next.1 found h.1 hnext
  refine run_invariant preserves (s := (start, [])) ⟨hs, ?_⟩ hrun
  intro event hevent
  cases hevent

end PartialMachine
