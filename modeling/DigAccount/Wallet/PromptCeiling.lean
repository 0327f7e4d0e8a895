import DigAccount.Wallet.AllowanceRuns

namespace DigAccount

open RollingWindow

def promptCharge (now : Nat) : Charge := ⟨now, 1⟩

theorem total_promptCharge (prompts : List Nat) :
    total (prompts.map promptCharge) = prompts.length := by
  induction prompts with
  | nil => rfl
  | cons now prompts ih =>
      rw [List.map_cons, total_cons, ih, List.length_cons, Nat.add_comm]
      rfl

namespace PolicyAuthorizer

variable (gate : PolicyAuthorizer)

structure Unprompted (s : GateState) (out : Except AccountError SpendRuling × GateState) :
    Prop where
  not_prompted : ∀ pending, out.1 ≠ .ok (.requiresConfirmation pending)
  prompts : out.2.prompts = s.prompts
  reads : s.reads ≤ out.2.reads

inductive PromptOutcome (s : GateState) (out : Except AccountError SpendRuling × GateState) : Prop
  | kept (unprompted : Unprompted s out)
  | pruned (e : AccountError) (n now : Nat) (refused : out.1 = .error e)
      (reading : gate.clock n = .ok now) (fresh : s.reads ≤ n) (reads : n < out.2.reads)
      (prompts : out.2.prompts = s.prompts.filter (gate.inWindow now))
  | raised (pending : AuthorizedSpend) (n now : Nat)
      (prompted : out.1 = .ok (.requiresConfirmation pending))
      (reading : gate.clock n = .ok now) (fresh : s.reads ≤ n) (reads : out.2.reads = n + 1)
      (prompts : out.2.prompts = s.prompts.filter (gate.inWindow now) ++ [now])
      (room : (s.prompts.filter (gate.inWindow now)).length <
        gate.autoSend.maxConfirmationsPerPeriod)

def PrunesRecent (s s' : GateState) : Prop :=
  s'.recent = s.recent ∨
    ∃ now, gate.clock s.reads = .ok now ∧ s'.recent = gate.retain now s.recent

variable {gate}

theorem unprompted_error (s : GateState) (e : AccountError) : Unprompted s (.error e, s) :=
  ⟨fun _ => by simp, rfl, le_rfl⟩

theorem PromptOutcome.of_later {s s' : GateState}
    {out : Except AccountError SpendRuling × GateState} (h : PromptOutcome gate s' out)
    (hprompts : s'.prompts = s.prompts) (hreads : s.reads ≤ s'.reads) :
    PromptOutcome gate s out := by
  cases h with
  | kept unprompted =>
      exact .kept ⟨unprompted.not_prompted, unprompted.prompts.trans hprompts,
        hreads.trans unprompted.reads⟩
  | pruned e n now refused reading fresh reads prompts =>
      exact .pruned e n now refused reading (hreads.trans fresh) reads (hprompts ▸ prompts)
  | raised pending n now prompted reading fresh reads prompts room =>
      exact .raised pending n now prompted reading (hreads.trans fresh) reads (hprompts ▸ prompts)
        (hprompts ▸ room)

theorem promptAt_cases (gate : PolicyAuthorizer) (now : Nat) (prompts : List Nat) :
    (∃ e, gate.promptAt now prompts = (.error e, prompts.filter (gate.inWindow now))) ∨
      gate.promptAt now prompts = (.ok (), prompts.filter (gate.inWindow now) ++ [now]) ∧
        (prompts.filter (gate.inWindow now)).length < gate.autoSend.maxConfirmationsPerPeriod := by
  rw [promptAt]
  split
  · exact .inl ⟨_, rfl⟩
  · rename_i hroom
    exact .inr ⟨rfl, not_le.1 hroom⟩

theorem escalate_outcome (gate : PolicyAuthorizer) (coinSpends : List CoinSpend)
    (derived : DerivedSpend) (s : GateState) :
    PromptOutcome gate s (gate.escalate coinSpends derived s) := by
  rw [escalate, chargeAConfirmationPrompt]
  by_cases hperiod : gate.autoSend.periodSeconds = 0
  · rw [if_pos hperiod]
    exact .kept (unprompted_error s _)
  · rw [if_neg hperiod, readClock]
    cases hclock : gate.clock s.reads with
    | error e => exact .kept ⟨fun _ => by simp, rfl, Nat.le_succ _⟩
    | ok now =>
        dsimp only
        rcases gate.promptAt_cases now s.prompts with ⟨e, hrefused⟩ | ⟨hraised, hroom⟩
        · rw [hrefused]
          exact .pruned e s.reads now rfl hclock le_rfl (Nat.lt_succ_self _) rfl
        · rw [hraised]
          exact .raised _ s.reads now rfl hclock le_rfl rfl rfl hroom

theorem chargeTheRollingPeriodCap_prompts (gate : PolicyAuthorizer) (amount : Nat)
    (s : GateState) :
    (gate.chargeTheRollingPeriodCap amount s).2.prompts = s.prompts ∧
      s.reads ≤ (gate.chargeTheRollingPeriodCap amount s).2.reads := by
  rw [chargeTheRollingPeriodCap, readClock]
  split
  · exact ⟨rfl, le_rfl⟩
  · cases gate.clock s.reads with
    | error e => exact ⟨rfl, Nat.le_succ _⟩
    | ok now => exact ⟨rfl, Nat.le_succ _⟩

theorem ruleOnAutoSend_outcome (gate : PolicyAuthorizer) (coinSpends : List CoinSpend)
    (derived : DerivedSpend) (opClass : SpendOpClass) (s : GateState) :
    PromptOutcome gate s (gate.ruleOnAutoSend coinSpends derived opClass s) := by
  rw [ruleOnAutoSend]
  split
  · exact escalate_outcome gate coinSpends derived s
  split
  · exact escalate_outcome gate coinSpends derived s
  split
  · exact escalate_outcome gate coinSpends derived s
  split
  · exact .kept (unprompted_error s _)
  split
  · exact escalate_outcome gate coinSpends derived s
  have hframe := chargeTheRollingPeriodCap_prompts gate derived.nativeTotalMojos s
  rcases hcharge : gate.chargeTheRollingPeriodCap derived.nativeTotalMojos s with
    ⟨e | verdict, after⟩
  · rw [hcharge] at hframe
    exact .kept ⟨fun _ => by simp, hframe.1, hframe.2⟩
  · rw [hcharge] at hframe
    cases verdict with
    | charged => exact .kept ⟨fun _ => by simp, hframe.1, hframe.2⟩
    | overCap => exact (escalate_outcome gate coinSpends derived after).of_later hframe.1 hframe.2

section

variable [WalletSdk]

theorem authorizeOp_outcome (gate : PolicyAuthorizer) (coinSpends : List CoinSpend)
    (opClass : SpendOpClass) (s : GateState) :
    PromptOutcome gate s (gate.authorizeOp coinSpends opClass s) := by
  rw [authorizeOp]
  split
  · exact .kept (unprompted_error s _)
  · rename_i derived _
    split
    · split
      · exact .kept (unprompted_error s _)
      · exact escalate_outcome gate coinSpends derived s
    · exact escalate_outcome gate coinSpends derived s
    · exact ruleOnAutoSend_outcome gate coinSpends derived opClass s

theorem authorizeOp_prunesRecent {coinSpends : List CoinSpend} {opClass : SpendOpClass}
    {s : GateState}
    (h : ∀ approval, (gate.authorizeOp coinSpends opClass s).1 ≠ .ok (.approved approval)) :
    PrunesRecent gate s (gate.authorizeOp coinSpends opClass s).2 := by
  rcases authorizeOp_cases gate coinSpends opClass s with hu | ⟨derived, now, -, hw⟩
  · exact .inl hu.recent
  · rcases chargeAt_cases gate derived.nativeTotalMojos now s.recent with
      ⟨hcharged, -, -⟩ | ⟨-, hrecent⟩
    · obtain ⟨approval, happroved⟩ := hw.approved.2 hcharged
      exact absurd happroved (h approval)
    · exact .inr ⟨now, hw.reading, hw.recent.trans hrecent⟩

end

section

variable (gate)

def promptOf (h : Handled) : Option Charge :=
  match h.result, gate.clock (h.after.reads - 1) with
  | .ok (.requiresConfirmation _), .ok now => some (promptCharge now)
  | _, _ => none

def raised (handled : List Handled) : List Charge := handled.filterMap gate.promptOf

structure LedgersApart (h : Handled) : Prop where
  prompted : ∀ pending, h.result = .ok (.requiresConfirmation pending) →
    PrunesRecent gate h.before h.after ∧
      ∃ now, gate.clock (h.after.reads - 1) = .ok now ∧
        h.after.prompts = h.before.prompts.filter (gate.inWindow now) ++ [now]
  approved : ∀ approval, h.result = .ok (.approved approval) →
    h.after.prompts = h.before.prompts
  refused : ∀ e, h.result = .error e →
    PrunesRecent gate h.before h.after ∧
      (h.after.prompts = h.before.prompts ∨ ∃ n now, gate.clock n = .ok now ∧
        h.before.reads ≤ n ∧ n < h.after.reads ∧
          h.after.prompts = h.before.prompts.filter (gate.inWindow now))

structure PromptsTrack (s : GateState) (hist : List Charge) : Prop where
  bounded : WindowBounded gate.autoSend.periodSeconds gate.autoSend.maxConfirmationsPerPeriod hist
  remembers : ∃ since,
    Remembers gate.autoSend.periodSeconds since (s.prompts.map promptCharge) hist ∧
      ∀ n, s.reads ≤ n → ∀ now, gate.clock n = .ok now → since ≤ now

end

theorem promptsTrack_new : PromptsTrack gate GateState.new [] where
  bounded := windowBounded_nil
  remembers := ⟨0, remembers_nil 0, fun _ _ _ _ => Nat.zero_le _⟩

theorem PromptsTrack.remembers_filter {s : GateState} {hist : List Charge} {n now : Nat}
    (h : PromptsTrack gate s hist) (steady : SteadyClock gate) (reading : gate.clock n = .ok now)
    (fresh : s.reads ≤ n) :
    Remembers gate.autoSend.periodSeconds now
      ((s.prompts.filter (gate.inWindow now)).map promptCharge) hist := by
  obtain ⟨since, hrem, hlater⟩ := h.remembers
  have hmap : (s.prompts.filter (gate.inWindow now)).map promptCharge =
      (s.prompts.map promptCharge).filter fun c => gate.inWindow now c.time := by
    rw [List.filter_map]
    rfl
  rw [hmap]
  refine hrem.filter (hlater n fresh now reading) fun c _ hdropped => ?_
  exact expired_of_not_inWindow (steady.below _ _ reading) hdropped

theorem PromptsTrack.outcome {s : GateState} {hist : List Charge} (h : PromptsTrack gate s hist)
    (steady : SteadyClock gate) {out : Except AccountError SpendRuling × GateState}
    (ho : PromptOutcome gate s out) (coinSpends : List CoinSpend) (opClass : SpendOpClass) :
    PromptsTrack gate out.2
      (hist ++ (gate.promptOf ⟨coinSpends, opClass, out.1, s, out.2⟩).toList) := by
  have hnone : (∀ pending, out.1 ≠ .ok (.requiresConfirmation pending)) →
      gate.promptOf ⟨coinSpends, opClass, out.1, s, out.2⟩ = none := by
    intro hnot
    rw [promptOf]
    split
    · rename_i pending _ hprompted _
      exact absurd hprompted (hnot pending)
    · rfl
  cases ho with
  | kept unprompted =>
      obtain ⟨since, hrem, hlater⟩ := h.remembers
      rw [hnone unprompted.not_prompted, Option.toList_none, List.append_nil]
      refine ⟨h.bounded, since, unprompted.prompts ▸ hrem, fun n hn => ?_⟩
      exact hlater n (unprompted.reads.trans hn)
  | pruned e n now refused reading fresh reads prompts =>
      rw [hnone fun pending => by simp [refused], Option.toList_none, List.append_nil]
      refine ⟨h.bounded, now, prompts ▸ h.remembers_filter steady reading fresh, ?_⟩
      intro m hm t ht
      exact steady.mono n m now t (by omega) reading ht
  | raised pending n now prompted reading fresh reads prompts room =>
      have hrem := h.remembers_filter steady reading fresh
      have hlast : gate.promptOf ⟨coinSpends, opClass, out.1, s, out.2⟩ =
          some (promptCharge now) := by
        rw [promptOf]
        dsimp only
        rw [prompted, reads, Nat.add_sub_cancel, reading]
      have hfits : total ((s.prompts.filter (gate.inWindow now)).map promptCharge) + 1 ≤
          gate.autoSend.maxConfirmationsPerPeriod := by
        rw [total_promptCharge]
        exact room
      rw [hlast, Option.toList_some]
      refine ⟨windowBounded_snoc h.bounded (hrem.fits hfits), now, ?_, ?_⟩
      · rw [prompts, List.map_append]
        exact hrem.snoc (promptCharge now)
      · intro m hm t ht
        exact steady.mono n m now t (by omega) reading ht

variable [WalletSdk]

theorem ledgersApart (coinSpends : List CoinSpend) (opClass : SpendOpClass) (s : GateState) :
    LedgersApart gate ⟨coinSpends, opClass, (gate.authorizeOp coinSpends opClass s).1, s,
      (gate.authorizeOp coinSpends opClass s).2⟩ := by
  have houtcome := authorizeOp_outcome gate coinSpends opClass s
  refine ⟨fun pending hprompted => ?_, fun approval happroved => ?_, fun e hrefused => ?_⟩
  · dsimp only at hprompted ⊢
    refine ⟨authorizeOp_prunesRecent fun approval => by simp [hprompted], ?_⟩
    cases houtcome with
    | kept unprompted => exact absurd hprompted (unprompted.not_prompted pending)
    | pruned e n now refused =>
        rw [refused] at hprompted
        cases hprompted
    | raised _ n now _ reading _ reads prompts =>
        refine ⟨now, ?_, prompts⟩
        rw [reads, Nat.add_sub_cancel]
        exact reading
  · dsimp only at happroved ⊢
    cases houtcome with
    | kept unprompted => exact unprompted.prompts
    | pruned e n now refused =>
        rw [refused] at happroved
        cases happroved
    | raised _ n now prompted =>
        rw [prompted] at happroved
        cases happroved
  · dsimp only at hrefused ⊢
    refine ⟨authorizeOp_prunesRecent fun approval => by simp [hrefused], ?_⟩
    cases houtcome with
    | kept unprompted => exact .inl unprompted.prompts
    | pruned e n now _ reading fresh reads prompts =>
        exact .inr ⟨n, now, reading, fresh, reads, prompts⟩
    | raised _ n now prompted =>
        rw [prompted] at hrefused
        cases hrefused

theorem prompt_ceiling (steady : SteadyClock gate) (calls : List (List CoinSpend × SpendOpClass)) :
    WindowBounded gate.autoSend.periodSeconds gate.autoSend.maxConfirmationsPerPeriod
        (gate.raised (gate.handle .new calls)) ∧
      ∀ h ∈ gate.handle .new calls, LedgersApart gate h := by
  have hstep := fun s hist coinSpends opClass (h : PromptsTrack gate s hist) =>
    h.outcome steady (authorizeOp_outcome gate coinSpends opClass s) coinSpends opClass
  obtain ⟨s', htrack⟩ := handle_invariant hstep promptsTrack_new calls
  exact ⟨htrack.bounded, forall_handle ledgersApart .new calls⟩

end PolicyAuthorizer

namespace PolicyAuthorizer

theorem prompt_ceiling_of_two_sends :
    letI := feeOnlySdk
    tipGate.raised (tipGate.handle .new [(burning 60, .undeclared), (burning 50, .tip),
        (burning 70, .tip)]) = [⟨0, 1⟩, ⟨3, 1⟩] ∧
      WindowBounded 10 64 (tipGate.raised (tipGate.handle .new
        [(burning 60, .undeclared), (burning 50, .tip), (burning 70, .tip)])) ∧
      ∀ h ∈ tipGate.handle .new [(burning 60, .undeclared), (burning 50, .tip), (burning 70, .tip)],
        LedgersApart tipGate h :=
  letI := feeOnlySdk
  ⟨by decide, prompt_ceiling tipGate_steady _⟩

end PolicyAuthorizer

end DigAccount
