import DigAccount.Wallet.Allowance

namespace DigAccount

open RollingWindow

structure Handled where
  coinSpends : List CoinSpend
  opClass : SpendOpClass
  result : Except AccountError SpendRuling
  before : GateState
  after : GateState

namespace PolicyAuthorizer

theorem expired_of_not_inWindow {gate : PolicyAuthorizer} {now at_ : Nat} (hnow : now < u64Max)
    (h : gate.inWindow now at_ = false) : at_ + gate.autoSend.periodSeconds ≤ now := by
  rw [inWindow] at h
  rw [decide_eq_false_iff_not, not_lt] at h
  exact (saturatingAdd_le_iff hnow).1 h

theorem retain_toCharge (gate : PolicyAuthorizer) (now : Nat) (recent : List AutoSendRecord) :
    (gate.retain now recent).map AutoSendRecord.toCharge =
      (recent.map AutoSendRecord.toCharge).filter fun c => gate.inWindow now c.time := by
  rw [List.filter_map]
  rfl

variable (gate : PolicyAuthorizer)

structure SteadyClock : Prop where
  below : ∀ n now, gate.clock n = .ok now → now < u64Max
  mono : ∀ m n earlier later, m ≤ n → gate.clock m = .ok earlier → gate.clock n = .ok later →
    earlier ≤ later

structure Tracks (s : GateState) (hist : List Charge) : Prop where
  bounded : WindowBounded gate.autoSend.periodSeconds gate.autoSend.periodCapMojos hist
  remembers : ∃ since,
    Remembers gate.autoSend.periodSeconds since (s.recent.map AutoSendRecord.toCharge) hist ∧
      ∀ n, s.reads ≤ n → ∀ now, gate.clock n = .ok now → since ≤ now

variable {gate}

theorem tracks_new : Tracks gate GateState.new [] where
  bounded := windowBounded_nil
  remembers := ⟨0, remembers_nil 0, fun _ _ _ _ => Nat.zero_le _⟩

theorem Tracks.uncharged {s s' : GateState} {hist : List Charge} (h : Tracks gate s hist)
    (hrecent : s'.recent = s.recent) (hreads : s.reads ≤ s'.reads) : Tracks gate s' hist := by
  obtain ⟨since, hrem, hlater⟩ := h.remembers
  exact ⟨h.bounded, since, hrecent ▸ hrem, fun n hn => hlater n (hreads.trans hn)⟩

theorem Tracks.remembers_retain {s : GateState} {hist : List Charge} {now : Nat}
    (h : Tracks gate s hist) (steady : SteadyClock gate)
    (hclock : gate.clock s.reads = .ok now) :
    Remembers gate.autoSend.periodSeconds now
      ((gate.retain now s.recent).map AutoSendRecord.toCharge) hist := by
  obtain ⟨since, hrem, hlater⟩ := h.remembers
  rw [retain_toCharge]
  exact hrem.filter (hlater _ le_rfl now hclock)
    (fun c _ hdropped => expired_of_not_inWindow (steady.below _ _ hclock) hdropped)

theorem SteadyClock.later {s s' : GateState} {now : Nat} (steady : SteadyClock gate)
    (hclock : gate.clock s.reads = .ok now) (hreads : s.reads < s'.reads) :
    ∀ n, s'.reads ≤ n → ∀ t, gate.clock n = .ok t → now ≤ t :=
  fun n hn t ht => steady.mono _ n now t (by omega) hclock ht

theorem Tracks.pruned {s s' : GateState} {hist : List Charge} {now : Nat} (h : Tracks gate s hist)
    (steady : SteadyClock gate) (hclock : gate.clock s.reads = .ok now)
    (hrecent : s'.recent = gate.retain now s.recent) (hreads : s.reads < s'.reads) :
    Tracks gate s' hist :=
  ⟨h.bounded, now, hrecent ▸ h.remembers_retain steady hclock, steady.later hclock hreads⟩

theorem Tracks.charged {s s' : GateState} {hist : List Charge} {now amount : Nat}
    (h : Tracks gate s hist) (steady : SteadyClock gate) (hclock : gate.clock s.reads = .ok now)
    (hrecent : s'.recent = gate.retain now s.recent ++ receipt amount now)
    (fits : total ((gate.retain now s.recent).map AutoSendRecord.toCharge) + amount ≤
      gate.autoSend.periodCapMojos)
    (hreads : s.reads < s'.reads) : Tracks gate s' (hist ++ [⟨now, amount⟩]) := by
  have hrem := h.remembers_retain steady hclock
  refine ⟨windowBounded_snoc h.bounded (hrem.fits fits), now, ?_, steady.later hclock hreads⟩
  rw [hrecent, List.map_append]
  rw [receipt]
  split
  · exact hrem.snoc ⟨now, amount⟩
  · rename_i hzero
    obtain rfl : amount = 0 := by omega
    rw [List.map_nil, List.append_nil]
    exact hrem.snoc_zero

section

variable [WalletSdk] (gate : PolicyAuthorizer)

def handle : GateState → List (List CoinSpend × SpendOpClass) → List Handled
  | _, [] => []
  | s, (coinSpends, opClass) :: calls =>
      let out := gate.authorizeOp coinSpends opClass s
      ⟨coinSpends, opClass, out.1, s, out.2⟩ :: handle out.2 calls

def chargedReading (s : GateState) : Nat :=
  match gate.clock s.reads with
  | .ok now => now
  | .error _ => 0

def weighedTotal (coinSpends : List CoinSpend) : Nat :=
  match DerivedSpend.derive coinSpends gate.custody with
  | .ok derived => derived.nativeTotalMojos
  | .error _ => 0

def approvalOf (h : Handled) : Option Charge :=
  match h.result with
  | .ok (.approved _) => some ⟨gate.chargedReading h.before, gate.weighedTotal h.coinSpends⟩
  | _ => none

def approvals (handled : List Handled) : List Charge := handled.filterMap gate.approvalOf

structure ChargesExactly (h : Handled) : Prop where
  approved : ∀ approval, h.result = .ok (.approved approval) → ∃ derived now,
    DerivedSpend.derive h.coinSpends gate.custody = .ok derived ∧
      gate.clock h.before.reads = .ok now ∧
      h.after.recent = gate.retain now h.before.recent ++ receipt derived.nativeTotalMojos now
  otherwise : (∀ approval, h.result ≠ .ok (.approved approval)) →
    h.after.recent.Sublist h.before.recent

end

variable [WalletSdk]

theorem chargesExactly (coinSpends : List CoinSpend) (opClass : SpendOpClass) (s : GateState) :
    ChargesExactly gate ⟨coinSpends, opClass, (gate.authorizeOp coinSpends opClass s).1, s,
      (gate.authorizeOp coinSpends opClass s).2⟩ := by
  rcases authorizeOp_cases gate coinSpends opClass s with h | ⟨derived, now, hderive, h⟩
  · refine ⟨fun approval happroved => absurd happroved (h.not_approved approval), fun _ => ?_⟩
    dsimp only
    rw [h.recent]
  · rcases chargeAt_cases gate derived.nativeTotalMojos now s.recent with
      ⟨hcharged, hrecent, -⟩ | ⟨hrefused, hrecent⟩
    · refine ⟨fun _ _ => ⟨derived, now, hderive, h.reading, h.recent.trans hrecent⟩, ?_⟩
      intro hnot
      obtain ⟨approval, happroved⟩ := h.approved.2 hcharged
      exact absurd happroved (hnot approval)
    · refine ⟨fun approval happroved => absurd (h.approved.1 ⟨approval, happroved⟩) hrefused, ?_⟩
      intro _
      dsimp only
      rw [h.recent, hrecent]
      exact List.filter_sublist

theorem approvalOf_eq_none {h : Handled} (hnot : ∀ approval, h.result ≠ .ok (.approved approval)) :
    gate.approvalOf h = none := by
  rw [approvalOf]
  split
  · rename_i approval happroved
    exact absurd happroved (hnot approval)
  · rfl

theorem approvalOf_eq_some {h : Handled} {approval : AuthorizedSpend} {derived : DerivedSpend}
    {now : Nat} (happroved : h.result = .ok (.approved approval))
    (hderive : DerivedSpend.derive h.coinSpends gate.custody = .ok derived)
    (hclock : gate.clock h.before.reads = .ok now) :
    gate.approvalOf h = some ⟨now, derived.nativeTotalMojos⟩ := by
  rw [approvalOf, chargedReading, weighedTotal]
  rw [happroved, hderive, hclock]

theorem Tracks.step {s : GateState} {hist : List Charge} (h : Tracks gate s hist)
    (steady : SteadyClock gate) (coinSpends : List CoinSpend) (opClass : SpendOpClass) :
    Tracks gate (gate.authorizeOp coinSpends opClass s).2
      (hist ++ (gate.approvalOf ⟨coinSpends, opClass, (gate.authorizeOp coinSpends opClass s).1, s,
        (gate.authorizeOp coinSpends opClass s).2⟩).toList) := by
  rcases authorizeOp_cases gate coinSpends opClass s with hu | ⟨derived, now, hderive, hw⟩
  · rw [approvalOf_eq_none hu.not_approved, Option.toList_none, List.append_nil]
    exact h.uncharged hu.recent hu.reads
  · rcases chargeAt_cases gate derived.nativeTotalMojos now s.recent with
      ⟨hcharged, hrecent, hfits⟩ | ⟨hrefused, hrecent⟩
    · obtain ⟨approval, happroved⟩ := hw.approved.2 hcharged
      rw [approvalOf_eq_some happroved hderive hw.reading, Option.toList_some]
      exact h.charged steady hw.reading (hw.recent.trans hrecent) hfits hw.reads
    · have hnot : ∀ approval,
          (gate.authorizeOp coinSpends opClass s).1 ≠ .ok (.approved approval) :=
        fun approval happroved => hrefused (hw.approved.1 ⟨approval, happroved⟩)
      rw [approvalOf_eq_none hnot, Option.toList_none, List.append_nil]
      exact h.pruned steady hw.reading (hw.recent.trans hrecent) hw.reads

theorem handle_invariant {Inv : GateState → List Charge → Prop} {charge : Handled → Option Charge}
    (step : ∀ s hist coinSpends opClass, Inv s hist →
      Inv (gate.authorizeOp coinSpends opClass s).2
        (hist ++ (charge ⟨coinSpends, opClass, (gate.authorizeOp coinSpends opClass s).1, s,
          (gate.authorizeOp coinSpends opClass s).2⟩).toList))
    {s : GateState} {hist : List Charge} (h : Inv s hist)
    (calls : List (List CoinSpend × SpendOpClass)) :
    ∃ s', Inv s' (hist ++ (gate.handle s calls).filterMap charge) := by
  induction calls generalizing s hist with
  | nil => exact ⟨s, by simpa [handle] using h⟩
  | cons call calls ih =>
      obtain ⟨coinSpends, opClass⟩ := call
      obtain ⟨s', hnext⟩ := ih (step s hist coinSpends opClass h)
      refine ⟨s', ?_⟩
      rw [List.append_assoc] at hnext
      unfold handle
      dsimp only
      rw [List.filterMap_cons]
      cases hcharge : charge ⟨coinSpends, opClass, (gate.authorizeOp coinSpends opClass s).1, s,
          (gate.authorizeOp coinSpends opClass s).2⟩ with
      | none =>
          rw [hcharge] at hnext
          exact hnext
      | some c =>
          rw [hcharge] at hnext
          exact hnext

theorem forall_handle {P : Handled → Prop}
    (each : ∀ coinSpends opClass s, P ⟨coinSpends, opClass,
      (gate.authorizeOp coinSpends opClass s).1, s, (gate.authorizeOp coinSpends opClass s).2⟩)
    (s : GateState) (calls : List (List CoinSpend × SpendOpClass)) :
    ∀ h ∈ gate.handle s calls, P h := by
  induction calls generalizing s with
  | nil =>
      intro h hmem
      cases hmem
  | cons call calls ih =>
      obtain ⟨coinSpends, opClass⟩ := call
      intro h hmem
      rcases List.mem_cons.1 hmem with rfl | hmem
      · exact each coinSpends opClass s
      · exact ih _ h hmem

theorem rolling_allowance_cap (steady : SteadyClock gate)
    (calls : List (List CoinSpend × SpendOpClass)) :
    WindowBounded gate.autoSend.periodSeconds gate.autoSend.periodCapMojos
        (gate.approvals (gate.handle .new calls)) ∧
      ∀ h ∈ gate.handle .new calls, ChargesExactly gate h := by
  have hstep := fun s hist coinSpends opClass (h : Tracks gate s hist) =>
    h.step steady coinSpends opClass
  obtain ⟨s', htracks⟩ := handle_invariant hstep tracks_new calls
  exact ⟨htracks.bounded, forall_handle chargesExactly .new calls⟩

end PolicyAuthorizer

@[reducible] def feeOnlySdk : WalletSdk where
  NftOperation := Empty
  analyze coinSpends :=
    .ok {
      outputs := []
      protocolSink := []
      fee := (coinSpends.map fun spend => spend.coin.amount).sum
      meltedSingletons := []
      nftOperations := [] }
  describe := Empty.elim
  standardPuzzleHash _ := none
  encodeAddress _ := none
  decodeAddress _ := .ok 0
  settlementPaymentHash := 1
  singletonLauncherHash := 2

namespace PolicyAuthorizer

def tipGate : PolicyAuthorizer where
  custody := .hot { autoSendLimit := 1000 }
  autoSend := {
    enabled := true
    tip := .enabledUpTo 100
    periodSeconds := 10
    periodCapMojos := 100 }
  hotWalletPuzzleHash := 0
  scope := .new 0 (.hot { autoSendLimit := 1000 }) 0
  clock n := if n < 100 then .ok n else .error .locked

def burning (amount : Nat) : List CoinSpend := [⟨⟨0, 0, amount⟩, [], []⟩]

theorem tipGate_steady : SteadyClock tipGate := by
  refine ⟨fun n now h => ?_, fun m n earlier later hle hm hn => ?_⟩
  · simp only [tipGate] at h
    split at h
    · cases h
      rw [u64Max]
      omega
    · cases h
  · simp only [tipGate] at hm hn
    split at hm <;> split at hn <;> cases hm <;> cases hn
    exact hle

theorem rolling_allowance_cap_of_two_tips :
    letI := feeOnlySdk
    tipGate.approvals (tipGate.handle .new [(burning 60, .tip), (burning 50, .tip)]) = [⟨0, 60⟩] ∧
      WindowBounded 10 100
        (tipGate.approvals (tipGate.handle .new [(burning 60, .tip), (burning 50, .tip)])) ∧
      ∀ h ∈ tipGate.handle .new [(burning 60, .tip), (burning 50, .tip)],
        ChargesExactly tipGate h :=
  letI := feeOnlySdk
  ⟨by decide, rolling_allowance_cap tipGate_steady _⟩

end PolicyAuthorizer

end DigAccount
