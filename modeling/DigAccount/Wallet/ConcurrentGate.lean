import DigAccount.Foundation.Machine
import DigAccount.Wallet.AllowanceRuns
import Mathlib.Logic.Function.Basic

namespace DigAccount

open RollingWindow PartialMachine

structure PendingCharge where
  reading : Nat
  amount : Nat
  deriving DecidableEq, Repr

structure Approval where
  chargedAt : Nat
  stamp : Nat
  mojos : Nat
  deriving DecidableEq, Repr

def Approval.toCharge (approval : Approval) : Charge := ⟨approval.chargedAt, approval.mojos⟩

def Approval.toRecord (approval : Approval) : AutoSendRecord := ⟨approval.stamp, approval.mojos⟩

structure SharedGate where
  now : Nat
  pending : Nat → Option PendingCharge
  recent : List AutoSendRecord
  approved : List Approval

def SharedGate.new (now : Nat) : SharedGate where
  now := now
  pending _ := none
  recent := []
  approved := []

inductive GateAction where
  | tick (seconds : Nat)
  | read (caller : Nat) (coinSpends : List CoinSpend) (opClass : SpendOpClass)
  | lock (caller : Nat)

namespace PolicyAuthorizer

variable {gate : PolicyAuthorizer}

def lockStep (gate : PolicyAuthorizer) (s : SharedGate) (caller : Nat) (charge : PendingCharge) :
    SharedGate :=
  let (verdict, recent) := gate.chargeAt charge.amount charge.reading s.recent
  { s with
    pending := Function.update s.pending caller none
    recent := recent
    approved :=
      match verdict with
      | .ok .charged => s.approved ++ [⟨s.now, charge.reading, charge.amount⟩]
      | _ => s.approved }

def sharedStep [WalletSdk] (gate : PolicyAuthorizer) (s : SharedGate) :
    GateAction → Option SharedGate
  | .tick seconds => some { s with now := s.now + seconds }
  | .read caller coinSpends opClass =>
      match s.pending caller, gate.weighs coinSpends opClass with
      | some _, _ => none
      | none, none => some s
      | none, some derived =>
          some { s with
            pending :=
              Function.update s.pending caller (some ⟨s.now, derived.nativeTotalMojos⟩) }
  | .lock caller =>
      match s.pending caller with
      | none => none
      | some charge => some (gate.lockStep s caller charge)

theorem lockStep_cases (gate : PolicyAuthorizer) (s : SharedGate) (caller : Nat)
    (charge : PendingCharge) :
    (total ((gate.retain charge.reading s.recent).map AutoSendRecord.toCharge) + charge.amount ≤
        gate.autoSend.periodCapMojos ∧
      gate.lockStep s caller charge = { s with
        pending := Function.update s.pending caller none
        recent := gate.retain charge.reading s.recent ++ receipt charge.amount charge.reading
        approved := s.approved ++ [⟨s.now, charge.reading, charge.amount⟩] }) ∨
    gate.lockStep s caller charge = { s with
      pending := Function.update s.pending caller none
      recent := gate.retain charge.reading s.recent } := by
  rw [lockStep]
  rcases chargeAt_cases gate charge.amount charge.reading s.recent with
    ⟨hcharged, hafter, hfits⟩ | ⟨hrefused, hafter⟩
  · refine .inl ⟨hfits, ?_⟩
    simp only [hcharged, hafter]
  · refine .inr ?_
    simp only [hafter]

section SharedStep

variable [WalletSdk] {s next : SharedGate} {caller : Nat}

theorem sharedStep_read {coinSpends : List CoinSpend} {opClass : SpendOpClass}
    (h : gate.sharedStep s (.read caller coinSpends opClass) = some next) :
    ∃ pending, next = { s with pending := pending } := by
  unfold sharedStep at h
  dsimp only at h
  split at h
  · cases h
  · cases h
    exact ⟨s.pending, rfl⟩
  · cases h
    exact ⟨_, rfl⟩

theorem sharedStep_lock (h : gate.sharedStep s (.lock caller) = some next) :
    ∃ charge, s.pending caller = some charge ∧ next = gate.lockStep s caller charge := by
  unfold sharedStep at h
  dsimp only at h
  split at h
  · cases h
  · rename_i charge hpending
    exact ⟨charge, hpending, (Option.some.inj h).symm⟩

end SharedStep

structure CapHolds (gate : PolicyAuthorizer) (s : SharedGate) : Prop where
  bounded : WindowBounded gate.autoSend.periodSeconds gate.autoSend.periodCapMojos
    (s.approved.map Approval.toCharge)
  oldest_first : (s.recent.map AutoSendRecord.atUnix).Pairwise (· ≤ ·)

structure TimelyReading (gate : PolicyAuthorizer) (s : SharedGate) (reading : Nat) : Prop where
  dropped_expired : ∀ approval ∈ s.approved, gate.inWindow reading approval.stamp = false →
    approval.chargedAt + gate.autoSend.periodSeconds ≤ s.now
  kept_older : ∀ record ∈ s.recent, gate.inWindow reading record.atUnix = true →
    record.atUnix ≤ reading

def TimelyLock (gate : PolicyAuthorizer) (s : SharedGate) : GateAction → Prop
  | .lock caller => ∀ charge, s.pending caller = some charge → TimelyReading gate s charge.reading
  | _ => True

instance (s : SharedGate) (reading : Nat) : Decidable (TimelyReading gate s reading) :=
  decidable_of_iff ((∀ approval ∈ s.approved, gate.inWindow reading approval.stamp = false →
      approval.chargedAt + gate.autoSend.periodSeconds ≤ s.now) ∧
    ∀ record ∈ s.recent, gate.inWindow reading record.atUnix = true → record.atUnix ≤ reading)
    ⟨fun h => ⟨h.1, h.2⟩, fun h => ⟨h.1, h.2⟩⟩

instance (s : SharedGate) : (action : GateAction) → Decidable (TimelyLock gate s action)
  | .tick _ => isTrue trivial
  | .read _ _ _ => isTrue trivial
  | .lock caller => decidable_of_iff
      (∀ charge ∈ s.pending caller, TimelyReading gate s charge.reading) Iff.rfl

structure LedgerTracks (gate : PolicyAuthorizer) (s : SharedGate) : Prop where
  holds : CapHolds gate s
  ghost : ∃ kept : List Approval, kept ⊆ s.approved ∧ kept.map Approval.toRecord = s.recent ∧
    Remembers gate.autoSend.periodSeconds s.now (kept.map Approval.toCharge)
      (s.approved.map Approval.toCharge)

theorem ledgerTracks_new (now : Nat) : LedgerTracks gate (.new now) where
  holds := ⟨windowBounded_nil, .nil⟩
  ghost := ⟨[], List.nil_subset _, rfl, remembers_nil _⟩

theorem LedgerTracks.later {s : SharedGate} (h : LedgerTracks gate s) (seconds : Nat) :
    LedgerTracks gate { s with now := s.now + seconds } := by
  obtain ⟨kept, hsub, hrecent, hrem⟩ := h.ghost
  exact ⟨⟨h.holds.bounded, h.holds.oldest_first⟩, kept, hsub, hrecent,
    hrem.later (Nat.le_add_right _ _)⟩

theorem retain_map_toRecord (gate : PolicyAuthorizer) (reading : Nat) (kept : List Approval) :
    gate.retain reading (kept.map Approval.toRecord) =
      (kept.filter fun approval => gate.inWindow reading approval.stamp).map Approval.toRecord := by
  rw [retain]
  rw [List.filter_map]
  rfl

theorem TimelyReading.remembers {s : SharedGate} {reading : Nat} {kept : List Approval}
    (timely : TimelyReading gate s reading) (hsub : kept ⊆ s.approved)
    (hrem : Remembers gate.autoSend.periodSeconds s.now (kept.map Approval.toCharge)
      (s.approved.map Approval.toCharge)) :
    Remembers gate.autoSend.periodSeconds s.now
      ((kept.filter fun approval => gate.inWindow reading approval.stamp).map Approval.toCharge)
      (s.approved.map Approval.toCharge) := by
  intro t ht
  refine (hrem t ht).trans ?_
  have hsame : ((kept.map Approval.toCharge).filter fun c =>
      t < c.time + gate.autoSend.periodSeconds) =
      ((kept.filter fun approval => gate.inWindow reading approval.stamp).map
        Approval.toCharge).filter fun c => t < c.time + gate.autoSend.periodSeconds := by
    rw [List.filter_map, List.filter_map, List.filter_filter]
    refine congrArg _ (List.filter_congr fun approval hmem => ?_)
    cases hkeep : gate.inWindow reading approval.stamp with
    | true => simp
    | false =>
        have hexpired := timely.dropped_expired approval (hsub hmem) hkeep
        have hdead : ¬ t < approval.chargedAt + gate.autoSend.periodSeconds := by omega
        simp [Approval.toCharge, hdead]
  exact (congrArg total hsame).le

theorem total_toRecord (kept : List Approval) :
    total ((kept.map Approval.toRecord).map AutoSendRecord.toCharge) =
      total (kept.map Approval.toCharge) := by
  simp [total, Function.comp_def, Approval.toRecord, Approval.toCharge, AutoSendRecord.toCharge]

theorem TimelyReading.retain_sorted {s : SharedGate} {reading : Nat}
    (timely : TimelyReading gate s reading)
    (sorted : (s.recent.map AutoSendRecord.atUnix).Pairwise (· ≤ ·)) (amount : Nat) :
    ((gate.retain reading s.recent).map AutoSendRecord.atUnix).Pairwise (· ≤ ·) ∧
      ((gate.retain reading s.recent ++ receipt amount reading).map
        AutoSendRecord.atUnix).Pairwise (· ≤ ·) := by
  have hkept := sorted.sublist ((List.filter_sublist (l := s.recent)
    (p := fun record => gate.inWindow reading record.atUnix)).map AutoSendRecord.atUnix)
  refine ⟨hkept, ?_⟩
  rw [List.map_append, List.pairwise_append]
  refine ⟨hkept, ?_, ?_⟩
  · rw [receipt]
    split <;> simp
  · intro older holder newer hnewer
    obtain ⟨record, hrecord, rfl⟩ := List.mem_map.1 holder
    obtain ⟨hmem, hkeep⟩ := List.mem_filter.1 hrecord
    have hstamp : newer = reading := by
      rw [receipt] at hnewer
      split at hnewer
      · simpa using hnewer
      · cases hnewer
    rw [hstamp]
    exact timely.kept_older record hmem hkeep

theorem LedgerTracks.lock {s : SharedGate} {charge : PendingCharge} (h : LedgerTracks gate s)
    (timely : TimelyReading gate s charge.reading) (caller : Nat) :
    LedgerTracks gate (gate.lockStep s caller charge) := by
  obtain ⟨kept, hsub, hrecent, hrem⟩ := h.ghost
  have hkeep := timely.remembers hsub hrem
  have hsorted := timely.retain_sorted h.holds.oldest_first charge.amount
  have hretain := retain_map_toRecord gate charge.reading kept
  rw [hrecent] at hretain
  have hsub' : (kept.filter fun approval => gate.inWindow charge.reading approval.stamp) ⊆
      s.approved := fun _ hmem => hsub (List.mem_of_mem_filter hmem)
  rcases lockStep_cases gate s caller charge with ⟨hfits, hlock⟩ | hlock
  · rw [hretain, total_toRecord] at hfits
    rw [hlock]
    refine ⟨⟨?_, hsorted.2⟩, ?_⟩
    · rw [List.map_append]
      exact windowBounded_snoc h.holds.bounded (hkeep.fits hfits)
    · dsimp only
      rw [hretain, List.map_append]
      rcases Nat.eq_zero_or_pos charge.amount with hzero | hpos
      · refine ⟨kept.filter fun approval => gate.inWindow charge.reading approval.stamp,
          fun _ hmem => List.mem_append_left _ (hsub' hmem), ?_, ?_⟩
        · simp [receipt, hzero]
        · rw [hzero]
          exact hkeep.snoc_zero
      · refine ⟨(kept.filter fun approval => gate.inWindow charge.reading approval.stamp) ++
          [⟨s.now, charge.reading, charge.amount⟩], ?_, ?_, ?_⟩
        · exact List.append_subset.2 ⟨fun _ hmem => List.mem_append_left _ (hsub' hmem),
            List.subset_append_right _ _⟩
        · simp [receipt, hpos, Approval.toRecord]
        · rw [List.map_append]
          exact hkeep.snoc _
  · rw [hlock]
    exact ⟨⟨h.holds.bounded, hsorted.1⟩, _, hsub', hretain.symm, hkeep⟩

variable [WalletSdk]

theorem LedgerTracks.step {s next : SharedGate} {action : GateAction} (h : LedgerTracks gate s)
    (timely : TimelyLock gate s action) (hstep : gate.sharedStep s action = some next) :
    LedgerTracks gate next := by
  cases action with
  | tick seconds =>
      cases hstep
      exact h.later seconds
  | read caller coinSpends opClass =>
      obtain ⟨pending, rfl⟩ := sharedStep_read hstep
      exact ⟨⟨h.holds.bounded, h.holds.oldest_first⟩, h.ghost⟩
  | lock caller =>
      obtain ⟨charge, hpending, rfl⟩ := sharedStep_lock hstep
      exact h.lock (timely charge hpending) caller

theorem shared_allowance_cap {now : Nat} {actions : List GateAction}
    (timely : Meets gate.sharedStep gate.TimelyLock (.new now) actions) :
    ∀ done, done <+: actions → ∀ s, run gate.sharedStep (.new now) done = some s →
      CapHolds gate s :=
  fun _ hdone _ hrun =>
    (invariant_of_meets (fun _ _ _ h hguard hstep => LedgerTracks.step h hguard hstep)
      (ledgerTracks_new now) timely hdone hrun).holds

def FreshLock (s : SharedGate) : GateAction → Prop
  | .lock caller => ∀ charge, s.pending caller = some charge →
      charge.reading = s.now ∧ s.now < u64Max
  | _ => True

structure StampedTruly (s : SharedGate) : Prop where
  approved : ∀ approval ∈ s.approved, approval.stamp = approval.chargedAt
  recent : ∀ record ∈ s.recent, record.atUnix ≤ s.now

omit [WalletSdk] in
theorem StampedTruly.timely {s : SharedGate} (h : StampedTruly s) (hnow : s.now < u64Max) :
    TimelyReading gate s s.now where
  dropped_expired approval hmem hdropped := by
    rw [← h.approved approval hmem]
    exact expired_of_not_inWindow hnow hdropped
  kept_older record hmem _ := h.recent record hmem

omit [WalletSdk] in
theorem StampedTruly.lock {s : SharedGate} {charge : PendingCharge} (h : StampedTruly s)
    (fresh : charge.reading = s.now) (caller : Nat) :
    StampedTruly (gate.lockStep s caller charge) := by
  have hkept : ∀ record ∈ gate.retain charge.reading s.recent, record.atUnix ≤ s.now :=
    fun record hmem => h.recent record (List.mem_of_mem_filter hmem)
  rcases lockStep_cases gate s caller charge with ⟨-, hlock⟩ | hlock
  · rw [hlock]
    refine ⟨fun approval hmem => ?_, fun record hmem => ?_⟩
    · rcases List.mem_append.1 hmem with hmem | hmem
      · exact h.approved approval hmem
      · rw [List.mem_singleton.1 hmem]
        exact fresh
    · rcases List.mem_append.1 hmem with hmem | hmem
      · exact hkept record hmem
      · rw [receipt] at hmem
        split at hmem
        · rw [List.mem_singleton.1 hmem]
          exact fresh.le
        · cases hmem
  · rw [hlock]
    exact ⟨h.approved, hkept⟩

theorem StampedTruly.step {s next : SharedGate} {action : GateAction} (h : StampedTruly s)
    (fresh : FreshLock s action) (hstep : gate.sharedStep s action = some next) :
    StampedTruly next := by
  cases action with
  | tick seconds =>
      cases hstep
      exact ⟨h.approved, fun record hmem => (h.recent record hmem).trans (Nat.le_add_right _ _)⟩
  | read caller coinSpends opClass =>
      obtain ⟨pending, rfl⟩ := sharedStep_read hstep
      exact ⟨h.approved, h.recent⟩
  | lock caller =>
      obtain ⟨charge, hpending, rfl⟩ := sharedStep_lock hstep
      exact h.lock (fresh charge hpending).1 caller

theorem fresh_locks_timely {now : Nat} {actions : List GateAction}
    (fresh : Meets gate.sharedStep FreshLock (.new now) actions) :
    Meets gate.sharedStep gate.TimelyLock (.new now) actions := by
  refine Meets.imp (fun _ _ _ h hfresh hstep => StampedTruly.step h hfresh hstep) ?_ ?_ fresh
  · intro s action h hfresh
    cases action with
    | lock caller =>
        intro charge hpending
        obtain ⟨hreading, hnow⟩ := hfresh charge hpending
        rw [hreading]
        exact h.timely hnow
    | tick seconds => trivial
    | read caller coinSpends opClass => trivial
  · exact ⟨fun _ hmem => absurd hmem List.not_mem_nil, fun _ hmem => absurd hmem List.not_mem_nil⟩

end PolicyAuthorizer

namespace PolicyAuthorizer

def overlappingTips : List GateAction :=
  [.read 0 (burning 60) .tip, .read 1 (burning 40) .tip, .tick 3, .lock 1, .tick 4, .lock 0,
    .read 1 (burning 1) .tip, .lock 1, .tick 10, .read 2 (burning 100) .tip, .lock 2]

def staleTip : List GateAction :=
  [.read 0 (burning 100) .tip, .tick 9, .lock 0, .tick 1, .read 1 (burning 100) .tip, .lock 1]

theorem shared_allowance_cap_of_overlappingTips :
    letI := feeOnlySdk
    ∃ s, run tipGate.sharedStep (.new 0) overlappingTips = some s ∧
      s.approved = [⟨3, 0, 40⟩, ⟨7, 0, 60⟩, ⟨17, 17, 100⟩] ∧ CapHolds tipGate s := by
  let _ := feeOnlySdk
  have happroved : (run tipGate.sharedStep (.new 0) overlappingTips).map SharedGate.approved =
      some [⟨3, 0, 40⟩, ⟨7, 0, 60⟩, ⟨17, 17, 100⟩] := by
    decide
  have timely : Meets tipGate.sharedStep tipGate.TimelyLock (.new 0) overlappingTips := by
    decide
  obtain ⟨s, hrun, hs⟩ := Option.map_eq_some_iff.1 happroved
  exact ⟨s, hrun, hs, shared_allowance_cap timely _ (List.prefix_refl _) s hrun⟩

theorem staleTip_breaks_cap :
    letI := feeOnlySdk
    ∃ s, run tipGate.sharedStep (.new 0) staleTip = some s ∧ ¬ CapHolds tipGate s := by
  let _ := feeOnlySdk
  have happroved : (run tipGate.sharedStep (.new 0) staleTip).map SharedGate.approved =
      some [⟨9, 0, 100⟩, ⟨10, 10, 100⟩] := by decide
  obtain ⟨s, hrun, hs⟩ := Option.map_eq_some_iff.1 happroved
  refine ⟨s, hrun, fun hcap => ?_⟩
  have hwindow := hcap.bounded 9
  rw [hs] at hwindow
  revert hwindow
  decide

end PolicyAuthorizer

end DigAccount
