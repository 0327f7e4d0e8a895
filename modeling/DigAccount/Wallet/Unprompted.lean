import DigAccount.Wallet.VaultExit

namespace DigAccount

open PartialMachine Ticket RollingWindow PolicyAuthorizer

namespace PolicyAuthorizer

variable [WalletSdk] {gate : PolicyAuthorizer} {handled : Handled}

theorem approvalOf_ok {approval : AuthorizedSpend}
    (h : handled.result = .ok (.approved approval)) :
    gate.approvalOf handled =
      some ⟨gate.chargedReading handled.before, gate.weighedTotal handled.coinSpends⟩ := by
  rw [approvalOf, h]

theorem approvalOf_some {charge : Charge} (h : gate.approvalOf handled = some charge) :
    charge.amount = gate.weighedTotal handled.coinSpends := by
  rw [approvalOf] at h
  split at h
  · cases h
    rfl
  · cases h

end PolicyAuthorizer

structure GateCharge where
  gate : Nat
  ruling : Nat
  charge : Charge
  deriving DecidableEq, Repr

structure ChargedHost [MoneyBackend] where
  host : ApprovalHost
  charges : List GateCharge

namespace ChargedHost

variable [MoneyBackend]

def new : ChargedHost := ⟨.new, []⟩

variable (charged : ChargedHost)

def ledger (gate : Nat) : List (Nat × Charge) :=
  (charged.charges.filter fun entry => entry.gate = gate).map fun entry =>
    (entry.ruling, entry.charge)

def unprompted (gate : Nat) : List Charge :=
  (charged.host.signed.map SignedApproval.ruling).filterMap fun ruling =>
    (charged.ledger gate).lookup ruling

end ChargedHost

namespace ChargedHost

variable [MoneyBackend] [WalletSdk] (charged : ChargedHost)

def chargeMade (host : ApprovalHost) : ApprovalStep → Option GateCharge
  | .authorizeOp i coinSpends opClass =>
      host.gates[i]?.bind fun held =>
        (held.gate.approvalOf ⟨coinSpends, opClass,
          (held.gate.authorizeOp coinSpends opClass held.ledger).1, held.ledger,
          (held.gate.authorizeOp coinSpends opClass held.ledger).2⟩).map
            fun charge => ⟨i, host.records.calls.length, charge⟩
  | _ => none

def step (op : ApprovalStep) : Option ChargedHost := do
  let host ← charged.host.step op
  return ⟨host, charged.charges ++ (chargeMade charged.host op).toList⟩

end ChargedHost

namespace ChargedHost

variable [MoneyBackend] [WalletSdk] {charged next : ChargedHost}

structure Charged (host : ApprovalHost) (entry : GateCharge) (held : HostGate)
    (call : AuthorizeCall) : Prop where
  opened : host.gates[entry.gate]? = some held
  called : host.records.calls[entry.ruling]? = some call
  judged : call.gate = held.gate
  weighed : entry.charge.amount = held.gate.weighedTotal call.coinSpends

structure Accounted (charged : ChargedHost) : Prop where
  traced : charged.host.Traced
  tracks : ∀ i held, charged.host.gates[i]? = some held → SteadyClock held.gate →
    Tracks held.gate held.ledger ((charged.ledger i).map Prod.snd)
  charges : ∀ entry ∈ charged.charges, ∃ held call, Charged charged.host entry held call
  complete : ∀ ruling call approval, charged.host.records.calls[ruling]? = some call →
    call.result = .ok (.approved approval) → ∃ entry ∈ charged.charges, entry.ruling = ruling

theorem Charged.later {host later : ApprovalHost} {entry : GateCharge} {held kept : HostGate}
    {call : AuthorizeCall} (h : Charged host entry held call)
    (hopened : later.gates[entry.gate]? = some kept) (hkept : kept.gate = held.gate)
    (hcalls : host.records.calls <+: later.records.calls) : Charged later entry kept call where
  opened := hopened
  called := by
    obtain ⟨more, hmore⟩ := hcalls
    obtain ⟨hruling, -⟩ := List.getElem?_eq_some_iff.1 h.called
    rw [← hmore, List.getElem?_append_left hruling]
    exact h.called
  judged := h.judged.trans hkept.symm
  weighed := hkept ▸ h.weighed

theorem Accounted.gate_lt (h : Accounted charged) {entry : GateCharge}
    (hentry : entry ∈ charged.charges) : entry.gate < charged.host.gates.length := by
  obtain ⟨held, call, hcharged⟩ := h.charges entry hentry
  exact (List.getElem?_eq_some_iff.1 hcharged.opened).1

theorem Accounted.ledger_unopened (h : Accounted charged) :
    charged.ledger charged.host.gates.length = [] := by
  rw [ledger, List.map_eq_nil_iff, List.filter_eq_nil_iff]
  intro entry hentry
  have hlt := h.gate_lt hentry
  simpa using hlt.ne

theorem chargeMade_eq_none {host : ApprovalHost} {op : ApprovalStep}
    (hquiet : ¬ ApprovalHost.Authorizes op) : chargeMade host op = none := by
  cases op with
  | authorizeOp i coinSpends opClass => exact absurd trivial hquiet
  | _ => rfl

theorem Accounted.quiet (h : Accounted charged) {host : ApprovalHost} (traced : host.Traced)
    (gates : host.gates = charged.host.gates)
    (calls : host.records.calls = charged.host.records.calls) :
    Accounted ⟨host, charged.charges⟩ where
  traced := traced
  tracks i held hheld := h.tracks i held (gates ▸ hheld)
  charges entry hentry := by
    obtain ⟨held, call, hcharged⟩ := h.charges entry hentry
    exact ⟨held, call, hcharged.later (gates ▸ hcharged.opened) rfl (calls ▸ List.prefix_refl _)⟩
  complete ruling call approval hcall := h.complete ruling call approval (calls ▸ hcall)

theorem Accounted.opened (h : Accounted charged) {host : ApprovalHost} (traced : host.Traced)
    {profile : ProfileIx} {gate : PolicyAuthorizer}
    (gates : host.gates = charged.host.gates ++ [⟨profile, gate, .new⟩])
    (calls : host.records.calls = charged.host.records.calls) :
    Accounted ⟨host, charged.charges⟩ where
  traced := traced
  tracks i held hheld steady := by
    dsimp only at hheld
    rw [gates] at hheld
    rcases Nat.lt_trichotomy i charged.host.gates.length with hlt | rfl | hgt
    · rw [List.getElem?_append_left hlt] at hheld
      exact h.tracks i held hheld steady
    · rw [List.getElem?_concat_length] at hheld
      cases hheld
      have hempty : (⟨host, charged.charges⟩ : ChargedHost).ledger charged.host.gates.length = [] :=
        h.ledger_unopened
      rw [hempty]
      exact tracks_new
    · rw [List.getElem?_eq_none (by rw [List.length_append]; exact hgt)] at hheld
      cases hheld
  charges entry hentry := by
    obtain ⟨held, call, hcharged⟩ := h.charges entry hentry
    refine ⟨held, call, hcharged.later ?_ rfl (calls ▸ List.prefix_refl _)⟩
    rw [gates, List.getElem?_append_left (h.gate_lt hentry)]
    exact hcharged.opened
  complete ruling call approval hcall := h.complete ruling call approval (calls ▸ hcall)

theorem chargeMade_authorizeOp {host : ApprovalHost} {i : Nat} {coinSpends : List CoinSpend}
    {opClass : SpendOpClass} {held : HostGate} (asked : host.gates[i]? = some held) :
    chargeMade host (.authorizeOp i coinSpends opClass) =
      (held.gate.approvalOf ⟨coinSpends, opClass,
        (held.gate.authorizeOp coinSpends opClass held.ledger).1, held.ledger,
        (held.gate.authorizeOp coinSpends opClass held.ledger).2⟩).map
          fun charge => ⟨i, host.records.calls.length, charge⟩ := by
  rw [chargeMade, asked]
  rfl

omit [WalletSdk] in
theorem ledger_made {charges : List GateCharge} {host : ApprovalHost} {i ruling : Nat}
    (made : Option Charge) :
    ((ChargedHost.mk host
      (charges ++ (made.map fun charge => (⟨i, ruling, charge⟩ : GateCharge)).toList)).ledger
        i).map Prod.snd =
      ((ChargedHost.mk host charges).ledger i).map Prod.snd ++ made.toList := by
  cases made with
  | none => simp [ledger]
  | some charge => simp [ledger]

omit [WalletSdk] in
theorem ledger_made_elsewhere {charges : List GateCharge} {host : ApprovalHost} {i j ruling : Nat}
    (hne : i ≠ j) (made : Option Charge) :
    (ChargedHost.mk host
      (charges ++ (made.map fun charge => (⟨i, ruling, charge⟩ : GateCharge)).toList)).ledger j =
      (ChargedHost.mk host charges).ledger j := by
  cases made with
  | none => simp [ledger]
  | some charge => simp [ledger, hne]

theorem Accounted.authorized (h : Accounted charged) {host : ApprovalHost} (traced : host.Traced)
    {i : Nat} {coinSpends : List CoinSpend} {opClass : SpendOpClass} {held : HostGate}
    (asked : charged.host.gates[i]? = some held)
    (gates : host.gates = charged.host.gates.set i
      { held with ledger := (held.gate.authorizeOp coinSpends opClass held.ledger).2 })
    (calls : host.records.calls = charged.host.records.calls ++ [⟨held.profile, held.gate,
      coinSpends, opClass, (held.gate.authorizeOp coinSpends opClass held.ledger).1⟩]) :
    Accounted ⟨host, charged.charges ++
      (chargeMade charged.host (.authorizeOp i coinSpends opClass)).toList⟩ := by
  rw [chargeMade_authorizeOp asked]
  have hlt : i < charged.host.gates.length := (List.getElem?_eq_some_iff.1 asked).1
  have hset : host.gates[i]? = some
      { held with ledger := (held.gate.authorizeOp coinSpends opClass held.ledger).2 } := by
    rw [gates, List.getElem?_set_self hlt]
  have hothers : ∀ j, i ≠ j → host.gates[j]? = charged.host.gates[j]? := by
    intro j hne
    rw [gates, List.getElem?_set_ne hne]
  have hprefix : charged.host.records.calls <+: host.records.calls :=
    calls ▸ List.prefix_append _ _
  refine ⟨traced, fun j kept hkept steady => ?_, fun entry hentry => ?_,
    fun ruling call approval hcall happroved => ?_⟩
  · by_cases hj : i = j
    · subst hj
      cases hset.symm.trans hkept
      rw [ledger_made]
      exact (h.tracks i held asked steady).step steady coinSpends opClass
    · rw [ledger_made_elsewhere hj]
      exact h.tracks j kept ((hothers j hj).symm.trans hkept) steady
  · rcases List.mem_append.1 hentry with hold | hnew
    · obtain ⟨before, call, hcharged⟩ := h.charges entry hold
      by_cases hj : i = entry.gate
      · subst hj
        cases asked.symm.trans hcharged.opened
        exact ⟨_, call, hcharged.later hset rfl hprefix⟩
      · exact ⟨before, call, hcharged.later ((hothers _ hj).trans hcharged.opened) rfl hprefix⟩
    · obtain ⟨charge, hcharge, rfl⟩ := Option.map_eq_some_iff.1 (Option.mem_toList.1 hnew)
      have hcalled : host.records.calls[charged.host.records.calls.length]? =
          some ⟨held.profile, held.gate, coinSpends, opClass,
            (held.gate.authorizeOp coinSpends opClass held.ledger).1⟩ := by
        rw [calls]
        exact List.getElem?_concat_length
      have hweight := approvalOf_some hcharge
      exact ⟨_, _, hset, hcalled, rfl, hweight⟩
  · dsimp only at hcall
    rw [calls] at hcall
    rcases Nat.lt_or_ge ruling charged.host.records.calls.length with hold | hnew
    · rw [List.getElem?_append_left hold] at hcall
      obtain ⟨entry, hentry, hruling⟩ := h.complete ruling call approval hcall happroved
      exact ⟨entry, List.mem_append_left _ hentry, hruling⟩
    · have hlast : ruling = charged.host.records.calls.length := by
        obtain ⟨hbound, -⟩ := List.getElem?_eq_some_iff.1 hcall
        rw [List.length_append, List.length_singleton] at hbound
        exact Nat.le_antisymm (Nat.le_of_lt_succ hbound) hnew
      rw [hlast, List.getElem?_concat_length] at hcall
      cases hcall
      rw [approvalOf_ok happroved]
      exact ⟨_, List.mem_append_right _ (List.mem_singleton_self _), hlast.symm⟩

theorem Accounted.step (h : Accounted charged) {op : ApprovalStep}
    (hstep : charged.step op = some next) : Accounted next := by
  obtain ⟨host, hhost, hnext⟩ := Option.bind_eq_some_iff.1 hstep
  cases hnext
  have htraced : host.Traced := h.traced.step hhost
  cases ApprovalHost.touches_of_step hhost with
  | opened profile custody autoSend hotWalletAddress clock gate built gates calls =>
      rw [chargeMade_eq_none id, Option.toList_none, List.append_nil]
      exact h.opened htraced gates calls
  | authorized i coinSpends opClass held asked gates calls =>
      exact h.authorized htraced asked gates calls
  | untouched op quiet gates calls =>
      rw [chargeMade_eq_none quiet, Option.toList_none, List.append_nil]
      exact h.quiet htraced gates calls

theorem accounted_new : Accounted new where
  traced := ApprovalHost.traced_new
  tracks i held h := by cases h
  charges entry h := by cases h
  complete ruling call approval h := by cases h

theorem run_charged {ops : List ApprovalStep} {start host : ApprovalHost}
    (made : List GateCharge) (hrun : run ApprovalHost.step start ops = some host) :
    ∃ charges, run ChargedHost.step ⟨start, made⟩ ops = some ⟨host, charges⟩ := by
  induction ops generalizing start made with
  | nil =>
      cases hrun
      exact ⟨made, rfl⟩
  | cons op ops ih =>
      obtain ⟨next, hstep, hrest⟩ := Option.bind_eq_some_iff.1 hrun
      obtain ⟨charges, hcharges⟩ := ih (made ++ (chargeMade start op).toList) hrest
      refine ⟨charges, Option.bind_eq_some_iff.2 ⟨_, ?_, hcharges⟩⟩
      exact Option.bind_eq_some_iff.2 ⟨next, hstep, rfl⟩

theorem signed_nodup {host : ApprovalHost} (h : host.Traced) :
    (host.signed.map SignedApproval.ruling).Nodup := by
  have hheld := h.issued.nodup
  rw [ApprovalHost.held] at hheld
  exact (List.nodup_append.1 (List.nodup_append.1 (List.nodup_append.1 hheld).2.1).2.1).2.1

omit [WalletSdk] in
theorem mem_ledger {i ruling : Nat} {charge : Charge} :
    (ruling, charge) ∈ charged.ledger i ↔ (⟨i, ruling, charge⟩ : GateCharge) ∈ charged.charges := by
  simp only [ledger, List.mem_map, List.mem_filter, decide_eq_true_eq, Prod.mk.injEq]
  constructor
  · rintro ⟨entry, ⟨hentry, rfl⟩, rfl, rfl⟩
    exact hentry
  · intro hentry
    exact ⟨_, ⟨hentry, rfl⟩, rfl, rfl⟩

theorem Accounted.bounded (h : Accounted charged) {i : Nat} {held : HostGate}
    (hheld : charged.host.gates[i]? = some held) (steady : SteadyClock held.gate) :
    WindowBounded held.gate.autoSend.periodSeconds held.gate.autoSend.periodCapMojos
      (charged.unprompted i) :=
  (h.tracks i held hheld steady).bounded.of_subperm
    (lookups_subperm (signed_nodup h.traced) (charged.ledger i))

structure ChargedFor (charged : ChargedHost) (ruling : Nat) (call : AuthorizeCall)
    (derived : DerivedSpend) (i : Nat) (held : HostGate) (charge : Charge) : Prop where
  opened : charged.host.gates[i]? = some held
  judged : call.gate = held.gate
  entered : (charged.ledger i).lookup ruling = some charge
  weighed : charge.amount = derived.nativeTotalMojos

theorem Accounted.charged_for (h : Accounted charged) {ruling : Nat} {call : AuthorizeCall}
    {approval : AuthorizedSpend} {derived : DerivedSpend}
    (hcalled : charged.host.records.calls[ruling]? = some call)
    (happroved : call.result = .ok (.approved approval))
    (hderive : DerivedSpend.derive call.coinSpends call.gate.custody = .ok derived) :
    ∃ i held charge, ChargedFor charged ruling call derived i held charge := by
  obtain ⟨entry, hentry, rfl⟩ := h.complete ruling call approval hcalled happroved
  obtain ⟨charge, hcharge⟩ := lookup_isSome_of_mem (mem_ledger.2 hentry)
  obtain ⟨held, other, hcharged⟩ := h.charges _ (mem_ledger.1 (lookup_mem hcharge))
  obtain rfl : other = call := Option.some.inj (hcharged.called.symm.trans hcalled)
  refine ⟨_, held, charge, hcharged.opened, hcharged.judged, hcharge, hcharged.weighed.trans ?_⟩
  rw [← hcharged.judged, weighedTotal, hderive]

end ChargedHost

open ChargedHost in
theorem unprompted_value_capped [MoneyBackend] [WalletSdk] {ops : List ApprovalStep}
    {host : ApprovalHost} (hrun : run ApprovalHost.step .new ops = some host) :
    ∃ charged, run ChargedHost.step .new ops = some charged ∧ charged.host = host ∧
      (∀ i held, host.gates[i]? = some held → SteadyClock held.gate →
        WindowBounded held.gate.autoSend.periodSeconds held.gate.autoSend.periodCapMojos
          (charged.unprompted i)) ∧
      ∀ record ∈ host.signed, ∃ call derived, host.records.TracesTo record call ∧
        DerivedSpend.derive record.bundle.coinSpends call.gate.custody = .ok derived ∧
        (host.records.ShownAndApproved record.ruling derived.summary ∨
          ∃ i held charge, ChargedFor charged record.ruling call derived i held charge) := by
  obtain ⟨charges, hcharges⟩ := run_charged [] hrun
  have haccounted : Accounted ⟨host, charges⟩ :=
    run_invariant (fun _ _ _ _ hs hstep => Accounted.step hs hstep) accounted_new hcharges
  refine ⟨_, hcharges, rfl, fun i held => haccounted.bounded, fun record hrecord => ?_⟩
  obtain ⟨call, htraces⟩ := haccounted.traced.signed record hrecord
  obtain ⟨derived, ruling, hderive, hresult, -, hpermitted⟩ := htraces.judged
  refine ⟨call, derived, htraces, hderive, ?_⟩
  rcases hpermitted with ⟨approval, rfl⟩ | hshown
  · rw [htraces.coinSpends] at hderive
    exact .inr (haccounted.charged_for htraces.called hresult hderive)
  · exact .inl hshown

section Example

theorem unprompted_value_capped_twoSends :
    letI := feeOnlySdk
    letI := echoingBackend
    ∃ charged, run ChargedHost.step .new twoSends = some charged ∧
      charged.host.signed.map SignedApproval.ruling = [1, 0] ∧
      charged.unprompted 0 = [⟨0, 60⟩] ∧ WindowBounded 10 100 (charged.unprompted 0) := by
  let _ := feeOnlySdk
  let _ := echoingBackend
  have hsummary : (run ApprovalHost.step .new twoSends).map
      (fun host => host.signed.map SignedApproval.ruling) = some [1, 0] := by decide
  have hcharges : (run ChargedHost.step .new twoSends).map
      (fun charged => charged.unprompted 0) = some [⟨0, 60⟩] := by decide
  have hgates : (run ChargedHost.step .new twoSends).map
      (fun charged => charged.host.gates.map HostGate.gate) = some [tipGate] := rfl
  obtain ⟨host, hrun, hsigned⟩ := Option.map_eq_some_iff.1 hsummary
  obtain ⟨charged, hcharged, rfl, hbounded, -⟩ := unprompted_value_capped hrun
  rw [hcharged] at hcharges hgates
  refine ⟨charged, hcharged, hsigned, Option.some.inj hcharges, ?_⟩
  obtain ⟨held, hheld, hgate⟩ := List.map_eq_singleton_iff.1 (Option.some.inj hgates)
  have hopened : charged.host.gates[0]? = some held := by
    rw [hheld]
    rfl
  have hcapped := hbounded 0 held hopened (hgate ▸ tipGate_steady)
  rw [hgate] at hcapped
  exact hcapped

end Example

end DigAccount
