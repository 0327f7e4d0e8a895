import DigAccount.Registry.Runs

namespace DigAccount

namespace ProfileRegistry

open Validator PartialMachine

variable [DidEncoding]

theorem activeOk_successor {r : ProfileRegistry} (h : r.Accepted) {ix : ProfileIx}
    {ended : ProfileEnd} {entry : ProfileEntry} (hsucc : r.successorOf ix = some entry) :
    ActiveOk { r.entryMut ix (·.setEnd ended) with active := some entry.ix } ↔
      entry.isShown = true := by
  have hmem := List.mem_of_find?_eq_some hsucc
  have hfound := List.find?_some hsucc
  rw [Bool.and_eq_true, decide_eq_true_eq] at hfound
  have hget : r.get entry.ix = some entry :=
    (KeyedList.find?_eq_some_iff h.nodup).2 ⟨hmem, rfl⟩
  have hafter : (r.entryMut ix (·.setEnd ended)).get entry.ix = some entry := by
    rw [get_entryMut (f := (·.setEnd ended)) (fun _ => rfl), hget]
    simp [hfound.2]
  rw [ActiveOk]
  dsimp only
  constructor
  · rintro ⟨e, he, -, hshown⟩
    rw [get_withActive, hafter, Option.some.injEq] at he
    exact he ▸ hshown
  · exact fun hshown => ⟨entry, hafter, hfound.1, hshown⟩

theorem activeOk_noSuccessor {r : ProfileRegistry} (h : r.Accepted) {ix : ProfileIx}
    {ended : ProfileEnd} (hsucc : r.successorOf ix = none) :
    ActiveOk { r.entryMut ix (·.setEnd ended) with active := none } := by
  have hnone : (r.entryMut ix (·.setEnd ended)).live.head?.isNone = true := by
    rw [h.live_head_setEnd, hsucc]
    rfl
  exact live_head_isNone.1 hnone

theorem accepted_setEnd {r : ProfileRegistry} (h : r.Accepted) {ix : ProfileIx}
    {ended : ProfileEnd} (hended : ended.atHeight ≠ 0) {a : Option ProfileIx}
    (hactive : ActiveOk { r.entryMut ix (·.setEnd ended) with active := a }) :
    Accepted { r.entryMut ix (·.setEnd ended) with active := a } := by
  refine h.entryMut (f := (·.setEnd ended)) (fun _ => rfl) (fun _ => rfl) ?_ hactive
  intro e _ e' he'
  injection he' with he'
  exact he' ▸ hended

theorem recordMelted_settles {r : ProfileRegistry} (h : r.Accepted) {ix : ProfileIx}
    {atHeight : Nat} (guard : r.SuccessorShown ix atHeight) :
    Settles (r.recordMelted ix atHeight) := by
  rw [recordMelted, ProfileEnd.at]
  by_cases hzero : atHeight = 0
  · rw [if_pos hzero]
    exact returned_settles h _
  rw [if_neg hzero]
  dsimp only
  cases hget : r.get ix with
  | none => exact returned_settles h _
  | some entry =>
      dsimp only
      split
      · exact returned_settles h _
      split
      · rename_i hother
        refine expectValid_settles (accepted_setEnd h hzero ?_) _
        refine activeOk_entryMut h (f := (·.setEnd _)) (fun _ => rfl) (fun _ _ => rfl) ?_
        exact fun _ hactive => absurd hactive hother
      · rename_i hactive
        rw [not_not] at hactive
        rw [h.live_head_setEnd]
        cases hsucc : r.successorOf ix with
        | none =>
            exact expectValid_settles (accepted_setEnd h hzero (activeOk_noSuccessor h hsucc)) _
        | some successor =>
            have hshown := guard hzero hactive successor hsucc
            exact expectValid_settles
              (accepted_setEnd h hzero ((activeOk_successor h hsucc).2 hshown)) _

theorem recordMelted_panics {r : ProfileRegistry} (h : r.Accepted) {ix : ProfileIx}
    {atHeight : Nat} (guard : ¬ r.SuccessorShown ix atHeight) :
    (r.recordMelted ix atHeight).after? = none := by
  rw [SuccessorShown] at guard
  push Not at guard
  obtain ⟨hzero, hactive, successor, hsucc, hhidden⟩ := guard
  obtain ⟨entry, hget⟩ := get_of_active h.active_ok hactive
  have hlive := live_of_active h.active_ok hactive hget
  rw [recordMelted, ProfileEnd.at]
  rw [if_neg hzero]
  dsimp only
  rw [hget]
  dsimp only
  rw [hlive, if_neg (by decide), if_neg (not_not.2 hactive),
    h.live_head_setEnd, hsucc]
  refine expectValid_panics (fun hok => hhidden ?_) _
  exact (activeOk_successor h hsucc).1 (check_ok.1 hok).2.1

end ProfileRegistry

inductive RegistryOp [DidEncoding] where
  | recordMinted (ix : ProfileIx) (did : MintedDid) (store : ConfirmedStore)
      (label : Option String)
  | setActive (ix : ProfileIx)
  | setVisibility (ix : ProfileIx) (v : ProfileVisibility)
  | setLabel (ix : ProfileIx) (label : Option String)
  | recordMelted (ix : ProfileIx) (atHeight : Nat)
  | beginMint (ix : ProfileIx) (stage : MintStage) (storeFee : Nat)
  | beginSeededMint (ix : ProfileIx) (stage : MintStage) (seedRoot : Bytes32) (storeFee : Nat)
  | advanceMint (ix : ProfileIx) (stage : MintStage)
  | abandonMint (ix : ProfileIx)

namespace ProfileRegistry

open PartialMachine

variable [DidEncoding]

def step (r : ProfileRegistry) : RegistryOp → Option ProfileRegistry
  | .recordMinted ix did store label => (r.recordMinted ix did store label).after?
  | .setActive ix => (r.setActive ix).after?
  | .setVisibility ix v => (r.setVisibility ix v).after?
  | .setLabel ix label => (r.setLabel ix label).after?
  | .recordMelted ix atHeight => (r.recordMelted ix atHeight).after?
  | .beginMint ix stage storeFee => (r.beginMint ix stage storeFee).after?
  | .beginSeededMint ix stage seedRoot storeFee =>
      (r.beginSeededMint ix stage seedRoot storeFee).after?
  | .advanceMint ix stage => (r.advanceMint ix stage).after?
  | .abandonMint ix => (r.abandonMint ix).after?

def ExceptAdvance : RegistryOp → Prop
  | .advanceMint _ _ => False
  | _ => True

def Guarded (r : ProfileRegistry) : RegistryOp → Prop
  | .recordMelted ix atHeight => r.SuccessorShown ix atHeight
  | .beginMint ix stage storeFee => r.Reservable (.new ix stage storeFee)
  | .beginSeededMint ix stage seedRoot storeFee =>
      r.Reservable (.withSeedRoot ix stage seedRoot storeFee)
  | _ => True

theorem step_enabled {r : ProfileRegistry} (h : r.Accepted) {op : RegistryOp}
    (hop : ExceptAdvance op) (guard : r.Guarded op) :
    ∃ next, r.step op = some next ∧ next.Accepted := by
  cases op with
  | recordMinted ix did store label => exact recordMinted_settles h ix did store label
  | setActive ix => exact setActive_settles h ix
  | setVisibility ix v => exact setVisibility_settles h ix v
  | setLabel ix label => exact setLabel_settles h ix label
  | recordMelted ix atHeight => exact recordMelted_settles h guard
  | beginMint ix stage storeFee => exact reserve_settles h guard
  | beginSeededMint ix stage seedRoot storeFee => exact reserve_settles h guard
  | advanceMint ix stage => exact hop.elim
  | abandonMint ix => exact abandonMint_settles h ix

theorem step_stuck {r : ProfileRegistry} (h : r.Accepted) {op : RegistryOp}
    (guard : ¬ r.Guarded op) : r.step op = none := by
  cases op with
  | recordMelted ix atHeight => exact recordMelted_panics h guard
  | beginMint ix stage storeFee => exact reserve_panics guard
  | beginSeededMint ix stage seedRoot storeFee => exact reserve_panics guard
  | _ => exact absurd trivial guard

def Loadable [RegistryJson] (r : ProfileRegistry) : Prop :=
  r = empty ∨ ∃ json, fromJson json = .ok r

theorem Loadable.accepted [RegistryJson] {r : ProfileRegistry} (h : r.Loadable) : r.Accepted := by
  rcases h with rfl | ⟨json, hjson⟩
  · exact empty_accepted
  · exact fromJson_accepted hjson

theorem run_sound_iff [RegistryJson] {start : ProfileRegistry} (hstart : start.Loadable)
    {ops : List RegistryOp} (listed : ∀ op ∈ ops, ExceptAdvance op) :
    Survives step RegistryInvariant start ops ↔ Meets step Guarded start ops :=
  survives_iff_meets
    (fun op hop _ (h : Accepted _) guard => step_enabled h (listed op hop) guard)
    (fun _ _ _ h guard => step_stuck h guard)
    (fun _ h => h.registryInvariant) hstart.accepted

end ProfileRegistry

namespace ProfileRegistry

open PartialMachine

@[reducible] def decimalDid : DidEncoding := ⟨fun launcherId => s!"did:chia:{launcherId}"⟩

@[reducible] def noJson : RegistryJson := ⟨fun _ => .error "", fun _ => .error ""⟩

def mintedAt (launcherId : Bytes32) : @MintedDid decimalDid :=
  letI := decimalDid
  ⟨s!"did:chia:{launcherId}", launcherId, launcherId, 1, rfl, by decide⟩

def launchedFrom (didCoinId : Bytes32) : ConfirmedStore :=
  ⟨didCoinId, didCoinId, 1, didCoinId, 0, by decide⟩

def hideThenMelt : List (@RegistryOp decimalDid) :=
  letI := decimalDid
  [.recordMinted 0 (mintedAt 1) (launchedFrom 1) none,
   .recordMinted 1 (mintedAt 2) (launchedFrom 2) none,
   .setVisibility 1 .hiddenFromLists,
   .recordMelted 0 7]

theorem run_sound_iff_hideThenMelt :
    letI := decimalDid
    letI := noJson
    Survives step RegistryInvariant empty hideThenMelt ↔ Meets step Guarded empty hideThenMelt :=
  letI := decimalDid
  letI := noJson
  run_sound_iff (.inl rfl) (by simp [hideThenMelt, ExceptAdvance])

theorem hideThenMelt_panics :
    letI := decimalDid
    letI := noJson
    empty.Loadable ∧ (∀ op ∈ hideThenMelt, ExceptAdvance op) ∧
      run step empty hideThenMelt = none ∧
      ¬ Survives step RegistryInvariant empty hideThenMelt := by
  let _ := decimalDid
  let _ := noJson
  have hrun : run step empty hideThenMelt = none := by decide
  refine ⟨.inl rfl, ?_, hrun, ?_⟩
  · simp [hideThenMelt, ExceptAdvance]
  · intro hsurvives
    obtain ⟨s, hs, -⟩ := hsurvives hideThenMelt (List.prefix_refl _)
    rw [hrun] at hs
    cases hs

end ProfileRegistry

end DigAccount
