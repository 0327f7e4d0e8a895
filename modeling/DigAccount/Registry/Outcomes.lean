import DigAccount.Registry.Tombstone

namespace DigAccount

namespace ProfileRegistry

open Validator KeyedList PartialMachine

variable {r next : ProfileRegistry} {ix j : ProfileIx}

theorem nextFreeIx_above (h : r.nextFreeIx = some ix) : ∀ j ∈ r.indices, j < ix := by
  intro j hj
  rw [nextFreeIx] at h
  cases hmax : r.indices.max? with
  | none =>
      rw [List.max?_eq_none_iff.1 hmax] at hj
      cases hj
  | some top =>
      rw [hmax] at h
      dsimp only at h
      split at h
      · cases h
        exact Fin.lt_def.2 (Nat.lt_succ_of_le ((List.max?_eq_some_iff.1 hmax).2 j hj))
      · cases h

def lastIx : ProfileIx := Fin.last u32Max

theorem nextFreeIx_eq_none : r.nextFreeIx = none ↔ lastIx ∈ r.indices := by
  rw [nextFreeIx]
  cases hmax : r.indices.max? with
  | none => simp [List.max?_eq_none_iff.1 hmax]
  | some top =>
      obtain ⟨htop, hgreatest⟩ := List.max?_eq_some_iff.1 hmax
      dsimp only
      constructor
      · intro h
        split at h
        · cases h
        · rename_i hfull
          have hlast : top = lastIx := Fin.ext (show top.val = 4294967295 by omega)
          exact hlast ▸ htop
      · intro hlast
        have hle : 4294967295 ≤ top.val := hgreatest lastIx hlast
        exact dif_neg (by omega)

variable [DidEncoding]

theorem failed_operation_changes_nothing (r : ProfileRegistry) (op : RegistryOp)
    {e : AccountError} {after : ProfileRegistry} (h : r.perform op = .returned (.error e) after) :
    after = r :=
  (perform_shaped r op).refused h

section Runs

variable [RegistryJson] [LawfulRegistryJson]

theorem hostStep_indices {s : HostStep} (hkeeps : ∀ op, s = .mutate op → NeverAbandons op)
    (hstep : r.hostStep s = some next) : r.indices ⊆ next.indices := by
  cases s with
  | mutate op => exact step_indices (hkeeps op rfl) hstep
  | reload =>
      have hreload := hostStep_reload hstep
      obtain ⟨hentries, hmints⟩ := reload_perm hreload
      intro j hj
      rw [mem_indices] at hj ⊢
      exact hj.imp (((hentries.map _).mem_iff).2) (((hmints.map _).mem_iff).2)

theorem run_indices {start : ProfileRegistry} {steps : List HostStep}
    (hkeeps : ∀ op, .mutate op ∈ steps → NeverAbandons op)
    (hrun : run hostStep start steps = some r) : start.indices ⊆ r.indices := by
  have hstep : ∀ s ∈ steps, ∀ before after : ProfileRegistry, start.indices ⊆ before.indices →
      before.hostStep s = some after → start.indices ⊆ after.indices := by
    intro s hs before after hinv hstep
    refine List.Subset.trans hinv (hostStep_indices (fun op hop => hkeeps op ?_) hstep)
    exact hop ▸ hs
  exact run_invariant hstep (List.Subset.refl _) hrun

def Begins (ix : ProfileIx) : RegistryOp → Prop
  | .beginMint begun _ _ => begun = ix
  | .beginSeededMint begun _ _ _ => begun = ix
  | _ => False

omit [RegistryJson] [LawfulRegistryJson] in
theorem reserve_ok {mint : ProfileMintInProgress} {after : ProfileRegistry}
    (h : r.reserve mint = .returned (.ok ()) after) : mint.ix ∈ after.indices := by
  rw [reserve] at h
  split at h
  · cases h
  split at h
  · cases h
  split at h
  · cases h
  obtain ⟨-, rfl, -⟩ := expectValid_returned h
  have hperm := insert_perm (fun m : ProfileMintInProgress => m.ix < mint.ix) mint r.inProgress
  rw [mem_indices, (hperm.map ProfileMintInProgress.ix).mem_iff, List.map_cons]
  exact .inr (List.mem_cons_self ..)

omit [RegistryJson] [LawfulRegistryJson] in
theorem begins_ok {op : RegistryOp} (hop : Begins ix op) {after : ProfileRegistry}
    (h : r.perform op = .returned (.ok ()) after) : ix ∈ after.indices := by
  cases op with
  | beginMint begun stage storeFee => exact hop ▸ reserve_ok h
  | beginSeededMint begun stage seedRoot storeFee => exact hop ▸ reserve_ok h
  | recordMinted ix did store label => exact hop.elim
  | setActive ix => exact hop.elim
  | setVisibility ix v => exact hop.elim
  | setLabel ix label => exact hop.elim
  | recordMelted ix atHeight => exact hop.elim
  | advanceMint ix stage => exact hop.elim
  | abandonMint ix => exact hop.elim

theorem nextFreeIx_never_reissued (r : ProfileRegistry) :
    (∀ ix, r.nextFreeIx = some ix → ∀ j ∈ r.indices, j < ix) ∧
    (r.nextFreeIx = none ↔ lastIx ∈ r.indices) ∧
    ∀ op ix after, Begins ix op → r.perform op = .returned (.ok ()) after →
      ∀ later : List HostStep, (∀ op, .mutate op ∈ later → NeverAbandons op) →
        ∀ s, run hostStep after later = some s →
          ∀ j, s.nextFreeIx = some j → ix < j := by
  refine ⟨fun ix => nextFreeIx_above, nextFreeIx_eq_none, ?_⟩
  intro op ix after hbegins hbegun later hkeeps s hrun j hnext
  exact nextFreeIx_above hnext ix (run_indices hkeeps hrun (begins_ok hbegins hbegun))

end Runs

end ProfileRegistry

namespace ProfileRegistry

open PartialMachine

def livingAndEnded : List (@RegistryOp decimalDid) :=
  letI := decimalDid
  [.recordMinted 0 (mintedAt 1) (launchedFrom 1) none,
   .recordMinted 1 (mintedAt 2) (launchedFrom 2) none,
   .recordMinted 2 (mintedAt 3) (launchedFrom 3) (some "old"),
   .setVisibility 1 .hiddenFromLists, .recordMelted 2 7, .beginMint 3 (.didPushed ⟨5, 6, 7, 8⟩) 0]

def refusedThere : List (@RegistryOp decimalDid) :=
  letI := decimalDid
  [.recordMinted 0 (mintedAt 4) (launchedFrom 4) none,
   .recordMinted 4 (mintedAt 2) (launchedFrom 2) none,
   .recordMinted 3 (mintedAt 4) (launchedFrom 5) none,
   .setActive 2, .setVisibility 0 .hiddenFromLists, .setLabel 4 (some "new"),
   .recordMelted 1 0, .recordMelted 4 7, .beginMint 3 (.didPushed ⟨5, 6, 7, 8⟩) 0,
   .beginSeededMint 1 (.didPushed ⟨5, 6, 7, 8⟩) 9 0,
   .beginMint 4 (.didPushed ⟨5, 6, 7, 8⟩) (maxMintFeeMojos + 1),
   .advanceMint 1 (.didPushed ⟨5, 6, 7, 8⟩), .abandonMint 2]

def refuses [DidEncoding] (r : ProfileRegistry) (op : RegistryOp) : Bool :=
  match r.perform op with
  | .returned (.error _) _ => true
  | _ => false

theorem failed_operation_changes_nothing_of_livingAndEnded :
    letI := decimalDid
    ∃ r, run step empty livingAndEnded = some r ∧ r.indices.length = 4 ∧
      ∀ op ∈ refusedThere, ∃ e after, r.perform op = .returned (.error e) after ∧ after = r := by
  let _ := decimalDid
  have hrefused : (run step empty livingAndEnded).map
      (fun r => (r.indices.length, refusedThere.all r.refuses)) = some (4, true) := by
    decide
  obtain ⟨r, hrun, hsame⟩ := Option.map_eq_some_iff.1 hrefused
  obtain ⟨hindices, hall⟩ := Prod.mk.inj hsame
  refine ⟨r, hrun, hindices, fun op hop => ?_⟩
  have hop := List.all_eq_true.1 hall op hop
  rw [refuses] at hop
  split at hop
  · rename_i e after hreturned
    exact ⟨e, after, hreturned, failed_operation_changes_nothing r op hreturned⟩
  · cases hop

def rootMint : ProfileMintInProgress := .new 0 (.didPushed ⟨1, 2, 3, 4⟩) 0

theorem nextFreeIx_never_reissued_of_rootMint :
    letI := decimalDid
    letI := fileJson
    empty.nextFreeIx = some 0 ∧
      empty.perform (.beginMint 0 rootMint.stage 0) = .returned (.ok ()) ⟨[], none, [rootMint]⟩ ∧
      ∀ later : List HostStep, (∀ op, .mutate op ∈ later → NeverAbandons op) →
        ∀ s, run hostStep ⟨[], none, [rootMint]⟩ later = some s →
          ∀ j, s.nextFreeIx = some j → 0 < j :=
  letI := decimalDid
  letI := fileJson
  letI := fileJson_lawful
  have hbegun : empty.perform (.beginMint 0 rootMint.stage 0) =
      .returned (.ok ()) ⟨[], none, [rootMint]⟩ := by decide
  ⟨rfl, hbegun,
    (nextFreeIx_never_reissued empty).2.2 (.beginMint 0 rootMint.stage 0) 0 _ rfl hbegun⟩

end ProfileRegistry

end DigAccount
