import DigAccount.Registry.Persistence

namespace DigAccount

variable {α β : Type}

def Mutation.map (f : α → β) : Mutation α → Mutation β
  | .panicked reason => .panicked reason
  | .returned result after => .returned (result.map f) after

namespace ProfileRegistry

open Validator KeyedList

variable {r next : ProfileRegistry} {ix j : ProfileIx}

def Outlives (next r : ProfileRegistry) : Prop :=
  ∀ ix entry, r.get ix = some entry → entry.isLive = false →
    ∃ entry', next.get ix = some entry' ∧ entry'.anchor = entry.anchor ∧
      entry'.ended = entry.ended

structure Sound (r : ProfileRegistry) : Prop where
  unique : (r.entries.map ProfileEntry.ix).Nodup
  active_live : ∀ ix entry, r.active = some ix → r.get ix = some entry → entry.isLive = true

theorem outlives_of_entries {r next : ProfileRegistry} (h : next.entries = r.entries) :
    next.Outlives r := by
  intro ix entry hget _
  refine ⟨entry, ?_, rfl, rfl⟩
  rw [← hget]
  simp only [get]
  rw [h]

theorem outlives_entryMut {r : ProfileRegistry} {j : ProfileIx} {f : ProfileEntry → ProfileEntry}
    (hix : ∀ entry, (f entry).ix = entry.ix) (hanchor : ∀ entry, (f entry).anchor = entry.anchor)
    (hended : ∀ entry, r.get j = some entry → entry.isLive = false →
      (f entry).ended = entry.ended) (a : Option ProfileIx) :
    Outlives { r.entryMut j f with active := a } r := by
  intro ix entry hget hdead
  refine ⟨if ix = j then f entry else entry, ?_, ?_, ?_⟩
  · rw [get_withActive, get_entryMut hix, hget]
    rfl
  · split
    · exact hanchor entry
    · rfl
  · split
    · rename_i hj
      exact hended entry (hj ▸ hget) hdead
    · rfl

theorem outlives_of_subset {r next : ProfileRegistry}
    (unique : (next.entries.map ProfileEntry.ix).Nodup) (h : r.entries ⊆ next.entries) :
    next.Outlives r := by
  intro ix entry hget _
  obtain ⟨hmem, hix⟩ := get_mem hget
  exact ⟨entry, (find?_eq_some_iff unique).2 ⟨h hmem, hix⟩, rfl, rfl⟩

theorem mem_indices :
    j ∈ r.indices ↔ j ∈ r.entries.map ProfileEntry.ix ∨
      j ∈ r.inProgress.map ProfileMintInProgress.ix :=
  List.mem_append

theorem indices_of_keys
    (hentries : next.entries.map ProfileEntry.ix = r.entries.map ProfileEntry.ix)
    (hmints : next.inProgress.map ProfileMintInProgress.ix =
      r.inProgress.map ProfileMintInProgress.ix) : r.indices ⊆ next.indices := by
  intro j hj
  rw [mem_indices] at hj ⊢
  rwa [hentries, hmints]

theorem entryMut_keys {f : ProfileEntry → ProfileEntry} (hf : ∀ entry, (f entry).ix = entry.ix) :
    (r.entryMut ix f).entries.map ProfileEntry.ix = r.entries.map ProfileEntry.ix :=
  map_modifyFirst hf r.entries

theorem Sound.setLabel {r : ProfileRegistry} (h : r.Sound) (ix : ProfileIx)
    (label : Option String) : (r.entryMut ix (·.setLabel label)).Sound := by
  have hkeys : (r.entryMut ix (·.setLabel label)).entries.map ProfileEntry.ix =
      r.entries.map ProfileEntry.ix := entryMut_keys fun _ => rfl
  refine ⟨hkeys ▸ h.unique, fun j entry hactive hget => ?_⟩
  rw [get_entryMut (f := (·.setLabel label)) (fun _ => rfl), Option.map_eq_some_iff] at hget
  obtain ⟨e, he, rfl⟩ := hget
  have hlive := h.active_live j e hactive he
  split
  · exact hlive
  · exact hlive

structure Relabels (next r : ProfileRegistry) : Prop where
  sound : r.Sound → next.Sound
  outlives : next.Outlives r
  indices : r.indices ⊆ next.indices

section Shapes

variable [DidEncoding]

structure Replaces (keeps : Prop) (next r : ProfileRegistry) : Prop where
  outlives : next.check = .ok () → next.Outlives r
  indices : keeps → r.indices ⊆ next.indices

inductive Shaped (keeps : Prop) (r : ProfileRegistry) : Mutation α → Prop
  | stayed (result : Except AccountError α) : Shaped keeps r (.returned result r)
  | relabelled (value : α) {next : ProfileRegistry} (h : next.Relabels r) :
      Shaped keeps r (.returned (.ok value) next)
  | replaced (value : α) {next : ProfileRegistry} (h : Replaces keeps next r) :
      Shaped keeps r (next.expectValid value)

variable {keeps : Prop}

theorem unique_of_check {r : ProfileRegistry} (h : r.check = .ok ()) :
    (r.entries.map ProfileEntry.ix).Nodup :=
  (indices_nodup.1 (check_ok.1 h).1).1

theorem sound_of_check {r : ProfileRegistry} (h : r.check = .ok ()) : r.Sound := by
  refine ⟨unique_of_check h, fun ix entry hactive hget => ?_⟩
  exact live_of_active (check_ok.1 h).2.1 hactive hget

theorem after?_expectValid {r next : ProfileRegistry} {value : α}
    (h : (r.expectValid value).after? = some next) : next = r ∧ r.check = .ok () := by
  rw [expectValid] at h
  rcases ok_or_error r.check with hok | ⟨reason, herr⟩
  · rw [hok] at h
    cases h
    exact ⟨rfl, hok⟩
  · rw [herr] at h
    cases h

theorem expectValid_returned {r after : ProfileRegistry} {value : α}
    {result : Except AccountError α} (h : r.expectValid value = .returned result after) :
    result = .ok value ∧ after = r ∧ r.check = .ok () := by
  rw [expectValid] at h
  rcases ok_or_error r.check with hok | ⟨reason, herr⟩
  · rw [hok] at h
    cases h
    exact ⟨rfl, rfl, hok⟩
  · rw [herr] at h
    cases h

theorem Shaped.refused {m : Mutation α} (h : Shaped keeps r m) {e : AccountError}
    (hm : m = .returned (.error e) next) : next = r := by
  cases h with
  | stayed result =>
      cases hm
      rfl
  | relabelled value hnext => cases hm
  | replaced value hnext =>
      obtain ⟨hvalue, -⟩ := expectValid_returned hm
      cases hvalue

theorem Shaped.sound {m : Mutation α} (h : Shaped keeps r m) (hr : r.Sound)
    (hm : m.after? = some next) : next.Sound ∧ next.Outlives r := by
  cases h with
  | stayed result =>
      cases hm
      exact ⟨hr, outlives_of_entries rfl⟩
  | relabelled value hnext =>
      cases hm
      exact ⟨hnext.sound hr, hnext.outlives⟩
  | replaced value hnext =>
      obtain ⟨rfl, hcheck⟩ := after?_expectValid hm
      exact ⟨sound_of_check hcheck, hnext.outlives hcheck⟩

theorem Shaped.indices {m : Mutation α} (h : Shaped keeps r m) (hkeeps : keeps)
    (hm : m.after? = some next) : r.indices ⊆ next.indices := by
  cases h with
  | stayed result =>
      cases hm
      exact List.Subset.refl _
  | relabelled value hnext =>
      cases hm
      exact hnext.indices
  | replaced value hnext =>
      obtain ⟨rfl, -⟩ := after?_expectValid hm
      exact hnext.indices hkeeps

theorem Shaped.map {m : Mutation α} (h : Shaped keeps r m) (f : α → β) :
    Shaped keeps r (m.map f) := by
  cases h with
  | stayed result => exact .stayed _
  | relabelled value hnext => exact .relabelled _ hnext
  | replaced value hnext =>
      rename_i next
      have hmap : (next.expectValid value).map f = next.expectValid (f value) := by
        simp only [expectValid]
        cases next.check <;> rfl
      rw [hmap]
      exact .replaced _ hnext

theorem replaces_entryMut {f : ProfileEntry → ProfileEntry}
    (hix : ∀ entry, (f entry).ix = entry.ix) (hanchor : ∀ entry, (f entry).anchor = entry.anchor)
    (hended : ∀ entry, r.get ix = some entry → entry.isLive = false →
      (f entry).ended = entry.ended) (a : Option ProfileIx) :
    Replaces keeps { r.entryMut ix f with active := a } r where
  outlives := fun _ => outlives_entryMut hix hanchor hended a
  indices := fun _ => indices_of_keys (entryMut_keys hix) rfl

theorem recordMinted_shaped (did : MintedDid) (store : ConfirmedStore) (label : Option String) :
    Shaped True r (r.recordMinted ix did store label) := by
  rw [recordMinted]
  split
  · exact .stayed _
  split
  · exact .stayed _
  split
  · exact .stayed _
  rename_i anchor hanchor
  have hperm := insert_perm (fun entry : ProfileEntry => entry.ix < ix)
    (ProfileEntry.new ix anchor label) r.entries
  refine .replaced _ ⟨fun hcheck => ?_, fun _ j hj => ?_⟩
  · refine outlives_of_subset (unique_of_check hcheck) fun entry hentry => ?_
    exact hperm.mem_iff.2 (List.mem_cons_of_mem _ hentry)
  · rw [mem_indices, (hperm.map ProfileEntry.ix).mem_iff, List.map_cons, List.mem_cons]
    rcases mem_indices.1 hj with hentry | hmint
    · exact .inl (.inr hentry)
    · by_cases hsame : j = ix
      · exact .inl (.inl hsame)
      · obtain ⟨mint, hmem, rfl⟩ := List.mem_map.1 hmint
        exact .inr (List.mem_map.2 ⟨mint, List.mem_filter.2 ⟨hmem, decide_eq_true hsame⟩, rfl⟩)

theorem setActive_shaped : Shaped True r (r.setActive ix) := by
  rw [setActive]
  split
  · exact .stayed _
  split
  · exact .stayed _
  · exact .replaced _ (replaces_entryMut (f := (·.setVisibility .shown)) (fun _ => rfl)
      (fun _ => rfl) (fun _ _ _ => rfl) _)

theorem setVisibility_shaped (v : ProfileVisibility) : Shaped True r (r.setVisibility ix v) := by
  rw [setVisibility]
  split
  · exact .stayed _
  split
  · exact .stayed _
  · exact .replaced _ (replaces_entryMut (f := (·.setVisibility v)) (fun _ => rfl)
      (fun _ => rfl) (fun _ _ _ => rfl) r.active)

theorem setLabel_shaped (label : Option String) : Shaped True r (r.setLabel ix label) := by
  rw [setLabel]
  split
  · exact .stayed _
  · refine .relabelled _ ⟨fun h => h.setLabel ix label, ?_, ?_⟩
    · exact outlives_entryMut (f := (·.setLabel label)) (fun _ => rfl) (fun _ => rfl)
        (fun _ _ _ => rfl) r.active
    · exact indices_of_keys (entryMut_keys fun _ => rfl) rfl

theorem recordMelted_shaped (atHeight : Nat) : Shaped True r (r.recordMelted ix atHeight) := by
  rw [recordMelted]
  split
  · exact .stayed _
  rename_i ended _
  split
  · exact .stayed _
  rename_i entry hget
  split
  · exact .stayed _
  rename_i hlive
  have hended : ∀ a, Replaces True { r.entryMut ix (·.setEnd ended) with active := a } r := by
    refine replaces_entryMut (f := (·.setEnd ended)) (fun _ => rfl) (fun _ => rfl) ?_
    intro e he hdead
    rw [hget, Option.some.injEq] at he
    exact absurd (he ▸ hdead) hlive
  dsimp only
  split
  · exact .replaced _ (hended r.active)
  split
  · exact .replaced _ (hended _)
  · exact .replaced _ (hended none)

theorem reserve_shaped (mint : ProfileMintInProgress) : Shaped True r (r.reserve mint) := by
  rw [reserve]
  split
  · exact .stayed _
  split
  · exact .stayed _
  split
  · exact .stayed _
  refine .replaced _ ⟨fun _ => outlives_of_entries rfl, fun _ j hj => ?_⟩
  have hperm := insert_perm (fun m : ProfileMintInProgress => m.ix < mint.ix) mint r.inProgress
  rw [mem_indices, (hperm.map ProfileMintInProgress.ix).mem_iff, List.map_cons, List.mem_cons]
  exact (mem_indices.1 hj).imp id .inr

theorem advanceMint_shaped (stage : MintStage) : Shaped True r (r.advanceMint ix stage) := by
  rw [advanceMint]
  split
  · exact .stayed _
  · rename_i position _
    have hkeys := map_modify (f := (·.setStage stage)) (g := ProfileMintInProgress.ix)
      (fun _ => rfl) r.inProgress position
    refine .relabelled _ ⟨fun h => ⟨h.unique, h.active_live⟩, outlives_of_entries rfl, ?_⟩
    exact indices_of_keys rfl hkeys

theorem abandonMint_shaped : Shaped False r (r.abandonMint ix) := by
  rw [abandonMint]
  split
  · exact .stayed _
  · exact .replaced _ ⟨fun _ => outlives_of_entries rfl, False.elim⟩

def perform (r : ProfileRegistry) : RegistryOp → Mutation Unit
  | .recordMinted ix did store label => (r.recordMinted ix did store label).map fun _ => ()
  | .setActive ix => (r.setActive ix).map fun _ => ()
  | .setVisibility ix v => r.setVisibility ix v
  | .setLabel ix label => r.setLabel ix label
  | .recordMelted ix atHeight => (r.recordMelted ix atHeight).map fun _ => ()
  | .beginMint ix stage storeFee => r.beginMint ix stage storeFee
  | .beginSeededMint ix stage seedRoot storeFee => r.beginSeededMint ix stage seedRoot storeFee
  | .advanceMint ix stage => r.advanceMint ix stage
  | .abandonMint ix => r.abandonMint ix

def NeverAbandons : RegistryOp → Prop
  | .abandonMint _ => False
  | _ => True

theorem perform_shaped (r : ProfileRegistry) (op : RegistryOp) :
    Shaped (NeverAbandons op) r (r.perform op) := by
  cases op with
  | recordMinted ix did store label => exact (recordMinted_shaped did store label).map _
  | setActive ix => exact setActive_shaped.map _
  | setVisibility ix v => exact setVisibility_shaped v
  | setLabel ix label => exact setLabel_shaped label
  | recordMelted ix atHeight => exact (recordMelted_shaped atHeight).map _
  | beginMint ix stage storeFee => exact reserve_shaped _
  | beginSeededMint ix stage seedRoot storeFee => exact reserve_shaped _
  | advanceMint ix stage => exact advanceMint_shaped stage
  | abandonMint ix => exact abandonMint_shaped

theorem perform_after? (r : ProfileRegistry) (op : RegistryOp) :
    (r.perform op).after? = r.step op := by
  have mapped {γ : Type} (m : Mutation γ) : (m.map fun _ => ()).after? = m.after? := by
    cases m <;> rfl
  cases op with
  | recordMinted ix did store label => exact mapped _
  | setActive ix => exact mapped _
  | recordMelted ix atHeight => exact mapped _
  | setVisibility ix v => rfl
  | setLabel ix label => rfl
  | beginMint ix stage storeFee => rfl
  | beginSeededMint ix stage seedRoot storeFee => rfl
  | advanceMint ix stage => rfl
  | abandonMint ix => rfl

theorem step_sound {r next : ProfileRegistry} (h : r.Sound) {op : RegistryOp}
    (hstep : r.step op = some next) : next.Sound ∧ next.Outlives r :=
  (perform_shaped r op).sound h ((perform_after? r op).trans hstep)

theorem step_indices {op : RegistryOp} (hkeeps : NeverAbandons op)
    (hstep : r.step op = some next) : r.indices ⊆ next.indices :=
  (perform_shaped r op).indices hkeeps ((perform_after? r op).trans hstep)

end Shapes

end ProfileRegistry

end DigAccount
