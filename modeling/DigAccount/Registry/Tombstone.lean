import DigAccount.Registry.Edits

namespace DigAccount

deriving instance DecidableEq for Mutation

inductive HostStep [DidEncoding] where
  | mutate (op : RegistryOp)
  | reload

namespace ProfileRegistry

open Validator KeyedList PartialMachine

structure Tombstone [DidEncoding] (r : ProfileRegistry) (ix : ProfileIx) (anchor : ProfileAnchor)
    (ended : ProfileEnd) : Prop where
  entry : ∃ entry, r.get ix = some entry ∧ entry.anchor = anchor ∧ entry.ended = some ended
  not_active : r.active ≠ some ix
  not_shown : ∀ entry ∈ r.shown, entry.ix ≠ ix
  melt_again : ∀ atHeight, atHeight ≠ 0 →
    r.recordMelted ix atHeight = .returned (.ok .alreadyEnded) r
  activate_refused : r.setActive ix = .returned (.error (.profileEnded ix)) r
  mint_refused : ∀ j (did : MintedDid) store label, did.launcherId = anchor.launcherId →
    ∃ e, r.recordMinted j did store label = .returned (.error e) r

variable [DidEncoding]

section Reload

variable [RegistryJson]

def hostStep (r : ProfileRegistry) : HostStep → Option ProfileRegistry
  | .mutate op => r.step op
  | .reload => r.reload.toOption

theorem hostStep_reload {r next : ProfileRegistry} (h : r.hostStep .reload = some next) :
    r.reload = .ok next := by
  rw [hostStep] at h
  cases hreload : r.reload with
  | error e =>
      rw [hreload] at h
      cases h
  | ok loaded =>
      rw [hreload] at h
      cases h
      rfl

theorem reload_perm [LawfulRegistryJson] {r next : ProfileRegistry} (h : r.reload = .ok next) :
    next.entries.Perm r.entries ∧ next.inProgress.Perm r.inProgress := by
  obtain ⟨json, hjson, hload⟩ := reload_ok h
  have hprint : RegistryJson.print r.intoRaw = .ok json := by
    rw [toJson] at hjson
    split at hjson
    · cases hjson
    · rename_i printed hprinted
      cases hjson
      exact hprinted
  rw [fromJson] at hload
  rw [LawfulRegistryJson.parse_print _ _ hprint] at hload
  dsimp only at hload
  unfold tryFrom at hload
  dsimp only at hload
  split at hload
  · cases hload
  · rename_i registry hregistry
    cases hload
    split at hregistry
    · cases hregistry
      exact ⟨List.mergeSort_perm _ _, List.mergeSort_perm _ _⟩
    · cases hregistry

theorem reload_outlives [LawfulRegistryJson] {r next : ProfileRegistry}
    (h : r.reload = .ok next) : next.Outlives r := by
  obtain ⟨json, -, hload⟩ := reload_ok h
  exact outlives_of_subset (fromJson_accepted hload).nodup (reload_perm h).1.symm.subset

theorem hostStep_sound [LawfulRegistryJson] {r next : ProfileRegistry} (h : r.Sound)
    {s : HostStep} (hstep : r.hostStep s = some next) : next.Sound ∧ next.Outlives r := by
  cases s with
  | mutate op => exact step_sound h hstep
  | reload =>
      have hreload := hostStep_reload hstep
      obtain ⟨json, -, hload⟩ := reload_ok hreload
      exact ⟨sound_of_check (fromJson_accepted hload).check_eq, reload_outlives hreload⟩

theorem run_sound [LawfulRegistryJson] {start r : ProfileRegistry} (h : start.Sound)
    {steps : List HostStep} (hrun : run hostStep start steps = some r) : r.Sound :=
  run_invariant (fun _ _ _ _ hs hstep => (hostStep_sound hs hstep).1) h hrun

theorem run_outlives [LawfulRegistryJson] {start r : ProfileRegistry} (h : start.Sound)
    {ix : ProfileIx} {anchor : ProfileAnchor} {ended : ProfileEnd}
    (hentry : ∃ entry, start.get ix = some entry ∧ entry.anchor = anchor ∧
      entry.ended = some ended)
    {steps : List HostStep} (hrun : run hostStep start steps = some r) :
    r.Sound ∧ ∃ entry, r.get ix = some entry ∧ entry.anchor = anchor ∧
      entry.ended = some ended := by
  have hkeep : ∀ op ∈ steps, ∀ s next : ProfileRegistry,
      (s.Sound ∧ ∃ entry, s.get ix = some entry ∧ entry.anchor = anchor ∧
        entry.ended = some ended) → s.hostStep op = some next →
      next.Sound ∧ ∃ entry, next.get ix = some entry ∧ entry.anchor = anchor ∧
        entry.ended = some ended := by
    rintro op - s next ⟨hs, entry, hget, rfl, hended⟩ hstep
    obtain ⟨hnext, houtlives⟩ := hostStep_sound hs hstep
    obtain ⟨entry', hget', hanchor, hended'⟩ :=
      houtlives ix entry hget (by simp [ProfileEntry.isLive, hended])
    exact ⟨hnext, entry', hget', hanchor, hended'.trans hended⟩
  exact run_invariant hkeep ⟨h, hentry⟩ hrun

end Reload

theorem Sound.tombstone {r : ProfileRegistry} (h : r.Sound) {ix : ProfileIx}
    {anchor : ProfileAnchor} {ended : ProfileEnd} {entry : ProfileEntry}
    (hget : r.get ix = some entry) (hanchor : entry.anchor = anchor)
    (hended : entry.ended = some ended) : r.Tombstone ix anchor ended := by
  have hdead : entry.isLive = false := by simp [ProfileEntry.isLive, hended]
  refine ⟨⟨entry, hget, hanchor, hended⟩, fun hactive => ?_, fun e he hix => ?_, ?_, ?_, ?_⟩
  · rw [h.active_live ix entry hactive hget] at hdead
    cases hdead
  · rw [shown] at he
    simp only [List.mem_filter, Bool.and_eq_true] at he
    have hfound := (find?_eq_some_iff h.unique).2 ⟨he.1, hix⟩
    have hsame : entry = e := Option.some.inj (hget.symm.trans hfound)
    rw [hsame, he.2.1] at hdead
    cases hdead
  · intro atHeight hzero
    rw [recordMelted, ProfileEnd.at]
    rw [if_neg hzero]
    dsimp only
    rw [hget]
    exact if_pos hdead
  · rw [setActive]
    rw [hget]
    exact if_pos hdead
  · intro j did store label hlauncher
    rw [recordMinted]
    split
    · exact ⟨_, rfl⟩
    · cases hholder : r.holderOf did.launcherId with
      | some existing => exact ⟨_, rfl⟩
      | none =>
          rw [holderOf_eq_none] at hholder
          refine absurd (List.mem_map.2 ⟨entry, (get_mem hget).1, ?_⟩) hholder
          rw [hanchor, hlauncher]

theorem recordMelted_ok {r after : ProfileRegistry} {ix : ProfileIx} {atHeight : Nat}
    {outcome : ProfileEndOutcome}
    (h : r.recordMelted ix atHeight = .returned (.ok outcome) after) :
    ∃ entry, r.get ix = some entry ∧
      ((entry.isLive = false ∧ outcome = .alreadyEnded ∧ after = r) ∨
        (outcome ≠ .alreadyEnded ∧ after.check = .ok () ∧
          after.get ix = some (entry.setEnd ⟨atHeight⟩))) := by
  rw [recordMelted, ProfileEnd.at] at h
  by_cases hzero : atHeight = 0
  · rw [if_pos hzero] at h
    cases h
  rw [if_neg hzero] at h
  dsimp only at h
  cases hget : r.get ix with
  | none =>
      rw [hget] at h
      cases h
  | some entry =>
      rw [hget] at h
      dsimp only at h
      have hended : ∀ a, ({ r.entryMut ix (·.setEnd ⟨atHeight⟩) with active := a } :
          ProfileRegistry).get ix = some (entry.setEnd ⟨atHeight⟩) := by
        intro a
        rw [get_withActive, get_entryMut (f := (·.setEnd ⟨atHeight⟩)) (fun _ => rfl), hget]
        simp
      refine ⟨entry, rfl, ?_⟩
      split at h
      · rename_i hdead
        cases h
        exact .inl ⟨hdead, rfl, rfl⟩
      · refine .inr ?_
        split at h
        · obtain ⟨hvalue, rfl, hcheck⟩ := expectValid_returned h
          cases hvalue
          exact ⟨by decide, hcheck, hended r.active⟩
        · split at h
          · obtain ⟨hvalue, rfl, hcheck⟩ := expectValid_returned h
            cases hvalue
            exact ⟨by simp, hcheck, hended _⟩
          · obtain ⟨hvalue, rfl, hcheck⟩ := expectValid_returned h
            cases hvalue
            exact ⟨by decide, hcheck, hended none⟩

theorem recordMelted_stays [RegistryJson] [LawfulRegistryJson] {start r after : ProfileRegistry}
    (hstart : start.Loadable) {before : List HostStep}
    (hbefore : run hostStep start before = some r)
    {ix : ProfileIx} {atHeight : Nat} {outcome : ProfileEndOutcome}
    (hmelt : r.recordMelted ix atHeight = .returned (.ok outcome) after) :
    ∃ entry ended, r.get ix = some entry ∧ (outcome ≠ .alreadyEnded → ended.atHeight = atHeight) ∧
      (outcome = .alreadyEnded → entry.ended = some ended) ∧
      ∀ later s, run hostStep after later = some s → s.Tombstone ix entry.anchor ended := by
  have hsound := run_sound (sound_of_check hstart.accepted.check_eq) hbefore
  obtain ⟨entry, hget, ⟨hdead, rfl, rfl⟩ | ⟨hrecorded, hcheck, hended⟩⟩ := recordMelted_ok hmelt
  · obtain ⟨ended, hended⟩ := Option.isSome_iff_exists.1
      (by simpa [ProfileEntry.isLive] using hdead : entry.ended.isSome)
    refine ⟨entry, ended, hget, fun h => absurd rfl h, fun _ => hended, fun later s hlater => ?_⟩
    obtain ⟨hs, e, he, hanchor, hend⟩ := run_outlives hsound ⟨entry, hget, rfl, hended⟩ hlater
    exact hs.tombstone he hanchor hend
  · refine ⟨entry, ⟨atHeight⟩, hget, fun _ => rfl, fun h => absurd h hrecorded,
      fun later s hlater => ?_⟩
    obtain ⟨hs, e, he, hanchor, hend⟩ :=
      run_outlives (sound_of_check hcheck) ⟨_, hended, rfl, rfl⟩ hlater
    exact hs.tombstone he hanchor hend

end ProfileRegistry

namespace ProfileRegistry

open PartialMachine

def meltOnly : List (@HostStep decimalDid) :=
  letI := decimalDid
  [.mutate (.recordMinted 0 (mintedAt 1) (launchedFrom 1) none)]

theorem recordMelted_stays_meltOnly :
    letI := decimalDid
    letI := fileJson
    ∃ r after, run hostStep empty meltOnly = some r ∧
      r.recordMelted 0 7 = .returned (.ok .noLiveProfileRemains) after ∧
      ∃ entry ended, r.get 0 = some entry ∧
        (ProfileEndOutcome.noLiveProfileRemains ≠ .alreadyEnded → ended.atHeight = 7) ∧
        (ProfileEndOutcome.noLiveProfileRemains = .alreadyEnded → entry.ended = some ended) ∧
        ∀ later s, run hostStep after later = some s → s.Tombstone 0 entry.anchor ended :=
  letI := decimalDid
  letI := fileJson
  letI := fileJson_lawful
  let entry : ProfileEntry := ⟨0, ⟨"did:chia:1", 1, 1, 1, 1, 1, some 1, some 1⟩, none, .shown, none⟩
  have hrun : run hostStep empty meltOnly = some ⟨[entry], some 0, []⟩ := by decide
  have hmelt : ProfileRegistry.recordMelted ⟨[entry], some 0, []⟩ 0 7 =
      .returned (.ok .noLiveProfileRemains) ⟨[entry.setEnd ⟨7⟩], none, []⟩ := by decide
  ⟨_, _, hrun, hmelt, recordMelted_stays (.inl rfl) hrun hmelt⟩

end ProfileRegistry

end DigAccount
