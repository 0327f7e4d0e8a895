import DigAccount.Registry.Registry

namespace DigAccount

namespace ProfileRegistry

open Validator KeyedList

structure RegistryInvariant (r : ProfileRegistry) : Prop where
  indices_unique : r.indices.Nodup
  entries_sorted : (r.entries.map ProfileEntry.ix).Pairwise (· ≤ ·)
  mints_sorted : (r.inProgress.map ProfileMintInProgress.ix).Pairwise (· ≤ ·)
  identities_unique : (r.entries.map fun entry => entry.anchor.launcherId).Nodup
  active_isSome : r.active.isSome ↔ ∃ entry ∈ r.entries, entry.isLive
  active_shown : ∀ ix, r.active = some ix →
    ∃ entry ∈ r.entries, entry.ix = ix ∧ entry.isLive ∧ entry.isShown

def ActiveOk (r : ProfileRegistry) : Prop :=
  match r.active with
  | none => ∀ entry ∈ r.entries, entry.isLive = false
  | some ix => ∃ entry, r.get ix = some entry ∧ entry.isLive ∧ entry.isShown

section

variable [DidEncoding]

structure EntryOk (entry : ProfileEntry) : Prop where
  did_honest : entry.anchor.did = didStringFromLauncherId entry.anchor.launcherId
  did_height : entry.anchor.didConfirmedHeight ≠ 0
  store_height : entry.anchor.storeConfirmedHeight ≠ 0
  paired : entry.anchor.pairingHolds = true
  end_height : ∀ ended, entry.ended = some ended → ended.atHeight ≠ 0

def DidRecordOk (did : MintedDidRecord) : Prop :=
  did.did = didStringFromLauncherId did.launcherId ∧ did.confirmedHeight ≠ 0

def StageOk (stage : MintStage) : Prop :=
  ∀ did ∈ stage.mintedDids, DidRecordOk did

def MintOk (mint : ProfileMintInProgress) : Prop :=
  mint.storeFee ≤ maxMintFeeMojos ∧ StageOk mint.stage

structure Accepted (r : ProfileRegistry) : Prop where
  entries_sorted : (r.entries.map ProfileEntry.ix).SortedLT
  mints_sorted : (r.inProgress.map ProfileMintInProgress.ix).SortedLT
  disjoint : ∀ entry ∈ r.entries, ∀ mint ∈ r.inProgress, entry.ix ≠ mint.ix
  active_ok : r.ActiveOk
  identities : (r.entries.map fun entry => entry.anchor.launcherId).Nodup
  entries_ok : ∀ entry ∈ r.entries, EntryOk entry
  mints_ok : ∀ mint ∈ r.inProgress, MintOk mint

theorem checkEntry_ok {entry : ProfileEntry} : checkEntry entry = .ok () ↔ EntryOk entry := by
  simp only [checkEntry, andThen_ok, refuseWhen_ok, not_not, Bool.not_eq_false]
  constructor
  · rintro ⟨hdid, hheight, hstore, hpair, hend⟩
    refine ⟨hdid, hheight, hstore, hpair, ?_⟩
    intro ended he
    simpa [he] using hend
  · rintro ⟨hdid, hheight, hstore, hpair, hend⟩
    refine ⟨hdid, hheight, hstore, hpair, ?_⟩
    cases he : entry.ended with
    | none => simp
    | some ended => simpa using hend ended he

theorem checkMintedDid_ok {ix : ProfileIx} {did : MintedDidRecord} :
    checkMintedDid ix did = .ok () ↔ DidRecordOk did := by
  simp [checkMintedDid, DidRecordOk]

theorem checkMint_ok {mint : ProfileMintInProgress} : checkMint mint = .ok () ↔ MintOk mint := by
  simp [checkMint, MintOk, StageOk, checkMintedDid_ok]

end

theorem live_head_isNone {r : ProfileRegistry} :
    r.live.head?.isNone = true ↔ ∀ entry ∈ r.entries, entry.isLive = false := by
  simp [live]

theorem get_mem {r : ProfileRegistry} {ix : ProfileIx} {entry : ProfileEntry}
    (h : r.get ix = some entry) : entry ∈ r.entries ∧ entry.ix = ix :=
  ⟨List.mem_of_find?_eq_some h, by simpa using List.find?_some h⟩

theorem contains_eq_true {r : ProfileRegistry} {ix : ProfileIx} :
    r.contains ix = true ↔ ix ∈ r.entries.map ProfileEntry.ix := by
  simp [contains, get]

theorem checkActive_ok {r : ProfileRegistry} : r.checkActive = .ok () ↔ r.ActiveOk := by
  rw [checkActive, ActiveOk]
  cases hactive : r.active with
  | none =>
      rw [← live_head_isNone]
      cases r.live.head?.isNone <;> simp
  | some ix =>
      have live_of_get : (∃ entry, r.get ix = some entry ∧ entry.isLive ∧ entry.isShown) →
          r.live.head?.isNone = false := by
        rintro ⟨entry, hget, hlive, -⟩
        rw [← Bool.not_eq_true, live_head_isNone]
        intro hdead
        rw [hdead entry (get_mem hget).1] at hlive
        cases hlive
      cases hnone : r.live.head?.isNone with
      | true =>
          refine iff_of_false (by simp) fun h => ?_
          rw [live_of_get h] at hnone
          cases hnone
      | false =>
          cases hget : r.get ix with
          | none => simp [hget]
          | some entry => simp [hget]

theorem indices_nodup {r : ProfileRegistry} :
    r.indices.Nodup ↔ (r.entries.map ProfileEntry.ix).Nodup ∧
      (r.inProgress.map ProfileMintInProgress.ix).Nodup ∧
      ∀ entry ∈ r.entries, ∀ mint ∈ r.inProgress, entry.ix ≠ mint.ix := by
  simp only [indices, List.nodup_append, List.mem_map, forall_exists_index, and_imp,
    forall_apply_eq_imp_iff₂]

variable [DidEncoding]

theorem check_ok {r : ProfileRegistry} :
    r.check = .ok () ↔ r.indices.Nodup ∧ r.ActiveOk ∧
      (r.entries.map fun entry => entry.anchor.launcherId).Nodup ∧
      (∀ entry ∈ r.entries, EntryOk entry) ∧ ∀ mint ∈ r.inProgress, MintOk mint := by
  simp only [check, andThen_ok, distinct_ok, each_ok, checkActive_ok, checkEntry_ok, checkMint_ok,
    List.map_id]

theorem accepted_iff {r : ProfileRegistry} :
    r.Accepted ↔ (r.entries.map ProfileEntry.ix).SortedLT ∧
      (r.inProgress.map ProfileMintInProgress.ix).SortedLT ∧ r.check = .ok () := by
  rw [check_ok, indices_nodup]
  constructor
  · rintro ⟨hes, hms, hdis, hact, hids, hes_ok, hms_ok⟩
    exact ⟨hes, hms, ⟨hes.nodup, hms.nodup, hdis⟩, hact, hids, hes_ok, hms_ok⟩
  · rintro ⟨hes, hms, ⟨-, -, hdis⟩, hact, hids, hes_ok, hms_ok⟩
    exact ⟨hes, hms, hdis, hact, hids, hes_ok, hms_ok⟩

theorem Accepted.check_eq {r : ProfileRegistry} (h : r.Accepted) : r.check = .ok () :=
  (accepted_iff.1 h).2.2

theorem Accepted.registryInvariant {r : ProfileRegistry} (h : r.Accepted) :
    r.RegistryInvariant := by
  have hactive := h.active_ok
  refine ⟨indices_nodup.2 ⟨h.entries_sorted.nodup, h.mints_sorted.nodup, h.disjoint⟩,
    h.entries_sorted.sortedLE.pairwise, h.mints_sorted.sortedLE.pairwise, h.identities, ?_, ?_⟩
  · rw [ActiveOk] at hactive
    cases hix : r.active with
    | none =>
        rw [hix] at hactive
        refine iff_of_false (by simp) ?_
        rintro ⟨entry, hmem, hlive⟩
        rw [hactive entry hmem] at hlive
        cases hlive
    | some ix =>
        rw [hix] at hactive
        obtain ⟨entry, hget, hlive, -⟩ := hactive
        exact iff_of_true rfl ⟨entry, (get_mem hget).1, hlive⟩
  · intro ix hix
    rw [ActiveOk] at hactive
    rw [hix] at hactive
    obtain ⟨entry, hget, hlive, hshown⟩ := hactive
    exact ⟨entry, (get_mem hget).1, (get_mem hget).2, hlive, hshown⟩

theorem empty_accepted : empty.Accepted := by
  refine ⟨List.Pairwise.sortedLT .nil, List.Pairwise.sortedLT .nil, ?_, ?_, .nil, ?_, ?_⟩
  · intro entry hmem
    cases hmem
  · intro entry hmem
    cases hmem
  · intro entry hmem
    cases hmem
  · intro mint hmem
    cases hmem

theorem tryFrom_accepted {raw : RawProfileRegistry} {r : ProfileRegistry}
    (h : tryFrom raw = .ok r) : r.Accepted := by
  unfold tryFrom at h
  dsimp only at h
  split at h
  · rename_i hcheck
    injection h with h
    have hok : r.check = .ok () := h ▸ hcheck
    have hnodup := indices_nodup.1 (check_ok.1 hok).1
    have hentries : (raw.entries.map ProfileEntry.ix).Nodup :=
      ((List.mergeSort_perm raw.entries _).map ProfileEntry.ix).nodup_iff.1 (h ▸ hnodup.1)
    have hmints : (raw.inProgress.map ProfileMintInProgress.ix).Nodup :=
      ((List.mergeSort_perm raw.inProgress _).map ProfileMintInProgress.ix).nodup_iff.1
        (h ▸ hnodup.2.1)
    rw [accepted_iff]
    subst h
    exact ⟨sorted_mergeSort hentries, sorted_mergeSort hmints, hok⟩
  · cases h

theorem fromJson_accepted [RegistryJson] {json : String} {r : ProfileRegistry}
    (h : fromJson json = .ok r) : r.Accepted := by
  rw [fromJson] at h
  cases hparse : RegistryJson.parse json with
  | error reason =>
      rw [hparse] at h
      cases h
  | ok raw =>
      rw [hparse] at h
      dsimp only at h
      cases hraw : tryFrom raw with
      | error reason =>
          rw [hraw] at h
          cases h
      | ok registry =>
          rw [hraw] at h
          cases h
          exact tryFrom_accepted hraw

end ProfileRegistry

end DigAccount
