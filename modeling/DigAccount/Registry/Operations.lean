import DigAccount.Registry.Invariant

namespace DigAccount

namespace ProfileRegistry

open Validator KeyedList

def successorOf (r : ProfileRegistry) (ix : ProfileIx) : Option ProfileEntry :=
  r.entries.find? fun entry => entry.isLive && decide (entry.ix ≠ ix)

def SuccessorShown (r : ProfileRegistry) (ix : ProfileIx) (atHeight : Nat) : Prop :=
  atHeight ≠ 0 → r.active = some ix → ∀ entry, r.successorOf ix = some entry → entry.isShown = true

@[simp] theorem get_withActive {r : ProfileRegistry} {a : Option ProfileIx} {j : ProfileIx} :
    ({ r with active := a } : ProfileRegistry).get j = r.get j := rfl

@[simp] theorem entryMut_inProgress {r : ProfileRegistry} {ix : ProfileIx}
    {f : ProfileEntry → ProfileEntry} : (r.entryMut ix f).inProgress = r.inProgress := rfl

@[simp] theorem entryMut_active {r : ProfileRegistry} {ix : ProfileIx}
    {f : ProfileEntry → ProfileEntry} : (r.entryMut ix f).active = r.active := rfl

theorem get_entryMut {r : ProfileRegistry} {ix : ProfileIx} {f : ProfileEntry → ProfileEntry}
    (hf : ∀ entry, (f entry).ix = entry.ix) (j : ProfileIx) :
    (r.entryMut ix f).get j = (r.get j).map fun entry => if j = ix then f entry else entry :=
  find?_modifyFirst hf ix j r.entries

theorem mintPosition_isSome {r : ProfileRegistry} {ix : ProfileIx} :
    (r.mintPosition ix).isSome = true ↔ ix ∈ r.inProgress.map ProfileMintInProgress.ix := by
  simp [mintPosition]

theorem holderOf_eq_none {r : ProfileRegistry} {launcherId : Bytes32} :
    r.holderOf launcherId = none ↔
      launcherId ∉ r.entries.map fun entry => entry.anchor.launcherId := by
  simp [holderOf]

theorem live_of_active {r : ProfileRegistry} {ix : ProfileIx} {entry : ProfileEntry}
    (hok : r.ActiveOk) (hactive : r.active = some ix) (hget : r.get ix = some entry) :
    entry.isLive = true := by
  rw [ActiveOk] at hok
  rw [hactive] at hok
  obtain ⟨e, he, hlive, -⟩ := hok
  rw [hget, Option.some.injEq] at he
  exact he ▸ hlive

theorem get_of_active {r : ProfileRegistry} {ix : ProfileIx} (hok : r.ActiveOk)
    (hactive : r.active = some ix) : ∃ entry, r.get ix = some entry := by
  rw [ActiveOk] at hok
  rw [hactive] at hok
  obtain ⟨entry, hget, -⟩ := hok
  exact ⟨entry, hget⟩

variable [DidEncoding]

theorem Accepted.nodup {r : ProfileRegistry} (h : r.Accepted) :
    (r.entries.map ProfileEntry.ix).Nodup :=
  h.entries_sorted.nodup

theorem Accepted.mem_entryMut {r : ProfileRegistry} (h : r.Accepted) {ix : ProfileIx}
    {f : ProfileEntry → ProfileEntry} {entry : ProfileEntry} :
    entry ∈ (r.entryMut ix f).entries ↔
      ∃ e ∈ r.entries, (if e.ix = ix then f e else e) = entry :=
  mem_modifyFirst h.nodup

theorem EntryOk.of_sameAnchor {e e' : ProfileEntry} (h : EntryOk e) (hanchor : e'.anchor = e.anchor)
    (hend : ∀ ended, e'.ended = some ended → ended.atHeight ≠ 0) : EntryOk e' where
  did_honest := hanchor ▸ h.did_honest
  did_height := hanchor ▸ h.did_height
  store_height := hanchor ▸ h.store_height
  paired := hanchor ▸ h.paired
  end_height := hend

theorem Accepted.entryMut {r : ProfileRegistry} (h : r.Accepted) {ix : ProfileIx}
    {f : ProfileEntry → ProfileEntry} (hix : ∀ entry, (f entry).ix = entry.ix)
    (hanchor : ∀ entry, (f entry).anchor = entry.anchor)
    (hend : ∀ entry ∈ r.entries, ∀ ended, (f entry).ended = some ended → ended.atHeight ≠ 0)
    {a : Option ProfileIx} (hactive : ActiveOk { r.entryMut ix f with active := a }) :
    Accepted { r.entryMut ix f with active := a } := by
  have hkeys : ((r.entryMut ix f).entries.map ProfileEntry.ix) = r.entries.map ProfileEntry.ix :=
    map_modifyFirst hix r.entries
  have hids : ((r.entryMut ix f).entries.map fun entry => entry.anchor.launcherId) =
      r.entries.map fun entry => entry.anchor.launcherId :=
    map_modifyFirst (fun entry => by rw [hanchor]) r.entries
  refine ⟨hkeys ▸ h.entries_sorted, h.mints_sorted, ?_, hactive, hids ▸ h.identities, ?_,
    h.mints_ok⟩
  · intro entry hmem mint hmint
    obtain ⟨e, he, rfl⟩ := h.mem_entryMut.1 hmem
    have hne := h.disjoint e he mint hmint
    split
    · rw [hix]
      exact hne
    · exact hne
  · intro entry hmem
    obtain ⟨e, he, rfl⟩ := h.mem_entryMut.1 hmem
    split
    · exact (h.entries_ok e he).of_sameAnchor (hanchor e) (hend e he)
    · exact h.entries_ok e he

theorem Accepted.live_head_setEnd {r : ProfileRegistry} (h : r.Accepted) {ix : ProfileIx}
    {ended : ProfileEnd} :
    (r.entryMut ix (·.setEnd ended)).live.head? = r.successorOf ix := by
  have hpred : (ProfileEntry.isLive ∘ fun e : ProfileEntry =>
      if e.ix = ix then e.setEnd ended else e) =
        fun entry => entry.isLive && decide (entry.ix ≠ ix) := by
    funext e
    by_cases he : e.ix = ix <;> simp [he]
  rw [live, successorOf, ProfileRegistry.entryMut]
  rw [modifyFirst_eq_map h.nodup, List.head?_filter, List.find?_map, hpred]
  cases hfind : r.entries.find? fun entry => entry.isLive && decide (entry.ix ≠ ix) with
  | none => rfl
  | some entry =>
      have hne : entry.ix ≠ ix := by
        have := List.find?_some hfind
        simp_all
      simp [hne]

theorem Accepted.insertEntry {r : ProfileRegistry} (h : r.Accepted) {entry : ProfileEntry}
    (hlive : entry.isLive = true) (hshown : entry.isShown = true) (hok : EntryOk entry)
    (hnew : entry.ix ∉ r.entries.map ProfileEntry.ix)
    (hid : entry.anchor.launcherId ∉ r.entries.map fun e => e.anchor.launcherId) :
    Accepted {
      entries := r.entries.insertIdx (partitionPoint (fun e => e.ix < entry.ix) r.entries) entry
      active := if r.active.isNone then some entry.ix else r.active
      inProgress := r.inProgress.filter fun mint => mint.ix ≠ entry.ix } := by
  have hperm := insert_perm (fun e => e.ix < entry.ix) entry r.entries
  have hsorted := sorted_insert ProfileEntry.ix (a := entry) h.entries_sorted hnew
  have hget : ∀ j e, (e = entry ∨ e ∈ r.entries) → e.ix = j →
      (r.entries.insertIdx (partitionPoint (fun e => e.ix < entry.ix) r.entries) entry).find?
        (fun e => e.ix = j) = some e := by
    intro j e hmem hj
    exact (find?_eq_some_iff hsorted.nodup).2 ⟨hperm.mem_iff.2 (List.mem_cons.2 hmem), hj⟩
  refine ⟨hsorted, ?_, ?_, ?_, ?_, ?_, ?_⟩
  · exact (h.mints_sorted.pairwise.sublist (List.filter_sublist.map _)).sortedLT
  · intro e he mint hmint
    simp only [List.mem_filter, decide_eq_true_eq] at hmint
    rcases List.mem_cons.1 (hperm.mem_iff.1 he) with rfl | he
    · exact fun heq => hmint.2 heq.symm
    · exact h.disjoint e he mint hmint.1
  · have hactive := h.active_ok
    rw [ActiveOk] at hactive ⊢
    cases ha : r.active with
    | none => exact ⟨entry, hget entry.ix entry (.inl rfl) rfl, hlive, hshown⟩
    | some j =>
        rw [ha] at hactive
        obtain ⟨e, he, hel, hes⟩ := hactive
        exact ⟨e, hget j e (.inr (get_mem he).1) (get_mem he).2, hel, hes⟩
  · exact (hperm.map _).nodup_iff.2 (List.nodup_cons.2 ⟨hid, h.identities⟩)
  · intro e he
    rcases List.mem_cons.1 (hperm.mem_iff.1 he) with rfl | he
    · exact hok
    · exact h.entries_ok e he
  · intro mint hmint
    exact h.mints_ok mint (List.mem_of_mem_filter hmint)

theorem Accepted.insertMint {r : ProfileRegistry} (h : r.Accepted) {mint : ProfileMintInProgress}
    (hentry : mint.ix ∉ r.entries.map ProfileEntry.ix)
    (hmint : mint.ix ∉ r.inProgress.map ProfileMintInProgress.ix) (hok : MintOk mint) :
    Accepted { r with
      inProgress :=
        r.inProgress.insertIdx (partitionPoint (fun m => m.ix < mint.ix) r.inProgress) mint } := by
  have hperm := insert_perm (fun m => m.ix < mint.ix) mint r.inProgress
  refine ⟨h.entries_sorted, sorted_insert ProfileMintInProgress.ix h.mints_sorted hmint, ?_,
    h.active_ok, h.identities, h.entries_ok, ?_⟩
  · intro e he m hm
    rcases List.mem_cons.1 (hperm.mem_iff.1 hm) with rfl | hm
    · exact fun heq => hentry (List.mem_map.2 ⟨e, he, heq⟩)
    · exact h.disjoint e he m hm
  · intro m hm
    rcases List.mem_cons.1 (hperm.mem_iff.1 hm) with rfl | hm
    · exact hok
    · exact h.mints_ok m hm

theorem Accepted.eraseMint {r : ProfileRegistry} (h : r.Accepted) (position : Nat) :
    Accepted { r with inProgress := r.inProgress.eraseIdx position } := by
  have hsub := List.eraseIdx_sublist (l := r.inProgress) position
  refine ⟨h.entries_sorted, (h.mints_sorted.pairwise.sublist (hsub.map _)).sortedLT, ?_,
    h.active_ok, h.identities, h.entries_ok, ?_⟩
  · intro e he m hm
    exact h.disjoint e he m (hsub.subset hm)
  · intro m hm
    exact h.mints_ok m (hsub.subset hm)

end ProfileRegistry

end DigAccount
