import DigAccount.Registry.Persistence

namespace DigAccount

namespace ProfileRegistry

open KeyedList

def journalAt (r : ProfileRegistry) (ix : ProfileIx) : Option ProfileMintInProgress :=
  r.inProgress.find? fun mint => mint.ix = ix

theorem journalAt_eq_none {r : ProfileRegistry} {ix : ProfileIx} :
    r.journalAt ix = none ↔ ix ∉ r.inProgress.map ProfileMintInProgress.ix := by
  simp [journalAt]

theorem mintPosition_of_journalAt {r : ProfileRegistry} {ix : ProfileIx}
    {mint : ProfileMintInProgress} (h : r.journalAt ix = some mint) :
    ∃ position, r.mintPosition ix = some position := by
  rw [← Option.isSome_iff_exists, mintPosition_isSome]
  by_contra hnot
  rw [← journalAt_eq_none, h] at hnot
  cases hnot

variable [DidEncoding] {r next : ProfileRegistry} {ix j : ProfileIx} {stage : MintStage}
  {mint : ProfileMintInProgress}

theorem Accepted.journalAt_eq_some (h : r.Accepted) :
    r.journalAt ix = some mint ↔ mint ∈ r.inProgress ∧ mint.ix = ix :=
  find?_eq_some_iff h.mints_sorted.nodup

theorem Accepted.journalAt_congr (h : r.Accepted) (hnext : next.Accepted)
    (hsame : ∀ mint, mint.ix = j → (mint ∈ next.inProgress ↔ mint ∈ r.inProgress)) :
    next.journalAt j = r.journalAt j := by
  ext mint
  rw [hnext.journalAt_eq_some, h.journalAt_eq_some]
  exact and_congr_left fun hix => hsame mint hix

theorem Accepted.reserve_cases (h : r.Accepted) (hstage : StageOk mint.stage) :
    (∃ e, r.reserve mint = .returned (.error e) r) ∨
      ∃ next, r.reserve mint = .returned (.ok ()) next ∧ next.Accepted ∧
        r.journalAt mint.ix = none ∧ next.journalAt mint.ix = some mint ∧
        ∀ j, j ≠ mint.ix → next.journalAt j = r.journalAt j := by
  rw [reserve]
  split
  · exact .inl ⟨_, rfl⟩
  · rename_i hentry
    rw [contains_eq_true] at hentry
    split
    · exact .inl ⟨_, rfl⟩
    · rename_i hfresh
      rw [mintPosition_isSome] at hfresh
      split
      · exact .inl ⟨_, rfl⟩
      · rename_i hfee
        have hnext := h.insertMint hentry hfresh ⟨not_lt.1 hfee, hstage⟩
        have hperm := insert_perm (fun m => m.ix < mint.ix) mint r.inProgress
        refine .inr ⟨_, ?_, hnext, journalAt_eq_none.2 hfresh, ?_, fun j hj => ?_⟩
        · rw [expectValid, hnext.check_eq]
        · exact hnext.journalAt_eq_some.2 ⟨hperm.mem_iff.2 List.mem_cons_self, rfl⟩
        · refine h.journalAt_congr hnext fun other hother => ?_
          rw [hperm.mem_iff, List.mem_cons]
          refine or_iff_right fun heq => hj ?_
          rw [← hother, heq]

theorem Accepted.advanceMint_journal (h : r.Accepted) (hmint : r.journalAt ix = some mint)
    (hstage : StageOk stage) :
    ∃ next, r.advanceMint ix stage = .returned (.ok ()) next ∧ next.Accepted ∧
      next.journalAt ix = some (mint.setStage stage) ∧
      ∀ j, j ≠ ix → next.journalAt j = r.journalAt j := by
  obtain ⟨position, hposition⟩ := mintPosition_of_journalAt hmint
  have hmoved (j : ProfileIx) :
      (r.inProgress.modify position (·.setStage stage)).find? (fun m => m.ix = j) =
        (r.journalAt j).map fun m => if j = ix then m.setStage stage else m := by
    rw [modify_findIdx? hposition]
    have hkey (m : ProfileMintInProgress) : (m.setStage stage).ix = m.ix := rfl
    exact find?_modifyFirst (f := (·.setStage stage)) hkey ix j r.inProgress
  refine ⟨{ r with inProgress := r.inProgress.modify position (·.setStage stage) }, ?_,
    h.modifyMint position hstage, ?_, fun j hj => ?_⟩
  · rw [advanceMint, hposition]
  · rw [journalAt, hmoved, hmint, Option.map_some, if_pos rfl]
  · rw [journalAt, hmoved]
    simp only [if_neg hj, Option.map_id']

theorem Accepted.abandonMint_journal (h : r.Accepted) (hmint : r.journalAt ix = some mint) :
    ∃ next, r.abandonMint ix = .returned (.ok ()) next ∧ next.Accepted ∧
      next.journalAt ix = none ∧ ∀ j, j ≠ ix → next.journalAt j = r.journalAt j := by
  obtain ⟨position, hposition⟩ := mintPosition_of_journalAt hmint
  have hnext := h.eraseMint position
  have herased (j : ProfileIx) : (r.inProgress.eraseIdx position).find? (fun m => m.ix = j) =
      if j = ix then none else r.journalAt j := by
    rw [eraseIdx_findIdx? h.mints_sorted.nodup hposition]
    exact find?_filter_ne
  refine ⟨{ r with inProgress := r.inProgress.eraseIdx position }, ?_, hnext, ?_, fun j hj => ?_⟩
  · rw [abandonMint, hposition]
    dsimp only
    rw [expectValid, hnext.check_eq]
  · rw [journalAt, herased, if_pos rfl]
  · rw [journalAt, herased, if_neg hj]

section Record

variable {did : MintedDid} {store : ConfirmedStore}

theorem Accepted.not_contains_of_journalAt {mint : ProfileMintInProgress} (h : r.Accepted)
    (hmint : r.journalAt ix = some mint) : r.contains ix = false := by
  obtain ⟨hmem, hix⟩ := h.journalAt_eq_some.1 hmint
  rw [← Bool.not_eq_true, contains_eq_true, List.mem_map]
  rintro ⟨entry, hentry, rfl⟩
  exact h.disjoint entry hentry mint hmem hix.symm

theorem recordMinted_mismatched (hcontains : r.contains ix = false)
    (hfree : r.holderOf did.launcherId = none) (hpair : store.didCoinId ≠ did.coinId)
    (label : Option String) :
    r.recordMinted ix did store label =
      .returned (.error (.mismatchedMintHalves did.coinId store.didCoinId)) r := by
  rw [recordMinted, hcontains, if_neg Bool.false_ne_true, hfree]
  dsimp only
  rw [ProfileAnchor.fromConfirmed, if_pos hpair]

theorem Accepted.recordMinted_paired (h : r.Accepted) (hcontains : r.contains ix = false)
    (hfree : r.holderOf did.launcherId = none) (hpair : store.didCoinId = did.coinId)
    (label : Option String) :
    ∃ entry after, r.recordMinted ix did store label = .returned (.ok entry) after ∧
      after.journalAt ix = none := by
  have hsettles := recordMinted_settles h ix did store label
  rw [recordMinted, hcontains, if_neg Bool.false_ne_true, hfree] at hsettles ⊢
  rw [ProfileAnchor.fromConfirmed, if_neg (not_not.2 hpair)] at hsettles ⊢
  dsimp only at hsettles ⊢
  rw [expectValid] at hsettles ⊢
  split at hsettles
  · refine ⟨_, _, rfl, journalAt_eq_none.2 ?_⟩
    simp
  · obtain ⟨next, hnext, -⟩ := hsettles
    cases hnext

theorem recordMinted_iff (h : r.Accepted) {mint : ProfileMintInProgress}
    (hmint : r.journalAt ix = some mint) (hfree : r.holderOf did.launcherId = none)
    (label : Option String) :
    (∃ entry after, r.recordMinted ix did store label = .returned (.ok entry) after ∧
      after.journalAt ix = none) ↔ store.didCoinId = did.coinId := by
  have hcontains := h.not_contains_of_journalAt hmint
  constructor
  · rintro ⟨entry, after, hrecorded, -⟩
    by_contra hpair
    rw [recordMinted_mismatched hcontains hfree hpair] at hrecorded
    cases hrecorded
  · intro hpair
    exact h.recordMinted_paired hcontains hfree hpair label

end Record

end ProfileRegistry

end DigAccount
