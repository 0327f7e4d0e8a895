import DigAccount.Foundation.Machine
import DigAccount.Registry.Operations

namespace DigAccount

variable {α : Type}

def Mutation.after? : Mutation α → Option ProfileRegistry
  | .panicked _ => none
  | .returned _ after => some after

namespace ProfileRegistry

open Validator

variable [DidEncoding]

def Settles (m : Mutation α) : Prop := ∃ next, m.after? = some next ∧ next.Accepted

theorem returned_settles {r : ProfileRegistry} (h : r.Accepted) (result : Except AccountError α) :
    Settles (.returned result r) :=
  ⟨r, rfl, h⟩

theorem expectValid_settles {r : ProfileRegistry} (h : r.Accepted) (value : α) :
    Settles (r.expectValid value) := by
  refine ⟨r, ?_, h⟩
  simp only [expectValid]
  rw [h.check_eq]
  rfl

theorem expectValid_panics {r : ProfileRegistry} (h : r.check ≠ .ok ()) (value : α) :
    (r.expectValid value).after? = none := by
  rw [expectValid]
  rcases ok_or_error r.check with hok | ⟨reason, herr⟩
  · exact absurd hok h
  · rw [herr]
    rfl

theorem recordMinted_settles {r : ProfileRegistry} (h : r.Accepted) (ix : ProfileIx)
    (did : MintedDid) (store : ConfirmedStore) (label : Option String) :
    Settles (r.recordMinted ix did store label) := by
  rw [recordMinted]
  split
  · exact returned_settles h _
  · rename_i hcontains
    rw [contains_eq_true] at hcontains
    split
    · exact returned_settles h _
    · rename_i hholder
      rw [holderOf_eq_none] at hholder
      rw [ProfileAnchor.fromConfirmed]
      split
      · exact returned_settles h _
      · rename_i anchor hanchor
        split at hanchor
        · cases hanchor
        · rename_i hpair
          injection hanchor with hanchor
          subst hanchor
          refine expectValid_settles (h.insertEntry rfl rfl ?_ hcontains hholder) _
          refine ⟨did.did_of_launcher, did.height_ne_zero, store.height_ne_zero, ?_, ?_⟩
          · exact decide_eq_true (not_not.1 hpair)
          · intro ended hended
            cases hended

theorem setActive_settles {r : ProfileRegistry} (h : r.Accepted) (ix : ProfileIx) :
    Settles (r.setActive ix) := by
  rw [setActive]
  cases hget : r.get ix with
  | none => exact returned_settles h _
  | some entry =>
      dsimp only
      split
      · exact returned_settles h _
      · rename_i hlive
        refine expectValid_settles
          (h.entryMut (f := (·.setVisibility .shown)) (fun _ => rfl) (fun _ => rfl) ?_ ?_) _
        · intro e he
          exact (h.entries_ok e he).end_height
        · refine ⟨entry.setVisibility .shown, ?_, by simpa using hlive, rfl⟩
          rw [get_withActive, get_entryMut (f := (·.setVisibility .shown)) (fun _ => rfl), hget]
          simp

theorem activeOk_entryMut {r : ProfileRegistry} (h : r.Accepted) {ix : ProfileIx}
    {f : ProfileEntry → ProfileEntry} (hix : ∀ entry, (f entry).ix = entry.ix)
    (hlive : ∀ entry, entry.isLive = false → (f entry).isLive = false)
    (hactive : ∀ entry, r.active = some ix → entry.isLive = true → entry.isShown = true →
      (f entry).isLive = true ∧ (f entry).isShown = true) :
    ActiveOk (r.entryMut ix f) := by
  have hok := h.active_ok
  rw [ActiveOk] at hok ⊢
  rw [entryMut_active]
  cases ha : r.active with
  | none =>
      rw [ha] at hok
      intro entry hmem
      obtain ⟨e, he, rfl⟩ := h.mem_entryMut.1 hmem
      split
      · exact hlive e (hok e he)
      · exact hok e he
  | some j =>
      rw [ha] at hok
      obtain ⟨e, hget, hel, hes⟩ := hok
      refine ⟨if j = ix then f e else e, ?_, ?_⟩
      · rw [get_entryMut hix, hget]
        rfl
      · split
        · rename_i hj
          exact hactive e (hj ▸ ha) hel hes
        · exact ⟨hel, hes⟩

theorem setVisibility_settles {r : ProfileRegistry} (h : r.Accepted) (ix : ProfileIx)
    (v : ProfileVisibility) : Settles (r.setVisibility ix v) := by
  rw [setVisibility]
  split
  · exact returned_settles h _
  · split
    · exact returned_settles h _
    · rename_i hhide
      refine expectValid_settles
        (h.entryMut (f := (·.setVisibility v)) (fun _ => rfl) (fun _ => rfl) ?_ ?_) _
      · intro e he
        exact (h.entries_ok e he).end_height
      · refine activeOk_entryMut h (fun _ => rfl) (fun _ hdead => hdead) ?_
        intro entry hactive hlive hshown
        refine ⟨hlive, ?_⟩
        cases v with
        | shown => rfl
        | hiddenFromLists => exact absurd ⟨rfl, hactive⟩ hhide

theorem setLabel_settles {r : ProfileRegistry} (h : r.Accepted) (ix : ProfileIx)
    (label : Option String) : Settles (r.setLabel ix label) := by
  rw [setLabel]
  split
  · exact returned_settles h _
  · refine returned_settles
      (h.entryMut (f := (·.setLabel label)) (fun _ => rfl) (fun _ => rfl) ?_ ?_) _
    · intro e he
      exact (h.entries_ok e he).end_height
    · exact activeOk_entryMut h (fun _ => rfl) (fun _ hdead => hdead)
        (fun _ _ hlive hshown => ⟨hlive, hshown⟩)

theorem abandonMint_settles {r : ProfileRegistry} (h : r.Accepted) (ix : ProfileIx) :
    Settles (r.abandonMint ix) := by
  rw [abandonMint]
  split
  · exact returned_settles h _
  · exact expectValid_settles (h.eraseMint _) _

def Reservable (r : ProfileRegistry) (mint : ProfileMintInProgress) : Prop :=
  mint.ix ∉ r.indices → mint.storeFee ≤ maxMintFeeMojos → StageOk mint.stage

theorem reserve_settles {r : ProfileRegistry} (h : r.Accepted) {mint : ProfileMintInProgress}
    (guard : r.Reservable mint) : Settles (r.reserve mint) := by
  rw [reserve]
  split
  · exact returned_settles h _
  · rename_i hentry
    rw [contains_eq_true] at hentry
    split
    · exact returned_settles h _
    · rename_i hmint
      rw [mintPosition_isSome] at hmint
      split
      · exact returned_settles h _
      · rename_i hfee
        have hfresh : mint.ix ∉ r.indices := fun hmem =>
          (List.mem_append.1 hmem).elim hentry hmint
        have hok : MintOk mint := ⟨not_lt.1 hfee, guard hfresh (not_lt.1 hfee)⟩
        exact expectValid_settles (h.insertMint hentry hmint hok) _

theorem reserve_panics {r : ProfileRegistry} {mint : ProfileMintInProgress}
    (guard : ¬ r.Reservable mint) : (r.reserve mint).after? = none := by
  rw [Reservable] at guard
  push Not at guard
  obtain ⟨hfresh, hfee, hstage⟩ := guard
  rw [indices, List.mem_append, not_or] at hfresh
  have hcontains : r.contains mint.ix = false := by
    rw [← Bool.not_eq_true, contains_eq_true]
    exact hfresh.1
  have hposition : (r.mintPosition mint.ix).isSome = false := by
    rw [← Bool.not_eq_true, mintPosition_isSome]
    exact hfresh.2
  rw [reserve]
  rw [hcontains, hposition, if_neg Bool.false_ne_true, if_neg Bool.false_ne_true,
    if_neg (not_lt.2 hfee)]
  refine expectValid_panics (fun hok => hstage ?_) _
  have hmints := (check_ok.1 hok).2.2.2.2
  exact (hmints mint ((KeyedList.insert_perm _ _ _).mem_iff.2 (List.mem_cons_self ..))).2

end ProfileRegistry

end DigAccount
