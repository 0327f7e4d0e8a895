import DigAccount.Foundation.KeyedList

namespace OrderedMap

open KeyedList

variable {κ ι β γ : Type*} [DecidableEq κ]

def get (entries : List (κ × β)) (k : κ) : Option β :=
  (entries.find? fun entry => entry.1 = k).map Prod.snd

def erase (entries : List (κ × β)) (k : κ) : List (κ × β) :=
  entries.filter fun entry => entry.1 ≠ k

def tabulate (keys : List κ) (f : κ → Option β) : List (κ × β) :=
  keys.filterMap fun k => (f k).map fun v => (k, v)

section Order

variable [LinearOrder ι] (rank : κ → ι)

def Ascending (entries : List (κ × β)) : Prop :=
  (entries.map fun entry => rank entry.1).SortedLT

instance (entries : List (κ × β)) : Decidable (Ascending rank entries) :=
  decidable_of_iff ((entries.map fun entry : κ × β => rank entry.1).Pairwise (· < ·))
    ⟨List.Pairwise.sortedLT, List.SortedLT.pairwise⟩

def insert (entries : List (κ × β)) (k : κ) (v : β) : List (κ × β) :=
  (erase entries k).insertIdx
    (partitionPoint (fun entry => rank entry.1 < rank k) (erase entries k)) (k, v)

end Order

variable {entries : List (κ × β)} {k j : κ} {v : β}

@[simp] theorem get_nil : get ([] : List (κ × β)) k = none := rfl

@[simp] theorem get_cons {entry : κ × β} :
    get (entry :: entries) k = if entry.1 = k then some entry.2 else get entries k := by
  rw [get, List.find?_cons]
  by_cases h : entry.1 = k
  · simp [h]
  · simp [h, get]

theorem get_append {others : List (κ × β)} :
    get (entries ++ others) k = (get entries k).or (get others k) := by
  rw [get, List.find?_append, Option.map_or]
  rfl

theorem get_erase : get (erase entries k) j = if j = k then none else get entries j := by
  rw [get, erase, find?_filter_ne]
  split
  · rfl
  · rfl

theorem get_eq_none : get entries k = none ↔ k ∉ entries.map Prod.fst := by
  rw [get, Option.map_eq_none_iff, List.find?_eq_none]
  constructor
  · intro h hmem
    obtain ⟨entry, hentry, hkey⟩ := List.mem_map.1 hmem
    exact h entry hentry (decide_eq_true hkey)
  · intro h entry hentry hkey
    exact h (List.mem_map.2 ⟨entry, hentry, of_decide_eq_true hkey⟩)

theorem get_tabulate {keys : List κ} {f : κ → Option β} (hk : k ∈ keys) :
    get (tabulate keys f) k = f k := by
  induction keys with
  | nil => cases hk
  | cons j keys ih =>
      rw [tabulate, List.filterMap_cons]
      by_cases hj : j = k
      · subst hj
        cases hvalue : f j with
        | none =>
            by_cases hmem : j ∈ keys
            · exact (ih hmem).trans hvalue
            · rw [get_eq_none]
              intro hkey
              obtain ⟨entry, hentry, hfst⟩ := List.mem_map.1 hkey
              obtain ⟨other, hother, hsome⟩ := List.mem_filterMap.1 hentry
              obtain ⟨v, -, rfl⟩ := Option.map_eq_some_iff.1 hsome
              exact hmem (hfst ▸ hother)
        | some v => simp
      · have hmem : k ∈ keys := (List.mem_cons.1 hk).resolve_left (Ne.symm hj)
        cases hvalue : f j with
        | none => exact ih hmem
        | some v =>
            simp only [Option.map_some, get_cons, hj, if_false]
            exact ih hmem

theorem get_eq_some (nodup : (entries.map Prod.fst).Nodup) :
    get entries k = some v ↔ (k, v) ∈ entries := by
  rw [get, Option.map_eq_some_iff]
  constructor
  · rintro ⟨⟨j, w⟩, hfound, rfl⟩
    obtain ⟨hmem, rfl⟩ := (find?_eq_some_iff nodup).1 hfound
    exact hmem
  · intro hmem
    exact ⟨(k, v), (find?_eq_some_iff nodup).2 ⟨hmem, rfl⟩, rfl⟩

theorem get_reverse (nodup : (entries.map Prod.fst).Nodup) :
    get entries.reverse k = get entries k := by
  have hreverse : (entries.reverse.map Prod.fst).Nodup := by
    rw [List.map_reverse]
    exact List.nodup_reverse.2 nodup
  refine Option.ext fun v => ?_
  rw [get_eq_some hreverse, get_eq_some nodup, List.mem_reverse]

theorem get_foldl {step : List (κ × β) → κ × γ → List (κ × β)} {value : γ → Option β}
    (hstep : ∀ entries change j,
      get (step entries change) j = if j = change.1 then value change.2 else get entries j)
    (changes : List (κ × γ)) :
    get (changes.foldl step entries) j =
      ((get changes.reverse j).map value).getD (get entries j) := by
  induction changes generalizing entries with
  | nil => rfl
  | cons change changes ih =>
      rw [List.foldl_cons, ih, hstep, List.reverse_cons, get_append, get_cons, get_nil]
      cases hlast : get changes.reverse j with
      | some last => rfl
      | none =>
          by_cases h : j = change.1
          · simp [h]
          · simp [h, Ne.symm h]

section Order

variable [LinearOrder ι] {rank : κ → ι}

omit [DecidableEq κ] in
theorem Ascending.nodup_keys (h : Ascending rank entries) : (entries.map Prod.fst).Nodup := by
  have hranks : ((entries.map Prod.fst).map rank).Nodup := by
    rw [List.map_map]
    exact h.nodup
  exact hranks.of_map

theorem Ascending.ext {others : List (κ × β)} (h : Ascending rank entries)
    (hothers : Ascending rank others) (hsame : ∀ k, get entries k = get others k) :
    entries = others := by
  have hirrefl : Std.Irrefl fun a b : κ × β => rank a.1 < rank b.1 := ⟨fun _ => lt_irrefl _⟩
  refine (List.pairwise_map.1 h.pairwise).eq_of_mem_iff (List.pairwise_map.1 hothers.pairwise) ?_
  rintro ⟨k, v⟩
  rw [← get_eq_some h.nodup_keys, ← get_eq_some hothers.nodup_keys, hsame]

omit [DecidableEq κ] in
theorem ascending_tabulate {keys : List κ} (hkeys : (keys.map rank).SortedLT)
    (f : κ → Option β) : Ascending rank (tabulate keys f) := by
  have hsub : ((tabulate keys f).map fun entry => rank entry.1).Sublist (keys.map rank) := by
    induction keys with
    | nil => exact .slnil
    | cons k keys ih =>
        have htail : (keys.map rank).SortedLT := hkeys.pairwise.tail.sortedLT
        rw [tabulate, List.filterMap_cons]
        cases f k with
        | none => exact (ih htail).cons (rank k)
        | some v => exact (ih htail).cons_cons (rank k)
  exact (hkeys.pairwise.sublist hsub).sortedLT

theorem Ascending.erase (h : Ascending rank entries) (k : κ) :
    Ascending rank (erase entries k) :=
  (h.pairwise.sublist (List.filter_sublist.map _)).sortedLT

theorem Ascending.insert (hrank : Function.Injective rank) (h : Ascending rank entries) (k : κ)
    (v : β) : Ascending rank (insert rank entries k v) := by
  have hfresh : rank k ∉ (OrderedMap.erase entries k).map fun entry => rank entry.1 := by
    intro hmem
    obtain ⟨entry, hentry, hsame⟩ := List.mem_map.1 hmem
    have hne : entry.1 ≠ k := by simpa using (List.mem_filter.1 hentry).2
    exact hne (hrank hsame)
  exact sorted_insert (fun entry : κ × β => rank entry.1) (h.erase k) hfresh

theorem insertIdx_split {α : Type*} {xs : List α} {n : Nat} (hle : n ≤ xs.length) (x : α) :
    ∃ before after, xs = before ++ after ∧ xs.insertIdx n x = before ++ x :: after := by
  induction n generalizing xs with
  | zero => exact ⟨[], xs, rfl, List.insertIdx_zero⟩
  | succ n ih =>
      cases xs with
      | nil => cases hle
      | cons y ys =>
          obtain ⟨before, after, rfl, hinsert⟩ := ih (Nat.le_of_succ_le_succ hle)
          refine ⟨y :: before, after, rfl, ?_⟩
          rw [List.insertIdx_succ_cons, hinsert]
          rfl

theorem get_insert : get (insert rank entries k v) j = if j = k then some v else get entries j := by
  have hle : partitionPoint (fun entry => rank entry.1 < rank k) (erase entries k) ≤
      (erase entries k).length := List.findIdx_le_length
  obtain ⟨before, after, herase, hinsert⟩ := insertIdx_split hle (k, v)
  have hget : get (before ++ after) j = if j = k then none else get entries j := by
    rw [← herase, get_erase]
  rw [get_append] at hget
  rw [insert, hinsert, get_append, get_cons]
  by_cases h : j = k
  · subst h
    rw [if_pos rfl, Option.or_eq_none_iff] at hget
    rw [hget.1, if_pos rfl, if_pos rfl, Option.none_or]
  · rw [if_neg h] at hget
    rw [if_neg (Ne.symm h), if_neg h, hget]

end Order

end OrderedMap
