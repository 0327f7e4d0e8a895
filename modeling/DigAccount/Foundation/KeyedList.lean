import Mathlib.Data.List.InsertIdx
import Mathlib.Data.List.Nodup
import Mathlib.Data.List.Sort

namespace KeyedList

variable {α κ : Type*}

def modifyFirst (p : α → Bool) (f : α → α) : List α → List α
  | [] => []
  | x :: xs => if p x then f x :: xs else x :: modifyFirst p f xs

def partitionPoint (p : α → Bool) (xs : List α) : Nat :=
  xs.findIdx fun x => !p x

theorem modifyFirst_eq_map [DecidableEq κ] {key : α → κ} {k : κ} {f : α → α} {xs : List α}
    (nodup : (xs.map key).Nodup) :
    modifyFirst (fun x => key x = k) f xs = xs.map fun x => if key x = k then f x else x := by
  induction xs with
  | nil => rfl
  | cons x xs ih =>
      simp only [List.map_cons, List.nodup_cons] at nodup
      by_cases hx : key x = k
      · have hrest : xs.map (fun y => if key y = k then f y else y) = xs := by
          refine (List.map_congr_left fun y hy => ?_).trans (List.map_id xs)
          have hne : key y ≠ k := fun h =>
            nodup.1 (List.mem_map.2 ⟨y, hy, h.trans hx.symm⟩)
          simp [hne]
        simp [modifyFirst, hx, hrest]
      · simp [modifyFirst, hx, ih nodup.2]

theorem map_modifyFirst {p : α → Bool} {f : α → α} {g : α → κ} (hg : ∀ x, g (f x) = g x)
    (xs : List α) : (modifyFirst p f xs).map g = xs.map g := by
  induction xs with
  | nil => rfl
  | cons x xs ih =>
      by_cases hx : p x
      · simp [modifyFirst, hx, hg]
      · simp [modifyFirst, hx, ih]

theorem mem_modifyFirst [DecidableEq κ] {key : α → κ} {k : κ} {f : α → α} {xs : List α}
    (nodup : (xs.map key).Nodup) {y : α} :
    y ∈ modifyFirst (fun x => key x = k) f xs ↔
      ∃ x ∈ xs, (if key x = k then f x else x) = y := by
  rw [modifyFirst_eq_map nodup, List.mem_map]

theorem find?_modifyFirst [DecidableEq κ] {key : α → κ} {f : α → α} (hf : ∀ x, key (f x) = key x)
    (k j : κ) (xs : List α) :
    (modifyFirst (fun x => key x = k) f xs).find? (fun x => key x = j) =
      (xs.find? fun x => key x = j).map fun x => if j = k then f x else x := by
  induction xs with
  | nil => rfl
  | cons x xs ih =>
      by_cases hx : key x = k
      · by_cases hj : key x = j
        · simp [modifyFirst, hx, hf, ← hj]
        · have hjk : j ≠ k := fun h => hj (hx.trans h.symm)
          simp [modifyFirst, hx, hf, hjk, hjk.symm]
      · by_cases hj : key x = j
        · have hjk : j ≠ k := fun h => hx (hj.trans h)
          simp [modifyFirst, hj, hjk]
        · simp [modifyFirst, hx, hj, ih]

theorem modify_findIdx? {p : α → Bool} {f : α → α} {xs : List α} {n : Nat}
    (h : xs.findIdx? p = some n) : xs.modify n f = modifyFirst p f xs := by
  induction xs generalizing n with
  | nil => cases h
  | cons x xs ih =>
      rw [List.findIdx?_cons] at h
      by_cases hx : p x
      · rw [if_pos hx, Option.some.injEq] at h
        rw [← h, List.modify_zero_cons, modifyFirst, if_pos hx]
      · rw [if_neg hx, Option.map_eq_some_iff] at h
        obtain ⟨m, hm, rfl⟩ := h
        rw [List.modify_succ_cons, modifyFirst, if_neg hx, ih hm]

theorem eraseIdx_findIdx? [DecidableEq κ] {key : α → κ} {k : κ} {xs : List α} {n : Nat}
    (nodup : (xs.map key).Nodup) (h : xs.findIdx? (fun x => key x = k) = some n) :
    xs.eraseIdx n = xs.filter fun x => key x ≠ k := by
  induction xs generalizing n with
  | nil => cases h
  | cons x xs ih =>
      rw [List.map_cons, List.nodup_cons] at nodup
      rw [List.findIdx?_cons] at h
      by_cases hx : key x = k
      · have hrest : ∀ y ∈ xs, key y ≠ k := fun y hy hk =>
          nodup.1 (List.mem_map.2 ⟨y, hy, hk.trans hx.symm⟩)
        simp only [hx, decide_true, if_true, Option.some.injEq] at h
        rw [← h, List.eraseIdx_cons_zero, List.filter_cons_of_neg (by simp [hx])]
        exact (List.filter_eq_self.2 fun y hy => decide_eq_true (hrest y hy)).symm
      · simp only [hx, decide_false, Bool.false_eq_true, if_false, Option.map_eq_some_iff] at h
        obtain ⟨m, hm, rfl⟩ := h
        rw [List.eraseIdx_cons_succ, List.filter_cons_of_pos (by simp [hx]), ih nodup.2 hm]

theorem find?_filter_ne [DecidableEq κ] {key : α → κ} {k j : κ} {xs : List α} :
    (xs.filter fun x => key x ≠ k).find? (fun x => key x = j) =
      if j = k then none else xs.find? fun x => key x = j := by
  rw [List.find?_filter]
  split
  · rename_i hj
    rw [List.find?_eq_none]
    intro x _
    simp [hj]
  · rename_i hj
    congr 1
    funext x
    by_cases hx : key x = j
    · simp [hx, hj]
    · simp [hx]

theorem find?_eq_some_iff [DecidableEq κ] {key : α → κ} {k : κ} {xs : List α}
    (nodup : (xs.map key).Nodup) {x : α} :
    (xs.find? fun x => key x = k) = some x ↔ x ∈ xs ∧ key x = k := by
  constructor
  · intro h
    exact ⟨List.mem_of_find?_eq_some h, by simpa using List.find?_some h⟩
  · rintro ⟨hx, hk⟩
    cases h : xs.find? fun x => key x = k with
    | none => exact absurd hk (by simpa using List.find?_eq_none.1 h x hx)
    | some y =>
        have hy : key y = k := by simpa using List.find?_some h
        have hyx := List.inj_on_of_nodup_map nodup (List.mem_of_find?_eq_some h) hx
          (hy.trans hk.symm)
        rw [hyx]

theorem insertIdx_findIdx_eq_orderedInsert [LinearOrder κ] (k : κ) (ks : List κ) :
    ks.insertIdx (partitionPoint (fun x => x < k) ks) k = ks.orderedInsert (· ≤ ·) k := by
  induction ks with
  | nil => rfl
  | cons x ks ih =>
      by_cases hx : x < k
      · have hle : ¬ k ≤ x := not_le.2 hx
        simp only [partitionPoint, List.findIdx_cons, hx, decide_true, Bool.not_true, cond_false,
          List.insertIdx_succ_cons, List.orderedInsert_cons, hle, if_false]
        exact congrArg (x :: ·) ih
      · have hle : k ≤ x := not_lt.1 hx
        simp [partitionPoint, List.findIdx_cons, hx, hle]

theorem partitionPoint_map {key : α → κ} {p : κ → Bool} (xs : List α) :
    partitionPoint p (xs.map key) = partitionPoint (fun x => p (key x)) xs := by
  simp [partitionPoint, List.findIdx_map, Function.comp_def]

theorem insert_perm (p : α → Bool) (a : α) (xs : List α) :
    (xs.insertIdx (partitionPoint p xs) a).Perm (a :: xs) :=
  List.perm_insertIdx a xs List.findIdx_le_length

theorem sorted_insert [LinearOrder κ] (key : α → κ) {a : α} {xs : List α}
    (sorted : (xs.map key).SortedLT) (fresh : key a ∉ xs.map key) :
    ((xs.insertIdx (partitionPoint (fun x => key x < key a) xs) a).map key).SortedLT := by
  have hkeys : (xs.insertIdx (partitionPoint (fun x => key x < key a) xs) a).map key =
      (xs.map key).orderedInsert (· ≤ ·) (key a) := by
    rw [List.map_insertIdx, ← insertIdx_findIdx_eq_orderedInsert, partitionPoint_map]
  have hle := sorted.sortedLE.pairwise.orderedInsert (key a)
  have hnd : ((xs.map key).orderedInsert (· ≤ ·) (key a)).Nodup :=
    (List.perm_orderedInsert (· ≤ ·) (key a) (xs.map key)).nodup_iff.2
      (List.nodup_cons.2 ⟨fresh, sorted.nodup⟩)
  rw [hkeys]
  exact hle.sortedLE.sortedLT_of_nodup hnd

theorem sorted_mergeSort [LinearOrder κ] {key : α → κ} {xs : List α} (nodup : (xs.map key).Nodup) :
    ((xs.mergeSort fun x y => key x ≤ key y).map key).SortedLT := by
  have hperm := (List.mergeSort_perm xs fun x y => key x ≤ key y).map key
  have hpair : (xs.mergeSort fun x y => key x ≤ key y).Pairwise
      fun x y => decide (key x ≤ key y) = true :=
    List.pairwise_mergeSort (fun a b c hab hbc => by simp_all; exact hab.trans hbc)
      (fun a b => by simpa using le_total (key a) (key b)) xs
  have hle : ((xs.mergeSort fun x y => key x ≤ key y).map key).Pairwise (· ≤ ·) :=
    List.pairwise_map.2 (hpair.imp fun h => by simpa using h)
  exact hle.sortedLE.sortedLT_of_nodup (hperm.nodup_iff.2 nodup)

theorem map_modify {f : α → α} {g : α → κ} (hg : ∀ x, g (f x) = g x) (xs : List α) (n : Nat) :
    (xs.modify n f).map g = xs.map g := by
  induction xs generalizing n with
  | nil => cases n <;> rfl
  | cons x xs ih =>
      cases n with
      | zero => simp [hg]
      | succ n => simp [ih]

theorem mem_modify {f : α → α} {xs : List α} {n : Nat} {y : α} (h : y ∈ xs.modify n f) :
    ∃ x ∈ xs, y = x ∨ y = f x := by
  induction xs generalizing n with
  | nil =>
      rw [List.modify_nil] at h
      cases h
  | cons x xs ih =>
      cases n with
      | zero =>
          rcases List.mem_cons.1 h with rfl | hy
          · exact ⟨x, List.mem_cons_self, .inr rfl⟩
          · exact ⟨y, List.mem_cons_of_mem _ hy, .inl rfl⟩
      | succ n =>
          rcases List.mem_cons.1 h with rfl | hy
          · exact ⟨y, List.mem_cons_self, .inl rfl⟩
          · obtain ⟨z, hz, hyz⟩ := ih hy
            exact ⟨z, List.mem_cons_of_mem _ hz, hyz⟩

theorem filter_eq_singleton {key : α → κ} {k : κ} {p : α → Bool} {xs : List α}
    (nodup : (xs.map key).Nodup) (hk : k ∈ xs.map key) (hp : ∀ x ∈ xs, p x ↔ key x = k) :
    ∃ x ∈ xs, key x = k ∧ xs.filter p = [x] := by
  induction xs with
  | nil => cases hk
  | cons y ys ih =>
      rw [List.map_cons, List.nodup_cons] at nodup
      have hrest := fun x hx => hp x (List.mem_cons_of_mem y hx)
      by_cases hy : key y = k
      · have hnone : ys.filter p = [] := by
          refine List.filter_eq_nil_iff.2 fun x hx hpx => nodup.1 ?_
          rw [hy, ← (hrest x hx).1 hpx]
          exact List.mem_map_of_mem hx
        refine ⟨y, List.mem_cons_self, hy, ?_⟩
        rw [List.filter_cons, if_pos ((hp y List.mem_cons_self).2 hy), hnone]
      · have hmem : k ∈ ys.map key := (List.mem_cons.1 hk).resolve_left (Ne.symm hy)
        obtain ⟨x, hx, hxk, hfilter⟩ := ih nodup.2 hmem hrest
        refine ⟨x, List.mem_cons_of_mem y hx, hxk, ?_⟩
        rw [List.filter_cons, if_neg (fun h => hy ((hp y List.mem_cons_self).1 h)), hfilter]

section Upsert

variable [LinearOrder κ]

def upsert (k : κ) (v : α) : List (κ × α) → List (κ × α)
  | [] => [(k, v)]
  | (j, w) :: xs =>
      if k < j then (k, v) :: (j, w) :: xs
      else if k = j then (k, v) :: xs
      else (j, w) :: upsert k v xs

variable {k j : κ} {v : α} {entry : κ × α} {xs : List (κ × α)}

theorem mem_of_mem_upsert (h : entry ∈ upsert k v xs) : entry = (k, v) ∨ entry ∈ xs := by
  induction xs with
  | nil =>
      rw [upsert, List.mem_singleton] at h
      exact .inl h
  | cons x xs ih =>
      simp only [upsert] at h
      split at h
      · exact (List.mem_cons.1 h).imp_right id
      · split at h
        · exact (List.mem_cons.1 h).imp_right (List.mem_cons_of_mem _)
        · rcases List.mem_cons.1 h with hx | hmem
          · exact .inr (List.mem_cons.2 (.inl hx))
          · exact (ih hmem).imp_right (List.mem_cons_of_mem _)

theorem mem_keys_upsert : j ∈ (upsert k v xs).map Prod.fst ↔ j = k ∨ j ∈ xs.map Prod.fst := by
  induction xs with
  | nil => simp [upsert]
  | cons x xs ih =>
      simp only [upsert]
      split
      · simp
      · split
        · rename_i heq
          simp [heq]
        · simp only [List.map_cons, List.mem_cons, ih]
          exact or_left_comm

theorem sorted_upsert (sorted : (xs.map Prod.fst).SortedLT) :
    ((upsert k v xs).map Prod.fst).SortedLT := by
  induction xs with
  | nil => exact (List.pairwise_singleton (· < ·) k).sortedLT
  | cons x xs ih =>
      have hpair := sorted.pairwise
      rw [List.map_cons, List.pairwise_cons] at hpair
      obtain ⟨hhead, htail⟩ := hpair
      simp only [upsert]
      split
      · rename_i hlt
        refine List.Pairwise.sortedLT (List.pairwise_cons.2 ⟨?_, sorted.pairwise⟩)
        intro i hi
        rcases List.mem_cons.1 hi with rfl | hi
        · exact hlt
        · exact hlt.trans (hhead i hi)
      · split
        · rename_i heq
          refine List.Pairwise.sortedLT (List.pairwise_cons.2 ⟨?_, htail⟩)
          rw [heq]
          exact hhead
        · rename_i hle hne
          refine List.Pairwise.sortedLT (List.pairwise_cons.2 ⟨?_, (ih htail.sortedLT).pairwise⟩)
          intro i hi
          rcases mem_keys_upsert.1 hi with rfl | hi
          · exact lt_of_le_of_ne (not_lt.1 hle) (Ne.symm hne)
          · exact hhead i hi

end Upsert

end KeyedList
