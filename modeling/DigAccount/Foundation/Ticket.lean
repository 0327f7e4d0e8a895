import Mathlib.Data.List.Perm.Basic
import Mathlib.Data.List.Perm.Subperm
import Mathlib.Data.List.Nodup
import Mathlib.Order.Nat

namespace Ticket

variable {α : Type*}

def take (pool : List α) (i : Nat) : Option (α × List α) :=
  match pool[i]? with
  | none => none
  | some x => some (x, pool.eraseIdx i)

theorem take_perm {pool rest : List α} {i : Nat} {x : α} (h : take pool i = some (x, rest)) :
    (x :: rest).Perm pool := by
  rw [take] at h
  split at h
  · cases h
  · rename_i found hfound
    cases h
    obtain ⟨hi, rfl⟩ := List.getElem?_eq_some_iff.1 hfound
    exact List.getElem_cons_eraseIdx_perm hi

theorem taken_mem {pool rest : List α} {i : Nat} {x : α} (h : take pool i = some (x, rest)) :
    x ∈ pool :=
  (take_perm h).subset (List.mem_cons_self ..)

theorem rest_subset {pool rest : List α} {i : Nat} {x : α} (h : take pool i = some (x, rest)) :
    rest ⊆ pool :=
  fun _ hmem => (take_perm h).subset (List.mem_cons_of_mem _ hmem)

theorem count_take {pool rest : List α} {i : Nat} {x : α} (h : take pool i = some (x, rest))
    (ticket : α → Nat) (t : Nat) :
    (rest.map ticket).count t + (if ticket x = t then 1 else 0) = (pool.map ticket).count t := by
  have hperm := ((take_perm h).map ticket).count_eq t
  simpa [List.count_cons] using hperm

theorem lookup_mem {β : Type*} {ticket : Nat} {entries : List (Nat × β)} {x : β}
    (h : entries.lookup ticket = some x) : (ticket, x) ∈ entries := by
  obtain ⟨earlier, later, rfl, -⟩ := List.lookup_eq_some_iff.1 h
  exact List.mem_append_right _ List.mem_cons_self

theorem lookup_isSome_of_mem {β : Type*} {ticket : Nat} {entries : List (Nat × β)} {x : β}
    (h : (ticket, x) ∈ entries) : ∃ found, entries.lookup ticket = some found :=
  Option.isSome_iff_exists.1 (List.lookup_isSome_iff.2 ⟨_, h, beq_self_eq_true ticket⟩)

theorem lookups_subperm {β : Type*} {held : List Nat} (hheld : held.Nodup)
    (entries : List (Nat × β)) :
    (held.filterMap fun ticket => entries.lookup ticket).Subperm (entries.map Prod.snd) := by
  let redeemed := held.filterMap fun ticket => (entries.lookup ticket).map fun x => (ticket, x)
  have hnodup : redeemed.Nodup := by
    refine hheld.filterMap fun ticket other entry hticket hother => ?_
    obtain ⟨x, -, rfl⟩ := Option.map_eq_some_iff.1 hticket
    obtain ⟨y, -, hsame⟩ := Option.map_eq_some_iff.1 hother
    exact (congrArg Prod.fst hsame).symm
  have hsubset : redeemed ⊆ entries := by
    intro entry hentry
    obtain ⟨ticket, -, hticket⟩ := List.mem_filterMap.1 hentry
    obtain ⟨x, hfound, rfl⟩ := Option.map_eq_some_iff.1 hticket
    exact lookup_mem hfound
  have hvalues : redeemed.map Prod.snd = held.filterMap fun ticket => entries.lookup ticket := by
    rw [List.map_filterMap]
    refine List.filterMap_congr fun ticket _ => ?_
    rw [Option.map_map]
    exact Option.map_id'
  obtain ⟨kept, hperm, hsub⟩ := hnodup.subperm hsubset
  rw [← hvalues]
  exact ⟨kept.map Prod.snd, hperm.map _, hsub.map _⟩

structure Issued (count : Nat) (held : List Nat) : Prop where
  nodup : held.Nodup
  below : ∀ ticket ∈ held, ticket < count

variable {count : Nat} {held later : List Nat}

theorem issued_nil : Issued count [] := ⟨List.nodup_nil, fun _ h => by cases h⟩

theorem Issued.keep (h : Issued count held) (hcount : ∀ t, later.count t ≤ held.count t) :
    Issued count later := by
  refine ⟨List.nodup_iff_count_le_one.2 fun t => ?_, fun t hmem => h.below t ?_⟩
  · exact (hcount t).trans (List.nodup_iff_count_le_one.1 h.nodup t)
  · exact List.count_pos_iff.1 ((List.count_pos_iff.2 hmem).trans_le (hcount t))

theorem Issued.issue (h : Issued count held)
    (hcount : ∀ t, later.count t ≤ held.count t + if count = t then 1 else 0) :
    Issued (count + 1) later := by
  have hfresh : count ∉ held := fun hmem => Nat.lt_irrefl count (h.below count hmem)
  have hnext : Issued (count + 1) (count :: held) := by
    refine ⟨List.nodup_cons.2 ⟨hfresh, h.nodup⟩, fun ticket hmem => ?_⟩
    rcases List.mem_cons.1 hmem with rfl | hheld
    · exact Nat.lt_succ_self _
    · exact Nat.lt_succ_of_lt (h.below ticket hheld)
  refine hnext.keep fun t => (hcount t).trans_eq ?_
  simp [List.count_cons]

end Ticket
