import Mathlib.Data.List.Basic
import Mathlib.Logic.Basic

structure Occupancy.Turn (ω κ β : Type) where
  op : ω
  before : κ → Option β
  after : κ → Option β

namespace Occupancy

variable {ω κ β : Type}

def Joined (key : κ) : Option β → List (Turn ω κ β) → Option β → Prop
  | first, [], last => first = last
  | first, turn :: later, last =>
      turn.before key = first ∧ Joined key (turn.after key) later last

def Keeps (frees : ω → κ → Prop) (turn : Turn ω κ β) (key : κ) : Prop :=
  ∀ value, turn.before key = some value → turn.after key = some value ∨ frees turn.op key

def Fills (leaves : ω → κ → β → Prop) (turn : Turn ω κ β) (key : κ) : Prop :=
  ∀ value, turn.after key = some value → turn.before key = some value ∨ leaves turn.op key value

variable {frees : ω → κ → Prop} {leaves : ω → κ → β → Prop} {key : κ} {value : β}
  {first last : Option β} {turns later : List (Turn ω κ β)} {turn next : Turn ω κ β} {n m : Nat}

theorem joined_append : Joined key first (turns ++ later) last ↔
    ∃ mid, Joined key first turns mid ∧ Joined key mid later last := by
  induction turns generalizing first with
  | nil =>
      constructor
      · exact fun h => ⟨first, rfl, h⟩
      · rintro ⟨mid, rfl, h⟩
        exact h
  | cons turn turns ih =>
      constructor
      · rintro ⟨hbefore, hrest⟩
        obtain ⟨mid, hturns, hlater⟩ := ih.1 hrest
        exact ⟨mid, ⟨hbefore, hturns⟩, hlater⟩
      · rintro ⟨mid, ⟨hbefore, hturns⟩, hlater⟩
        exact ⟨hbefore, ih.2 ⟨mid, hturns, hlater⟩⟩

theorem joined_concat : Joined key first (turns ++ [turn]) last ↔
    Joined key first turns (turn.before key) ∧ turn.after key = last := by
  rw [joined_append]
  constructor
  · rintro ⟨mid, hturns, rfl, hlast⟩
    exact ⟨hturns, hlast⟩
  · rintro ⟨hturns, hlast⟩
    exact ⟨turn.before key, hturns, rfl, hlast⟩

theorem Joined.take (h : Joined key first turns last) (hturn : turns[n]? = some turn) :
    Joined key first (turns.take n) (turn.before key) := by
  obtain ⟨hn, rfl⟩ := List.getElem?_eq_some_iff.1 hturn
  rw [← List.take_append_drop n turns, List.drop_eq_getElem_cons hn] at h
  obtain ⟨mid, hearlier, hbefore, -⟩ := joined_append.1 h
  rwa [hbefore]

theorem Joined.drop (h : Joined key first turns last) (hturn : turns[n]? = some turn) :
    Joined key (turn.after key) (turns.drop (n + 1)) last := by
  obtain ⟨hn, rfl⟩ := List.getElem?_eq_some_iff.1 hturn
  rw [← List.take_append_drop n turns, List.drop_eq_getElem_cons hn] at h
  obtain ⟨mid, -, -, hlater⟩ := joined_append.1 h
  exact hlater

theorem stands_or_freed (h : Joined key (some value) turns last)
    (keeps : ∀ turn ∈ turns, Keeps frees turn key) :
    last = some value ∨ ∃ (n : Nat) (turn : Turn ω κ β),
      turns[n]? = some turn ∧ frees turn.op key := by
  induction turns with
  | nil => exact .inl h.symm
  | cons turn turns ih =>
      obtain ⟨hbefore, hrest⟩ := h
      rcases keeps turn (List.mem_cons_self ..) value hbefore with hafter | hfrees
      · rw [hafter] at hrest
        rcases ih hrest fun later hlater => keeps later (List.mem_cons_of_mem _ hlater) with
          hlast | ⟨n, freeing, hn, hfrees⟩
        · exact .inl hlast
        · exact .inr ⟨n + 1, freeing, hn, hfrees⟩
      · exact .inr ⟨0, turn, rfl, hfrees⟩

theorem stands_after (h : Joined key first turns last)
    (keeps : ∀ turn ∈ turns, Keeps frees turn key) (hturn : turns[n]? = some turn)
    (hafter : turn.after key = some value) :
    last = some value ∨ ∃ m next, n < m ∧ turns[m]? = some next ∧ frees next.op key := by
  have hlater := h.drop hturn
  rw [hafter] at hlater
  rcases stands_or_freed hlater fun later hmem => keeps later (List.mem_of_mem_drop hmem) with
    hlast | ⟨m, next, hm, hfrees⟩
  · exact .inl hlast
  · exact .inr ⟨n + 1 + m, next, by omega, by rwa [List.getElem?_drop] at hm, hfrees⟩

theorem freed_between (h : Joined key first turns last)
    (keeps : ∀ turn ∈ turns, Keeps frees turn key) (hturn : turns[n]? = some turn)
    (hafter : turn.after key = some value) (hnext : turns[m]? = some next)
    (hbefore : next.before key = none) (hlt : n < m) :
    ∃ j freeing, n < j ∧ j < m ∧ turns[j]? = some freeing ∧ frees freeing.op key := by
  have hturn : (turns.take m)[n]? = some turn := by rwa [List.getElem?_take_of_lt hlt]
  rcases stands_after (h.take hnext)
    (fun earlier hmem => keeps earlier (List.mem_of_mem_take hmem)) hturn hafter with
    hlast | ⟨j, freeing, hj, hfreeing, hfrees⟩
  · rw [hbefore] at hlast
    cases hlast
  · obtain ⟨hlength, -⟩ := List.getElem?_eq_some_iff.1 hfreeing
    have hjm : j < m := Nat.lt_of_lt_of_le hlength (List.length_take_le ..)
    exact ⟨j, freeing, hj, hjm, by rwa [List.getElem?_take_of_lt hjm] at hfreeing, hfrees⟩

theorem held_from (h : Joined key first turns (some value))
    (fills : ∀ turn ∈ turns, Fills leaves turn key) :
    first = some value ∨ ∃ (n : Nat) (turn : Turn ω κ β),
      turns[n]? = some turn ∧ leaves turn.op key value := by
  induction turns generalizing first with
  | nil => exact .inl h
  | cons turn turns ih =>
      obtain ⟨hbefore, hrest⟩ := h
      rcases ih hrest fun later hlater => fills later (List.mem_cons_of_mem _ hlater) with
        hafter | ⟨n, filling, hn, hleaves⟩
      · rcases fills turn (List.mem_cons_self ..) value hafter with
          hheld | hleaves
        · exact .inl (hbefore.symm.trans hheld)
        · exact .inr ⟨0, turn, rfl, hleaves⟩
      · exact .inr ⟨n + 1, filling, hn, hleaves⟩

theorem held_before (h : Joined key first turns last)
    (fills : ∀ turn ∈ turns, Fills leaves turn key) (hturn : turns[n]? = some turn)
    (hheld : turn.before key = some value) :
    first = some value ∨
      ∃ m earlier, m < n ∧ turns[m]? = some earlier ∧ leaves earlier.op key value := by
  have hearlier := h.take hturn
  rw [hheld] at hearlier
  rcases held_from hearlier fun earlier hmem => fills earlier (List.mem_of_mem_take hmem) with
    hfirst | ⟨m, earlier, hm, hleaves⟩
  · exact .inl hfirst
  · obtain ⟨hlength, -⟩ := List.getElem?_eq_some_iff.1 hm
    have hmn : m < n := Nat.lt_of_lt_of_le hlength (List.length_take_le ..)
    exact .inr ⟨m, earlier, hmn, by rwa [List.getElem?_take_of_lt hmn] at hm, hleaves⟩

end Occupancy
