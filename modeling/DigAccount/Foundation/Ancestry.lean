import Mathlib.Data.List.Perm.Basic
import Mathlib.Data.Set.Finite.List
import Mathlib.Logic.Relation
import Mathlib.Order.WellFoundedSet

namespace Ancestry

open Relation

variable {β ι : Type*} (name parent : β → ι)

def Parents (older younger : β) : Prop := name older = parent younger

def Acyclic : Prop := ∀ item, ¬ TransGen (Parents name parent) item item

def Descends (items : List β) : β → β → Prop :=
  ReflTransGen fun older younger => younger ∈ items ∧ Parents name parent older younger

def roots [DecidableEq ι] (items : List β) : List β :=
  items.filter fun item => parent item ∉ items.map name

variable {name parent} {items : List β}

theorem Acyclic.parent_ne (h : Acyclic name parent) (item : β) : parent item ≠ name item := by
  intro hself
  exact h item (.single hself.symm)

theorem Acyclic.comap {α : Type*} (h : Acyclic name parent) (f : α → β) :
    Acyclic (name ∘ f) (parent ∘ f) := by
  intro item hcycle
  exact h (f item) (hcycle.lift f fun _ _ => id)

theorem acyclic_of_lt [Preorder ι] (h : ∀ item, parent item < name item) :
    Acyclic name parent := by
  intro item hcycle
  have hlt : ∀ {older younger : β}, TransGen (Parents name parent) older younger →
      name older < name younger := by
    intro older younger hpath
    induction hpath with
    | single hstep => exact hstep.trans_lt (h _)
    | tail _ hstep ih => exact ih.trans (hstep.trans_lt (h _))
  exact lt_irrefl _ (hlt hcycle)

theorem Acyclic.wellFoundedOn (h : Acyclic name parent) (items : List β) :
    {item | item ∈ items}.WellFoundedOn (TransGen (Parents name parent)) := by
  have : IsStrictOrder β (TransGen (Parents name parent)) := {
    irrefl := h
    trans := fun _ _ _ => TransGen.trans }
  exact items.finite_toSet.wellFoundedOn

section Roots

variable [DecidableEq ι]

@[simp] theorem mem_roots {item : β} :
    item ∈ roots name parent items ↔ item ∈ items ∧ parent item ∉ items.map name := by
  rw [roots, List.mem_filter, decide_eq_true_eq]

theorem roots_perm {items' : List β} (h : items.Perm items') :
    (roots name parent items).Perm (roots name parent items') := by
  have hsame : roots name parent items =
      items.filter fun item => parent item ∉ items'.map name := by
    refine List.filter_congr fun item _ => ?_
    simp only [(h.map name).mem_iff]
  rw [hsame]
  exact h.filter _

theorem roots_cons {item : β} (horphan : parent item ∉ (item :: items).map name) :
    roots name parent (item :: items) =
      item :: (roots name parent items).filter fun root => parent root ≠ name item := by
  rw [roots, List.filter_cons_of_pos (by simpa using horphan), roots, List.filter_filter]
  congr 1
  refine List.filter_congr fun root _ => ?_
  simp only [List.map_cons, List.mem_cons, not_or, ne_eq, Bool.decide_and]

theorem exists_root (h : Acyclic name parent) {item : β} (hitem : item ∈ items) :
    ∃ root ∈ roots name parent items, Descends name parent items root item := by
  refine (h.wellFoundedOn items).induction hitem
    (P := fun item => ∃ root ∈ roots name parent items, Descends name parent items root item) ?_
  intro younger hyounger ih
  by_cases hparent : parent younger ∈ items.map name
  · obtain ⟨older, holder, hname⟩ := List.mem_map.1 hparent
    obtain ⟨root, hroot, hdescends⟩ := ih older holder (.single hname)
    exact ⟨root, hroot, hdescends.tail ⟨hyounger, hname⟩⟩
  · exact ⟨younger, mem_roots.2 ⟨hyounger, hparent⟩, .refl⟩

end Roots

end Ancestry
