import Mathlib.Data.List.Nodup
import Mathlib.Data.List.Pairwise

structure Ledger.Spend (κ : Type) where
  coin : κ
  created : List κ
  heir : Option κ
  deriving DecidableEq, Repr

structure Ledger.Block (κ : Type) where
  rewards : List κ
  spends : List (Ledger.Spend κ)
  deriving DecidableEq, Repr

abbrev Ledger (κ : Type) := List (Ledger.Block κ)

namespace Ledger

variable {κ : Type}

def Block.created (block : Block κ) : List κ := block.rewards ++ block.spends.flatMap Spend.created

def Block.spent (block : Block κ) : List κ := block.spends.map Spend.coin

def spends (chain : Ledger κ) : List (Spend κ) := chain.flatMap Block.spends

def confirmedHeight [DecidableEq κ] (chain : Ledger κ) (c : κ) : Option Nat :=
  chain.findIdx? fun block => c ∈ block.created

def spentHeight [DecidableEq κ] (chain : Ledger κ) (c : κ) : Option Nat :=
  chain.findIdx? fun block => c ∈ block.spent

def IncludedAt (chain : Ledger κ) (bundle : List (Spend κ)) (height : Nat) : Prop :=
  ∃ block, chain[height]? = some block ∧ bundle ⊆ block.spends

structure Causal (history : List (Spend κ)) : Prop where
  spent_once : (history.map Spend.coin).Nodup
  heir_created : ∀ s ∈ history, ∀ c, s.heir = some c → c ∈ s.created
  created_before : ∀ earlier s later, history = earlier ++ s :: later →
    ∀ c ∈ s.created, c ∉ (earlier ++ [s]).map Spend.coin

structure Consistent (chain : Ledger κ) : Prop where
  causal : Causal (spends chain)
  created_once : (chain.flatMap Block.created).Nodup

theorem findIdx?_take {p : Block κ → Bool} {chain : Ledger κ} {n i : Nat} :
    (chain.take n).findIdx? p = some i ↔ i < n ∧ chain.findIdx? p = some i := by
  simp only [List.findIdx?_eq_some_iff_getElem, List.length_take, List.getElem_take]
  constructor
  · rintro ⟨hlt, hp, hbefore⟩
    exact ⟨by omega, by omega, hp, hbefore⟩
  · rintro ⟨hn, hlt, hp, hbefore⟩
    exact ⟨by omega, hp, hbefore⟩

theorem mem_spent {block : Block κ} {s : Spend κ} (h : s ∈ block.spends) :
    s.coin ∈ block.spent :=
  List.mem_map.2 ⟨s, h, rfl⟩

theorem mem_created {block : Block κ} {s : Spend κ} {c : κ} (h : s ∈ block.spends)
    (hc : c ∈ s.created) : c ∈ block.created :=
  List.mem_append_right _ (List.mem_flatMap.2 ⟨s, h, hc⟩)

theorem spends_take_isPrefix (chain : Ledger κ) {n m : Nat} (h : n ≤ m) :
    spends (chain.take n) <+: spends (chain.take m) := by
  obtain ⟨rest, hrest⟩ := List.take_prefix_take_left (l := chain) h
  exact ⟨spends rest, by rw [← hrest]; simp [spends]⟩

theorem Causal.append_left {earlier later : List (Spend κ)} (h : Causal (earlier ++ later)) :
    Causal earlier where
  spent_once := by
    have hnodup := h.spent_once
    rw [List.map_append] at hnodup
    exact hnodup.of_append_left
  heir_created s hs := h.heir_created s (List.mem_append_left _ hs)
  created_before before s between hsplit :=
    h.created_before before s (between ++ later) (by rw [hsplit]; simp)

theorem Causal.spend_unique {history : List (Spend κ)} {s t : Spend κ} (h : Causal history)
    (hs : s ∈ history) (ht : t ∈ history) (hcoin : s.coin = t.coin) : s = t :=
  List.inj_on_of_nodup_map h.spent_once hs ht hcoin

theorem Causal.fresh_heir {earlier : List (Spend κ)} {s : Spend κ} {next : κ}
    (h : Causal (earlier ++ [s])) (hheir : s.heir = some next) :
    next ∉ (earlier ++ [s]).map Spend.coin :=
  h.created_before earlier s [] rfl next (h.heir_created s (by simp) next hheir)

theorem Causal.take {chain : Ledger κ} (h : Causal (spends chain)) (n : Nat) :
    Causal (spends (chain.take n)) := by
  have hsplit : spends chain = spends (chain.take n) ++ spends (chain.drop n) := by
    simp only [spends]
    rw [← List.flatMap_append, List.take_append_drop]
  rw [hsplit] at h
  exact h.append_left

theorem eq_of_nodup_flatMap {α β : Type} {f : α → List β} {xs : List α} {x y : α} {c : β}
    (h : (xs.flatMap f).Nodup) (hx : x ∈ xs) (hy : y ∈ xs) (hcx : c ∈ f x) (hcy : c ∈ f y) :
    x = y := by
  by_contra hne
  have hpair := (List.nodup_flatMap.1 h).2
  have hsymm : Std.Symm (Function.onFun List.Disjoint f) := ⟨fun _ _ h _ hx hy => h hy hx⟩
  have hdisjoint := hpair.forall hx hy hne
  exact hdisjoint hcx hcy

theorem index_unique {f : Block κ → List κ} {chain : Ledger κ} (h : (chain.flatMap f).Nodup)
    {i j : Nat} {bi bj : Block κ} (hi : chain[i]? = some bi) (hj : chain[j]? = some bj) {c : κ}
    (hci : c ∈ f bi) (hcj : c ∈ f bj) : i = j := by
  have hpair := List.pairwise_iff_getElem.1 (List.nodup_flatMap.1 h).2
  obtain ⟨hilt, rfl⟩ := List.getElem?_eq_some_iff.1 hi
  obtain ⟨hjlt, rfl⟩ := List.getElem?_eq_some_iff.1 hj
  rcases Nat.lt_trichotomy i j with hlt | heq | hgt
  · exact absurd hcj (hpair i j hilt hjlt hlt hci)
  · exact heq
  · exact absurd hci (hpair j i hjlt hilt hgt hcj)

theorem spent_once_blocks {chain : Ledger κ} (h : Causal (spends chain)) :
    (chain.flatMap Block.spent).Nodup := by
  have hmap : (spends chain).map Spend.coin = chain.flatMap Block.spent := List.map_flatMap
  rw [← hmap]
  exact h.spent_once

theorem findIdx?_take_eq {p : Block κ → Bool} {chain : Ledger κ} {height : Nat}
    (h : chain.findIdx? p = some height) (n : Nat) :
    (chain.take n).findIdx? p = if height < n then some height else none := by
  split
  · rename_i hlt
    exact findIdx?_take.2 ⟨hlt, h⟩
  · rename_i hge
    refine Option.eq_none_iff_forall_ne_some.2 fun i hi => ?_
    obtain ⟨hlt, hfind⟩ := findIdx?_take.1 hi
    rw [h] at hfind
    cases hfind
    exact hge hlt

theorem findIdx?_of_unique [DecidableEq κ] {f : Block κ → List κ} {chain : Ledger κ}
    (once : (chain.flatMap f).Nodup) {height : Nat} {block : Block κ} {c : κ}
    (hblock : chain[height]? = some block) (hc : c ∈ f block) :
    chain.findIdx? (fun block => c ∈ f block) = some height := by
  obtain ⟨hlt, rfl⟩ := List.getElem?_eq_some_iff.1 hblock
  refine List.findIdx?_eq_some_iff_getElem.2 ⟨hlt, by simpa using hc, fun j hj => ?_⟩
  intro hmem
  have hjlt : j < chain.length := Nat.lt_trans hj hlt
  have heq := index_unique once hblock (List.getElem?_eq_getElem hjlt) hc (by simpa using hmem)
  omega

namespace IncludedAt

variable [DecidableEq κ] {chain : Ledger κ} {bundle : List (Spend κ)} {height : Nat} {s : Spend κ}

theorem spentHeight_take (h : IncludedAt chain bundle height) (causal : Causal (spends chain))
    (hs : s ∈ bundle) (n : Nat) :
    spentHeight (chain.take n) s.coin = if height < n then some height else none := by
  obtain ⟨block, hblock, hsub⟩ := h
  refine findIdx?_take_eq ?_ n
  exact findIdx?_of_unique (spent_once_blocks causal) hblock (mem_spent (hsub hs))

theorem confirmedHeight_take (h : IncludedAt chain bundle height)
    (once : (chain.flatMap Block.created).Nodup) (hs : s ∈ bundle) {c : κ} (hc : c ∈ s.created)
    (n : Nat) : confirmedHeight (chain.take n) c = if height < n then some height else none := by
  obtain ⟨block, hblock, hsub⟩ := h
  refine findIdx?_take_eq ?_ n
  exact findIdx?_of_unique once hblock (mem_created (hsub hs) hc)

end IncludedAt

theorem spentHeight_eq_none [DecidableEq κ] {chain : Ledger κ} {c : κ} :
    spentHeight chain c = none ↔ c ∉ (spends chain).map Spend.coin := by
  rw [spentHeight, spends]
  rw [List.findIdx?_eq_none_iff, List.map_flatMap, List.mem_flatMap]
  constructor
  · rintro h ⟨block, hblock, hc⟩
    have hnot := h block hblock
    exact absurd hc (by simpa [Block.spent] using hnot)
  · intro h block hblock
    by_contra hc
    exact h ⟨block, hblock, by simpa [Block.spent] using hc⟩

section Decidable

variable [DecidableEq κ]

def FreshAfter : List κ → List (Spend κ) → Prop
  | _, [] => True
  | spent, s :: rest =>
      (∀ c ∈ s.created, c ∉ spent ++ [s.coin]) ∧ FreshAfter (spent ++ [s.coin]) rest

instance decidableFreshAfter : (spent : List κ) → (history : List (Spend κ)) →
    Decidable (FreshAfter spent history)
  | _, [] => .isTrue trivial
  | spent, s :: rest =>
      have := decidableFreshAfter (spent ++ [s.coin]) rest
      inferInstanceAs (Decidable (_ ∧ _))

end Decidable

theorem freshAfter_split {spent : List κ} {history : List (Spend κ)}
    (h : FreshAfter spent history) {earlier later : List (Spend κ)} {s : Spend κ}
    (hsplit : history = earlier ++ s :: later) {c : κ} (hc : c ∈ s.created) :
    c ∉ spent ++ (earlier ++ [s]).map Spend.coin := by
  induction earlier generalizing spent history with
  | nil =>
      subst hsplit
      exact h.1 c hc
  | cons t earlier ih =>
      subst hsplit
      have hrest := ih h.2 rfl
      simpa using hrest

theorem causal_of_fresh {history : List (Spend κ)}
    (once : (history.map Spend.coin).Nodup)
    (heirs : ∀ s ∈ history, ∀ c ∈ s.heir, c ∈ s.created) (fresh : FreshAfter [] history) :
    Causal history where
  spent_once := once
  heir_created s hs c hc := heirs s hs c hc
  created_before _ _ _ hsplit _ hc := freshAfter_split fresh hsplit hc

end Ledger
