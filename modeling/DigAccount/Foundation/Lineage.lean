import DigAccount.Foundation.Ledger
import Mathlib.Data.List.Induction

inductive Lineage (κ : Type) where
  | unborn
  | live (tip : κ)
  | melted (last : κ)
  deriving DecidableEq, Repr

namespace Lineage

open Ledger

variable {κ : Type}

def tip : Lineage κ → Option κ
  | unborn => none
  | live tip | melted tip => some tip

def settle (s : Spend κ) : Lineage κ :=
  match s.heir with
  | some successor => live successor
  | none => melted s.coin

def launch (s : Spend κ) : Lineage κ :=
  match s.heir with
  | some successor => live successor
  | none => unborn

def Recreated (history : List (Spend κ)) (c : κ) : Prop :=
  ∃ s ∈ history, s.coin = c ∧ s.heir.isSome

theorem settle_eq_live {s : Spend κ} {tip : κ} (h : settle s = live tip) : s.heir = some tip := by
  rw [settle] at h
  split at h
  · rename_i successor hheir
    cases h
    exact hheir
  · cases h

theorem settle_eq_melted {s : Spend κ} {last : κ} (h : settle s = melted last) :
    s.heir = none ∧ s.coin = last := by
  rw [settle] at h
  split at h
  · cases h
  · rename_i hheir
    cases h
    exact ⟨hheir, rfl⟩

theorem launch_eq_live {s : Spend κ} {tip : κ} (h : launch s = live tip) : s.heir = some tip := by
  rw [launch] at h
  split at h
  · rename_i successor hheir
    cases h
    exact hheir
  · cases h

theorem launch_ne_melted {s : Spend κ} {last : κ} : launch s ≠ melted last := by
  rw [launch]
  split <;> simp

variable [DecidableEq κ]

def advance (launcher : κ) : Lineage κ → Spend κ → Lineage κ
  | unborn, s => if s.coin = launcher then launch s else unborn
  | live tip, s => if s.coin = tip then settle s else live tip
  | melted last, _ => melted last

def along (launcher : κ) (history : List (Spend κ)) : Lineage κ :=
  history.foldl (advance launcher) unborn

variable {launcher c tip last : κ} {history earlier later : List (Spend κ)} {s : Spend κ}

theorem along_append :
    along launcher (earlier ++ later) = later.foldl (advance launcher) (along launcher earlier) :=
  List.foldl_append

theorem along_snoc :
    along launcher (earlier ++ [s]) = advance launcher (along launcher earlier) s :=
  along_append

theorem foldl_melted : later.foldl (advance launcher) (melted last) = melted last := by
  induction later with
  | nil => rfl
  | cons s later ih => exact ih

theorem advance_eq_live {state : Lineage κ} (h : advance launcher state s = live tip) :
    s.heir = some tip ∨ state = live tip ∧ s.coin ≠ tip := by
  cases state with
  | unborn =>
      simp only [advance] at h
      split at h
      · exact .inl (launch_eq_live h)
      · cases h
  | live t =>
      simp only [advance] at h
      split at h
      · exact .inl (settle_eq_live h)
      · rename_i hne
        cases h
        exact .inr ⟨rfl, hne⟩
  | melted last => cases h

theorem advance_eq_melted {state : Lineage κ} (h : advance launcher state s = melted last) :
    (state = live last ∧ s.heir = none ∧ s.coin = last) ∨ state = melted last := by
  cases state with
  | unborn =>
      simp only [advance] at h
      split at h
      · exact absurd h launch_ne_melted
      · cases h
  | live t =>
      simp only [advance] at h
      split at h
      · rename_i hcoin
        obtain ⟨hheir, hlast⟩ := settle_eq_melted h
        exact .inl ⟨by rw [← hcoin, hlast], hheir, hlast⟩
      · cases h
  | melted t =>
      cases h
      exact .inr rfl

theorem heir_of_live (h : along launcher history = live tip) :
    ∃ s ∈ history, s.heir = some tip := by
  induction history using List.reverseRec with
  | nil => cases h
  | append_singleton earlier s ih =>
      rw [along_snoc] at h
      rcases advance_eq_live h with hheir | ⟨hlive, -⟩
      · exact ⟨s, by simp, hheir⟩
      · obtain ⟨t, ht, hheir⟩ := ih hlive
        exact ⟨t, List.mem_append_left _ ht, hheir⟩

theorem heir_of_melted (h : along launcher history = melted last) :
    ∃ s ∈ history, s.heir = some last := by
  induction history using List.reverseRec with
  | nil => cases h
  | append_singleton earlier s ih =>
      rw [along_snoc] at h
      have hearlier : ∃ t ∈ earlier, t.heir = some last := by
        rcases advance_eq_melted h with ⟨hlive, -⟩ | hmelted
        · exact heir_of_live hlive
        · exact ih hmelted
      obtain ⟨t, ht, hheir⟩ := hearlier
      exact ⟨t, List.mem_append_left _ ht, hheir⟩

theorem live_unspent (causal : Causal history) (h : along launcher history = live tip) :
    tip ∉ history.map Spend.coin := by
  induction history using List.reverseRec with
  | nil => cases h
  | append_singleton earlier s ih =>
      rw [along_snoc] at h
      rcases advance_eq_live h with hheir | ⟨hlive, hne⟩
      · have hcreated := causal.heir_created s (by simp) tip hheir
        exact causal.created_before earlier s [] rfl tip hcreated
      · have hearlier := ih causal.append_left hlive
        rw [List.map_append, List.mem_append, not_or]
        exact ⟨hearlier, by simpa using hne.symm⟩

theorem melted_spent (h : along launcher history = melted last) :
    ∃ s ∈ history, s.coin = last ∧ s.heir = none := by
  induction history using List.reverseRec with
  | nil => cases h
  | append_singleton earlier s ih =>
      rw [along_snoc] at h
      rcases advance_eq_melted h with ⟨-, hheir, hcoin⟩ | hmelted
      · exact ⟨s, by simp, hcoin, hheir⟩
      · obtain ⟨t, ht, hcoin, hheir⟩ := ih hmelted
        exact ⟨t, List.mem_append_left _ ht, hcoin, hheir⟩

theorem foldl_live_spent (launcher : κ) (h : tip ∈ later.map Spend.coin) :
    ∃ between s rest, later = between ++ s :: rest ∧ s.coin = tip ∧
      later.foldl (advance launcher) (live tip) =
        rest.foldl (advance launcher) (settle s) := by
  induction later with
  | nil => cases h
  | cons s later ih =>
      by_cases hcoin : s.coin = tip
      · have hstep : advance launcher (live tip) s = settle s := if_pos hcoin
        exact ⟨[], s, later, rfl, hcoin, by rw [List.foldl_cons, hstep]⟩
      · have hstep : advance launcher (live tip) s = live tip := if_neg hcoin
        have hmem : tip ∈ later.map Spend.coin := by
          rcases List.mem_cons.1 h with heq | hmem
          · exact absurd heq.symm hcoin
          · exact hmem
        obtain ⟨between, t, rest, rfl, ht, hfold⟩ := ih hmem
        refine ⟨s :: between, t, rest, rfl, ht, ?_⟩
        rw [List.foldl_cons, hstep, hfold]

theorem melted_iff_not_recreated (causal : Causal (earlier ++ later))
    (hlive : along launcher earlier = live tip) (hspent : tip ∈ (earlier ++ later).map Spend.coin) :
    along launcher (earlier ++ later) = melted tip ↔ ¬ Recreated (earlier ++ later) tip := by
  constructor
  · rintro hmelted ⟨s, hs, hcoin, hheir⟩
    obtain ⟨t, ht, htcoin, htheir⟩ := melted_spent hmelted
    have hst : s = t := causal.spend_unique hs ht (hcoin.trans htcoin.symm)
    rw [hst, htheir] at hheir
    cases hheir
  · intro hnot
    have hunspent := live_unspent causal.append_left hlive
    have hlater : tip ∈ later.map Spend.coin := by
      rw [List.map_append, List.mem_append] at hspent
      exact hspent.resolve_left hunspent
    obtain ⟨between, s, rest, rfl, hcoin, hfold⟩ := foldl_live_spent launcher hlater
    have hheir : s.heir = none := by
      by_contra hsome
      exact hnot ⟨s, by simp, hcoin, Option.isSome_iff_ne_none.2 hsome⟩
    have hsettle : settle s = melted tip := by
      rw [settle]
      rw [hheir, hcoin]
    rw [along_append, hlive, hfold, hsettle, foldl_melted]

end Lineage
