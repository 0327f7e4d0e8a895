import DigAccount.Foundation.Lineage
import Mathlib.Data.List.Chain

namespace Lineage

open Ledger

variable {κ : Type} [DecidableEq κ]

def extendTrail (trail : List κ) (s : Spend κ) : List κ :=
  match s.heir with
  | some next => if trail.getLast? = some s.coin then trail ++ [next] else trail
  | none => trail

def trail (launcher : κ) (history : List (Spend κ)) : List κ :=
  history.foldl extendTrail [launcher]

def Succeeds (history : List (Spend κ)) (c next : κ) : Prop :=
  ∃ s ∈ history, s.coin = c ∧ s.heir = some next

variable {launcher c next tip : κ} {history earlier : List (Spend κ)} {s : Spend κ}

theorem trail_snoc : trail launcher (earlier ++ [s]) = extendTrail (trail launcher earlier) s :=
  List.foldl_append

theorem extendTrail_cases (trail : List κ) (s : Spend κ) :
    extendTrail trail s = trail ∨
      ∃ next, s.heir = some next ∧ trail.getLast? = some s.coin ∧
        extendTrail trail s = trail ++ [next] := by
  cases hheir : s.heir with
  | none => exact .inl (by simp only [extendTrail, hheir])
  | some next =>
      simp only [extendTrail, hheir]
      split
      · rename_i hlast
        exact .inr ⟨next, rfl, hlast, rfl⟩
      · exact .inl rfl

omit [DecidableEq κ] in
theorem Succeeds.snoc (h : Succeeds earlier c next) : Succeeds (earlier ++ [s]) c next := by
  obtain ⟨t, ht, hcoin, hheir⟩ := h
  exact ⟨t, List.mem_append_left _ ht, hcoin, hheir⟩

theorem head_trail (launcher : κ) (history : List (Spend κ)) :
    (trail launcher history).head? = some launcher := by
  induction history using List.reverseRec with
  | nil => rfl
  | append_singleton earlier s ih =>
      rw [trail_snoc]
      rcases extendTrail_cases (trail launcher earlier) s with hsame | ⟨next, -, -, hext⟩
      · rw [hsame, ih]
      · rw [hext, List.head?_append, ih]
        rfl

theorem trail_links (launcher : κ) (history : List (Spend κ)) :
    (trail launcher history).IsChain (Succeeds history) := by
  induction history using List.reverseRec with
  | nil => exact .singleton launcher
  | append_singleton earlier s ih =>
      have hearlier : (trail launcher earlier).IsChain (Succeeds (earlier ++ [s])) :=
        ih.imp fun _ _ h => h.snoc
      rw [trail_snoc]
      rcases extendTrail_cases (trail launcher earlier) s with hsame | ⟨next, hheir, hlast, hext⟩
      · rw [hsame]
        exact hearlier
      · rw [hext]
        refine hearlier.append (.singleton next) fun c hc d hd => ?_
        rw [hlast] at hc
        cases hc
        cases hd
        exact ⟨s, by simp, rfl, hheir⟩

theorem trail_of_unborn (h : along launcher history = unborn) :
    trail launcher history = [launcher] := by
  induction history using List.reverseRec with
  | nil => rfl
  | append_singleton earlier s ih =>
      rw [along_snoc] at h
      cases hstate : along launcher earlier with
      | unborn =>
          rw [hstate] at h
          rw [trail_snoc, ih hstate]
          simp only [advance] at h
          rcases extendTrail_cases [launcher] s with hsame | ⟨next, hheir, hlast, -⟩
          · exact hsame
          · cases hlast
            rw [if_pos rfl] at h
            simp only [launch, hheir] at h
            cases h
      | live t =>
          rw [hstate] at h
          simp only [advance, settle] at h
          split at h
          · split at h <;> cases h
          · cases h
      | melted last =>
          rw [hstate] at h
          cases h

theorem trail_last (h : along launcher history = live tip) :
    (trail launcher history).getLast? = some tip := by
  induction history using List.reverseRec generalizing tip with
  | nil => cases h
  | append_singleton earlier s ih =>
      rw [along_snoc] at h
      rw [trail_snoc]
      cases hstate : along launcher earlier with
      | unborn =>
          rw [hstate] at h
          simp only [advance] at h
          split at h
          · rename_i hcoin
            have hheir := launch_eq_live h
            simp [trail_of_unborn hstate, extendTrail, hheir, hcoin]
          · cases h
      | live t =>
          have hlast := ih hstate
          rw [hstate] at h
          simp only [advance] at h
          split at h
          · rename_i hcoin
            have hheir := settle_eq_live h
            simp [extendTrail, hheir, hlast, hcoin]
          · rename_i hcoin
            cases h
            rcases extendTrail_cases (trail launcher earlier) s with hsame | ⟨next, -, hlast', -⟩
            · rw [hsame, hlast]
            · rw [hlast] at hlast'
              cases hlast'
              exact absurd rfl hcoin
      | melted last =>
          rw [hstate] at h
          cases h

omit [DecidableEq κ] in
theorem spent_of_isChain {xs : List κ} (h : xs.IsChain (Succeeds history)) (hc : c ∈ xs) :
    xs.getLast? = some c ∨ c ∈ history.map Spend.coin := by
  induction xs with
  | nil => cases hc
  | cons x xs ih =>
      cases xs with
      | nil =>
          rw [List.mem_singleton.1 hc]
          exact .inl rfl
      | cons y ys =>
          rw [List.isChain_cons_cons] at h
          obtain ⟨⟨s, hs, hcoin, -⟩, htail⟩ := h
          rcases List.mem_cons.1 hc with rfl | hmem
          · exact .inr (List.mem_map.2 ⟨s, hs, hcoin⟩)
          · exact (ih htail hmem).imp_left fun hlast => by rwa [List.getLast?_cons_cons]

omit [DecidableEq κ] in
theorem created_of_isChain {xs : List κ}
    (h : xs.IsChain (Succeeds history)) (hc : c ∈ xs) :
    xs.head? = some c ∨ ∃ s ∈ history, s.heir = some c := by
  induction xs with
  | nil => cases hc
  | cons x xs ih =>
      cases xs with
      | nil =>
          rw [List.mem_singleton.1 hc]
          exact .inl rfl
      | cons y ys =>
          rw [List.isChain_cons_cons] at h
          obtain ⟨⟨s, hs, -, hheir⟩, htail⟩ := h
          rcases List.mem_cons.1 hc with rfl | hmem
          · exact .inl rfl
          · rcases ih htail hmem with hhead | hcreated
            · cases hhead
              exact .inr ⟨s, hs, hheir⟩
            · exact .inr hcreated

theorem trail_nodup (causal : Causal history) : (trail launcher history).Nodup := by
  induction history using List.reverseRec with
  | nil => exact List.nodup_singleton launcher
  | append_singleton earlier s ih =>
      rw [trail_snoc]
      rcases extendTrail_cases (trail launcher earlier) s with hsame | ⟨next, hheir, hlast, hext⟩
      · rw [hsame]
        exact ih causal.append_left
      · have hfresh := causal.fresh_heir hheir
        rw [hext]
        refine List.nodup_append.2 ⟨ih causal.append_left, List.nodup_singleton next, ?_⟩
        rintro c hc d hd rfl
        rw [List.mem_singleton.1 hd] at hc
        rcases spent_of_isChain (trail_links launcher earlier) hc with hend | hspent
        · rw [hlast] at hend
          cases hend
          exact hfresh (by simp)
        · exact hfresh (by rw [List.map_append]; exact List.mem_append_left _ hspent)

omit [DecidableEq κ] in
theorem eq_singleton_of_nodup {xs : List κ} (nodup : xs.Nodup) (hhead : xs.head? = some c)
    (hlast : xs.getLast? = some c) : xs = [c] := by
  cases xs with
  | nil => cases hhead
  | cons x ys =>
      cases hhead
      cases ys with
      | nil => rfl
      | cons y zs =>
          rw [List.getLast?_cons_cons] at hlast
          exact absurd (List.mem_of_getLast? hlast) (List.nodup_cons.1 nodup).1

theorem launcher_not_created (causal : Causal history) (hs : s ∈ history)
    (hcoin : s.coin ∈ trail launcher history) : launcher ∉ s.created := by
  induction history using List.reverseRec generalizing s with
  | nil => cases hs
  | append_singleton earlier t ih =>
      have hcases := extendTrail_cases (trail launcher earlier) t
      rw [trail_snoc] at hcoin
      have hback : s.coin ∈ trail launcher earlier := by
        rcases hcases with hsame | ⟨next, hheir, -, hext⟩
        · rwa [hsame] at hcoin
        · rw [hext, List.mem_append, List.mem_singleton] at hcoin
          refine hcoin.resolve_right fun hnext => ?_
          exact causal.fresh_heir hheir (hnext ▸ List.mem_map_of_mem hs)
      rw [List.mem_append, List.mem_singleton] at hs
      rcases hs with hs | rfl
      · exact ih causal.append_left hs hback
      · intro hcreated
        refine causal.created_before earlier s [] rfl launcher hcreated ?_
        have hstart : launcher ∈ trail launcher earlier :=
          List.mem_of_head? (head_trail launcher earlier)
        rw [List.map_append]
        rcases spent_of_isChain (trail_links launcher earlier) hstart with hend | hspent
        · have hsingle : trail launcher earlier = [launcher] :=
            eq_singleton_of_nodup (trail_nodup causal.append_left) (head_trail ..) hend
          rw [hsingle, List.mem_singleton] at hback
          simp [hback]
        · exact List.mem_append_left _ hspent

theorem only_heir_on_trail (causal : Causal history)
    (created_once : (history.flatMap Spend.created).Nodup) (hs : s ∈ history)
    (hcoin : s.coin ∈ trail launcher history) (hcreated : c ∈ s.created)
    (hc : c ∈ trail launcher history) : s.heir = some c := by
  rcases created_of_isChain (trail_links launcher history) hc with hhead | ⟨t, ht, hheir⟩
  · rw [head_trail] at hhead
    cases hhead
    exact absurd hcreated (launcher_not_created causal hs hcoin)
  · have hsame : s = t :=
      eq_of_nodup_flatMap created_once hs ht hcreated (causal.heir_created t ht c hheir)
    rw [hsame, hheir]

theorem extendTrail_isPrefix (trail : List κ) (s : Spend κ) : trail <+: extendTrail trail s := by
  rcases extendTrail_cases trail s with hsame | ⟨next, -, -, hext⟩
  · exact ⟨[], by rw [hsame, List.append_nil]⟩
  · rw [hext]
    exact List.prefix_append trail [next]

theorem trail_isPrefix {later : List (Spend κ)} (h : earlier <+: later) :
    trail launcher earlier <+: trail launcher later := by
  obtain ⟨rest, rfl⟩ := h
  induction rest using List.reverseRec with
  | nil => exact ⟨[], by simp⟩
  | append_singleton rest s ih =>
      rw [← List.append_assoc, trail_snoc]
      exact ih.trans (extendTrail_isPrefix _ s)

theorem not_recreated_of_tip (causal : Causal history)
    (h : (along launcher history).tip = some tip) : ¬ Recreated history tip := by
  rintro ⟨s, hs, hcoin, hsome⟩
  cases hstate : along launcher history with
  | unborn =>
      rw [hstate] at h
      cases h
  | live t =>
      rw [hstate] at h
      cases h
      exact live_unspent causal hstate (List.mem_map.2 ⟨s, hs, hcoin⟩)
  | melted last =>
      rw [hstate] at h
      cases h
      obtain ⟨t, ht, htcoin, hheir⟩ := melted_spent hstate
      have hsame : s = t := causal.spend_unique hs ht (hcoin.trans htcoin.symm)
      rw [hsame, hheir] at hsome
      cases hsome

theorem trail_last_of_tip (causal : Causal history)
    (h : (along launcher history).tip = some tip) :
    (trail launcher history).getLast? = some tip := by
  induction history using List.reverseRec with
  | nil => cases h
  | append_singleton earlier s ih =>
      cases hstate : along launcher (earlier ++ [s]) with
      | unborn =>
          rw [hstate] at h
          cases h
      | live t =>
          rw [hstate] at h
          cases h
          exact trail_last hstate
      | melted last =>
          have hnot := not_recreated_of_tip causal h
          rw [hstate] at h
          cases h
          rw [along_snoc] at hstate
          have hearlier : (trail launcher earlier).getLast? = some tip := by
            rcases advance_eq_melted hstate with ⟨hlive, -, -⟩ | hmelted
            · exact trail_last hlive
            · exact ih causal.append_left (by rw [hmelted]; rfl)
          rw [trail_snoc]
          rcases extendTrail_cases (trail launcher earlier) s with hsame | ⟨next, hheir, hend, -⟩
          · rw [hsame, hearlier]
          · rw [hearlier] at hend
            cases hend
            exact absurd ⟨s, by simp, rfl, by simp [hheir]⟩ hnot

theorem trail_cons (launcher : κ) (history : List (Spend κ)) :
    trail launcher history = launcher :: (trail launcher history).tail := by
  have hhead := head_trail launcher history
  cases htrail : trail launcher history with
  | nil =>
      rw [htrail] at hhead
      cases hhead
  | cons first rest =>
      rw [htrail] at hhead
      cases hhead
      rfl

theorem trail_tail_isPrefix {later : List (Spend κ)} (h : earlier <+: later) :
    (trail launcher earlier).tail <+: (trail launcher later).tail := by
  have htrail : trail launcher earlier <+: trail launcher later := trail_isPrefix h
  rw [trail_cons launcher earlier, trail_cons launcher later, List.cons_prefix_cons] at htrail
  exact htrail.2

theorem trail_tail_ne_nil (h : (along launcher history).tip.isSome) :
    (trail launcher history).tail ≠ [] := by
  induction history using List.reverseRec with
  | nil => cases h
  | append_singleton earlier s ih =>
      have hgrown : (trail launcher earlier).tail ≠ [] →
          (trail launcher (earlier ++ [s])).tail ≠ [] := by
        intro hearlier hnil
        have hgrows : (trail launcher earlier).tail <+: [] :=
          hnil ▸ trail_tail_isPrefix (List.prefix_append earlier [s])
        exact hearlier (List.prefix_nil.1 hgrows)
      cases hstate : along launcher earlier with
      | unborn =>
          rw [along_snoc, hstate] at h
          simp only [advance] at h
          split at h
          · rename_i hcoin
            cases hheir : s.heir with
            | none =>
                rw [launch, hheir] at h
                cases h
            | some next => simp [trail_snoc, trail_of_unborn hstate, extendTrail, hheir, hcoin]
          · cases h
      | live t => exact hgrown (ih (by rw [hstate]; rfl))
      | melted last => exact hgrown (ih (by rw [hstate]; rfl))

theorem trail_tail_last (causal : Causal history) (h : (along launcher history).tip = some tip) :
    (trail launcher history).tail.getLast? = some tip := by
  have hlast := trail_last_of_tip causal h
  have hborn : (trail launcher history).tail ≠ [] := trail_tail_ne_nil (by rw [h]; rfl)
  rw [trail_cons] at hlast
  cases hcoins : (trail launcher history).tail with
  | nil => exact absurd hcoins hborn
  | cons first rest =>
      rw [hcoins, List.getLast?_cons_cons] at hlast
      exact hlast

omit [DecidableEq κ] in
theorem exists_versions {ν ε : Type} {R : κ → κ → Prop} {Version : κ → ν → Prop}
    (Step : κ → κ → ε → ν → Prop) {coins : List κ} (links : (c :: coins).IsChain R)
    (step : ∀ c' ∈ c :: coins, ∀ next, R c' next → ∃ e v, Step c' next e v ∧ Version next v) :
    ∃ (versions : List ν) (steps : List ε), List.Forall₂ Version coins versions ∧
      steps.length = coins.length ∧
      ∀ (k : Nat) e, steps[k]? = some e → ∃ c' next v, (c :: coins)[k]? = some c' ∧
        coins[k]? = some next ∧ versions[k]? = some v ∧ Step c' next e v := by
  induction coins generalizing c with
  | nil => exact ⟨[], [], .nil, rfl, by simp⟩
  | cons next coins ih =>
      rw [List.isChain_cons_cons] at links
      obtain ⟨e, v, hstep, hversion⟩ := step c List.mem_cons_self next links.1
      obtain ⟨versions, steps, hversions, hlength, hsteps⟩ := ih links.2
        fun c' hc' => step c' (List.mem_cons_of_mem _ hc')
      refine ⟨v :: versions, e :: steps, .cons hversion hversions, by simp [hlength], ?_⟩
      intro k e' hk
      cases k with
      | zero =>
          cases hk
          exact ⟨c, next, v, rfl, rfl, rfl, hstep⟩
      | succ k => exact hsteps k e' hk

end Lineage
