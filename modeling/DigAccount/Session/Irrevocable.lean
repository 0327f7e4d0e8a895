import DigAccount.Session.Residency

namespace DigAccount

open Interleaving Interleaving.Protocol

namespace SharedResidency

structure Tracks (idleBounded : Bool) (s : SharedResidency) : Prop where
  bounded : s.token.idle.isSome = idleBounded
  lapsed : ∀ reading ∈ s.lapses, reading ≤ s.now ∧
    ∃ window, s.token.idle = some window ∧ window.deadline ≤ reading
  told : s.toldDead = true → s.token.live = false ∨ ∃ reading, reading ∈ s.lapses
  irrevocable : ∀ answer ∈ s.answers, answer.afterDeath = true → answer.live = false

structure Later (s t : SharedResidency) : Prop where
  forward : s.now ≤ t.now
  lapses : s.lapses ⊆ t.lapses
  revoked : s.token.live = false → t.token.live = false

def NeverExtends (s : SharedResidency) : ResidencyAccess → Prop
  | .refresh reading =>
      ∀ lapse ∈ s.lapses, ∀ window ∈ s.token.idle, reading + window.timeout ≤ lapse
  | _ => True

instance (s : SharedResidency) : (access : ResidencyAccess) → Decidable (s.NeverExtends access)
  | .refresh reading => inferInstanceAs
      (Decidable (∀ lapse ∈ s.lapses, ∀ window ∈ s.token.idle, reading + window.timeout ≤ lapse))
  | .asked | .answered _ _ | .loadLive | .storeDead | .clockNow | .hasLapsed _ | .loadSlot
  | .takeSlot => isTrue trivial

theorem Later.refl (s : SharedResidency) : Later s s := ⟨le_refl _, fun _ h => h, id⟩

theorem Later.trans (s t u : SharedResidency) (h : Later s t) (h' : Later t u) : Later s u :=
  ⟨h.forward.trans h'.forward, fun _ hmem => h'.lapses (h.lapses hmem),
    fun hdead => h'.revoked (h.revoked hdead)⟩

def protocol (idleBounded : Bool) : Protocol SharedResidency ResidencyAccess AccessAnswer where
  perform := perform
  Inv := Tracks idleBounded
  Rely := Later
  Guard := NeverExtends
  rely_refl := Later.refl
  rely_trans := Later.trans

variable {idleBounded : Bool} {s t : SharedResidency}

theorem tracks_minted (now : Nat) (token : Residency) :
    Tracks token.idle.isSome (.minted now token) where
  bounded := rfl
  lapsed reading h := absurd h List.not_mem_nil
  told h := by cases h
  irrevocable answer h := absurd h List.not_mem_nil

theorem Tracks.elapse (h : Tracks idleBounded s) (seconds : Nat) :
    Tracks idleBounded (s.elapse seconds) ∧ Later s (s.elapse seconds) := by
  have hforward : s.now ≤ s.now + seconds := Nat.le_add_right _ _
  refine ⟨⟨h.bounded, fun reading hmem => ?_, h.told, h.irrevocable⟩, hforward, fun _ h => h, id⟩
  obtain ⟨hpast, hwindow⟩ := h.lapsed reading hmem
  exact ⟨hpast.trans hforward, hwindow⟩

theorem Tracks.answered (h : Tracks idleBounded s) {afterDeath live : Bool}
    (honest : afterDeath = true → live = false)
    (dead : live = false → s.token.live = false ∨ ∃ reading, reading ∈ s.lapses) :
    Tracks idleBounded (s.perform (.answered afterDeath live)).2 := by
  refine ⟨h.bounded, h.lapsed, fun htold => ?_, fun answer hmem => ?_⟩
  · cases live with
    | true => exact h.told (by simpa [perform] using htold)
    | false => exact dead rfl
  · rcases List.mem_append.1 hmem with hold | hnew
    · exact h.irrevocable answer hold
    · rw [List.mem_singleton.1 hnew]
      exact honest

theorem Tracks.revoked (h : Tracks idleBounded s) :
    Tracks idleBounded (s.perform .storeDead).2 ∧ Later s (s.perform .storeDead).2 :=
  ⟨⟨h.bounded, h.lapsed, fun _ => .inl rfl, h.irrevocable⟩, le_refl _, fun _ h => h, fun _ => rfl⟩

theorem Tracks.hasLapsed (h : Tracks idleBounded s) {reading : Nat} (past : reading ≤ s.now) :
    Tracks idleBounded (s.perform (.hasLapsed reading)).2 ∧
      Later s (s.perform (.hasLapsed reading)).2 := by
  cases hlapsed : s.token.idle.any fun window => window.hasLapsed reading with
  | false =>
      simp only [perform, hlapsed]
      exact ⟨h, Later.refl s⟩
  | true =>
      simp only [perform, hlapsed]
      refine ⟨⟨h.bounded, fun lapse hmem => ?_, fun _ => .inr ⟨reading, List.mem_cons_self ..⟩,
        h.irrevocable⟩, le_refl _, List.subset_cons_self .., id⟩
      rcases List.mem_cons.1 hmem with rfl | hold
      · obtain ⟨window, hwindow, hdeadline⟩ := (Option.any_eq_true _ _).1 hlapsed
        exact ⟨past, window, hwindow, of_decide_eq_true hdeadline⟩
      · exact h.lapsed lapse hold

theorem Tracks.refreshed (h : Tracks idleBounded s) {reading : Nat}
    (guard : NeverExtends s (.refresh reading)) :
    Tracks idleBounded (s.perform (.refresh reading)).2 ∧
      Later s (s.perform (.refresh reading)).2 := by
  refine ⟨⟨?_, fun lapse hmem => ?_, h.told, h.irrevocable⟩, le_refl _, fun _ h => h, id⟩
  · exact (Option.isSome_map ..).trans h.bounded
  · obtain ⟨hpast, window, hwindow, -⟩ := h.lapsed lapse hmem
    exact ⟨hpast, window.refresh reading, congrArg (Option.map _) hwindow,
      guard lapse hmem window hwindow⟩

theorem Tracks.lapsed_of_told (h : Tracks idleBounded s) (told : s.toldDead = true)
    (live : s.token.live = true) : ∃ lapse ∈ s.lapses, lapse ≤ s.now := by
  rcases h.told told with hdead | ⟨lapse, hmem⟩
  · rw [live] at hdead
    cases hdead
  · exact ⟨lapse, hmem, (h.lapsed lapse hmem).1⟩

theorem hasLapsedCode_upholds {Late : Prop} (late : Late → ∃ lapse ∈ s.lapses, lapse ≤ s.now) :
    (protocol idleBounded).Upholds
      (fun lapsed t => (Late → lapsed = true) ∧ (lapsed = true → ∃ lapse, lapse ∈ t.lapses))
      hasLapsedCode s := by
  refine Upholds.bind (upholds_query ?_)
  intro t ht hst _
  refine ⟨ht, Later.refl t, upholds_query ?_⟩
  intro u hu htu _
  obtain ⟨hkept, hlater⟩ := hu.hasLapsed htu.forward
  refine ⟨hkept, hlater, fun hlate => ?_, fun hlapsed => ⟨t.now, ?_⟩⟩
  · obtain ⟨lapse, hmem, hpast⟩ := late hlate
    obtain ⟨-, window, hwindow, hdeadline⟩ := hu.lapsed lapse (htu.lapses (hst.lapses hmem))
    refine (Option.any_eq_true _ _).2 ⟨window, hwindow, decide_eq_true ?_⟩
    exact hdeadline.trans (hpast.trans hst.forward)
  · have hfound : (u.token.idle.any fun window => window.hasLapsed t.now) = true := hlapsed
    simp only [protocol, perform, hfound]
    exact List.mem_cons_self ..

theorem answered_upholds {afterDeath live : Bool} (honest : afterDeath = true → live = false)
    (dead : ∀ t, Later s t → live = false →
      t.token.live = false ∨ ∃ reading, reading ∈ t.lapses) :
    (protocol idleBounded).Upholds (fun _ _ => True)
      (do
        atomically (.answered afterDeath live)
        pure live) s := by
  refine Upholds.bind (upholds_query ?_)
  intro t ht hst _
  exact ⟨ht.answered honest (dead t hst), ⟨le_refl _, fun _ h => h, id⟩, trivial⟩

theorem isLiveCode_upholds (s : SharedResidency) :
    (protocol idleBounded).Upholds (fun _ _ => True) (isLiveCode idleBounded) s := by
  refine Upholds.bind (upholds_query ?_)
  intro t ht _ _
  refine ⟨ht, Later.refl t, Upholds.bind (upholds_query ?_)⟩
  intro u hu htu _
  refine ⟨hu, Later.refl u, ?_⟩
  change (protocol idleBounded).Upholds _
    (do
      let lapsed ← idleLapsedCode idleBounded u.token.live
      atomically (.answered t.toldDead (u.token.live && !lapsed))
      pure (u.token.live && !lapsed)) u
  cases hlive : u.token.live with
  | false => exact answered_upholds (fun _ => rfl) fun v huv _ => .inl (huv.revoked hlive)
  | true =>
      have htlive : t.token.live = true := by
        by_contra hdead
        have hrevoked := htu.revoked (Bool.eq_false_iff.2 hdead)
        rw [hlive] at hrevoked
        cases hrevoked
      have late : t.toldDead = true → ∃ lapse ∈ u.lapses, lapse ≤ u.now := by
        intro htold
        obtain ⟨lapse, hmem, hpast⟩ := ht.lapsed_of_told htold htlive
        exact ⟨lapse, htu.lapses hmem, hpast.trans htu.forward⟩
      cases idleBounded with
      | true =>
          refine Upholds.bind ((hasLapsedCode_upholds late).mono ?_)
          rintro lapsed v ⟨hlate, hfound⟩
          refine answered_upholds (fun htold => ?_) fun w hvw hanswer => .inr ?_
          · rw [hlate htold]
            rfl
          · obtain ⟨lapse, hmem⟩ := hfound (by simpa using hanswer)
            exact ⟨lapse, hvw.lapses hmem⟩
      | false =>
          refine answered_upholds (fun htold => ?_) fun w _ hanswer => by cases hanswer
          obtain ⟨lapse, hmem, -⟩ := late htold
          obtain ⟨-, window, hwindow, -⟩ := hu.lapsed lapse hmem
          have hnone := hu.bounded
          rw [hwindow] at hnone
          cases hnone

theorem refreshCode_upholds (s : SharedResidency) :
    (protocol idleBounded).Upholds (fun _ _ => True) refreshCode s := by
  refine Upholds.bind (upholds_query ?_)
  intro t ht _ _
  refine ⟨ht, Later.refl t, upholds_query ?_⟩
  intro u hu _ hguard
  obtain ⟨hkept, hlater⟩ := hu.refreshed hguard
  exact ⟨hkept, hlater, trivial⟩

theorem touchCode_upholds (s : SharedResidency) :
    (protocol idleBounded).Upholds (fun _ _ => True) (touchCode idleBounded) s := by
  refine Upholds.bind ((isLiveCode_upholds s).mono fun live t _ => ?_)
  cases live && idleBounded with
  | true => exact refreshCode_upholds t
  | false => trivial

theorem revokeCode_upholds (s : SharedResidency) :
    (protocol idleBounded).Upholds (fun _ _ => True) revokeCode s := by
  refine upholds_query ?_
  intro t ht _ _
  exact ⟨ht.revoked.1, ht.revoked.2, trivial⟩

theorem endUnlockCode_upholds (s : SharedResidency) :
    (protocol idleBounded).Upholds (fun _ _ => True) endUnlockCode s := by
  refine Upholds.bind (upholds_query ?_)
  intro t ht _ _
  refine ⟨⟨ht.bounded, ht.lapsed, ht.told, ht.irrevocable⟩, ⟨le_refl _, fun _ h => h, id⟩, ?_⟩
  change (protocol idleBounded).Upholds _ (if t.held then revokeCode else pure ()) _
  cases t.held with
  | true => exact revokeCode_upholds _
  | false => trivial

theorem isUnlockedCode_upholds (s : SharedResidency) :
    (protocol idleBounded).Upholds (fun _ _ => True) (isUnlockedCode idleBounded) s := by
  refine Upholds.bind (upholds_query ?_)
  intro t ht _ _
  refine ⟨ht, Later.refl t, ?_⟩
  change (protocol idleBounded).Upholds _ (if t.held then isLiveCode idleBounded else pure false) t
  cases t.held with
  | true => exact isLiveCode_upholds t
  | false => trivial

theorem code_upholds (call : ResidencyCall) (s : SharedResidency) :
    (protocol idleBounded).Upholds Done (call.code idleBounded) s := by
  cases call with
  | isLive => exact Upholds.bind ((isLiveCode_upholds s).mono fun _ _ _ => trivial)
  | touch => exact touchCode_upholds s
  | revoke => exact revokeCode_upholds s
  | access =>
      refine Upholds.bind ((isUnlockedCode_upholds s).mono fun unlocked t _ => ?_)
      cases unlocked with
      | true => exact touchCode_upholds t
      | false => exact endUnlockCode_upholds t
  | lock => exact endUnlockCode_upholds s
  | unlock accepted =>
      cases accepted with
      | true => exact endUnlockCode_upholds s
      | false => trivial

end SharedResidency

abbrev ResidencyAction := Interleaving.Action ResidencyCall Nat

abbrev ResidencySystem :=
  Interleaving.System SharedResidency ResidencyAccess AccessAnswer Unit

def ResidencySystem.next (token : Residency) :
    ResidencySystem → ResidencyAction → Option ResidencySystem :=
  Interleaving.next SharedResidency.perform (ResidencyCall.code token.idle.isSome)
    SharedResidency.elapse

def ResidencySystem.minted (now : Nat) (token : Residency) : ResidencySystem :=
  .idle (.minted now token)

def NeverRevives (s : ResidencySystem) (action : ResidencyAction) : Prop :=
  ∀ access ∈ s.pendingAccess action, s.shared.NeverExtends access

instance (s : ResidencySystem) (action : ResidencyAction) : Decidable (NeverRevives s action) :=
  inferInstanceAs (Decidable (∀ access ∈ s.pendingAccess action, _))

theorem revocation_irreversible {token : Residency} {now : Nat} {actions : List ResidencyAction}
    (met : PartialMachine.Meets (ResidencySystem.next token) NeverRevives (.minted now token)
      actions) :
    ∀ done, done <+: actions → ∀ s,
      PartialMachine.run (ResidencySystem.next token) (.minted now token) done = some s →
        ∀ answer ∈ s.shared.answers, answer.afterDeath = true → answer.live = false := by
  intro done hdone s hrun
  have tracks : SharedResidency.Tracks token.idle.isSome s.shared :=
    Interleaving.Protocol.inv_of_meets (P := SharedResidency.protocol token.idle.isSome)
      (fun call s _ => SharedResidency.code_upholds call s)
      (fun seconds s h => SharedResidency.Tracks.elapse h seconds)
      (SharedResidency.tracks_minted now token) met hdone hrun
  exact tracks.irrevocable

section Example

def minuteToken : Residency := .idleBounded 0 60

def steps (thread count : Nat) : List ResidencyAction := List.replicate count (.step thread)

def touchedInTime : List ResidencyAction :=
  [.call 0 .touch] ++ steps 0 7 ++ [.disturb 120, .call 1 .isLive] ++ steps 1 5

def touchedTooLate : List ResidencyAction :=
  [.call 0 .touch] ++ steps 0 5 ++ [.disturb 60, .call 1 .isLive] ++ steps 1 5 ++ steps 0 2 ++
    [.call 2 .isLive] ++ steps 2 5

theorem revocation_irreversible_touchedInTime :
    ∃ s, PartialMachine.run (ResidencySystem.next minuteToken) (.minted 0 minuteToken)
        (touchedInTime ++ [.call 2 .isLive] ++ steps 2 5) = some s ∧
      s.shared.answers = [⟨false, true⟩, ⟨false, false⟩, ⟨true, false⟩] ∧
      ∀ answer ∈ s.shared.answers, answer.afterDeath = true → answer.live = false := by
  have hanswers : (PartialMachine.run (ResidencySystem.next minuteToken) (.minted 0 minuteToken)
      (touchedInTime ++ [.call 2 .isLive] ++ steps 2 5)).map (fun s => s.shared.answers) =
        some [⟨false, true⟩, ⟨false, false⟩, ⟨true, false⟩] := by
    decide
  obtain ⟨s, hrun, hs⟩ := Option.map_eq_some_iff.1 hanswers
  exact ⟨s, hrun, hs, revocation_irreversible (by decide) _ (List.prefix_refl _) s hrun⟩

theorem touchedTooLate_revives :
    (PartialMachine.run (ResidencySystem.next minuteToken) (.minted 0 minuteToken)
      touchedTooLate).map (fun s => s.shared.answers) =
        some [⟨false, true⟩, ⟨false, false⟩, ⟨true, true⟩] := by
  decide

end Example

end DigAccount
