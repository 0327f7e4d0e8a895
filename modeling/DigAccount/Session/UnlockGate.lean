import DigAccount.Primitives
import DigAccount.Session.Residency
import Mathlib.Data.List.Chain

namespace DigAccount

inductive UnlockError where
  | unauthorized (reason : String)
  | keystore (reason : String)
  deriving DecidableEq, Repr

structure LiveUnlock (Seed : Type) where
  seed : Seed
  residency : Nat
  deriving DecidableEq, Repr

structure UnlockedAccount (Seed : Type) where
  account : String
  seed : Seed
  defaultProfileIx : ProfileIx
  residency : Nat
  deriving DecidableEq, Repr

structure UnlockGate (Factors Seed : Type) where
  account : String
  defaultProfileIx : ProfileIx
  store : String → Factors → Except String Seed
  policy : Factors → Except UnlockError Unit
  idleTimeout : Nat

inductive GateEvent where
  | unlock (reading : Nat) (succeeded : Bool)
  | access (reading : Nat) (served : Bool)
  | lock
  | drop
  deriving DecidableEq, Repr

structure GateMemory (Seed : Type) where
  now : Nat
  residencies : List Residency
  live : Option (LiveUnlock Seed)
  dropped : Bool
  log : List GateEvent
  deriving DecidableEq, Repr

inductive GateCall (Factors : Type) where
  | unlock (factors : Factors)
  | access
  | lock
  | drop
  | elapse (seconds : Nat)
  deriving DecidableEq, Repr

namespace GateMemory

variable {Seed : Type}

def locked (now : Nat) : GateMemory Seed := ⟨now, [], none, false, []⟩

def isLive (m : GateMemory Seed) (id : Nat) : Bool :=
  m.residencies[id]?.any fun token => token.isLive m.now

def isUnlocked (m : GateMemory Seed) : Bool := m.live.any fun held => m.isLive held.residency

def revoke (m : GateMemory Seed) (id : Nat) : GateMemory Seed :=
  { m with residencies := m.residencies.modify id Residency.revoke }

def touch (m : GateMemory Seed) (id : Nat) : GateMemory Seed :=
  { m with residencies := m.residencies.modify id fun token => token.touch m.now }

def endUnlock (m : GateMemory Seed) : GateMemory Seed :=
  match m.live with
  | none => m
  | some held => { m with live := none }.revoke held.residency

def record (m : GateMemory Seed) (event : GateEvent) : GateMemory Seed :=
  { m with log := event :: m.log }

end GateMemory

namespace UnlockGate

variable {Factors Seed : Type} (gate : UnlockGate Factors Seed)

def accountHandle (held : LiveUnlock Seed) : UnlockedAccount Seed :=
  ⟨gate.account, held.seed, gate.defaultProfileIx, held.residency⟩

def authorizeAndUnlock (factors : Factors) : Except UnlockError Seed := do
  gate.policy factors
  (gate.store gate.account factors).mapError .keystore

def hold (m : GateMemory Seed) (seed : Seed) : UnlockedAccount Seed × GateMemory Seed :=
  let ended := m.endUnlock
  let held : LiveUnlock Seed := ⟨seed, ended.residencies.length⟩
  (gate.accountHandle held, { ended with
    residencies := ended.residencies ++ [.idleBounded m.now gate.idleTimeout]
    live := some held })

def unlock (factors : Factors) (m : GateMemory Seed) :
    Except UnlockError (UnlockedAccount Seed) × GateMemory Seed :=
  match gate.authorizeAndUnlock factors with
  | .error refusal => (.error refusal, m)
  | .ok seed => (.ok (gate.hold m seed).1, (gate.hold m seed).2)

def access (m : GateMemory Seed) : Option (UnlockedAccount Seed) × GateMemory Seed :=
  if m.isUnlocked then
    (m.live.map gate.accountHandle, m.live.elim m fun held => m.touch held.residency)
  else (none, m.endUnlock)

def perform (m : GateMemory Seed) : GateCall Factors → GateMemory Seed
  | .unlock factors =>
      (gate.unlock factors m).2.record (.unlock m.now (gate.unlock factors m).1.isOk)
  | .access => (gate.access m).2.record (.access m.now (gate.access m).1.isSome)
  | .lock => m.endUnlock.record .lock
  | .drop => { m.endUnlock.record .drop with dropped := true }
  | .elapse seconds => { m with now := m.now + seconds }

def step (m : GateMemory Seed) : GateCall Factors → Option (GateMemory Seed)
  | .elapse seconds => some (gate.perform m (.elapse seconds))
  | call => if m.dropped then none else some (gate.perform m call)

end UnlockGate

def callsOfUnlock : List GateEvent → Option (List Nat)
  | [] | .lock :: _ | .drop :: _ => none
  | .unlock reading true :: _ => some [reading]
  | .access reading true :: log => (callsOfUnlock log).map (reading :: ·)
  | .unlock _ false :: log | .access _ false :: log => callsOfUnlock log

def QuietLessThan (timeout : Nat) (calls : List Nat) : Prop :=
  calls.IsChain fun later earlier => later - earlier < timeout

def UnlockedSince (timeout : Nat) (log : List GateEvent) (now : Nat) : Prop :=
  ∃ calls, callsOfUnlock log = some calls ∧ QuietLessThan timeout (now :: calls)

theorem UnlockedSince.earlier {timeout now later : Nat} {log : List GateEvent} (hle : now ≤ later)
    (h : UnlockedSince timeout log later) : UnlockedSince timeout log now := by
  obtain ⟨calls, hcalls, hquiet⟩ := h
  refine ⟨calls, hcalls, ?_⟩
  cases calls with
  | nil => exact List.isChain_singleton _
  | cons last calls =>
      rw [QuietLessThan] at hquiet ⊢
      rw [List.isChain_cons_cons] at hquiet ⊢
      exact ⟨by omega, hquiet.2⟩

namespace Residency

variable {token : Residency} {now later : Nat}

theorem isLive_earlier (hle : now ≤ later) (h : token.isLive later) : token.isLive now := by
  rw [isLive] at h ⊢
  cases hidle : token.idle with
  | none => simpa [hidle] using h
  | some window =>
      simp only [hidle, Option.any_some, IdleWindow.hasLapsed, Bool.and_eq_true, Bool.not_eq_true',
        decide_eq_false_iff_not] at h ⊢
      exact ⟨h.1, by omega⟩

theorem isLive_of_touch (h : (token.touch now).isLive now) : token.isLive now := by
  rw [touch] at h
  split at h
  · rename_i hlive
    exact hlive
  · exact h

theorem not_isLive_revoke : ¬ token.revoke.isLive now := by
  simp [revoke, isLive]

theorem touch_of_isLive {timeout deadline : Nat}
    (h : (⟨true, some ⟨timeout, deadline⟩⟩ : Residency).isLive now) :
    (⟨true, some ⟨timeout, deadline⟩⟩ : Residency).touch now =
      ⟨true, some ⟨timeout, now + timeout⟩⟩ :=
  if_pos h

theorem isLive_bounded {timeout deadline : Nat} :
    (⟨true, some ⟨timeout, deadline⟩⟩ : Residency).isLive now ↔ now < deadline := by
  simp [isLive, IdleWindow.hasLapsed]

end Residency

namespace GateMemory

variable {Seed : Type} {m next later : GateMemory Seed} {id : Nat} {token : Residency}

structure AgedInto (m later : GateMemory Seed) : Prop where
  forward : m.now ≤ later.now
  kept : ∀ (id : Nat) (token : Residency), m.residencies[id]? = some token →
    ∃ aged : Residency, later.residencies[id]? = some aged ∧
      (aged.isLive later.now → token.isLive m.now)

theorem AgedInto.refl (m : GateMemory Seed) : m.AgedInto m :=
  ⟨Nat.le_refl _, fun _ token htoken => ⟨token, htoken, fun h => h⟩⟩

theorem AgedInto.trans (h : m.AgedInto next) (h' : next.AgedInto later) : m.AgedInto later := by
  refine ⟨h.forward.trans h'.forward, fun id token htoken => ?_⟩
  obtain ⟨middle, hmiddle, hback⟩ := h.kept id token htoken
  obtain ⟨aged, haged, hback'⟩ := h'.kept id middle hmiddle
  exact ⟨aged, haged, fun hlive => hback (hback' hlive)⟩

theorem AgedInto.stays_dead (h : m.AgedInto later) (hid : id < m.residencies.length)
    (hdead : ¬ m.isLive id) : ¬ later.isLive id := by
  have htoken : m.residencies[id]? = some m.residencies[id] := List.getElem?_eq_getElem hid
  obtain ⟨aged, haged, hback⟩ := h.kept id _ htoken
  rw [isLive] at hdead ⊢
  rw [htoken, Option.any_some] at hdead
  rw [haged, Option.any_some]
  exact fun hlive => hdead (hback hlive)

theorem agedInto_of_modify {f : Residency → Residency} {live : Option (LiveUnlock Seed)}
    (h : ∀ token, (f token).isLive m.now → token.isLive m.now) :
    m.AgedInto { m with residencies := m.residencies.modify id f, live := live } := by
  refine ⟨Nat.le_refl _, fun other token htoken => ?_⟩
  by_cases hsame : id = other
  · subst hsame
    refine ⟨f token, ?_, h token⟩
    rw [List.getElem?_modify_eq, htoken]
    rfl
  · refine ⟨token, ?_, fun hlive => hlive⟩
    rw [List.getElem?_modify_ne _ _ hsame, htoken]

theorem agedInto_endUnlock : m.AgedInto m.endUnlock := by
  rw [endUnlock]
  split
  · exact .refl m
  · exact agedInto_of_modify fun token hlive => absurd hlive Residency.not_isLive_revoke

theorem agedInto_touch : m.AgedInto (m.touch id) :=
  agedInto_of_modify fun _ => Residency.isLive_of_touch

theorem AgedInto.record (h : m.AgedInto later) (event : GateEvent) :
    m.AgedInto (later.record event) :=
  ⟨h.forward, h.kept⟩

theorem endUnlock_now : m.endUnlock.now = m.now := by
  rw [endUnlock]
  split <;> rfl

theorem endUnlock_log : m.endUnlock.log = m.log := by
  rw [endUnlock]
  split <;> rfl

theorem endUnlock_live : m.endUnlock.live = none := by
  rw [endUnlock]
  split
  · rename_i hnone
    exact hnone
  · rfl

structure OneLiveUnlock (timeout : Nat) (m : GateMemory Seed) : Prop where
  lone : ∀ id token, m.residencies[id]? = some token → token.live →
    ∃ held, m.live = some held ∧ held.residency = id
  open_ : ∀ held, m.live = some held → ∃ last earlier,
    callsOfUnlock m.log = some (last :: earlier) ∧ QuietLessThan timeout (last :: earlier) ∧
      last ≤ m.now ∧
      m.residencies[held.residency]? = some ⟨true, some ⟨timeout, last + timeout⟩⟩
  closed : m.live = none → ∀ later, m.now ≤ later → ¬ UnlockedSince timeout m.log later

variable {timeout : Nat}

theorem oneLiveUnlock_locked (timeout now : Nat) :
    (locked now : GateMemory Seed).OneLiveUnlock timeout where
  lone _ _ htoken := by cases htoken
  open_ _ hheld := by cases hheld
  closed _ _ _ h := by
    obtain ⟨calls, hcalls, -⟩ := h
    cases hcalls

namespace OneLiveUnlock

variable (inv : m.OneLiveUnlock timeout)
include inv

theorem isUnlocked_iff : m.isUnlocked ↔ UnlockedSince timeout m.log m.now := by
  cases hlive : m.live with
  | none =>
      have hclosed := inv.closed hlive m.now (Nat.le_refl _)
      simp [isUnlocked, hlive, hclosed]
  | some held =>
      obtain ⟨last, earlier, hcalls, hquiet, hlast, htoken⟩ := inv.open_ held hlive
      have hopen : m.isUnlocked ↔ m.now < last + timeout := by
        rw [isUnlocked, hlive, Option.any_some, isLive, htoken, Option.any_some,
          Residency.isLive_bounded]
      rw [hopen]
      constructor
      · intro hlt
        exact ⟨_, hcalls, List.isChain_cons_cons.2 ⟨by omega, hquiet⟩⟩
      · rintro ⟨calls, hcalls', hquiet'⟩
        obtain rfl := Option.some.inj (hcalls.symm.trans hcalls')
        have hgap := (List.isChain_cons_cons.1 hquiet').1
        omega

theorem live_unique {a b : Nat} (ha : m.isLive a) (hb : m.isLive b) : a = b := by
  have holder : ∀ id, m.isLive id → ∃ held, m.live = some held ∧ held.residency = id := by
    intro id hid
    rw [isLive] at hid
    obtain ⟨token, htoken, hlive⟩ := (Option.any_eq_true _ _).1 hid
    rw [Residency.isLive] at hlive
    rw [Bool.and_eq_true] at hlive
    exact inv.lone id token htoken hlive.1
  obtain ⟨held, hheld, rfl⟩ := holder a ha
  obtain ⟨held', hheld', rfl⟩ := holder b hb
  rw [Option.some.inj (hheld.symm.trans hheld')]

theorem elapse (seconds : Nat) : { m with now := m.now + seconds }.OneLiveUnlock timeout where
  lone := inv.lone
  open_ held hheld := by
    obtain ⟨last, earlier, hcalls, hquiet, hlast, htoken⟩ := inv.open_ held hheld
    exact ⟨last, earlier, hcalls, hquiet, Nat.le_add_right_of_le hlast, htoken⟩
  closed hnone later hlater := inv.closed hnone later (Nat.le_of_add_right_le hlater)

theorem record {event : GateEvent}
    (h : callsOfUnlock (event :: m.log) = callsOfUnlock m.log) :
    (m.record event).OneLiveUnlock timeout where
  lone := inv.lone
  open_ held hheld := by
    obtain ⟨last, earlier, hcalls, hrest⟩ := inv.open_ held hheld
    exact ⟨last, earlier, h.trans hcalls, hrest⟩
  closed hnone later hlater := by
    rintro ⟨calls, hcalls, hquiet⟩
    exact inv.closed hnone later hlater ⟨calls, h.symm.trans hcalls, hquiet⟩

theorem endUnlock_dead (htoken : m.endUnlock.residencies[id]? = some token) : ¬ token.live := by
  rw [endUnlock] at htoken
  split at htoken
  · rename_i hnone
    intro hlive
    obtain ⟨held, hheld, -⟩ := inv.lone id token htoken hlive
    rw [hnone] at hheld
    cases hheld
  · rename_i held hheld
    dsimp only [revoke] at htoken
    rw [List.getElem?_modify] at htoken
    obtain ⟨old, hold, rfl⟩ := Option.map_eq_some_iff.1 htoken
    split
    · exact Bool.false_ne_true
    · rename_i hne
      intro hlive
      obtain ⟨held', hheld', hid⟩ := inv.lone id old hold hlive
      rw [Option.some.inj (hheld.symm.trans hheld')] at hne
      exact hne hid

theorem endUnlock_record {event : GateEvent}
    (h : ∀ later, m.now ≤ later → ¬ UnlockedSince timeout (event :: m.log) later) :
    (m.endUnlock.record event).OneLiveUnlock timeout where
  lone id token htoken hlive := absurd hlive (inv.endUnlock_dead htoken)
  open_ held hheld := by
    have hnone : m.endUnlock.live = some held := hheld
    rw [endUnlock_live] at hnone
    cases hnone
  closed _ later hlater := by
    have hlog : (m.endUnlock.record event).log = event :: m.log :=
      congrArg (event :: ·) endUnlock_log
    rw [hlog]
    exact h later (endUnlock_now.symm.trans_le hlater)

theorem endUnlock_end {event : GateEvent} (h : callsOfUnlock (event :: m.log) = none) :
    (m.endUnlock.record event).OneLiveUnlock timeout := by
  refine inv.endUnlock_record fun later _ => ?_
  rintro ⟨calls, hcalls, -⟩
  rw [h] at hcalls
  cases hcalls

theorem hold {Factors : Type} {gate : UnlockGate Factors Seed} (seed : Seed)
    (htimeout : gate.idleTimeout = timeout) :
    ((gate.hold m seed).2.record (.unlock m.now true)).OneLiveUnlock timeout := by
  have hnew : (m.endUnlock.residencies ++ [Residency.idleBounded m.now gate.idleTimeout])[
      m.endUnlock.residencies.length]? = some (.idleBounded m.now gate.idleTimeout) := by
    rw [List.getElem?_append_right (Nat.le_refl _), Nat.sub_self]
    rfl
  refine ⟨fun id token htoken hlive => ?_, fun held hheld => ?_, fun hnone => by cases hnone⟩
  · refine ⟨_, rfl, ?_⟩
    by_contra hne
    change (m.endUnlock.residencies ++ _)[id]? = some token at htoken
    have hlt : id < m.endUnlock.residencies.length := by
      have hbound := (List.getElem?_eq_some_iff.1 htoken).1
      rw [List.length_append, List.length_singleton] at hbound
      exact Nat.lt_of_le_of_ne (Nat.lt_succ_iff.1 hbound) (Ne.symm hne)
    rw [List.getElem?_append_left hlt] at htoken
    exact inv.endUnlock_dead htoken hlive
  · cases hheld
    refine ⟨m.now, [], rfl, List.isChain_singleton _, endUnlock_now.symm.le, ?_⟩
    rw [← htimeout]
    exact hnew

theorem touch (hunlocked : m.isUnlocked) {held : LiveUnlock Seed} (hheld : m.live = some held) :
    ((m.touch held.residency).record (.access m.now true)).OneLiveUnlock timeout := by
  obtain ⟨last, earlier, hcalls, hquiet, hlast, htoken⟩ := inv.open_ held hheld
  have hlive : (⟨true, some ⟨timeout, last + timeout⟩⟩ : Residency).isLive m.now := by
    rw [isUnlocked, hheld, Option.any_some, isLive, htoken, Option.any_some] at hunlocked
    exact hunlocked
  refine ⟨fun id token haged hflag => ?_, fun other hother => ?_, fun hnone => ?_⟩
  · change (m.residencies.modify _ _)[id]? = some token at haged
    rw [List.getElem?_modify] at haged
    obtain ⟨old, hold, rfl⟩ := Option.map_eq_some_iff.1 haged
    split at hflag
    · rename_i hid
      exact ⟨held, hheld, hid⟩
    · exact inv.lone id old hold hflag
  · obtain rfl : held = other := Option.some.inj (hheld.symm.trans hother)
    refine ⟨m.now, last :: earlier, congrArg (Option.map _) hcalls,
      List.isChain_cons_cons.2 ⟨?_, hquiet⟩, Nat.le_refl _, ?_⟩
    · have hbefore := Residency.isLive_bounded.1 hlive
      omega
    · change (m.residencies.modify _ _)[held.residency]? = _
      rw [List.getElem?_modify_eq, htoken]
      exact congrArg some (Residency.touch_of_isLive hlive)
  · have hnone' : m.live = none := hnone
    rw [hheld] at hnone'
    cases hnone'

end OneLiveUnlock

end GateMemory

namespace UnlockGate

open GateMemory

variable {Factors Seed : Type} {gate : UnlockGate Factors Seed} {m next : GateMemory Seed}

theorem unlock_cases (factors : Factors) (m : GateMemory Seed) :
    (∃ refusal, gate.unlock factors m = (.error refusal, m)) ∨
      ∃ seed, gate.unlock factors m = (.ok (gate.hold m seed).1, (gate.hold m seed).2) := by
  rw [unlock]
  split
  · exact .inl ⟨_, rfl⟩
  · exact .inr ⟨_, rfl⟩

theorem unlock_refused {factors : Factors} {refusal : UnlockError}
    (h : (gate.unlock factors m).1 = .error refusal) : (gate.unlock factors m).2 = m := by
  obtain ⟨refusal', hrefused⟩ | ⟨seed, hheld⟩ := gate.unlock_cases factors m
  · rw [hrefused]
  · rw [hheld] at h
    cases h

theorem access_served_iff : (gate.access m).1.isSome ↔ m.isUnlocked := by
  rw [access]
  split
  · rename_i hunlocked
    obtain ⟨held, hheld, -⟩ := (Option.any_eq_true _ _).1 hunlocked
    simp [hheld, hunlocked]
  · rename_i hlocked
    simp [hlocked]

theorem perform_unlock (inv : m.OneLiveUnlock gate.idleTimeout) (factors : Factors) :
    (gate.perform m (.unlock factors)).OneLiveUnlock gate.idleTimeout ∧
      m.AgedInto (gate.perform m (.unlock factors)) := by
  obtain ⟨refusal, hrefused⟩ | ⟨seed, hheld⟩ := gate.unlock_cases factors m
  · simp only [perform, hrefused]
    exact ⟨inv.record rfl, (AgedInto.refl m).record _⟩
  · simp only [perform, hheld]
    refine ⟨inv.hold seed rfl, AgedInto.record ?_ _⟩
    refine agedInto_endUnlock.trans ⟨Nat.le_refl _, fun id token htoken => ?_⟩
    refine ⟨token, ?_, fun hlive => hlive⟩
    exact (List.getElem?_append_left (List.getElem?_eq_some_iff.1 htoken).1).trans htoken

theorem perform_access (inv : m.OneLiveUnlock gate.idleTimeout) :
    (gate.perform m .access).OneLiveUnlock gate.idleTimeout ∧
      m.AgedInto (gate.perform m .access) := by
  simp only [perform, access]
  split
  · rename_i hunlocked
    obtain ⟨held, hheld, -⟩ := (Option.any_eq_true _ _).1 hunlocked
    rw [hheld]
    exact ⟨inv.touch hunlocked hheld, agedInto_touch.record _⟩
  · rename_i hlocked
    refine ⟨inv.endUnlock_record fun later hlater hopen => ?_, agedInto_endUnlock.record _⟩
    exact hlocked (inv.isUnlocked_iff.2 (UnlockedSince.earlier hlater hopen))

theorem perform_keeps (inv : m.OneLiveUnlock gate.idleTimeout) (call : GateCall Factors) :
    (gate.perform m call).OneLiveUnlock gate.idleTimeout ∧ m.AgedInto (gate.perform m call) := by
  cases call with
  | unlock factors => exact perform_unlock inv factors
  | access => exact perform_access inv
  | lock => exact ⟨inv.endUnlock_end rfl, agedInto_endUnlock.record _⟩
  | drop =>
      have hended : (m.endUnlock.record .drop).OneLiveUnlock gate.idleTimeout :=
        inv.endUnlock_end rfl
      have haged := agedInto_endUnlock.record (m := m) .drop
      exact ⟨⟨hended.lone, hended.open_, hended.closed⟩, ⟨haged.forward, haged.kept⟩⟩
  | elapse seconds =>
      refine ⟨inv.elapse seconds, Nat.le_add_right _ _, fun id token htoken => ?_⟩
      exact ⟨token, htoken, Residency.isLive_earlier (Nat.le_add_right _ _)⟩

theorem step_eq_perform {call : GateCall Factors} (h : gate.step m call = some next) :
    next = gate.perform m call := by
  simp only [step] at h
  split at h
  · exact (Option.some.inj h).symm
  · split at h
    · cases h
    · exact (Option.some.inj h).symm

theorem run_keeps {calls : List (GateCall Factors)} (inv : m.OneLiveUnlock gate.idleTimeout)
    (h : PartialMachine.run gate.step m calls = some next) :
    next.OneLiveUnlock gate.idleTimeout ∧ m.AgedInto next := by
  have preserves : ∀ call ∈ calls, ∀ s t, s.OneLiveUnlock gate.idleTimeout ∧ m.AgedInto s →
      gate.step s call = some t → t.OneLiveUnlock gate.idleTimeout ∧ m.AgedInto t := by
    rintro call - s t ⟨hinv, haged⟩ hstep
    rw [step_eq_perform hstep]
    obtain ⟨hkept, hstepAged⟩ := perform_keeps hinv call
    exact ⟨hkept, haged.trans hstepAged⟩
  exact PartialMachine.run_invariant preserves ⟨inv, .refl m⟩ h

theorem one_live_unlock {opened : Nat} {calls : List (GateCall Factors)}
    (h : PartialMachine.run gate.step (locked opened) calls = some m) :
    (∀ a b, m.isLive a → m.isLive b → a = b) ∧
      (m.isUnlocked ↔ UnlockedSince gate.idleTimeout m.log m.now) ∧
      ((gate.access m).1.isSome ↔ UnlockedSince gate.idleTimeout m.log m.now) ∧
      (∀ factors refusal, (gate.unlock factors m).1 = .error refusal →
        (gate.unlock factors m).2 = m) ∧
      ∀ id, id < m.residencies.length → ¬ m.isLive id → ∀ more later,
        PartialMachine.run gate.step m more = some later → ¬ later.isLive id := by
  obtain ⟨inv, -⟩ := run_keeps (oneLiveUnlock_locked gate.idleTimeout opened) h
  refine ⟨fun a b => inv.live_unique, inv.isUnlocked_iff,
    access_served_iff.trans inv.isUnlocked_iff, fun factors refusal => unlock_refused, ?_⟩
  intro id hid hdead more later hmore
  exact (run_keeps inv hmore).2.stays_dead hid hdead

end UnlockGate

section Uninterrupted

variable {s : SharedResidency}

theorem execute_isLiveCode :
    ((isLiveCode s.token.idle.isSome).execute SharedResidency.perform s).1 =
      s.token.isLive s.now := by
  obtain ⟨now, ⟨live, idle⟩, held, lapses, toldDead, answers⟩ := s
  cases live with
  | false => rfl
  | true => cases idle <;> rfl

theorem execute_touchCode :
    ((touchCode s.token.idle.isSome).execute SharedResidency.perform s).2.token =
      s.token.touch s.now := by
  obtain ⟨now, ⟨live, idle⟩, held, lapses, toldDead, answers⟩ := s
  cases live with
  | false => rfl
  | true =>
      cases idle with
      | none => rfl
      | some window =>
          cases hlapsed : window.hasLapsed now <;>
            simp [touchCode, isLiveCode, idleLapsedCode, hasLapsedCode, refreshCode, atomically,
              Reads.query, bind, pure, Reads.bind, Reads.execute, SharedResidency.perform,
              Residency.touch, Residency.isLive, hlapsed]

end Uninterrupted

section Example

def officeGate : UnlockGate Nat Nat where
  account := "office"
  defaultProfileIx := ProfileIx.root
  store _ password := if password = 7 then .ok 1 else .error "wrong password"
  policy _ := .ok ()
  idleTimeout := 60

def officeCalls : List (GateCall Nat) :=
  [.unlock 7, .elapse 45, .access, .unlock 8, .elapse 59, .access, .unlock 7, .elapse 59]

theorem one_live_unlock_officeCalls :
    ∃ m, PartialMachine.run officeGate.step (.locked 0) officeCalls = some m ∧
      m.residencies.length = 2 ∧ UnlockedSince 60 m.log m.now := by
  have hrun : PartialMachine.run officeGate.step (.locked 0) officeCalls = some _ := rfl
  exact ⟨_, hrun, rfl, (UnlockGate.one_live_unlock hrun).2.1.1 (by decide)⟩

end Example

end DigAccount
