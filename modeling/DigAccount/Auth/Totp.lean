import DigAccount.Foundation.Replies
import DigAccount.Primitives

namespace DigAccount

open Interleaving Interleaving.Protocol

inductive TotpAlgorithm where
  | sha1
  | sha256
  | sha512
  deriving DecidableEq, Repr

inductive TotpError where
  | notPresented
  | malformed (expected : Nat)
  | undecodableSecret
  | noMatch
  | replayed
  | clockUnreadable
  | guardPoisoned
  deriving DecidableEq, Repr

class TotpLite where
  hotp : TotpAlgorithm → Nat → Bytes → Nat → Bytes
  totpCustom : TotpAlgorithm → Nat → Nat → Bytes → Nat → Bytes
  totpCustom_eq : ∀ algorithm step digits secret seconds, 0 < step →
    totpCustom algorithm step digits secret seconds = hotp algorithm digits secret (seconds / step)

export TotpLite (hotp totpCustom totpCustom_eq)

structure TotpParams where
  algorithm : TotpAlgorithm
  digits : Nat
  stepSecs : Nat
  skewSteps : Nat
  deriving DecidableEq, Repr

structure TotpFactor where
  secret : Bytes
  params : TotpParams
  deriving DecidableEq, Repr

structure TotpMemory where
  clock : Except TotpError Nat
  lastConsumed : Option Nat
  taken : List (Nat × Bool)

inductive TotpAccess where
  | unixSeconds
  | takeGuard (counter : Nat)
  deriving DecidableEq, Repr

-- beside its verdict the guard names the turn the check had at it
abbrev TotpAnswer : TotpAccess → Type
  | .unixSeconds => Except TotpError Nat
  | .takeGuard _ => Except TotpError Unit × Nat

abbrev TotpCode := Fallible TotpAccess TotpAnswer TotpError

namespace TotpMemory

def takeGuard (m : TotpMemory) (counter : Nat) : Except TotpError Unit × TotpMemory :=
  if m.lastConsumed.any fun last => counter ≤ last then
    (.error .replayed, { m with taken := (counter, false) :: m.taken })
  else
    (.ok (), { m with lastConsumed := some counter, taken := (counter, true) :: m.taken })

def perform (m : TotpMemory) : (q : TotpAccess) → TotpAnswer q × TotpMemory
  | .unixSeconds => (m.clock, m)
  | .takeGuard counter =>
      (((m.takeGuard counter).1, m.taken.length), (m.takeGuard counter).2)

def setClock (reading : Except TotpError Nat) (m : TotpMemory) : TotpMemory :=
  { m with clock := reading }

def enrolled (clock : Except TotpError Nat) : TotpMemory := ⟨clock, none, []⟩

end TotpMemory

structure TotpReply where
  presented : Bytes
  accesses : List (Σ q, TotpAnswer q)
  result : Except TotpError Unit

namespace TotpReply

def Read (reply : TotpReply) (now : Nat) : Prop := ⟨.unixSeconds, .ok now⟩ ∈ reply.accesses

def TookGuard (reply : TotpReply) (counter turn : Nat) : Prop :=
  ∃ result, ⟨.takeGuard counter, (result, turn)⟩ ∈ reply.accesses

def Accepts (reply : TotpReply) (counter : Nat) : Prop :=
  reply.result = .ok () ∧ ∃ turn, reply.TookGuard counter turn

end TotpReply

def isAsciiDigit (byte : UInt8) : Bool := 48 ≤ byte && byte ≤ 57

namespace TotpFactor

section Check

variable [TotpLite] (factor : TotpFactor)

def codeAtCounter (counter : Nat) : Bytes :=
  let seconds := min (counter * factor.params.stepSecs) u64Max
  totpCustom factor.params.algorithm factor.params.stepSecs factor.params.digits factor.secret
    seconds

def matchedIn (presented : Bytes) (counters : List Nat) : Option Nat :=
  counters.foldl
    (fun matched counter =>
      if factor.codeAtCounter counter = presented then some counter else matched)
    none

def matched (now : Nat) (presented : Bytes) : Option Nat :=
  let current := now / factor.params.stepSecs
  let first := current - factor.params.skewSteps
  let last := saturatingAdd u64Max current factor.params.skewSteps
  factor.matchedIn presented (List.range' first (last + 1 - first))

def WellFormed (presented : Bytes) : Prop :=
  presented.length = factor.params.digits ∧ ∀ byte ∈ presented, isAsciiDigit byte

instance (presented : Bytes) : Decidable (factor.WellFormed presented) :=
  inferInstanceAs (Decidable (_ ∧ _))

def readTime : TotpCode Nat := Reads.query TotpAccess.unixSeconds

def takeGuard (counter : Nat) : TotpCode Unit :=
  .ask (.takeGuard counter) fun (result, _) => .ret result

def check (presented : Bytes) : TotpCode Unit :=
  if factor.WellFormed presented then do
    let now ← readTime
    match factor.matched now presented with
    | none => Fallible.fail .noMatch
    | some counter => takeGuard counter
  else Fallible.fail (.malformed factor.params.digits)

def program (presented : Bytes) : Reads TotpAccess TotpAnswer TotpReply :=
  Reads.bind (factor.check presented).traced fun (accesses, result) =>
    .ret ⟨presented, accesses, result⟩

def next (w : Attended TotpMemory TotpAccess TotpAnswer TotpReply) :
    Action Bytes (Except TotpError Nat) →
      Option (Attended TotpMemory TotpAccess TotpAnswer TotpReply) :=
  w.next TotpMemory.perform factor.program TotpMemory.setClock

end Check

end TotpFactor

def acceptedCounters (taken : List (Nat × Bool)) : List Nat :=
  taken.filterMap fun (counter, granted) => if granted then some counter else none

@[simp] theorem acceptedCounters_granted {counter : Nat} {taken : List (Nat × Bool)} :
    acceptedCounters ((counter, true) :: taken) = counter :: acceptedCounters taken := rfl

@[simp] theorem acceptedCounters_refused {counter : Nat} {taken : List (Nat × Bool)} :
    acceptedCounters ((counter, false) :: taken) = acceptedCounters taken := rfl

namespace TotpMemory

structure Increasing (m : TotpMemory) : Prop where
  highest : m.lastConsumed = (acceptedCounters m.taken).head?
  decreasing : (acceptedCounters m.taken).Pairwise (· > ·)

def Extends (m later : TotpMemory) : Prop := m.taken <:+ later.taken

def protocol : Protocol TotpMemory TotpAccess TotpAnswer where
  perform := perform
  Inv := Increasing
  Rely := Extends
  Guard _ _ := True
  rely_refl _ := List.suffix_refl _
  rely_trans _ _ _ h h' := h.trans h'

variable {m later : TotpMemory} {counter : Nat}

theorem increasing_enrolled (clock : Except TotpError Nat) : Increasing (enrolled clock) :=
  ⟨rfl, .nil⟩

theorem Increasing.setClock (h : Increasing m) (reading : Except TotpError Nat) :
    Increasing (m.setClock reading) :=
  ⟨h.highest, h.decreasing⟩

theorem Increasing.above (h : Increasing m)
    (habove : ∀ last, m.lastConsumed = some last → last < counter) :
    ∀ accepted ∈ acceptedCounters m.taken, accepted < counter := by
  obtain ⟨hhighest, hdecreasing⟩ := h
  intro accepted hmem
  cases hlist : acceptedCounters m.taken with
  | nil =>
      rw [hlist] at hmem
      cases hmem
  | cons last older =>
      rw [hlist] at hmem hhighest hdecreasing
      have hlast : last < counter := habove last hhighest
      rcases List.mem_cons.1 hmem with rfl | holder
      · exact hlast
      · exact ((List.pairwise_cons.1 hdecreasing).1 accepted holder).trans hlast

theorem takeGuard_cases (h : Increasing m) (counter : Nat) :
    ((∃ accepted ∈ acceptedCounters m.taken, counter ≤ accepted) ∧
        m.takeGuard counter =
          (.error .replayed, { m with taken := (counter, false) :: m.taken })) ∨
      (∀ accepted ∈ acceptedCounters m.taken, accepted < counter) ∧
        m.takeGuard counter = (.ok (), { m with
          lastConsumed := some counter, taken := (counter, true) :: m.taken }) := by
  rw [takeGuard]
  split
  · rename_i hreplayed
    obtain ⟨last, hlast, hle⟩ := (Option.any_eq_true _ _).1 hreplayed
    refine .inl ⟨⟨last, ?_, by simpa using hle⟩, rfl⟩
    exact List.mem_of_mem_head? (h.highest ▸ hlast)
  · rename_i hfresh
    refine .inr ⟨h.above fun last hlast => ?_, rfl⟩
    simpa [hlast] using hfresh

theorem Increasing.takeGuard (h : Increasing m) (counter : Nat) :
    Increasing (m.takeGuard counter).2 ∧ m.Extends (m.takeGuard counter).2 := by
  rcases takeGuard_cases h counter with ⟨-, hrefused⟩ | ⟨habove, hgranted⟩
  · rw [hrefused]
    exact ⟨⟨h.highest, h.decreasing⟩, List.suffix_cons _ _⟩
  · rw [hgranted]
    exact ⟨⟨rfl, List.pairwise_cons.2 ⟨habove, h.decreasing⟩⟩, List.suffix_cons _ _⟩

theorem extends_setClock (reading : Except TotpError Nat) (m : TotpMemory) :
    m.Extends (m.setClock reading) :=
  List.suffix_refl _

theorem accepted_perform {counter : Nat} (m : TotpMemory) (access : TotpAccess)
    (h : counter ∈ acceptedCounters m.taken) :
    counter ∈ acceptedCounters (m.perform access).2.taken := by
  cases access with
  | unixSeconds => exact h
  | takeGuard other =>
      simp only [perform, TotpMemory.takeGuard]
      split
      · exact h
      · exact List.mem_cons_of_mem _ h

end TotpMemory

namespace TotpFactor

open TotpMemory

variable [TotpLite] (factor : TotpFactor)

def InWindow (now counter : Nat) : Prop :=
  now / factor.params.stepSecs - factor.params.skewSteps ≤ counter ∧
    counter ≤ now / factor.params.stepSecs + factor.params.skewSteps ∧ counter ≤ u64Max

def Admissible (accepted : List Nat) (reply : TotpReply) : Prop :=
  factor.WellFormed reply.presented ∧ ∃ now, reply.Read now ∧ ∃ counter,
    factor.InWindow now counter ∧ factor.codeAtCounter counter = reply.presented ∧
      ∀ spent ∈ accepted, spent < counter

structure Justified (reply : TotpReply) (m : TotpMemory) : Prop where
  reads : factor.WellFormed reply.presented → ∃ reading,
    ⟨.unixSeconds, reading⟩ ∈ reply.accesses ∧ ∀ e, reading = .error e → reply.result = .error e
  unmatched : (∀ counter turn, ¬ reply.TookGuard counter turn) → ∀ now, reply.Read now →
    ∀ counter, factor.InWindow now counter → factor.codeAtCounter counter ≠ reply.presented
  judged : ∃ before : List (Nat × Bool),
    (∀ counter turn, reply.TookGuard counter turn → before.length = turn ∧
      ∃ newer, m.taken = newer ++ (counter, reply.result.isOk) :: before) ∧
    (reply.result = .ok () ↔ factor.Admissible (acceptedCounters before) reply)

variable {factor} {presented : Bytes} {now : Nat}

theorem codeAtCounter_eq_hotp {counter : Nat} (hstep : 0 < factor.params.stepSecs)
    (hfits : counter * factor.params.stepSecs ≤ u64Max) :
    factor.codeAtCounter counter =
      hotp factor.params.algorithm factor.params.digits factor.secret counter := by
  simp only [codeAtCounter, totpCustom_eq _ _ _ _ _ hstep, Nat.min_eq_left hfits,
    Nat.mul_div_cancel _ hstep]

theorem matchedIn_concat (counters : List Nat) (counter : Nat) :
    factor.matchedIn presented (counters ++ [counter]) =
      if factor.codeAtCounter counter = presented then some counter
      else factor.matchedIn presented counters := by
  simp only [matchedIn, List.foldl_append, List.foldl_cons, List.foldl_nil]

theorem matchedIn_range' (first count : Nat) :
    (∀ counter, factor.matchedIn presented (List.range' first count) = some counter →
      (first ≤ counter ∧ counter < first + count ∧ factor.codeAtCounter counter = presented) ∧
        ∀ other, other < first + count → factor.codeAtCounter other = presented →
          other < first ∨ other ≤ counter) ∧
    (factor.matchedIn presented (List.range' first count) = none →
      ∀ counter, first ≤ counter → counter < first + count →
        factor.codeAtCounter counter ≠ presented) := by
  induction count with
  | zero =>
      refine ⟨fun counter h => (by cases h), fun _ counter hlow hhigh => ?_⟩
      omega
  | succ count ih =>
      obtain ⟨hsome, hnone⟩ := ih
      rw [List.range'_1_concat, matchedIn_concat]
      split
      · rename_i hmatches
        refine ⟨fun counter h => ?_, fun h => (by cases h)⟩
        cases h
        exact ⟨⟨by omega, by omega, hmatches⟩, fun other hother _ => by omega⟩
      · rename_i hdiffers
        refine ⟨fun counter h => ?_, fun h counter hlow hhigh => ?_⟩
        · obtain ⟨⟨hlow, hhigh, hcode⟩, hlast⟩ := hsome counter h
          refine ⟨⟨hlow, by omega, hcode⟩, fun other hother hmatches => ?_⟩
          rcases Nat.lt_or_ge other (first + count) with hless | hge
          · exact hlast other hless hmatches
          · obtain rfl : other = first + count := by omega
            exact absurd hmatches hdiffers
        · rcases Nat.lt_or_ge counter (first + count) with hless | hge
          · exact hnone h counter hlow hless
          · obtain rfl : counter = first + count := by omega
            exact hdiffers

theorem matched_some {counter : Nat} (h : factor.matched now presented = some counter) :
    factor.InWindow now counter ∧ factor.codeAtCounter counter = presented ∧
      ∀ other, factor.InWindow now other → factor.codeAtCounter other = presented →
        other ≤ counter := by
  obtain ⟨⟨hlow, hhigh, hcode⟩, hlast⟩ := (matchedIn_range' _ _).1 counter h
  simp only [InWindow, saturatingAdd] at hlow hhigh hlast ⊢
  refine ⟨⟨hlow, by omega, by omega⟩, hcode, fun other hwindow hother => ?_⟩
  obtain ⟨holow, hohigh, homax⟩ := hwindow
  have := hlast other (by omega) hother
  omega

theorem matched_none (h : factor.matched now presented = none) {counter : Nat}
    (hwindow : factor.InWindow now counter) : factor.codeAtCounter counter ≠ presented := by
  obtain ⟨hlow, hhigh, hmax⟩ := hwindow
  refine (matchedIn_range' _ _).2 h counter hlow ?_
  simp only [saturatingAdd]
  omega

def onReading (presented : Bytes) (reading : Except TotpError Nat) :
    Reads TotpAccess TotpAnswer TotpReply :=
  match reading with
  | .error e => .ret ⟨presented, [⟨.unixSeconds, .error e⟩], .error e⟩
  | .ok now =>
      match factor.matched now presented with
      | none => .ret ⟨presented, [⟨.unixSeconds, .ok now⟩], .error .noMatch⟩
      | some counter => .ask (.takeGuard counter) fun taken =>
          .ret ⟨presented, [⟨.takeGuard counter, taken⟩, ⟨.unixSeconds, .ok now⟩], taken.1⟩

theorem program_wellFormed (h : factor.WellFormed presented) :
    factor.program presented = .ask .unixSeconds (factor.onReading presented) := by
  simp only [program, check, if_pos h]
  refine congrArg (Reads.ask TotpAccess.unixSeconds) (funext fun reading => ?_)
  cases reading with
  | error e => rfl
  | ok now =>
      cases hmatched : factor.matched now presented with
      | none =>
          simp only [onReading, Reads.bind, hmatched]
          rfl
      | some counter =>
          simp only [onReading, Reads.bind, hmatched]
          rfl

theorem program_malformed (h : ¬ factor.WellFormed presented) :
    factor.program presented =
      .ret ⟨presented, [], .error (.malformed factor.params.digits)⟩ := by
  simp only [program, check, if_neg h]
  rfl

theorem justified_untaken {accesses : List (Σ q, TotpAnswer q)} {e : TotpError} (m : TotpMemory)
    (hreads : factor.WellFormed presented → ∃ reading, ⟨.unixSeconds, reading⟩ ∈ accesses ∧
      ∀ e', reading = .error e' → (.error e : Except TotpError Unit) = .error e')
    (hunmatched : ∀ now, ⟨.unixSeconds, .ok now⟩ ∈ accesses → ∀ counter,
      factor.InWindow now counter → factor.codeAtCounter counter ≠ presented)
    (huntaken : ∀ counter taken, ⟨.takeGuard counter, taken⟩ ∉ accesses) :
    factor.Justified ⟨presented, accesses, .error e⟩ m := by
  refine ⟨hreads, fun _ => hunmatched, [], fun counter turn ⟨result, htook⟩ => ?_,
    fun hok => (by cases hok), fun hadmissible => ?_⟩
  · exact absurd htook (huntaken counter _)
  · obtain ⟨-, now, hread, counter, hwindow, hcode, -⟩ := hadmissible
    exact absurd hcode (hunmatched now hread counter hwindow)

theorem justified_taken {counter : Nat} {before : List (Nat × Bool)}
    {result : Except TotpError Unit} {m : TotpMemory} (hformed : factor.WellFormed presented)
    (hmatched : factor.matched now presented = some counter)
    (htaken : m.taken = (counter, result.isOk) :: before)
    (hresult : result = .ok () ↔ ∀ spent ∈ acceptedCounters before, spent < counter) :
    factor.Justified ⟨presented,
      [⟨.takeGuard counter, (result, before.length)⟩, ⟨.unixSeconds, .ok now⟩], result⟩ m := by
  obtain ⟨hwindow, hcode, hlast⟩ := matched_some hmatched
  refine ⟨fun _ => ⟨.ok now, by simp, fun _ h => by cases h⟩, fun huntaken => ?_, before,
    fun other turn ⟨answer, htook⟩ => ?_,
    hresult.trans ⟨fun habove => ?_, fun hadmissible => ?_⟩⟩
  · exact absurd ⟨result, List.mem_cons_self ..⟩ (huntaken counter before.length)
  · rcases List.mem_cons.1 htook with hsame | hother
    · cases hsame
      exact ⟨rfl, [], htaken⟩
    · cases List.mem_singleton.1 hother
  · exact ⟨hformed, now, List.mem_cons_of_mem _ (List.mem_cons_self ..), counter, hwindow, hcode,
      habove⟩
  · obtain ⟨-, reading, hread, other, hother, hmatches, habove⟩ := hadmissible
    rcases List.mem_cons.1 hread with hguard | hclock
    · cases hguard
    · cases List.mem_singleton.1 hclock
      exact fun spent hspent => (habove spent hspent).trans_le (hlast other hother hmatches)

theorem onReading_upholds (hformed : factor.WellFormed presented)
    (reading : Except TotpError Nat) (s : TotpMemory) :
    protocol.Upholds factor.Justified (factor.onReading presented reading) s := by
  have untaken : ∀ counter taken, (⟨.takeGuard counter, taken⟩ : Σ q, TotpAnswer q) ∉
      [(⟨.unixSeconds, reading⟩ : Σ q, TotpAnswer q)] := by
    intro counter taken hmem
    cases List.mem_singleton.1 hmem
  cases reading with
  | error e =>
      refine justified_untaken s
        (fun _ => ⟨.error e, List.mem_cons_self .., fun _ h => by cases h; rfl⟩)
        (fun now hread => ?_) untaken
      cases List.mem_singleton.1 hread
  | ok now =>
      cases hmatched : factor.matched now presented with
      | none =>
          simp only [onReading, hmatched]
          refine justified_untaken s
            (fun _ => ⟨.ok now, List.mem_cons_self .., fun _ h => by cases h⟩)
            (fun other hread counter hwindow => ?_) untaken
          cases List.mem_singleton.1 hread
          exact matched_none hmatched hwindow
      | some counter =>
          simp only [onReading, hmatched]
          intro t ht _ _
          obtain ⟨hkept, hextends⟩ := Increasing.takeGuard ht counter
          refine ⟨hkept, hextends, ?_⟩
          simp only [protocol, TotpMemory.perform]
          rcases takeGuard_cases ht counter with
            ⟨⟨spent, hspent, hle⟩, hrefused⟩ | ⟨habove, hgranted⟩
          · rw [hrefused]
            refine justified_taken hformed hmatched rfl ⟨fun hok => (by cases hok), fun hall => ?_⟩
            exact absurd (hall spent hspent) (Nat.not_lt.2 hle)
          · rw [hgranted]
            exact justified_taken hformed hmatched rfl ⟨fun _ => habove, fun _ => rfl⟩

theorem program_upholds (presented : Bytes) (s : TotpMemory) :
    protocol.Upholds factor.Justified (factor.program presented) s := by
  by_cases hformed : factor.WellFormed presented
  · rw [program_wellFormed hformed]
    exact fun t ht _ _ => ⟨ht, List.suffix_refl _, onReading_upholds hformed t.clock t⟩
  · rw [program_malformed hformed]
    exact justified_untaken s (fun h => absurd h hformed)
      (fun now hread => (List.not_mem_nil hread).elim) fun counter taken => List.not_mem_nil

def tickets : Tickets TotpMemory TotpAccess TotpAnswer TotpReply Nat where
  perform := TotpMemory.perform
  Inv := Increasing
  spent m counter := counter ∈ acceptedCounters m.taken
  grants := TotpReply.Accepts

theorem onReading_entitled (presented : Bytes) (reading : Except TotpError Nat)
    (held : Nat → Prop) :
    tickets.Owning (fun held reply => ∀ counter, tickets.grants reply counter → held counter)
      held (factor.onReading presented reading) := by
  cases reading with
  | error e =>
      rintro counter ⟨hok, -⟩
      cases hok
  | ok now =>
      cases hmatched : factor.matched now presented with
      | none =>
          simp only [onReading, hmatched]
          rintro counter ⟨hok, -⟩
          cases hok
      | some counter =>
          simp only [onReading, hmatched]
          intro t ht
          simp only [tickets, TotpMemory.perform]
          rcases takeGuard_cases ht counter with ⟨-, hrefused⟩ | ⟨habove, hgranted⟩
          · rw [hrefused]
            rintro other ⟨hok, -⟩
            cases hok
          · rw [hgranted]
            rintro other ⟨-, turn, answer, htook⟩
            rcases List.mem_cons.1 htook with hsame | hother
            · cases hsame
              exact .inr ⟨fun hspent => (habove counter hspent).false, List.mem_cons_self ..⟩
            · cases List.mem_singleton.1 hother

theorem program_entitled (presented : Bytes) :
    tickets.Entitled (fun _ => False) (factor.program presented) := by
  by_cases hformed : factor.WellFormed presented
  · rw [program_wellFormed hformed]
    exact fun s _ => onReading_entitled presented s.clock _
  · rw [program_malformed hformed]
    rintro counter ⟨hok, -⟩
    cases hok

theorem Justified.mono {reply : TotpReply} {m later : TotpMemory} (h : factor.Justified reply m)
    (hextends : m.Extends later) : factor.Justified reply later := by
  obtain ⟨before, htaken, hresult⟩ := h.judged
  obtain ⟨newest, hnewest⟩ := hextends
  refine ⟨h.reads, h.unmatched, before, fun counter turn htook => ?_, hresult⟩
  obtain ⟨hturn, newer, hm⟩ := htaken counter turn htook
  exact ⟨hturn, newest ++ newer, by rw [← hnewest, hm, List.append_assoc]⟩

variable {w : Attended TotpMemory TotpAccess TotpAnswer TotpReply} {clock : Except TotpError Nat}
  {actions : List (Action Bytes (Except TotpError Nat))}

theorem run_keeps (h : PartialMachine.run factor.next (.idle (.enrolled clock)) actions = some w) :
    protocol.Answering factor.Justified w ∧ ∃ owners, tickets.Custody owners w := by
  have preserves : ∀ action ∈ actions, ∀ v v', (protocol.Answering factor.Justified v ∧
        ∃ owners, tickets.Custody owners v) → factor.next v action = some v' →
      protocol.Answering factor.Justified v' ∧ ∃ owners, tickets.Custody owners v' := by
    rintro action - v v' ⟨hanswering, owners, hcustody⟩ hstep
    constructor
    · exact hanswering.next (fun _ _ _ hjustified hrely => hjustified.mono hrely)
        (fun presented s _ => program_upholds presented s)
        (fun reading s hs => ⟨Increasing.setClock hs reading, extends_setClock reading s⟩)
        (fun _ _ => trivial) hstep
    · have disturbs : ∀ reading (s : TotpMemory) counter, counter ∈ acceptedCounters s.taken →
          counter ∈ acceptedCounters (s.setClock reading).taken := fun _ _ _ hspent => hspent
      exact hcustody.next program_entitled
        (fun s access _ hspent => accepted_perform s access hspent) disturbs hanswering.inv hstep
  exact PartialMachine.run_invariant preserves
    ⟨answering_idle (increasing_enrolled clock), _, Tickets.custody_idle _⟩ h

theorem accepts_exactly_unspent_codes (hstep : 0 < factor.params.stepSecs)
    (h : PartialMachine.run factor.next (.idle (.enrolled clock)) actions = some w) :
    (∀ reply ∈ w.replies,
      (factor.WellFormed reply.presented → ∃ reading, ⟨.unixSeconds, reading⟩ ∈ reply.accesses ∧
        ∀ e, reading = .error e → reply.result = .error e) ∧
      ((∀ counter turn, ¬ reply.TookGuard counter turn) → ∀ now, reply.Read now → ∀ counter,
        now / factor.params.stepSecs - factor.params.skewSteps ≤ counter →
        counter ≤ now / factor.params.stepSecs + factor.params.skewSteps → counter ≤ u64Max →
          factor.codeAtCounter counter ≠ reply.presented) ∧
      ∃ before : List (Nat × Bool),
      (∀ counter turn, reply.TookGuard counter turn → before.length = turn ∧
        ∃ newer, w.system.shared.taken = newer ++ (counter, reply.result.isOk) :: before) ∧
      (reply.result = .ok () ↔ factor.WellFormed reply.presented ∧ ∃ now, reply.Read now ∧
        ∃ counter, now / factor.params.stepSecs - factor.params.skewSteps ≤ counter ∧
          counter ≤ now / factor.params.stepSecs + factor.params.skewSteps ∧ counter ≤ u64Max ∧
          factor.codeAtCounter counter = reply.presented ∧
          ∀ spent ∈ acceptedCounters before, spent < counter)) ∧
      (acceptedCounters w.system.shared.taken).Pairwise (· > ·) ∧
      (w.replies.Pairwise fun later earlier => ∀ counter, later.Accepts counter →
        ¬ earlier.Accepts counter) ∧
      ∀ counter, counter * factor.params.stepSecs ≤ u64Max → factor.codeAtCounter counter =
        hotp factor.params.algorithm factor.params.digits factor.secret counter := by
  obtain ⟨hanswering, owners, hcustody⟩ := run_keeps h
  refine ⟨fun reply hreply => ?_, hanswering.inv.decreasing, hcustody.once,
    fun counter => codeAtCounter_eq_hotp hstep⟩
  obtain ⟨hreads, hunmatched, before, htaken, hresult⟩ := hanswering.replied reply hreply
  refine ⟨hreads, fun huntaken now hread counter hlow hhigh hmax =>
    hunmatched huntaken now hread counter ⟨hlow, hhigh, hmax⟩, before, htaken, hresult.trans ?_⟩
  simp only [Admissible, InWindow, and_assoc]

end TotpFactor

section Example

abbrev lastDigitTotp : TotpLite where
  hotp _ digits _ counter := List.replicate digits (48 + UInt8.ofNat (counter % 10))
  totpCustom _ step digits _ seconds :=
    List.replicate digits (48 + UInt8.ofNat (seconds / step % 10))
  totpCustom_eq _ _ _ _ _ _ := rfl

def phone : TotpFactor := ⟨[7], .sha1, 2, 30, 1⟩

def phoneActions : List (Interleaving.Action Bytes (Except TotpError Nat)) :=
  [.call 0 [53, 53], .call 1 [53, 53], .step 0, .step 1, .step 1, .step 0, .step 0, .step 1,
    .disturb (.ok 120), .call 0 [52, 52], .step 0, .step 0, .step 0]

theorem accepts_exactly_unspent_codes_phone :
    letI := lastDigitTotp
    ∃ w, PartialMachine.run phone.next (.idle (.enrolled (.ok 150))) phoneActions = some w ∧
      w.replies.map TotpReply.result = [.error .replayed, .ok (), .error .replayed] ∧
      (acceptedCounters w.system.shared.taken).Pairwise (· > ·) := by
  let _ := lastDigitTotp
  have hreplies : (PartialMachine.run phone.next (.idle (.enrolled (.ok 150))) phoneActions).map
      (fun w => w.replies.map TotpReply.result) =
        some [.error .replayed, .ok (), .error .replayed] := by
    decide +kernel
  obtain ⟨w, hrun, hresults⟩ := Option.map_eq_some_iff.1 hreplies
  exact ⟨w, hrun, hresults, (TotpFactor.accepts_exactly_unspent_codes (by decide) hrun).2.1⟩

end Example

end DigAccount
