import DigAccount.Foundation.Machine
import DigAccount.Foundation.Triples
import DigAccount.Wallet.Host
import Mathlib.Data.List.Chain
import Mathlib.Logic.Relation

namespace DigAccount

abbrev Shelf := List (ReservationId × ReservationEntry)

structure Desk where
  theirs : Shelf
  ours : Shelf
  reading : Nat
  refusals : List ReservationId
  deriving DecidableEq, Repr

namespace Desk

open Relation LocalReservations Fallible

def opened (shelf : Shelf) : Desk := ⟨shelf, [], 0, []⟩

def ids (shelf : Shelf) : List ReservationId := shelf.map Prod.fst

-- What the store's contract lets an answer do to the reservations: a grant takes every coin asked
-- for under a handle not in use, a refusal takes nothing, a release frees its handle, and a refused
-- release is remembered. No other call reaches the store.
def answer (desk : Desk) : (call : HostCall) → HostAnswer call → Option Desk
  | .reservation (.reserveAll coins _ expiresAtUnix), .ok id =>
      if id ∈ ids desk.theirs ++ ids desk.ours then none
      else some { desk with ours := (id, ⟨coins, expiresAtUnix⟩) :: desk.ours }
  | .reservation (.release id), .ok _ =>
      some { desk with theirs := remove id desk.theirs, ours := remove id desk.ours }
  | .reservation (.release id), .error _ => some { desk with refusals := id :: desk.refusals }
  | .nowUnix, .ok now => some { desk with reading := now }
  | _, _ => some desk

structure Drifts (moves : Shelf → Shelf → Prop) (desk later : Desk) : Prop where
  theirs : ReflTransGen moves desk.theirs later.theirs
  ours : later.ours = desk.ours
  reading : later.reading = desk.reading
  refusals : later.refusals = desk.refusals
  apart : ∀ id ∈ ids later.ours, id ∉ ids later.theirs

def Serves (moves : Shelf → Shelf → Prop) (desk : Desk) (call : HostCall)
    (answered : HostAnswer call) (later : Desk) : Prop :=
  ∃ served, desk.answer call answered = some served ∧ Drifts moves served later

structure Untaken (moves : Shelf → Shelf → Prop) (shelf : Shelf) (desk : Desk) : Prop where
  theirs : ReflTransGen moves shelf desk.theirs
  ours : desk.ours = []
  refusals : desk.refusals = []

structure HoldsExactly (moves : Shelf → Shelf → Prop) (shelf : Shelf)
    (reservations : CoinReservations) (id : ReservationId) (coins : List Bytes32) (desk : Desk) :
    Prop where
  theirs : ReflTransGen moves shelf desk.theirs
  ours : desk.ours = [(id, ⟨coins, saturatingAdd u64Max desk.reading reservations.ttlSecs⟩)]
  apart : id ∉ ids desk.theirs
  refusals : desk.refusals = []

structure Untouched (moves : Shelf → Shelf → Prop) (shelf : Shelf) (desk : Desk) : Prop where
  theirs : ReflTransGen moves shelf desk.theirs
  released : ids desk.ours ⊆ desk.refusals

variable {moves : Shelf → Shelf → Prop} {shelf : Shelf} {desk later : Desk}
  {reservations : CoinReservations} {id : ReservationId} {coins : List Bytes32}
  {oracle : HostOracle} {ε α : Type}

theorem untaken_opened : Untaken moves shelf (opened shelf) := ⟨.refl, rfl, rfl⟩

theorem Untaken.untouched (h : Untaken moves shelf desk) : Untouched moves shelf desk := by
  refine ⟨h.theirs, ?_⟩
  rw [h.ours]
  exact List.nil_subset _

theorem Untaken.drifts (h : Untaken moves shelf desk) (hdrift : Drifts moves desk later) :
    Untaken moves shelf later :=
  ⟨h.theirs.trans hdrift.theirs, hdrift.ours.trans h.ours, hdrift.refusals.trans h.refusals⟩

theorem HoldsExactly.drifts (h : HoldsExactly moves shelf reservations id coins desk)
    (hdrift : Drifts moves desk later) :
    HoldsExactly moves shelf reservations id coins later := by
  have hours : later.ours =
      [(id, ⟨coins, saturatingAdd u64Max later.reading reservations.ttlSecs⟩)] := by
    rw [hdrift.ours, hdrift.reading, h.ours]
  refine ⟨h.theirs.trans hdrift.theirs, hours, hdrift.apart id ?_,
    hdrift.refusals.trans h.refusals⟩
  rw [hours]
  exact List.mem_singleton_self id

theorem remove_eq_self (h : id ∉ ids shelf) : remove id shelf = shelf := by
  rw [remove, List.filter_eq_self]
  intro held hheld
  refine decide_eq_true fun hsame => h ?_
  exact hsame ▸ List.mem_map_of_mem hheld

def SparesStore : HostCall → Prop
  | .reservation _ => False
  | _ => True

def ReadsChain : HostCall → Prop
  | .chain _ => True
  | _ => False

theorem Untaken.spared {call : HostCall} (hcall : SparesStore call) {answered : HostAnswer call}
    (h : Untaken moves shelf desk) (hserves : Serves moves desk call answered later) :
    Untaken moves shelf later := by
  obtain ⟨served, hanswer, hdrift⟩ := hserves
  have hserved : Untaken moves shelf served := by
    cases call with
    | reservation call => exact hcall.elim
    | nowUnix =>
        cases answered with
        | ok now =>
            cases hanswer
            exact ⟨h.theirs, h.ours, h.refusals⟩
        | error e =>
            cases hanswer
            exact h
    | chain query =>
        cases hanswer
        exact h
    | coinRecordsByPuzzleHash puzzleHash includeSpent =>
        cases hanswer
        exact h
    | isLive =>
        cases hanswer
        exact h
  exact hserved.drifts hdrift

theorem HoldsExactly.spared {call : HostCall} (hcall : ReadsChain call)
    {answered : HostAnswer call} (h : HoldsExactly moves shelf reservations id coins desk)
    (hserves : Serves moves desk call answered later) :
    HoldsExactly moves shelf reservations id coins later := by
  obtain ⟨served, hanswer, hdrift⟩ := hserves
  cases call with
  | chain query =>
      cases hanswer
      exact h.drifts hdrift
  | reservation call => exact hcall.elim
  | nowUnix => exact hcall.elim
  | coinRecordsByPuzzleHash puzzleHash includeSpent => exact hcall.elim
  | isLive => exact hcall.elim

def serve (desk : Desk) (event : (call : HostCall) × HostAnswer call) : Option Desk :=
  (desk.answer event.1 event.2).filter fun later =>
    decide (∀ id ∈ ids later.ours, id ∉ ids later.theirs)

theorem serves_of_serve {call : HostCall} {answered : HostAnswer call}
    (h : desk.serve ⟨call, answered⟩ = some later) : Serves moves desk call answered later := by
  obtain ⟨hanswer, hapart⟩ := Option.filter_eq_some_iff.1 h
  exact ⟨later, hanswer, .refl, rfl, rfl, rfl, of_decide_eq_true hapart⟩

end Desk

namespace CoinReservations

open Relation Desk Fallible LocalReservations

variable {moves : Shelf → Shelf → Prop} {shelf : Shelf} {reservations : CoinReservations}
  {id : ReservationId} {coins : List Bytes32} {oracle : HostOracle} {ε α : Type}

theorem spares_ensures {p : HostReads ε α} (hp : OnlyAsks SparesStore p) :
    Ensures oracle (Serves moves) (Untaken moves shelf) p
      (fun a desk => Untaken moves shelf desk ∧ ∃ i, p.run oracle i = .ok a)
      fun _ => Untaken moves shelf :=
  hp.ensures fun _ hcall _ _ _ h hserves => h.spared hcall hserves

theorem readsChain_ensures {p : HostReads ε α} (hp : OnlyAsks ReadsChain p) :
    Ensures oracle (Serves moves) (HoldsExactly moves shelf reservations id coins) p
      (fun a desk => HoldsExactly moves shelf reservations id coins desk ∧
        ∃ i, p.run oracle i = .ok a)
      fun _ => HoldsExactly moves shelf reservations id coins :=
  hp.ensures fun _ hcall _ _ _ h hserves => h.spared hcall hserves

theorem now_ensures :
    Ensures oracle (Serves moves) (Untaken moves shelf) now
      (fun now desk => Untaken moves shelf desk ∧ desk.reading = now)
      fun _ => Untaken moves shelf := by
  refine ensures_query rfl fun i desk later h hserves => ?_
  have hspares : SparesStore .nowUnix := trivial
  have hlater : Untaken moves shelf later := h.spared hspares hserves
  obtain ⟨served, hanswer, hdrift⟩ := hserves
  cases hclock : oracle i .nowUnix with
  | error e => exact hlater
  | ok now =>
      rw [hclock] at hanswer
      cases hanswer
      exact ⟨hlater, hdrift.reading⟩

theorem held_ensures :
    Ensures oracle (Serves moves) (Untaken moves shelf) held (fun _ => Untaken moves shelf)
      fun _ => Untaken moves shelf := by
  refine now_ensures.bind fun now => ensures_query rfl fun i desk later h hserves => ?_
  obtain ⟨served, hanswer, hdrift⟩ := hserves
  cases hanswer
  have hlater := h.1.drifts hdrift
  cases oracle i (.reservation (.held now)) with
  | ok coins => exact hlater
  | error e => exact hlater

theorem reserve_ensures :
    Ensures oracle (Serves moves) (Untaken moves shelf) (reservations.reserve coins)
      (fun id => HoldsExactly moves shelf reservations id coins)
      fun _ => Untaken moves shelf := by
  refine now_ensures.bind fun now => ensures_query rfl fun i desk later h hserves => ?_
  obtain ⟨h, rfl⟩ := h
  obtain ⟨served, hanswer, hdrift⟩ := hserves
  cases hgrant : oracle i (.reservation (.reserveAll coins desk.reading
    (saturatingAdd u64Max desk.reading reservations.ttlSecs))) with
  | error e =>
      rw [hgrant] at hanswer
      cases hanswer
      exact h.drifts hdrift
  | ok id =>
      rw [hgrant, answer] at hanswer
      split at hanswer
      · cases hanswer
      · rename_i hunused
        cases hanswer
        rw [List.mem_append, not_or] at hunused
        have hserved : HoldsExactly moves shelf reservations id coins
            { desk with ours := (id, ⟨coins, saturatingAdd u64Max desk.reading
              reservations.ttlSecs⟩) :: desk.ours } :=
          ⟨h.theirs, by rw [h.ours], hunused.1, h.refusals⟩
        exact hserved.drifts hdrift

theorem release_ensures :
    Ensures oracle (Serves moves) (HoldsExactly moves shelf reservations id coins) (release id)
      (fun _ => Untouched moves shelf) fun _ => Untouched moves shelf := by
  refine ensures_query rfl fun i desk later h hserves => ?_
  obtain ⟨served, hanswer, hdrift⟩ := hserves
  cases hrelease : oracle i (.reservation (.release id)) with
  | error e =>
      rw [hrelease] at hanswer
      cases hanswer
      refine ⟨h.theirs.trans hdrift.theirs, ?_⟩
      rw [hdrift.ours, hdrift.refusals, h.ours]
      exact List.cons_subset_cons _ (List.nil_subset _)
  | ok freed =>
      rw [hrelease] at hanswer
      cases hanswer
      have htheirs : ReflTransGen moves shelf (remove id desk.theirs) := by
        rw [remove_eq_self h.apart]
        exact h.theirs
      refine ⟨htheirs.trans hdrift.theirs, ?_⟩
      rw [hdrift.ours]
      dsimp only
      rw [h.ours]
      simp [remove, ids]

theorem orRelease_ensures {result : Except ε α} :
    Ensures oracle (Serves moves) (HoldsExactly moves shelf reservations id coins)
      (orRelease id result)
      (fun value desk => result = .ok value ∧ HoldsExactly moves shelf reservations id coins desk)
      fun _ => Untouched moves shelf := by
  cases result with
  | ok value => exact ensures_pure fun desk h => ⟨rfl, h⟩
  | error e =>
      refine release_ensures.outcome.bind fun outcome => ensures_fail fun desk h => ?_
      cases outcome with
      | ok freed => exact h
      | error refused => exact h

section Selection

variable {select : List Bytes32 → HostReads ε (α × List Bytes32)}
  {unusable : ReservationError → ε}

def Chose (oracle : HostOracle) (select : List Bytes32 → HostReads ε (α × List Bytes32))
    (chosen : α) (coinIds : List Bytes32) : Prop :=
  ∃ excluded i, (select excluded).run oracle i = .ok (chosen, coinIds)

theorem reserveChoice_ensures (hselect : ∀ excluded, OnlyAsks SparesStore (select excluded))
    {attempts : Nat} {excluded : List Bytes32} :
    Ensures oracle (Serves moves) (Untaken moves shelf)
      (reservations.reserveChoice select unusable attempts excluded)
      (fun granted desk => ∃ coinIds,
        HoldsExactly moves shelf reservations granted.2 coinIds desk ∧
          Chose oracle select granted.1 coinIds)
      fun _ => Untaken moves shelf := by
  induction attempts generalizing excluded with
  | zero => exact ensures_fail fun desk h => h
  | succ attempts ih =>
      refine (spares_ensures (hselect excluded)).bind fun ⟨picked, coinIds⟩ => ?_
      refine ensures_given fun ⟨i, hpicked⟩ => ?_
      refine reserve_ensures.outcome.bind fun reserved => ?_
      cases reserved with
      | ok granted =>
          exact ensures_pure fun desk h => ⟨coinIds, h, excluded, i, hpicked⟩
      | error e =>
          cases e with
          | conflict coinId => exact ih
          | unavailable detail => exact ensures_fail fun desk h => h

theorem selectAndReserve_ensures (hselect : ∀ excluded, OnlyAsks SparesStore (select excluded))
    {attempts : Nat} :
    Ensures oracle (Serves moves) (Untaken moves shelf)
      (reservations.selectAndReserve attempts select unusable)
      (fun granted desk => ∃ coinIds,
        HoldsExactly moves shelf reservations granted.2 coinIds desk ∧
          Chose oracle select granted.1 coinIds)
      fun _ => Untaken moves shelf := by
  have hheld : Ensures oracle (Serves moves) (Untaken moves shelf)
      (.mapError unusable held) (fun _ => Untaken moves shelf) fun _ => Untaken moves shelf :=
    Ensures.mapError held_ensures
  exact hheld.bind fun _ => reserveChoice_ensures hselect

theorem selectAndReserve_bind (hselect : ∀ excluded, OnlyAsks SparesStore (select excluded))
    {attempts : Nat} {β : Type} {build : α × ReservationId → HostReads ε β} {ok : β → Desk → Prop}
    (hbuild : ∀ chosen id coinIds, Chose oracle select chosen coinIds →
      Ensures oracle (Serves moves) (HoldsExactly moves shelf reservations id coinIds)
        (build (chosen, id)) ok fun _ => Untouched moves shelf) :
    Ensures oracle (Serves moves) (Untaken moves shelf)
      (reservations.selectAndReserve attempts select unusable >>= build) ok
      fun _ => Untouched moves shelf := by
  have hgranted : Ensures oracle (Serves moves) (Untaken moves shelf)
      (reservations.selectAndReserve attempts select unusable)
      (fun granted desk => ∃ coinIds,
        HoldsExactly moves shelf reservations granted.2 coinIds desk ∧
          Chose oracle select granted.1 coinIds)
      fun _ => Untouched moves shelf :=
    (selectAndReserve_ensures hselect).imp (fun _ h => h) (fun _ _ h => h)
      fun _ _ h => h.untouched
  refine hgranted.bind fun ⟨chosen, id⟩ => ?_
  exact ensures_exists fun coinIds => ensures_given (hbuild chosen id coinIds)

def rounds (oracle : HostOracle) (reservations : CoinReservations)
    (select : List Bytes32 → HostReads ε (α × List Bytes32)) :
    Nat → List Bytes32 → Nat → List (List Bytes32)
  | 0, _, _ => []
  | attempts + 1, excluded, i =>
      excluded ::
        match (select excluded).run oracle i with
        | .error _ => []
        | .ok (_, coinIds) =>
            let j := (select excluded).after oracle i
            match (reservations.reserve coinIds).run oracle j with
            | .error (.conflict coinId) =>
                rounds oracle reservations select attempts (coinId :: excluded)
                  ((reservations.reserve coinIds).after oracle j)
            | _ => []

def selectorCalls (oracle : HostOracle) (reservations : CoinReservations) (attempts : Nat)
    (select : List Bytes32 → HostReads ε (α × List Bytes32)) (i : Nat) : List (List Bytes32) :=
  match held.run oracle i with
  | .error _ => []
  | .ok excluded =>
      rounds oracle reservations select (max attempts 1) excluded (held.after oracle i)

theorem length_rounds_le {attempts : Nat} {excluded : List Bytes32} {i : Nat} :
    (rounds oracle reservations select attempts excluded i).length ≤ attempts := by
  induction attempts generalizing excluded i with
  | zero => exact Nat.le_refl 0
  | succ attempts ih =>
      rw [rounds, List.length_cons]
      refine Nat.succ_le_succ ?_
      split
      · exact Nat.zero_le _
      dsimp only
      split
      · exact ih
      · exact Nat.zero_le _

def Grows (excluded larger : List Bytes32) : Prop :=
  excluded ⊆ larger ∧ ∃ coinId ∈ larger, coinId ∉ excluded

def RespectsExclusions (oracle : HostOracle)
    (select : List Bytes32 → HostReads ε (α × List Bytes32)) : Prop :=
  ∀ excluded i chosen coinIds, (select excluded).run oracle i = .ok (chosen, coinIds) →
    ∀ coinId ∈ coinIds, coinId ∉ excluded

def NamesRequested (oracle : HostOracle) : Prop :=
  ∀ i coins nowUnix expiresAtUnix coinId,
    oracle i (.reservation (.reserveAll coins nowUnix expiresAtUnix)) =
      .error (.conflict coinId) → coinId ∈ coins

theorem reserve_conflict (hnames : NamesRequested oracle) {i : Nat} {coinId : Bytes32}
    (h : (reservations.reserve coins).run oracle i = .error (.conflict coinId)) :
    coinId ∈ coins := by
  rcases run_bind_eq_error.1 h with hclock | ⟨now, -, hreserve⟩
  · obtain ⟨reason, -, hconflict⟩ := mapError_eq_error.1 (run_mapError.symm.trans hclock)
    cases hconflict
  · obtain ⟨e, hanswer, rfl⟩ := mapError_eq_error.1 (run_mapError.symm.trans hreserve)
    exact hnames _ _ _ _ _ hanswer

theorem head?_rounds {attempts : Nat} {excluded larger : List Bytes32} {i : Nat}
    (h : larger ∈ (rounds oracle reservations select attempts excluded i).head?) :
    larger = excluded := by
  cases attempts with
  | zero => cases h
  | succ attempts =>
      rw [rounds] at h
      exact (Option.some.inj h).symm

theorem rounds_grow (hrespects : RespectsExclusions oracle select)
    (hnames : NamesRequested oracle) {attempts : Nat} {excluded : List Bytes32} {i : Nat} :
    (rounds oracle reservations select attempts excluded i).IsChain Grows := by
  induction attempts generalizing excluded i with
  | zero => exact .nil
  | succ attempts ih =>
      rw [rounds]
      split
      · exact .singleton _
      rename_i chosen coinIds hselect
      dsimp only
      split
      · rename_i coinId hconflict
        refine List.isChain_cons.2 ⟨fun larger hlarger => ?_, ih⟩
        rw [head?_rounds hlarger]
        have hfree := hrespects _ _ _ _ hselect coinId (reserve_conflict hnames hconflict)
        exact ⟨List.subset_cons_self _ _, coinId, List.mem_cons_self .., hfree⟩
      · exact .singleton _

theorem reserveChoice_congr {other : List Bytes32 → HostReads ε (α × List Bytes32)}
    {attempts : Nat} {excluded : List Bytes32} {i : Nat}
    (h : ∀ called ∈ rounds oracle reservations select attempts excluded i,
      other called = select called) :
    (reservations.reserveChoice other unusable attempts excluded).run oracle i =
        (reservations.reserveChoice select unusable attempts excluded).run oracle i ∧
      (reservations.reserveChoice other unusable attempts excluded).transcript oracle i =
        (reservations.reserveChoice select unusable attempts excluded).transcript oracle i := by
  induction attempts generalizing excluded i with
  | zero => exact ⟨rfl, rfl⟩
  | succ attempts ih =>
      rw [rounds, List.forall_mem_cons] at h
      obtain ⟨hfirst, hlater⟩ := h
      rw [reserveChoice, reserveChoice, hfirst]
      cases hselect : (select excluded).run oracle i with
      | error e =>
          rw [run_bind_of_error hselect, run_bind_of_error hselect,
            transcript_bind_of_error hselect, transcript_bind_of_error hselect]
          exact ⟨rfl, rfl⟩
      | ok picked =>
          obtain ⟨chosen, coinIds⟩ := picked
          rw [hselect] at hlater
          rw [run_bind_of_ok hselect, run_bind_of_ok hselect,
            transcript_bind_of_ok hselect, transcript_bind_of_ok hselect]
          dsimp only at hlater ⊢
          rw [run_bind_of_ok run_outcome, run_bind_of_ok run_outcome,
            transcript_bind_of_ok run_outcome, transcript_bind_of_ok run_outcome, after_outcome]
          cases hreserve : (reservations.reserve coinIds).run oracle
              ((select excluded).after oracle i) with
          | ok id => exact ⟨rfl, rfl⟩
          | error e =>
              cases e with
              | unavailable detail => exact ⟨rfl, rfl⟩
              | conflict coinId =>
                  rw [hreserve] at hlater
                  obtain ⟨hrun, htranscript⟩ := ih hlater
                  exact ⟨hrun, congrArg _ (congrArg _ htranscript)⟩

theorem selectAndReserve_congr {other : List Bytes32 → HostReads ε (α × List Bytes32)}
    {attempts i : Nat}
    (h : ∀ called ∈ selectorCalls oracle reservations attempts select i,
      other called = select called) :
    (reservations.selectAndReserve attempts other unusable).run oracle i =
        (reservations.selectAndReserve attempts select unusable).run oracle i ∧
      (reservations.selectAndReserve attempts other unusable).transcript oracle i =
        (reservations.selectAndReserve attempts select unusable).transcript oracle i := by
  have hrun : (Fallible.mapError unusable held : HostReads ε (List Bytes32)).run oracle i =
      (held.run oracle i).mapError unusable := run_mapError
  have hafter : (Fallible.mapError unusable held : HostReads ε (List Bytes32)).after oracle i =
      held.after oracle i := after_mapError
  rw [selectAndReserve, selectAndReserve]
  rw [selectorCalls] at h
  cases hheld : held.run oracle i with
  | error e =>
      rw [hheld] at hrun
      rw [run_bind_of_error hrun, run_bind_of_error hrun, transcript_bind_of_error hrun,
        transcript_bind_of_error hrun]
      exact ⟨rfl, rfl⟩
  | ok excluded =>
      rw [hheld] at hrun h
      rw [run_bind_of_ok hrun, run_bind_of_ok hrun, transcript_bind_of_ok hrun,
        transcript_bind_of_ok hrun, hafter]
      exact ⟨(reserveChoice_congr h).1, congrArg _ (reserveChoice_congr h).2⟩

theorem length_selectorCalls_le {attempts i : Nat} :
    (selectorCalls oracle reservations attempts select i).length ≤ max attempts 1 := by
  rw [selectorCalls]
  split
  · exact Nat.zero_le _
  · exact length_rounds_le

theorem selectorCalls_grow (hrespects : RespectsExclusions oracle select)
    (hnames : NamesRequested oracle) {attempts i : Nat} :
    (selectorCalls oracle reservations attempts select i).IsChain Grows := by
  rw [selectorCalls]
  split
  · exact .nil
  · exact rounds_grow hrespects hnames

end Selection

end CoinReservations

namespace LocalReservations

open Desk

structure Backs (latest : Nat) (table : LocalReservations) (desk : Desk) : Prop where
  recorded : table.entries ⊆ desk.theirs ++ desk.ours
  standing : ∀ held ∈ desk.theirs ++ desk.ours, held.2.coins ≠ [] →
    latest ≤ held.2.expiresAtUnix → held ∈ table.entries
  minted : ∀ id ∈ ids desk.theirs ++ ids desk.ours, id < table.nextId

variable {latest : Nat} {table : LocalReservations} {desk : Desk}

theorem Backs.expired (h : Backs latest table desk) (nowUnix : Nat) :
    Backs (max latest nowUnix) { table with entries := expire table.entries nowUnix } desk := by
  refine ⟨fun held hheld => h.recorded (mem_expire.1 hheld).1, ?_, h.minted⟩
  intro held hheld hcoins hlive
  exact mem_expire.2 ⟨h.standing held hheld hcoins (by omega), by omega⟩

theorem backs_new : Backs 0 new (opened []) := by
  refine ⟨List.nil_subset _, ?_, ?_⟩
  · intro held hheld
    cases hheld
  · intro id hid
    cases hid

theorem held_of_backs (h : Backs latest table desk) {nowUnix : Nat} (hnow : latest ≤ nowUnix) :
    ∃ coins, (table.held nowUnix).1 = .ok coins ∧ ∀ coin, coin ∈ coins ↔
      ∃ held ∈ desk.theirs ++ desk.ours, nowUnix ≤ held.2.expiresAtUnix ∧
        coin ∈ held.2.coins := by
  refine ⟨_, rfl, fun coin => ?_⟩
  rw [mem_coinsOf]
  constructor
  · rintro ⟨id, entry, hentry, hcoin⟩
    obtain ⟨hlisted, hlive⟩ := mem_expire.1 hentry
    exact ⟨(id, entry), h.recorded hlisted, hlive, hcoin⟩
  · rintro ⟨⟨id, entry⟩, hheld, hlive, hcoin⟩
    have hlisted := h.standing _ hheld (List.ne_nil_of_mem hcoin) (hnow.trans hlive)
    exact ⟨id, entry, mem_expire.2 ⟨hlisted, hlive⟩, hcoin⟩

theorem Backs.granted (h : Backs latest table desk) (hroom : table.nextId < u64Max)
    (coins : List Bytes32) (nowUnix expiresAtUnix : Nat)
    {entries : List (ReservationId × ReservationEntry)}
    (hentries : entries ⊆ (table.nextId, ⟨coins, expiresAtUnix⟩) :: table.entries)
    (hkept : table.entries ⊆ entries)
    (hnew : coins ≠ [] → (table.nextId, ⟨coins, expiresAtUnix⟩) ∈ entries) :
    desk.answer (.reservation (.reserveAll coins nowUnix expiresAtUnix)) (.ok table.nextId) =
        some { desk with ours := (table.nextId, ⟨coins, expiresAtUnix⟩) :: desk.ours } ∧
      Backs latest ⟨entries, fetchAdd table.nextId⟩
        { desk with ours := (table.nextId, ⟨coins, expiresAtUnix⟩) :: desk.ours } := by
  have hunused : table.nextId ∉ ids desk.theirs ++ ids desk.ours :=
    fun hmem => Nat.lt_irrefl _ (h.minted _ hmem)
  have hnext : fetchAdd table.nextId = table.nextId + 1 := Nat.mod_eq_of_lt (by omega)
  refine ⟨if_neg hunused, ?_, ?_, ?_⟩
  · intro held hheld
    rcases List.mem_cons.1 (hentries hheld) with rfl | hlisted
    · exact List.mem_append_right _ (List.mem_cons_self ..)
    · rcases List.mem_append.1 (h.recorded hlisted) with htheirs | hours
      · exact List.mem_append_left _ htheirs
      · exact List.mem_append_right _ (List.mem_cons_of_mem _ hours)
  · intro held hheld hcoins hlive
    rcases List.mem_append.1 hheld with htheirs | hours
    · exact hkept (h.standing held (List.mem_append_left _ htheirs) hcoins hlive)
    · rcases List.mem_cons.1 hours with rfl | hours
      · exact hnew hcoins
      · exact hkept (h.standing held (List.mem_append_right _ hours) hcoins hlive)
  · intro id hid
    simp only [ids, List.map_cons, List.mem_append, List.mem_cons] at hid
    rw [hnext]
    rcases hid with htheirs | rfl | hours
    · exact Nat.lt_succ_of_lt (h.minted id (List.mem_append_left _ htheirs))
    · exact Nat.lt_succ_self _
    · exact Nat.lt_succ_of_lt (h.minted id (List.mem_append_right _ hours))

theorem Backs.kept_by_insert (h : Backs latest table desk) (entry : ReservationEntry) :
    table.entries ⊆ insert table.nextId entry table.entries := by
  intro held hheld
  refine List.mem_cons_of_mem _ (mem_remove.2 ⟨hheld, fun hsame => ?_⟩)
  have hlisted : held.1 ∈ ids desk.theirs ++ ids desk.ours := by
    rw [ids, ids, ← List.map_append]
    exact List.mem_map_of_mem (h.recorded hheld)
  exact Nat.lt_irrefl _ (hsame ▸ h.minted _ hlisted)

theorem Backs.released (h : Backs latest table desk) (id : ReservationId) :
    Backs latest { table with entries := remove id table.entries }
      { desk with theirs := remove id desk.theirs, ours := remove id desk.ours } := by
  have happend : remove id desk.theirs ++ remove id desk.ours =
      remove id (desk.theirs ++ desk.ours) := (List.filter_append _ _).symm
  refine ⟨?_, ?_, ?_⟩
  · intro held hheld
    rw [happend]
    exact mem_remove.2 ⟨h.recorded (mem_remove.1 hheld).1, (mem_remove.1 hheld).2⟩
  · intro held hheld hcoins hlive
    rw [happend] at hheld
    obtain ⟨hlisted, hother⟩ := mem_remove.1 hheld
    exact mem_remove.2 ⟨h.standing held hlisted hcoins hlive, hother⟩
  · intro other hother
    refine h.minted other ?_
    rcases List.mem_append.1 hother with htheirs | hours
    · exact List.mem_append_left _ ((List.filter_sublist.map _).subset htheirs)
    · exact List.mem_append_right _ ((List.filter_sublist.map _).subset hours)

theorem perform_backs (h : Backs latest table desk) (hroom : table.nextId < u64Max)
    (call : ReservationCall) :
    ∃ later, desk.answer (.reservation call) (table.perform call).1 = some later ∧
      Backs (call.reading.elim latest (max latest)) (table.perform call).2 later := by
  cases call with
  | held nowUnix => exact ⟨desk, rfl, h.expired nowUnix⟩
  | release id => exact ⟨_, rfl, h.released id⟩
  | reserveAll coins nowUnix expiresAtUnix =>
      have hexpired := h.expired nowUnix
      rcases table.reserveAll_cases coins nowUnix expiresAtUnix with
        ⟨hempty, hreserve⟩ | ⟨clash, -, -, hreserve⟩ | ⟨-, -, hreserve⟩
      · rw [perform, hreserve]
        obtain ⟨hanswer, hbacks⟩ := hexpired.granted hroom coins nowUnix expiresAtUnix
          (List.subset_cons_self _ _) (List.Subset.refl _) fun hcoins => absurd hempty hcoins
        exact ⟨_, hanswer, hbacks⟩
      · rw [perform, hreserve]
        exact ⟨desk, rfl, hexpired⟩
      · rw [perform, hreserve]
        obtain ⟨hanswer, hbacks⟩ := hexpired.granted hroom coins nowUnix expiresAtUnix
          (List.cons_subset_cons _ List.filter_sublist.subset)
          (hexpired.kept_by_insert ⟨coins, expiresAtUnix⟩) fun _ => List.mem_cons_self ..
        exact ⟨_, hanswer, hbacks⟩

def serve (s : LocalReservations × Desk) (call : ReservationCall) :
    Option (LocalReservations × Desk) :=
  (s.2.answer (.reservation call) (s.1.perform call).1).map fun later =>
    ((s.1.perform call).2, later)

def latestReading (calls : List ReservationCall) : Nat := (readings calls).foldl max 0

theorem latestReading_concat {calls : List ReservationCall} {call : ReservationCall} :
    latestReading (calls ++ [call]) =
      call.reading.elim (latestReading calls) (max (latestReading calls)) := by
  rw [latestReading, readings, List.filterMap_append, List.foldl_append]
  cases hreading : call.reading with
  | none => simp [hreading, latestReading, readings]
  | some nowUnix => simp [hreading, latestReading, readings]

theorem run_backs {calls : List ReservationCall}
    (hroom : calls.countP ReservationCall.mints < u64Max) :
    ∃ desk, PartialMachine.run serve (new, opened []) calls = some (after calls, desk) ∧
      Backs (latestReading calls) (after calls) desk := by
  induction calls using List.reverseRecOn with
  | nil => exact ⟨opened [], rfl, backs_new⟩
  | append_singleton calls call ih =>
      rw [List.countP_append] at hroom
      obtain ⟨desk, hrun, hbacks⟩ := ih (by omega)
      have hbelow : (after calls).nextId ≤ calls.countP ReservationCall.mints :=
        (handles_below (by omega)).1
      obtain ⟨later, hanswer, hlater⟩ := perform_backs hbacks (by omega) call
      refine ⟨later, ?_, ?_⟩
      · rw [PartialMachine.run_snoc, hrun, Option.bind_some, serve, hanswer, after_concat,
          Option.map_some]
      · rw [latestReading_concat, after_concat]
        exact hlater

theorem held_after_run {calls : List ReservationCall}
    (hroom : calls.countP ReservationCall.mints < u64Max) {nowUnix : Nat}
    (hnow : latestReading calls ≤ nowUnix) :
    ∃ desk coins, PartialMachine.run serve (new, opened []) calls = some (after calls, desk) ∧
      ((after calls).held nowUnix).1 = .ok coins ∧ ∀ coin, coin ∈ coins ↔
        ∃ held ∈ desk.theirs ++ desk.ours, nowUnix ≤ held.2.expiresAtUnix ∧
          coin ∈ held.2.coins := by
  obtain ⟨desk, hrun, hbacks⟩ := run_backs hroom
  obtain ⟨coins, hheld, hcoins⟩ := held_of_backs hbacks hnow
  exact ⟨desk, coins, hrun, hheld, hcoins⟩

end LocalReservations

end DigAccount
