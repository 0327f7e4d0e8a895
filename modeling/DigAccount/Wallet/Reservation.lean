import DigAccount.Primitives
import Mathlib.Data.List.Induction

namespace DigAccount

abbrev ReservationId := Nat

inductive ReservationError where
  | conflict (coinId : Bytes32)
  | unavailable (detail : String)
  deriving DecidableEq, Repr

structure ReservationEntry where
  coins : List Bytes32
  expiresAtUnix : Nat
  deriving DecidableEq, Repr

structure LocalReservations where
  entries : List (ReservationId × ReservationEntry)
  nextId : Nat
  deriving DecidableEq, Repr

inductive ReservationCall where
  | held (nowUnix : Nat)
  | reserveAll (coins : List Bytes32) (nowUnix expiresAtUnix : Nat)
  | release (id : ReservationId)
  deriving DecidableEq, Repr

abbrev ReservationAnswer : ReservationCall → Type
  | .held _ => Except ReservationError (List Bytes32)
  | .reserveAll _ _ _ => Except ReservationError ReservationId
  | .release _ => Except ReservationError Unit

namespace LocalReservations

def new : LocalReservations := ⟨[], 0⟩

def expire (entries : List (ReservationId × ReservationEntry)) (nowUnix : Nat) :
    List (ReservationId × ReservationEntry) :=
  entries.filter fun (_, entry) => nowUnix ≤ entry.expiresAtUnix

def remove (id : ReservationId) (entries : List (ReservationId × ReservationEntry)) :
    List (ReservationId × ReservationEntry) :=
  entries.filter fun (other, _) => other ≠ id

def insert (id : ReservationId) (entry : ReservationEntry)
    (entries : List (ReservationId × ReservationEntry)) :
    List (ReservationId × ReservationEntry) :=
  (id, entry) :: remove id entries

def coinsOf (entries : List (ReservationId × ReservationEntry)) : List Bytes32 :=
  entries.flatMap fun (_, entry) => entry.coins

def fetchAdd (nextId : Nat) : Nat := (nextId + 1) % (u64Max + 1)

def held (t : LocalReservations) (nowUnix : Nat) :
    Except ReservationError (List Bytes32) × LocalReservations :=
  let entries := expire t.entries nowUnix
  (.ok (coinsOf entries), { t with entries := entries })

def reserveAll (t : LocalReservations) (coins : List Bytes32) (nowUnix expiresAtUnix : Nat) :
    Except ReservationError ReservationId × LocalReservations :=
  let entries := expire t.entries nowUnix
  if coins = [] then
    (.ok t.nextId, ⟨entries, fetchAdd t.nextId⟩)
  else
    match coins.find? fun coinId => coinId ∈ coinsOf entries with
    | some clash => (.error (.conflict clash), { t with entries := entries })
    | none =>
        (.ok t.nextId, ⟨insert t.nextId ⟨coins, expiresAtUnix⟩ entries, fetchAdd t.nextId⟩)

def release (t : LocalReservations) (id : ReservationId) :
    Except ReservationError Unit × LocalReservations :=
  (.ok (), { t with entries := remove id t.entries })

def perform (t : LocalReservations) :
    (call : ReservationCall) → ReservationAnswer call × LocalReservations
  | .held nowUnix => t.held nowUnix
  | .reserveAll coins nowUnix expiresAtUnix => t.reserveAll coins nowUnix expiresAtUnix
  | .release id => t.release id

def after (calls : List ReservationCall) : LocalReservations :=
  calls.foldl (fun t call => (t.perform call).2) new

variable {t : LocalReservations} {entries : List (ReservationId × ReservationEntry)}
  {id other : ReservationId} {entry : ReservationEntry} {coins : List Bytes32}
  {coin : Bytes32} {nowUnix expiresAtUnix : Nat} {calls : List ReservationCall}
  {call : ReservationCall}

@[simp] theorem mem_expire :
    (id, entry) ∈ expire entries nowUnix ↔
      (id, entry) ∈ entries ∧ nowUnix ≤ entry.expiresAtUnix := by
  simp [expire]

@[simp] theorem mem_remove :
    (id, entry) ∈ remove other entries ↔ (id, entry) ∈ entries ∧ id ≠ other := by
  simp [remove]

@[simp] theorem mem_coinsOf :
    coin ∈ coinsOf entries ↔ ∃ id entry, (id, entry) ∈ entries ∧ coin ∈ entry.coins := by
  simp [coinsOf]

@[simp] theorem after_nil : after [] = new := rfl

@[simp] theorem after_concat :
    after (calls ++ [call]) = ((after calls).perform call).2 := by
  simp only [after, List.foldl_append, List.foldl_cons, List.foldl_nil]

theorem reserveAll_cases (t : LocalReservations) (coins : List Bytes32)
    (nowUnix expiresAtUnix : Nat) :
    (coins = [] ∧ t.reserveAll coins nowUnix expiresAtUnix =
        (.ok t.nextId, ⟨expire t.entries nowUnix, fetchAdd t.nextId⟩)) ∨
      (∃ clash ∈ coins, clash ∈ coinsOf (expire t.entries nowUnix) ∧
        t.reserveAll coins nowUnix expiresAtUnix =
          (.error (.conflict clash), ⟨expire t.entries nowUnix, t.nextId⟩)) ∨
      coins ≠ [] ∧ (∀ coin ∈ coins, coin ∉ coinsOf (expire t.entries nowUnix)) ∧
        t.reserveAll coins nowUnix expiresAtUnix = (.ok t.nextId,
          ⟨insert t.nextId ⟨coins, expiresAtUnix⟩ (expire t.entries nowUnix),
            fetchAdd t.nextId⟩) := by
  by_cases hempty : coins = []
  · exact .inl ⟨hempty, if_pos hempty⟩
  · refine .inr ?_
    simp only [reserveAll, if_neg hempty]
    cases hclash : coins.find? fun coinId => coinId ∈ coinsOf (expire t.entries nowUnix) with
    | some clash =>
        exact .inl ⟨clash, List.mem_of_find?_eq_some hclash, by simpa using List.find?_some hclash,
          rfl⟩
    | none =>
        refine .inr ⟨hempty, fun coin hcoin => ?_, rfl⟩
        simpa using List.find?_eq_none.1 hclash coin hcoin

end LocalReservations

def ReservationCall.reading : ReservationCall → Option Nat
  | .held nowUnix => some nowUnix
  | .reserveAll _ nowUnix _ => some nowUnix
  | .release _ => none

def ReservationCall.mints : ReservationCall → Bool
  | .reserveAll _ _ _ => true
  | .held _ | .release _ => false

def readings (calls : List ReservationCall) : List Nat :=
  calls.filterMap ReservationCall.reading

structure Reservation where
  before : List ReservationCall
  coins : List Bytes32
  nowUnix : Nat
  expiresAtUnix : Nat
  id : ReservationId
  later : List ReservationCall
  deriving DecidableEq, Repr

namespace Reservation

open LocalReservations

def request (r : Reservation) : ReservationCall :=
  .reserveAll r.coins r.nowUnix r.expiresAtUnix

def entry (r : Reservation) : ReservationEntry := ⟨r.coins, r.expiresAtUnix⟩

structure GrantedIn (calls : List ReservationCall) (r : Reservation) : Prop where
  history : calls = r.before ++ r.request :: r.later
  granted : ((after r.before).reserveAll r.coins r.nowUnix r.expiresAtUnix).1 = .ok r.id

def Unreleased (r : Reservation) : Prop := .release r.id ∉ r.later

def Unexpired (r : Reservation) : Prop :=
  ∀ call ∈ r.later, ∀ nowUnix ∈ call.reading, nowUnix ≤ r.expiresAtUnix

structure StandingIn (calls : List ReservationCall) (r : Reservation) : Prop where
  granted : r.GrantedIn calls
  unreleased : r.Unreleased
  unexpired : r.Unexpired

def extend (r : Reservation) (call : ReservationCall) : Reservation :=
  { r with later := r.later ++ [call] }

end Reservation

namespace LocalReservations

def FreshHandles (calls : List ReservationCall) : Prop :=
  ∀ before coins nowUnix expiresAtUnix, coins ≠ [] →
    before ++ [.reserveAll coins nowUnix expiresAtUnix] <+: calls →
      ∀ entry, ((after before).nextId, entry) ∉ expire (after before).entries nowUnix

variable {t : LocalReservations} {id : ReservationId} {entry : ReservationEntry}
  {calls more : List ReservationCall} {call : ReservationCall} {r : Reservation}

theorem FreshHandles.prefix_of (h : FreshHandles calls) (hearlier : more <+: calls) :
    FreshHandles more :=
  fun before coins nowUnix expiresAtUnix hcoins hbefore =>
    h before coins nowUnix expiresAtUnix hcoins (hbefore.trans hearlier)

theorem entry_kept (h : (id, entry) ∈ t.entries) (hunreleased : call ≠ .release id)
    (hunexpired : ∀ nowUnix ∈ call.reading, nowUnix ≤ entry.expiresAtUnix)
    (hfresh : ∀ coins nowUnix expiresAtUnix, coins ≠ [] →
      call = .reserveAll coins nowUnix expiresAtUnix →
      (t.nextId, entry) ∉ expire t.entries nowUnix) :
    (id, entry) ∈ (t.perform call).2.entries := by
  cases call with
  | held nowUnix => exact mem_expire.2 ⟨h, hunexpired nowUnix rfl⟩
  | release other => exact mem_remove.2 ⟨h, fun hsame => hunreleased (hsame ▸ rfl)⟩
  | reserveAll coins nowUnix expiresAtUnix =>
      have hkept : (id, entry) ∈ expire t.entries nowUnix :=
        mem_expire.2 ⟨h, hunexpired nowUnix rfl⟩
      rcases t.reserveAll_cases coins nowUnix expiresAtUnix with
        ⟨-, hreserve⟩ | ⟨clash, -, -, hreserve⟩ | ⟨hcoins, -, hreserve⟩
      · simpa only [perform, hreserve] using hkept
      · simpa only [perform, hreserve] using hkept
      · simp only [perform, hreserve]
        refine List.mem_cons_of_mem _ (mem_remove.2 ⟨hkept, fun hsame => ?_⟩)
        exact hfresh coins nowUnix expiresAtUnix hcoins rfl (hsame ▸ hkept)

theorem entry_origin (h : (id, entry) ∈ (t.perform call).2.entries) :
    ((id, entry) ∈ t.entries ∧ call ≠ .release id ∧
        ∀ nowUnix ∈ call.reading, nowUnix ≤ entry.expiresAtUnix) ∨
      ∃ nowUnix, call = .reserveAll entry.coins nowUnix entry.expiresAtUnix ∧
        (t.reserveAll entry.coins nowUnix entry.expiresAtUnix).1 = .ok id := by
  cases call with
  | held nowUnix =>
      obtain ⟨hentry, hlive⟩ := mem_expire.1 h
      exact .inl ⟨hentry, by simp, fun _ hreading => Option.some.inj hreading ▸ hlive⟩
  | release other =>
      obtain ⟨hentry, hne⟩ := mem_remove.1 h
      refine .inl ⟨hentry, fun hsame => hne ?_, fun _ hreading => by cases hreading⟩
      cases hsame
      rfl
  | reserveAll coins nowUnix expiresAtUnix =>
      have hkept : ∀ {e}, (id, e) ∈ expire t.entries nowUnix → (id, e) ∈ t.entries ∧
          (.reserveAll coins nowUnix expiresAtUnix : ReservationCall) ≠ .release id ∧
          ∀ reading ∈ (ReservationCall.reserveAll coins nowUnix expiresAtUnix).reading,
            reading ≤ e.expiresAtUnix := by
        intro e he
        obtain ⟨hentry, hlive⟩ := mem_expire.1 he
        exact ⟨hentry, by simp, fun _ hreading => Option.some.inj hreading ▸ hlive⟩
      rcases t.reserveAll_cases coins nowUnix expiresAtUnix with
        ⟨-, hreserve⟩ | ⟨clash, -, -, hreserve⟩ | ⟨-, -, hreserve⟩
      · simp only [perform, hreserve] at h
        exact .inl (hkept h)
      · simp only [perform, hreserve] at h
        exact .inl (hkept h)
      · simp only [perform, hreserve] at h
        rcases List.mem_cons.1 h with hnew | hold
        · cases hnew
          exact .inr ⟨nowUnix, rfl, by rw [hreserve]⟩
        · exact .inl (hkept (mem_remove.1 hold).1)

theorem entry_of_granted {nowUnix : Nat} {coins : List Bytes32} {expiresAtUnix : Nat}
    (h : (t.reserveAll coins nowUnix expiresAtUnix).1 = .ok id) (hcoins : coins ≠ []) :
    (∀ coin ∈ coins, coin ∉ coinsOf (expire t.entries nowUnix)) ∧
      (id, ⟨coins, expiresAtUnix⟩) ∈ (t.reserveAll coins nowUnix expiresAtUnix).2.entries := by
  rcases t.reserveAll_cases coins nowUnix expiresAtUnix with
    ⟨hempty, -⟩ | ⟨clash, -, -, hreserve⟩ | ⟨-, hfree, hreserve⟩
  · exact absurd hempty hcoins
  · rw [hreserve] at h
    cases h
  · rw [hreserve] at h ⊢
    cases h
    exact ⟨hfree, List.mem_cons_self ..⟩

theorem standing_of_entry (h : (id, entry) ∈ (after calls).entries) :
    ∃ r : Reservation, r.StandingIn calls ∧ r.id = id ∧ r.entry = entry := by
  induction calls using List.reverseRecOn with
  | nil => cases h
  | append_singleton calls call ih =>
      rw [after_concat] at h
      rcases entry_origin h with ⟨hentry, hunreleased, hunexpired⟩ | ⟨nowUnix, rfl, hgranted⟩
      · obtain ⟨r, ⟨⟨hhistory, hgranted⟩, hrunreleased, hrunexpired⟩, rfl, rfl⟩ := ih hentry
        refine ⟨r.extend call, ⟨⟨?_, hgranted⟩, ?_, ?_⟩, rfl, rfl⟩
        · rw [hhistory]
          simp [Reservation.extend, Reservation.request]
        · intro hmem
          rcases List.mem_append.1 hmem with hold | hnew
          · exact hrunreleased hold
          · exact hunreleased (List.mem_singleton.1 hnew).symm
        · intro other hmem
          rcases List.mem_append.1 hmem with hold | hnew
          · exact hrunexpired other hold
          · obtain rfl := List.mem_singleton.1 hnew
            exact hunexpired
      · refine ⟨⟨calls, entry.coins, nowUnix, entry.expiresAtUnix, id, []⟩,
          ⟨⟨rfl, hgranted⟩, List.not_mem_nil, fun _ hmem => by cases hmem⟩, rfl, rfl⟩

theorem entry_survives (hstart : (id, entry) ∈ (after calls).entries)
    (fresh : FreshHandles (calls ++ more)) (hunreleased : .release id ∉ more)
    (hunexpired : ∀ call ∈ more, ∀ nowUnix ∈ call.reading, nowUnix ≤ entry.expiresAtUnix) :
    (id, entry) ∈ (after (calls ++ more)).entries := by
  induction more using List.reverseRecOn with
  | nil => rwa [List.append_nil]
  | append_singleton more call ih =>
      rw [← List.append_assoc] at fresh ⊢
      have hearlier := ih (fresh.prefix_of (List.prefix_append _ _))
        (fun hmem => hunreleased (List.mem_append_left _ hmem))
        fun other hmem => hunexpired other (List.mem_append_left _ hmem)
      have hlast : call ∈ more ++ [call] := List.mem_append_right _ (List.mem_singleton_self call)
      rw [after_concat]
      refine entry_kept hearlier (fun hsame => hunreleased (hsame ▸ hlast))
        (hunexpired call hlast) ?_
      rintro coins nowUnix expiresAtUnix hcoins rfl
      exact fresh _ coins nowUnix expiresAtUnix hcoins (List.prefix_refl _) entry

theorem entry_of_standing (fresh : FreshHandles calls) (h : r.StandingIn calls)
    (hcoins : r.coins ≠ []) : (r.id, r.entry) ∈ (after calls).entries := by
  obtain ⟨⟨rfl, hgranted⟩, hunreleased, hunexpired⟩ := h
  have hstart : (r.id, r.entry) ∈ (after (r.before ++ [r.request])).entries := by
    rw [after_concat]
    exact (entry_of_granted hgranted hcoins).2
  have happend : r.before ++ r.request :: r.later = (r.before ++ [r.request]) ++ r.later := by
    rw [List.append_assoc, List.singleton_append]
  rw [happend] at fresh ⊢
  exact entry_survives hstart fresh hunreleased hunexpired

end LocalReservations

namespace Reservation

open LocalReservations

variable {calls : List ReservationCall} {r r' : Reservation}

theorem GrantedIn.eq_of_before (h : r.GrantedIn calls) (h' : r'.GrantedIn calls)
    (hbefore : r.before = r'.before) : r = r' := by
  obtain ⟨hhistory, hgranted⟩ := h
  obtain ⟨hhistory', hgranted'⟩ := h'
  cases r with
  | mk before coins nowUnix expiresAtUnix id later =>
      cases r' with
      | mk before' coins' nowUnix' expiresAtUnix' id' later' =>
          obtain rfl : before = before' := hbefore
          obtain ⟨hrequest, rfl⟩ :=
            List.cons.inj (List.append_cancel_left (hhistory.symm.trans hhistory'))
          cases hrequest
          cases hgranted.symm.trans hgranted'
          rfl

theorem GrantedIn.order (h : r.GrantedIn calls) (h' : r'.GrantedIn calls) :
    r = r' ∨
      (∃ between, r'.before = r.before ++ r.request :: between ∧
        r.later = between ++ r'.request :: r'.later) ∨
      ∃ between, r.before = r'.before ++ r'.request :: between ∧
        r'.later = between ++ r.request :: r.later := by
  rcases List.append_eq_append_iff.1 (h.history.symm.trans h'.history) with
    ⟨middle, hbefore, hrest⟩ | ⟨middle, hbefore, hrest⟩
  · cases middle with
    | nil => exact .inl (h.eq_of_before h' (by simpa using hbefore.symm))
    | cons call between =>
        obtain ⟨rfl, hlater⟩ := List.cons.inj hrest
        exact .inr (.inl ⟨between, hbefore, hlater⟩)
  · cases middle with
    | nil => exact .inl (h.eq_of_before h' (by simpa using hbefore))
    | cons call between =>
        obtain ⟨rfl, hlater⟩ := List.cons.inj hrest
        exact .inr (.inr ⟨between, hbefore, hlater⟩)

theorem StandingIn.disjoint_of_earlier {between : List ReservationCall} (fresh : FreshHandles calls)
    (h : r.StandingIn calls) (h' : r'.GrantedIn calls)
    (hbefore : r'.before = r.before ++ r.request :: between)
    (hlater : r.later = between ++ r'.request :: r'.later) : ∀ coin ∈ r.coins, coin ∉ r'.coins := by
  obtain ⟨⟨hhistory, hgranted⟩, hunreleased, hunexpired⟩ := h
  have hearlier : r'.before <+: calls := h'.history ▸ List.prefix_append _ _
  have hstanding : ({ r with later := between } : Reservation).StandingIn r'.before := by
    refine ⟨⟨hbefore, hgranted⟩, fun hmem => hunreleased ?_, fun call hcall => hunexpired call ?_⟩
    · exact hlater ▸ List.mem_append_left _ hmem
    · exact hlater ▸ List.mem_append_left _ hcall
  have hreading : r'.nowUnix ≤ r.expiresAtUnix :=
    hunexpired r'.request (hlater ▸ List.mem_append_right _ (List.mem_cons_self ..)) _ rfl
  intro coin hcoin hcoin'
  have hentry := entry_of_standing (fresh.prefix_of hearlier) hstanding (List.ne_nil_of_mem hcoin)
  refine (entry_of_granted h'.granted (List.ne_nil_of_mem hcoin')).1 coin hcoin' ?_
  exact mem_coinsOf.2 ⟨_, _, mem_expire.2 ⟨hentry, hreading⟩, hcoin⟩

end Reservation

namespace LocalReservations

open Reservation (StandingIn GrantedIn)

variable {calls : List ReservationCall}

theorem reserveAll_refused {t : LocalReservations} {coins : List Bytes32}
    {nowUnix expiresAtUnix : Nat} {e : ReservationError}
    (h : (t.reserveAll coins nowUnix expiresAtUnix).1 = .error e) :
    (t.reserveAll coins nowUnix expiresAtUnix).2 =
      { t with entries := expire t.entries nowUnix } := by
  rcases t.reserveAll_cases coins nowUnix expiresAtUnix with
    ⟨-, hreserve⟩ | ⟨clash, -, -, hreserve⟩ | ⟨-, -, hreserve⟩
  · rw [hreserve] at h
    cases h
  · rw [hreserve]
  · rw [hreserve] at h
    cases h

theorem unexpired_of_nondecreasing {nowUnix : Nat} {r : Reservation} (h : r.GrantedIn calls)
    (nondecreasing : (readings (calls ++ [.held nowUnix])).Pairwise (· ≤ ·))
    (hlive : nowUnix ≤ r.expiresAtUnix) : r.Unexpired := by
  intro call hcall reading hreading
  rw [readings, List.filterMap_append] at nondecreasing
  refine Nat.le_trans ?_ hlive
  refine (List.pairwise_append.1 nondecreasing).2.2 reading ?_ nowUnix (List.mem_singleton_self _)
  refine List.mem_filterMap.2 ⟨call, ?_, hreading⟩
  rw [h.history]
  exact List.mem_append_right _ (List.mem_cons_of_mem _ hcall)

theorem never_double_grants (fresh : FreshHandles calls) :
    (∀ r r' : Reservation, r.StandingIn calls → r'.StandingIn calls → r ≠ r' →
      ∀ coin ∈ r.coins, coin ∉ r'.coins) ∧
    (∀ coins nowUnix expiresAtUnix e,
      ((after calls).reserveAll coins nowUnix expiresAtUnix).1 = .error e →
        ((after calls).reserveAll coins nowUnix expiresAtUnix).2 =
          { after calls with entries := expire (after calls).entries nowUnix }) ∧
    ∀ nowUnix, ∃ reported, ((after calls).held nowUnix).1 = .ok reported ∧
      ∀ r : Reservation, r.GrantedIn calls → ∀ coin ∈ r.coins,
        ((readings (calls ++ [.held nowUnix])).Pairwise (· ≤ ·) →
          r.Unreleased → nowUnix ≤ r.expiresAtUnix → coin ∈ reported) ∧
        (r.expiresAtUnix < nowUnix → coin ∈ reported →
          ∃ r' : Reservation, r'.StandingIn calls ∧ coin ∈ r'.coins ∧
            nowUnix ≤ r'.expiresAtUnix ∧ r.before.length < r'.before.length) := by
  refine ⟨fun r r' hr hr' hne coin hcoin hcoin' => ?_,
    fun coins nowUnix expiresAtUnix e h => reserveAll_refused h, fun nowUnix => ⟨_, rfl, ?_⟩⟩
  · rcases hr.granted.order hr'.granted with
      hsame | ⟨between, hbefore, hlater⟩ | ⟨between, hbefore, hlater⟩
    · exact hne hsame
    · exact hr.disjoint_of_earlier fresh hr'.granted hbefore hlater coin hcoin hcoin'
    · exact hr'.disjoint_of_earlier fresh hr.granted hbefore hlater coin hcoin' hcoin
  · refine fun r hr coin hcoin =>
      ⟨fun nondecreasing hunreleased hlive => ?_, fun hlapsed hheld => ?_⟩
    · have hstanding : r.StandingIn calls :=
        ⟨hr, hunreleased, unexpired_of_nondecreasing hr nondecreasing hlive⟩
      have hentry := entry_of_standing fresh hstanding (List.ne_nil_of_mem hcoin)
      exact mem_coinsOf.2 ⟨_, _, mem_expire.2 ⟨hentry, hlive⟩, hcoin⟩
    · obtain ⟨id, entry, hentry, hmem⟩ := mem_coinsOf.1 hheld
      obtain ⟨hentry, hlive⟩ := mem_expire.1 hentry
      obtain ⟨r', hr', rfl, rfl⟩ := standing_of_entry hentry
      refine ⟨r', hr', hmem, hlive, ?_⟩
      rcases hr.order hr'.granted with hsame | ⟨between, hbefore, -⟩ | ⟨between, hbefore, hlater⟩
      · subst hsame
        exact absurd hlive (Nat.not_le.2 hlapsed)
      · rw [hbefore]
        simp
      · exact absurd hcoin (hr'.disjoint_of_earlier fresh hr hbefore hlater coin hmem)

theorem fetchAdd_of_lt {nextId : Nat} (h : nextId < u64Max) : fetchAdd nextId = nextId + 1 :=
  Nat.mod_eq_of_lt (Nat.succ_lt_succ h)

theorem perform_mints (t : LocalReservations) (call : ReservationCall)
    (h : t.nextId + [call].countP ReservationCall.mints ≤ u64Max) :
    t.nextId ≤ (t.perform call).2.nextId ∧
      (t.perform call).2.nextId ≤ t.nextId + [call].countP ReservationCall.mints ∧
      ∀ id entry, (id, entry) ∈ (t.perform call).2.entries →
        (id, entry) ∈ t.entries ∨ id < (t.perform call).2.nextId := by
  cases call with
  | held nowUnix =>
      exact ⟨Nat.le_refl _, Nat.le_refl _, fun id entry hentry => .inl (mem_expire.1 hentry).1⟩
  | release other =>
      exact ⟨Nat.le_refl _, Nat.le_refl _, fun id entry hentry => .inl (mem_remove.1 hentry).1⟩
  | reserveAll coins nowUnix expiresAtUnix =>
      have hcount : [ReservationCall.reserveAll coins nowUnix expiresAtUnix].countP
          ReservationCall.mints = 1 := rfl
      rw [hcount] at h ⊢
      have hnext : fetchAdd t.nextId = t.nextId + 1 := fetchAdd_of_lt h
      rcases t.reserveAll_cases coins nowUnix expiresAtUnix with
        ⟨-, hreserve⟩ | ⟨clash, -, -, hreserve⟩ | ⟨-, -, hreserve⟩
      · simp only [perform, hreserve, hnext]
        exact ⟨Nat.le_succ _, Nat.le_refl _, fun id entry hentry => .inl (mem_expire.1 hentry).1⟩
      · simp only [perform, hreserve]
        exact ⟨Nat.le_refl _, Nat.le_succ _, fun id entry hentry => .inl (mem_expire.1 hentry).1⟩
      · simp only [perform, hreserve, hnext]
        refine ⟨Nat.le_succ _, Nat.le_refl _, fun id entry hentry => ?_⟩
        rcases List.mem_cons.1 hentry with hnew | hold
        · cases hnew
          exact .inr (Nat.lt_succ_self _)
        · exact .inl (mem_expire.1 (mem_remove.1 hold).1).1

theorem handles_below (h : calls.countP ReservationCall.mints ≤ u64Max) :
    (after calls).nextId ≤ calls.countP ReservationCall.mints ∧
      ∀ id entry, (id, entry) ∈ (after calls).entries → id < (after calls).nextId := by
  induction calls using List.reverseRecOn with
  | nil => exact ⟨Nat.le_refl _, fun _ _ h => by cases h⟩
  | append_singleton calls call ih =>
      rw [List.countP_append] at h
      obtain ⟨hnext, hbelow⟩ := ih (by omega)
      obtain ⟨hgrows, hbound, horigin⟩ := perform_mints (after calls) call (by omega)
      rw [after_concat, List.countP_append]
      refine ⟨by omega, fun id entry hentry => ?_⟩
      rcases horigin id entry hentry with hold | hnew
      · exact Nat.lt_of_lt_of_le (hbelow id entry hold) hgrows
      · exact hnew

theorem freshHandles_of_countP_le (h : calls.countP ReservationCall.mints ≤ u64Max + 1) :
    FreshHandles calls := by
  rintro before coins nowUnix expiresAtUnix - hearlier entry hentry
  have hcount := hearlier.sublist.countP_le (p := ReservationCall.mints)
  rw [List.countP_append, List.countP_singleton, ReservationCall.mints, if_pos rfl] at hcount
  have hroom : before.countP ReservationCall.mints ≤ u64Max := by omega
  exact Nat.lt_irrefl _ ((handles_below hroom).2 _ _ (mem_expire.1 hentry).1)

theorem after_empties (calls : List ReservationCall) (expiresAtUnix count : Nat)
    (h : (after calls).nextId ≤ u64Max) :
    after (calls ++ List.replicate count (.reserveAll [] 0 expiresAtUnix)) =
      ⟨(after calls).entries, ((after calls).nextId + count) % (u64Max + 1)⟩ := by
  induction count with
  | zero =>
      rw [List.replicate_zero, List.append_nil, Nat.add_zero,
        Nat.mod_eq_of_lt (Nat.lt_succ_of_le h)]
  | succ count ih =>
      rw [List.replicate_succ', ← List.append_assoc, after_concat, ih]
      have hexpire : ∀ entries, expire entries 0 = entries :=
        fun entries => List.filter_eq_self.2 fun _ _ => decide_eq_true (Nat.zero_le _)
      simp only [perform, reserveAll, if_pos, hexpire, fetchAdd, Nat.mod_add_mod, Nat.add_assoc]

section Example

def wrapped (count : Nat) : List ReservationCall :=
  .reserveAll [1] 0 10 :: List.replicate count (.reserveAll [] 0 10)

def firstHold (count : Nat) : Reservation :=
  ⟨[], [1], 0, 10, 0, List.replicate count (.reserveAll [] 0 10) ++
    [.reserveAll [2] 0 10, .reserveAll [1] 0 10]⟩

def secondHold (count : Nat) : Reservation :=
  ⟨wrapped count ++ [.reserveAll [2] 0 10], [1], 0, 10, 1, []⟩

theorem firstHold_standing (count : Nat) : (firstHold count).StandingIn
    (wrapped count ++ [.reserveAll [2] 0 10, .reserveAll [1] 0 10]) := by
  refine ⟨⟨rfl, rfl⟩, ?_, ?_⟩
  · simp [Reservation.Unreleased, firstHold, List.mem_replicate]
  · intro call hcall nowUnix hreading
    have hzero : call.reading = some 0 := by
      rcases List.mem_append.1 hcall with hempty | hlast
      · rw [(List.mem_replicate.1 hempty).2]
        rfl
      · simp only [List.mem_cons, List.not_mem_nil, or_false] at hlast
        rcases hlast with rfl | rfl
        · rfl
        · rfl
    obtain rfl := Option.some.inj (hzero.symm.trans hreading)
    exact Nat.zero_le _

theorem after_wrapped : after (wrapped u64Max) = ⟨[(0, ⟨[1], 10⟩)], 0⟩ :=
  (after_empties [.reserveAll [1] 0 10] 10 u64Max (by decide)).trans rfl

theorem secondHold_standing : (secondHold u64Max).StandingIn
    (wrapped u64Max ++ [.reserveAll [2] 0 10, .reserveAll [1] 0 10]) := by
  refine ⟨⟨?_, ?_⟩, List.not_mem_nil, fun _ hcall => by cases hcall⟩
  · simp only [secondHold, Reservation.request, List.append_assoc, List.singleton_append]
  · simp only [secondHold, after_concat, after_wrapped]
    rfl

theorem wrapped_handle_double_grants :
    ∃ (calls : List ReservationCall) (r r' : Reservation), r.StandingIn calls ∧
      r'.StandingIn calls ∧ r ≠ r' ∧ ∃ coin ∈ r.coins, coin ∈ r'.coins := by
  refine ⟨_, _, _, firstHold_standing u64Max, secondHold_standing, fun hsame => ?_, 1,
    List.mem_singleton_self _, List.mem_singleton_self _⟩
  have hid : (firstHold u64Max).id = (secondHold u64Max).id := congrArg Reservation.id hsame
  cases hid

def officeHolds : List ReservationCall :=
  [.reserveAll [1, 2] 0 10, .reserveAll [3, 3] 4 14, .release 5, .held 11, .reserveAll [2] 12 22]

theorem never_double_grants_officeHolds :
    FreshHandles officeHolds ∧ ((after officeHolds).held 14).1 = .ok [2, 3, 3] ∧
      ∀ r : Reservation, r.GrantedIn officeHolds → ∀ coin ∈ r.coins, r.expiresAtUnix < 14 →
        coin ∈ [2, 3, 3] → ∃ r' : Reservation, r'.StandingIn officeHolds ∧ coin ∈ r'.coins ∧
          14 ≤ r'.expiresAtUnix ∧ r.before.length < r'.before.length := by
  have fresh : FreshHandles officeHolds := freshHandles_of_countP_le (by decide)
  have hheld : ((after officeHolds).held 14).1 = .ok [2, 3, 3] := rfl
  obtain ⟨reported, hreported, hall⟩ := (never_double_grants fresh).2.2 14
  obtain rfl := Except.ok.inj (hheld.symm.trans hreported)
  exact ⟨fresh, hheld, fun r hr coin hcoin => (hall r hr coin hcoin).2⟩

end Example

end LocalReservations

end DigAccount
