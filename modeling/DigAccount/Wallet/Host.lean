import DigAccount.Chain.Query
import DigAccount.Wallet.Reservation

namespace DigAccount

inductive HostCall where
  | chain (query : Query)
  | coinRecordsByPuzzleHash (puzzleHash : Bytes32) (includeSpent : Bool)
  | reservation (call : ReservationCall)
  | nowUnix
  | isLive
  deriving DecidableEq, Repr

abbrev HostAnswer : HostCall → Type
  | .chain query => Answer query
  | .coinRecordsByPuzzleHash _ _ => Except String (List CoinRecord)
  | .reservation call => ReservationAnswer call
  | .nowUnix => Except String Nat
  | .isLive => Bool

abbrev HostOracle := Nat → (call : HostCall) → HostAnswer call

abbrev HostReads := Fallible HostCall HostAnswer

def HostOracle.chainSide (oracle : HostOracle) : Oracle :=
  Reads.seenBy HostCall.chain (fun _ answer => answer) oracle

variable {ε α δ : Type}

def onChain (reads : ChainReads ε α) : HostReads ε α :=
  Reads.lift HostCall.chain (fun _ answer => answer) reads

theorem run_onChain {oracle : HostOracle} {i : Nat} {reads : ChainReads ε α} :
    (onChain reads).run oracle i = reads.run oracle.chainSide i :=
  congrArg Prod.fst Reads.runFrom_lift

theorem exec_onChain {oracle : HostOracle} {i : Nat} {reads : ChainReads ε α} :
    (onChain reads).exec oracle i = reads.exec oracle.chainSide i :=
  Prod.ext run_onChain (congrArg Prod.snd Reads.runFrom_lift)

theorem asked_onChain {oracle : HostOracle} {i : Nat} {reads : ChainReads ε α} :
    (onChain reads).asked oracle i = (reads.asked oracle.chainSide i).map .chain :=
  Reads.asked_lift

theorem onlyAsks_onChain {P : HostCall → Prop} {reads : ChainReads ε α}
    (h : Fallible.OnlyAsks (fun query => P (.chain query)) reads) :
    Fallible.OnlyAsks P (onChain reads) := by
  intro oracle i call hcall
  rw [asked_onChain, List.mem_map] at hcall
  obtain ⟨query, hquery, rfl⟩ := hcall
  exact h (HostOracle.chainSide oracle) i query hquery

def ReservationError.display : ReservationError → String
  | conflict coinId => s!"coin {hex32 coinId} is already reserved by an in-flight spend"
  | unavailable detail =>
      "the coin reservation store could not be read, so coin selection cannot be trusted: " ++
        detail

structure CoinReservations where
  ttlSecs : Nat
  deriving DecidableEq, Repr

def defaultReservationTtlSecs : Nat := 300

def maxReservationAttempts : Nat := 16

namespace CoinReservations

variable (reservations : CoinReservations)

def now : HostReads ReservationError Nat :=
  .mapError (fun e => .unavailable s!"the clock could not be read: {e}")
    (Reads.query HostCall.nowUnix)

def held : HostReads ReservationError (List Bytes32) := do
  let now ← now
  .mapError id (Reads.query (HostCall.reservation (.held now)))

def reserve (coins : List Bytes32) : HostReads ReservationError ReservationId := do
  let now ← now
  let expiresAt := saturatingAdd u64Max now reservations.ttlSecs
  .mapError id (Reads.query (HostCall.reservation (.reserveAll coins now expiresAt)))

def release (id : ReservationId) : HostReads ReservationError Unit :=
  .mapError (fun e => e) (Reads.query (HostCall.reservation (.release id)))

def reserveChoice (select : List Bytes32 → HostReads ε (α × List Bytes32))
    (unusable : ReservationError → ε) : Nat → List Bytes32 → HostReads ε (α × ReservationId)
  | 0, _ =>
      .fail (unusable (.unavailable
        "coin selection kept losing its reservation to another in-flight spend"))
  | attempts + 1, excluded => do
      let (chosen, coinIds) ← select excluded
      let reserved ← Fallible.outcome (reservations.reserve coinIds)
      match reserved with
      | .ok id => pure (chosen, id)
      | .error (.conflict coinId) =>
          reserveChoice select unusable attempts (coinId :: excluded)
      | .error unavailable => .fail (unusable unavailable)

def selectAndReserve (attempts : Nat) (select : List Bytes32 → HostReads ε (α × List Bytes32))
    (unusable : ReservationError → ε) : HostReads ε (α × ReservationId) := do
  let excluded ← .mapError unusable held
  reservations.reserveChoice select unusable (max attempts 1) excluded

def orRelease (id : ReservationId) : Except ε α → HostReads ε α
  | .ok value => pure value
  | .error e => do
      let _ ← Fallible.outcome (release id)
      .fail e

variable {reservations} {select : List Bytes32 → HostReads ε (α × List Bytes32)}
  {unusable : ReservationError → ε} {oracle : HostOracle} {i : Nat} {chosen : α}
  {id : ReservationId}

theorem reserveChoice_chosen {attempts : Nat} {excluded : List Bytes32}
    (h : (reservations.reserveChoice select unusable attempts excluded).run oracle i =
      .ok (chosen, id)) :
    ∃ excluded coinIds j, (select excluded).run oracle j = .ok (chosen, coinIds) := by
  induction attempts generalizing excluded i with
  | zero => cases h
  | succ attempts ih =>
      rw [reserveChoice, Fallible.run_bind_eq_ok] at h
      obtain ⟨⟨picked, coinIds⟩, hselect, hrest⟩ := h
      dsimp only at hrest
      rw [Fallible.run_bind_eq_ok] at hrest
      obtain ⟨reserved, -, hreserved⟩ := hrest
      cases reserved with
      | ok granted =>
          rw [Fallible.run_pure, Except.ok.injEq] at hreserved
          cases hreserved
          exact ⟨excluded, coinIds, i, hselect⟩
      | error e =>
          cases e with
          | conflict coinId => exact ih hreserved
          | unavailable detail => cases hreserved

theorem selectAndReserve_chosen {attempts : Nat}
    (h : (reservations.selectAndReserve attempts select unusable).run oracle i =
      .ok (chosen, id)) :
    ∃ excluded coinIds j, (select excluded).run oracle j = .ok (chosen, coinIds) := by
  rw [selectAndReserve, Fallible.run_bind_eq_ok] at h
  obtain ⟨excluded, -, hrest⟩ := h
  exact reserveChoice_chosen hrest

theorem orRelease_ok {result : Except ε α} :
    (orRelease id result).run oracle i = .ok chosen ↔ result = .ok chosen := by
  cases result with
  | ok value => exact Iff.rfl
  | error e =>
      constructor
      · intro h
        rw [orRelease, Fallible.run_bind_eq_ok] at h
        obtain ⟨ignored, -, hfail⟩ := h
        cases hfail
      · intro h
        cases h

section Asks

variable {P : HostCall → Prop} (hcall : ∀ call, P (.reservation call)) (hnow : P .nowUnix)

include hcall in
theorem onlyAsks_release : Fallible.OnlyAsks P (release id) :=
  Fallible.onlyAsks_mapError_query (fun _ _ => rfl) (hcall _)

include hnow in
theorem onlyAsks_now : Fallible.OnlyAsks P now :=
  Fallible.onlyAsks_mapError_query (fun _ _ => rfl) hnow

include hcall hnow

theorem onlyAsks_held : Fallible.OnlyAsks P held := by
  refine (onlyAsks_now hnow).bind fun now => ?_
  exact Fallible.onlyAsks_mapError_query (fun _ _ => rfl) (hcall _)

theorem onlyAsks_reserve {coins : List Bytes32} :
    Fallible.OnlyAsks P (reservations.reserve coins) := by
  refine (onlyAsks_now hnow).bind fun now => ?_
  exact Fallible.onlyAsks_mapError_query (fun _ _ => rfl) (hcall _)

theorem onlyAsks_reserveChoice (hselect : ∀ excluded, Fallible.OnlyAsks P (select excluded))
    {attempts : Nat} {excluded : List Bytes32} :
    Fallible.OnlyAsks P (reservations.reserveChoice select unusable attempts excluded) := by
  induction attempts generalizing excluded with
  | zero => exact Fallible.onlyAsks_ofExcept
  | succ attempts ih =>
      refine (hselect excluded).bind fun picked => ?_
      refine (onlyAsks_reserve hcall hnow).outcome.bind fun reserved => ?_
      cases reserved with
      | ok granted => exact Fallible.onlyAsks_ofExcept
      | error e =>
          cases e with
          | conflict coinId => exact ih
          | unavailable detail => exact Fallible.onlyAsks_ofExcept

theorem onlyAsks_selectAndReserve (hselect : ∀ excluded, Fallible.OnlyAsks P (select excluded))
    {attempts : Nat} :
    Fallible.OnlyAsks P (reservations.selectAndReserve attempts select unusable) :=
  (onlyAsks_held hcall hnow).mapError.bind fun _ => onlyAsks_reserveChoice hcall hnow hselect

omit hnow in
theorem onlyAsks_orRelease {result : Except ε α} : Fallible.OnlyAsks P (orRelease id result) := by
  cases result with
  | ok value => exact Fallible.onlyAsks_ofExcept
  | error e =>
      exact (onlyAsks_release hcall).outcome.bind fun _ => Fallible.onlyAsks_ofExcept

end Asks

end CoinReservations

end DigAccount
