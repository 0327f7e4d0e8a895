import Mathlib.Algebra.GroupWithZero.Nat
import Mathlib.Order.Defs.LinearOrder

namespace DigAccount

abbrev Bytes32 := Nat

abbrev ProfileIx := Fin 4294967296

instance ProfileIx.neZero : NeZero 4294967296 := ⟨by decide⟩

def ProfileIx.root : ProfileIx := 0

def u32Max : Nat := 4294967295

def u64Max : Nat := 18446744073709551615

def saturatingAdd (limit a b : Nat) : Nat := min (a + b) limit

def wrappingAdd (limit a b : Nat) : Nat := (a + b) % (limit + 1)

def checkedAdd (limit a b : Nat) : Option Nat :=
  if a + b ≤ limit then some (a + b) else none

def checkedSum (limit start : Nat) (xs : List Nat) : Option Nat :=
  xs.foldlM (checkedAdd limit) start

def hex32 (bytes : Bytes32) : String :=
  let digits := Nat.toDigits 16 bytes
  String.ofList (List.replicate (64 - digits.length) '0' ++ digits)

structure WalletKey where
  publicKey : Bytes32
  puzzleHash : Bytes32
  deriving DecidableEq, Repr

structure Coin where
  parentCoinInfo : Bytes32
  puzzleHash : Bytes32
  amount : Nat
  deriving DecidableEq, Repr

abbrev Program := List UInt8

abbrev Bytes := List UInt8

structure CoinSpend where
  coin : Coin
  puzzleReveal : Program
  solution : Program
  deriving DecidableEq, Repr

structure CoinRecord where
  coin : Coin
  confirmedHeight : Option Nat
  spentHeight : Option Nat
  deriving DecidableEq, Repr

def CoinRecord.isSpent (record : CoinRecord) : Bool := record.spentHeight.isSome

class CoinHash where
  coinId : Coin → Bytes32

export CoinHash (coinId)

class DidEncoding where
  didStringFromLauncherId : Bytes32 → String

export DidEncoding (didStringFromLauncherId)

inductive AccountError where
  | locked
  | profileNotFound (ix : ProfileIx)
  | profileAlreadyRegistered (ix : ProfileIx)
  | profileIdentityAlreadyRegistered (existing : ProfileIx) (did : String)
  | activeProfileCannotBeHidden (ix : ProfileIx)
  | profileEnded (ix : ProfileIx)
  | profileEndHeightZero
  | mintAlreadyInProgress (ix : ProfileIx)
  | mismatchedMintHalves (didCoinId storeLaunchedFrom : Bytes32)
  | mintFeeAboveCeiling (fee ceiling : Nat)
  | registryInvariant (reason : String)
  | spend (reason : String)
  | policyDenied (reason : String)
  | policyIndeterminate (reason : String)
  | userDeclined (reason : String)
  deriving DecidableEq, Repr

def AccountError.display : AccountError → String
  | locked => "account is locked"
  | profileNotFound ix => s!"no profile at index {ix}"
  | profileAlreadyRegistered ix => s!"a profile is already registered at index {ix}"
  | profileIdentityAlreadyRegistered existing did =>
      s!"profile {existing} is already registered with identity {did}"
  | activeProfileCannotBeHidden ix => s!"the active profile {ix} cannot be hidden from lists"
  | profileEnded ix => s!"profile {ix} has ended on the blockchain and cannot be made active"
  | profileEndHeightZero => "a profile end at height 0 is not evidence of a confirmed melt"
  | mintAlreadyInProgress ix => s!"a profile mint is already in progress at index {ix}"
  | mismatchedMintHalves didCoinId storeLaunchedFrom =>
      s!"the store was launched from DID coin {hex32 storeLaunchedFrom}, not from this DID's " ++
        s!"coin {hex32 didCoinId}"
  | mintFeeAboveCeiling fee ceiling =>
      s!"mint fee of {fee} mojos is above the {ceiling} mojo ceiling"
  | registryInvariant reason => s!"profile registry invariant violated: {reason}"
  | spend reason => s!"spend refused: {reason}"
  | policyDenied reason => s!"spend forbidden by custody policy: {reason}"
  | policyIndeterminate reason => s!"spend policy could not be evaluated: {reason}"
  | userDeclined reason => s!"the user declined the spend: {reason}"

theorem checkedAdd_eq_some {limit a b c : Nat} :
    checkedAdd limit a b = some c ↔ a + b ≤ limit ∧ a + b = c := by
  rw [checkedAdd]
  by_cases h : a + b ≤ limit <;> simp [h]

theorem checkedSum_eq_some {limit start t : Nat} {xs : List Nat}
    (h : checkedSum limit start xs = some t) :
    t = start + xs.sum := by
  induction xs generalizing start with
  | nil =>
      simp only [checkedSum, List.foldlM_nil, Option.pure_def, Option.some.injEq] at h
      simp [h]
  | cons x xs ih =>
      simp only [checkedSum, List.foldlM_cons, Option.bind_eq_bind, Option.bind_eq_some_iff,
        checkedAdd_eq_some] at h
      obtain ⟨mid, ⟨-, hmid⟩, hrest⟩ := h
      have hsum := ih hrest
      simp only [List.sum_cons]
      omega

theorem checkedSum_iff {limit start t : Nat} {xs : List Nat} (hstart : start ≤ limit) :
    checkedSum limit start xs = some t ↔ start + xs.sum = t ∧ t ≤ limit := by
  induction xs generalizing start with
  | nil =>
      simp only [checkedSum, List.foldlM_nil, Option.pure_def, Option.some.injEq, List.sum_nil]
      omega
  | cons x xs ih =>
      simp only [checkedSum, List.foldlM_cons, Option.bind_eq_bind, Option.bind_eq_some_iff,
        checkedAdd_eq_some, List.sum_cons]
      constructor
      · rintro ⟨mid, ⟨hle, rfl⟩, hrest⟩
        have hsum := (ih hle).1 hrest
        omega
      · rintro ⟨hsum, hlimit⟩
        exact ⟨start + x, ⟨by omega, rfl⟩, (ih (by omega)).2 ⟨by omega, hlimit⟩⟩

theorem saturatingAdd_le_iff {limit a b n : Nat} (hn : n < limit) :
    saturatingAdd limit a b ≤ n ↔ a + b ≤ n := by
  rw [saturatingAdd]
  omega

end DigAccount
