import DigAccount.Melt.EndStatus

namespace DigAccount

open Validator

section Gone

variable [CoinHash] [Clvm] {chain : Chain} {schedule : Schedule} {launcherId tip : Bytes32}
  {walk serve name : Nat}

def Superseded (chain : Chain) (n : Nat) (launcherId tip : Bytes32) : Prop :=
  ∃ successor, lineageOf launcherId (chain.take n) = .live successor ∧ successor ≠ tip

structure Undisturbed (chain : Chain) (schedule : Schedule) (launcherId : Bytes32)
    (walk serve name : Nat) : Prop where
  served : ∀ tip, lineageOf launcherId (chain.take (schedule.moment walk)) = .live tip →
    HasLiveTip chain (schedule.moment serve) launcherId → ¬ schedule.pruned serve tip
  kept : ∀ tip, lineageOf launcherId (chain.take (schedule.moment walk)) = .live tip →
    ¬ Superseded chain (schedule.moment name) launcherId tip

end Gone

section Accounted

variable [CoinHash] [Clvm] [DigDrivers]

inductive BuildFailed (wallet : WalletKey) (network : MintNetwork) : Prop where
  | did (did : Did) (reason : String) (h : meltDid did wallet.publicKey = .error reason)
  | store (store : Datastore) (reason : String)
      (h : meltStore store wallet.publicKey = .error reason)
  | signatures (coinSpends : List CoinSpend) (reason : String)
      (h : requiredSignatures coinSpends network.aggSigMe = .error reason)

inductive MeltError.Accounted (chain : Chain) (schedule : Schedule) (melter : ProfileMelter)
    (ix : ProfileIx) (anchor : ProfileAnchor) (network : MintNetwork) (declined : String → Prop)
    (i k : Nat) : MeltError → Prop where
  | noDid (gone : Undisturbed chain schedule anchor.launcherId i i (i + 2) →
      ¬ HasLiveTip chain (schedule.moment (k - 1)) anchor.launcherId) :
      Accounted chain schedule melter ix anchor network declined i k .noDid
  | noStore (gone : Undisturbed chain schedule anchor.storeLauncherId (i + 3) (i + 4) (i + 5) →
      ¬ HasLiveTip chain (schedule.moment (k - 1)) anchor.storeLauncherId) :
      Accounted chain schedule melter ix anchor network declined i k .noStore
  | undecided (e : MeltError) (h : e.Undecided) :
      Accounted chain schedule melter ix anchor network declined i k e
  | locked (relocked : melter.isLive = false) :
      Accounted chain schedule melter ix anchor network declined i k .locked
  | build (reason : String) (failed : BuildFailed (melter.walletAt ix) network) :
      Accounted chain schedule melter ix anchor network declined i k (.build reason)
  | format (reason text : String) (creatingSpend : CoinSpend)
      (mem : creatingSpend ∈ coinSpendsOf (chain.take (schedule.moment (k - 1))))
      (unreadable : hydrate creatingSpend = .error reason) :
      Accounted chain schedule melter ix anchor network declined i k (.format text)
  | rejected (reason : String) (h : declined reason) :
      Accounted chain schedule melter ix anchor network declined i k (.rejected reason)

variable {chain : Chain} {schedule : Schedule} {source : HonestSource chain schedule}
  {melter : ProfileMelter} {ix : ProfileIx} {anchor : ProfileAnchor} {network : MintNetwork}
  {declined : String → Prop} {i k : Nat} {e : MeltError}

omit [Clvm] [DigDrivers] [CoinHash] in
theorem liveWalletKey_ok {wallet : WalletKey} (h : melter.liveWalletKey ix = .ok wallet) :
    melter.walletAt ix = wallet := by
  rw [ProfileMelter.liveWalletKey] at h
  split at h
  · exact Except.ok.inj h
  · cases h

def HonestSource.Declined (source : HonestSource chain schedule) (j : Nat) (reason : String) :
    Prop :=
  ∃ bundle, source.answer j (.push bundle) = .ok (.rejected reason)

end Accounted

section Example

end Example

end DigAccount
