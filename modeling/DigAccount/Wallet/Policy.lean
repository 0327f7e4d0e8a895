import DigAccount.Primitives

namespace DigAccount

structure Vault where
  clawbackSeconds : Nat
  deriving DecidableEq, Repr

structure HotWallet where
  autoSendLimit : Nat
  deriving DecidableEq, Repr

inductive CustodyPolicy where
  | vault (vault : Vault)
  | hot (hot : HotWallet)
  deriving DecidableEq, Repr

structure CustodyScope where
  profile : ProfileIx
  spendingWallet : Option Bytes32
  deriving DecidableEq, Repr

def CustodyScope.new (profile : ProfileIx) (custody : CustodyPolicy) (hotWallet : Bytes32) :
    CustodyScope where
  profile := profile
  spendingWallet :=
    match custody with
    | .hot _ => some hotWallet
    | .vault _ => none

inductive SpendOpClass where
  | rebalance
  | tip
  | smallSend
  | undeclared
  deriving DecidableEq, Repr

structure OpClassLimits where
  enabled : Bool := false
  perTxLimitMojos : Nat := 0
  deriving DecidableEq, Repr

def OpClassLimits.enabledUpTo (perTxLimitMojos : Nat) : OpClassLimits where
  enabled := true
  perTxLimitMojos := perTxLimitMojos

def defaultPeriodSeconds : Nat := 24 * 60 * 60

def defaultMaxConfirmationsPerPeriod : Nat := 64

def maxLedgerEntries : Nat := 4096

structure AutoSendPolicy where
  enabled : Bool := false
  rebalance : OpClassLimits := {}
  tip : OpClassLimits := {}
  smallSend : OpClassLimits := {}
  periodSeconds : Nat := defaultPeriodSeconds
  periodCapMojos : Nat := 0
  maxConfirmationsPerPeriod : Nat := defaultMaxConfirmationsPerPeriod
  deriving DecidableEq, Repr

def AutoSendPolicy.configuredLimits (policy : AutoSendPolicy) :
    SpendOpClass → Option OpClassLimits
  | .rebalance => some policy.rebalance
  | .tip => some policy.tip
  | .smallSend => some policy.smallSend
  | .undeclared => none

end DigAccount
