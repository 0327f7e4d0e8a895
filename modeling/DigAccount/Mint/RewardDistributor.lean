import DigAccount.Chain.Honest
import DigAccount.Mint.Evidence

namespace DigAccount

inductive RecordField where
  | distributorLauncherId
  | managerLauncherId
  | fundingCoinId
  | rewardCatCoinId
  | generation
  | pushedAtHeight
  deriving DecidableEq, Repr

inductive OwnershipProof where
  | fundingCoinIsThisAccounts
  | rewardCatCoinIsThisAccounts
  | managerLauncherDescendsFromTheFundingCoin
  | distributorLauncherDescendsFromTheFundingCoin
  deriving DecidableEq, Repr

inductive RecordRejection where
  | malformed (field : RecordField) (detail : String)
  | notYours (proof : OwnershipProof) (detail : String)
  | unproven (detail : String)
  | launchDead (detail : String)
  deriving DecidableEq, Repr

inductive MintError where
  | insufficientFunds (required available : Nat)
  | coinsReserved (required available : Nat)
  | reservationUnusable (detail : String)
  | rejected (reason : String)
  | chainUnreachable (reason : String)
  | build (reason : String)
  | locked
  | feeAboveCeiling (fee ceiling : Nat)
  | journal (reason : String)
  | recordRejected (rejection : RecordRejection)
  | refused (reason : String)
  | refillUnexpectedRoots (roots : Nat)
  | clawbackUnexpectedRoots (roots : Nat)
  deriving DecidableEq, Repr

structure PendingRewardDistributor where
  distributorLauncherId : Bytes32
  managerLauncherId : Bytes32
  fundingCoinId : Bytes32
  rewardCatCoinId : Bytes32
  generation : LaunchComment
  pushedAtHeight : Nat
  deriving DecidableEq, Repr

structure ConfirmedRewardDistributor where
  distributorLauncherId : Bytes32
  managerLauncherId : Bytes32
  confirmedHeight : Nat
  generation : LaunchComment
  deriving DecidableEq, Repr

inductive RewardDistributorStatus where
  | confirmed (evidence : ConfirmedRewardDistributor)
  | awaiting (blocksSincePush : Nat)
  | failed (reason : String)
  deriving DecidableEq, Repr

inductive EvidenceDefect where
  | wrongCoin
  | unconfirmed
  | genesis
  | predatesPush
  | shallow
  | wrongLauncher
  | wrongGeneration
  deriving DecidableEq, Repr

def EvidenceDefect.debug : EvidenceDefect → String
  | wrongCoin => "WrongCoin"
  | unconfirmed => "Unconfirmed"
  | genesis => "Genesis"
  | predatesPush => "PredatesPush"
  | shallow => "Shallow"
  | wrongLauncher => "WrongLauncher"
  | wrongGeneration => "WrongGeneration"

def pushMint (bundle : SpendBundle) : ChainReads MintError Unit := do
  let outcome ← pushBundle .chainUnreachable bundle
  match outcome with
  | .accepted | .alreadyInMempool => pure ()
  | .rejected reason => .fail (.rejected reason)

theorem pushMint_taken {bundle : SpendBundle} {oracle : Oracle} {i : Nat}
    (h : (pushMint bundle).run oracle i = .ok ()) :
    oracle i (.push bundle) = .ok .accepted ∨ oracle i (.push bundle) = .ok .alreadyInMempool := by
  obtain ⟨outcome, houtcome, hsettled⟩ := Fallible.run_bind_eq_ok.1 h
  rw [run_pushBundle, Fallible.mapError_eq_ok] at houtcome
  cases outcome with
  | accepted => exact .inl houtcome
  | alreadyInMempool => exact .inr houtcome
  | rejected reason => cases hsettled

namespace PendingRewardDistributor

variable [CoinHash] (pending : PendingRewardDistributor)

def check (record : CoinRecord) (discovered : DiscoveredDistributor) (peak : Nat) :
    Except EvidenceDefect Unit :=
  if coinId record.coin ≠ pending.distributorLauncherId then .error .wrongCoin
  else
    match record.confirmedHeight with
    | none => .error .unconfirmed
    | some height =>
        if height = 0 then .error .genesis
        else if height < pending.pushedAtHeight then .error .predatesPush
        else if depthOf peak height < minConfirmationDepth then .error .shallow
        else if discovered.launcherId ≠ pending.distributorLauncherId then .error .wrongLauncher
        else if discovered.generation ≠ pending.generation then .error .wrongGeneration
        else .ok ()

def fromConfirmed (record : CoinRecord) (discovered : DiscoveredDistributor) (peak : Nat) :
    Option ConfirmedRewardDistributor :=
  match pending.check record discovered peak with
  | .error _ => none
  | .ok () =>
      record.confirmedHeight.map fun height => {
        distributorLauncherId := pending.distributorLauncherId
        managerLauncherId := pending.managerLauncherId
        confirmedHeight := height
        generation := pending.generation }

variable {pending} in
theorem check_ok_confirmed {record : CoinRecord} {discovered : DiscoveredDistributor} {peak : Nat}
    (h : pending.check record discovered peak = .ok ()) : record.confirmedHeight.isSome := by
  rw [check] at h
  split at h
  · cases h
  · split at h
    · cases h
    · rename_i height hheight
      rw [hheight]
      rfl

variable {pending} in
theorem fromConfirmed_isSome {record : CoinRecord} {discovered : DiscoveredDistributor}
    {peak : Nat} (h : pending.check record discovered peak = .ok ()) :
    (pending.fromConfirmed record discovered peak).isSome := by
  rw [fromConfirmed]
  rw [h, Option.isSome_map]
  exact check_ok_confirmed h

def awaiting (peak : Nat) : RewardDistributorStatus := .awaiting (peak - pending.pushedAtHeight)

def judgeInputs (peak : Nat) (funding rewardCat : Option CoinRecord) : RewardDistributorStatus :=
  if funding.any CoinRecord.isSpent then
    .failed "the funding coin was spent by a different spend; this mint can never confirm"
  else if rewardCat.any CoinRecord.isSpent then
    .failed "the reward CAT coin was spent by a different spend; this mint can never confirm"
  else pending.awaiting peak

def judgeEvidence (peak : Nat) (launcher : CoinRecord) (discovered : DiscoveredDistributor) :
    RewardDistributorStatus :=
  match h : pending.check launcher discovered peak with
  | .ok () =>
      .confirmed ((pending.fromConfirmed launcher discovered peak).get (fromConfirmed_isSome h))
  | .error .shallow => pending.awaiting peak
  | .error defect =>
      .failed ("the confirmed launcher's evidence does not describe this pending mint " ++
        s!"({defect.debug})")

def judgeDiscovery (peak : Nat) (launcher : CoinRecord) :
    Option DiscoveredDistributor → RewardDistributorStatus
  | none =>
      .failed ("the launcher coin is confirmed, but the spend that created it advertises no DIG " ++
        "rewards distributor for it")
  | some discovered => pending.judgeEvidence peak launcher discovered

def judgeLauncher (peak : Nat) : Option CoinRecord → ChainReads MintError RewardDistributorStatus
  | none => do
      let funding ← readCoinRecord .chainUnreachable pending.fundingCoinId
      let rewardCat ← readCoinRecord .chainUnreachable pending.rewardCatCoinId
      pure (pending.judgeInputs peak funding rewardCat)
  | some launcher =>
      if launcher.confirmedHeight.isNone then pure (pending.awaiting peak)
      else do
        let discovered ← readDistributor .chainUnreachable pending.distributorLauncherId
        pure (pending.judgeDiscovery peak launcher discovered)

def status : ChainReads MintError RewardDistributorStatus := do
  let peak ← peakHeight .chainUnreachable
  let launcher ← readCoinRecord .chainUnreachable pending.distributorLauncherId
  pending.judgeLauncher peak launcher

end PendingRewardDistributor

structure SignedRewardDistributorMint [CoinHash] [Clvm] where
  bundle : SpendBundle
  distributorLauncherId : Bytes32
  managerLauncherId : Bytes32
  fundingCoinId : Bytes32
  rewardCatCoinId : Bytes32
  generation : LaunchComment
  spends_funding : ∃ coinSpend ∈ bundle.coinSpends, coinId coinSpend.coin = fundingCoinId
  spends_rewardCat : ∃ coinSpend ∈ bundle.coinSpends, coinId coinSpend.coin = rewardCatCoinId
  launches : ∃ coinSpend ∈ bundle.coinSpends, distributorLauncherId ∈ coinSpend.created ∧
    advertisedDistributor coinSpend distributorLauncherId =
      some ⟨distributorLauncherId, generation⟩

namespace SignedRewardDistributorMint

variable [CoinHash] [Clvm] (mint : SignedRewardDistributorMint)

def pendingAt (pushedAtHeight : Nat) : PendingRewardDistributor where
  distributorLauncherId := mint.distributorLauncherId
  managerLauncherId := mint.managerLauncherId
  fundingCoinId := mint.fundingCoinId
  rewardCatCoinId := mint.rewardCatCoinId
  generation := mint.generation
  pushedAtHeight := pushedAtHeight

def submit : ChainReads MintError PendingRewardDistributor := do
  let pushedAtHeight ← peakHeight .chainUnreachable
  pushMint mint.bundle
  pure (mint.pendingAt pushedAtHeight)

end SignedRewardDistributorMint

end DigAccount
