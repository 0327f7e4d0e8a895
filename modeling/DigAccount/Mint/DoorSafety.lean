import DigAccount.Mint.RewardDoors

namespace DigAccount

open Validator Fallible TransferDrivers CatDrivers RewardsDrivers

def coinsFrom [CoinHash] (parent : Coin) (creates : List (Bytes32 × Nat)) : List Coin :=
  creates.map fun (puzzleHash, amount) => ⟨coinId parent, puzzleHash, amount⟩

class DoorDrivers [CoinHash] [Clvm] extends RewardsDrivers where
  creates : Conditions → List (Bytes32 × Nat)
  innerCreates : InnerSpend → List (Bytes32 × Nat)
  committedValue : Staging → CommitmentValue
  createCoin_creates : ∀ conditions puzzleHash amount memos,
    creates (createCoin conditions puzzleHash amount memos) =
      creates conditions ++ [(puzzleHash, amount)]
  p2Spend_creates : ∀ publicKey conditions spend,
    p2Spend publicKey conditions = .ok spend → innerCreates spend = creates conditions
  spendCoin_creates : ∀ coin inner spend, spendCoin coin inner = .ok spend →
    spend.coin = coin ∧ additions spend = coinsFrom coin (innerCreates inner)
  finishSpend_keeps : ∀ staging spends cats coinSpends,
    finishSpend staging spends cats = .ok coinSpends → ∀ spend ∈ spends, spend ∈ coinSpends
  finishSpend_wraps : ∀ staging spends cats coinSpends,
    finishSpend staging spends cats = .ok coinSpends →
      ∀ input ∈ cats, ∃ spend ∈ coinSpends, spend.coin = input.1.coin ∧
        additions spend = coinsFrom input.1.coin
          ((innerCreates input.2).map (Prod.map (curryTreeHash input.1.assetId) id))
  commit_records : ∀ distributor rewardSlot epochStart puzzleHash rewards staging conditions,
    commitIncentives distributor rewardSlot epochStart puzzleHash rewards =
        .ok (staging, conditions) →
      committedValue staging = ⟨epochStart, puzzleHash, rewards⟩
  withdraw_bounded : ∀ distributor commitmentSlot rewardSlot puzzleHash observed staging clawback,
    withdrawCommittedIncentives distributor commitmentSlot rewardSlot puzzleHash observed =
        .ok (staging, clawback) →
      observed.peakTimestamp < commitmentSlot.value.epochStart ∧
        recoveredBaseUnits clawback =
          commitmentSlot.value.rewards * distributor.constants.withdrawalShareBps / 10000
  withdraw_refuses : ∀ distributor commitmentSlot rewardSlot puzzleHash observed,
    withdrawCommittedIncentives distributor commitmentSlot rewardSlot puzzleHash observed =
        .error .notTheClawbackAuthority →
      commitmentSlot.value.clawbackPh ≠ puzzleHash

open DoorDrivers

section Discharged

variable [Clvm] [DigDrivers] {wallet : WalletKey} {network : MintNetwork}
  {refusals : SignatureRefusals MintError}

structure Discharged [ChiaBls] (wallet : WalletKey) (network : MintNetwork)
    (bundle : SpendBundle) : Prop where
  requirements : requiredSignatures bundle.coinSpends network.aggSigMe =
    .ok (bundle.aggregatedSignature.map fun signed =>
      .bls wallet.publicKey signed.message (some network.aggSigMe))
  own : ∀ signed ∈ bundle.aggregatedSignature, signed.publicKey = wallet.publicKey
  verifies : ChiaBls.aggregateVerify bundle.aggregatedSignature bundle.aggregatedSignature

omit [Clvm] [DigDrivers] in
theorem dischargeRequirement_ok {requirement : RequiredSignature} {signed : SignedMessage} :
    dischargeRequirement wallet network refusals requirement = .ok signed ↔
      requirement = .bls wallet.publicKey signed.message (some network.aggSigMe) ∧
        signed.publicKey = wallet.publicKey := by
  rw [dischargeRequirement, andThen_eq_ok, gateRequirement_ok]
  constructor
  · rintro ⟨⟨message, rfl⟩, h⟩
    cases h
    exact ⟨rfl, rfl⟩
  · obtain ⟨publicKey, message⟩ := signed
    rintro ⟨rfl, rfl⟩
    exact ⟨⟨message, rfl⟩, rfl⟩

omit [Clvm] [DigDrivers] in
theorem mapM_dischargeRequirement {required : List RequiredSignature}
    {signed : List SignedMessage} :
    required.mapM (dischargeRequirement wallet network refusals) = .ok signed ↔
      required = signed.map (fun message =>
        .bls wallet.publicKey message.message (some network.aggSigMe)) ∧
        ∀ message ∈ signed, message.publicKey = wallet.publicKey := by
  induction required generalizing signed with
  | nil =>
      rw [List.mapM_nil]
      constructor
      · intro h
        cases h
        exact ⟨rfl, fun message hmem => by cases hmem⟩
      · rintro ⟨h, -⟩
        rw [List.map_eq_nil_iff.1 h.symm]
        rfl
  | cons requirement required ih =>
      rw [List.mapM_cons]
      constructor
      · intro h
        obtain ⟨first, hfirst, h⟩ := bind_ok.1 h
        obtain ⟨rest, hrest, h⟩ := bind_ok.1 h
        cases h
        obtain ⟨hhead, hown⟩ := dischargeRequirement_ok.1 hfirst
        obtain ⟨htail, hall⟩ := ih.1 hrest
        exact ⟨by rw [hhead, htail, List.map_cons], List.forall_mem_cons.2 ⟨hown, hall⟩⟩
      · rintro ⟨hmap, hown⟩
        cases signed with
        | nil => cases hmap
        | cons first rest =>
            rw [List.map_cons, List.cons.injEq] at hmap
            obtain ⟨hkey, hall⟩ := List.forall_mem_cons.1 hown
            exact bind_ok.2 ⟨first, dischargeRequirement_ok.2 ⟨hmap.1, hkey⟩,
              bind_ok.2 ⟨rest, ih.2 ⟨hmap.2, hall⟩, rfl⟩⟩

theorem dischargeRequirements_ok [ChiaBls] {coinSpends : List CoinSpend}
    {signature : List SignedMessage} :
    dischargeRequirements wallet network refusals coinSpends = .ok signature ↔
      Discharged wallet network ⟨coinSpends, signature⟩ := by
  rw [dischargeRequirements, bind_ok]
  constructor
  · rintro ⟨required, hrequired, h⟩
    obtain ⟨signed, hsigned, h⟩ := bind_ok.1 h
    obtain ⟨hverified, h⟩ := andThen_eq_ok.1 h
    cases h
    obtain ⟨rfl, hown⟩ := mapM_dischargeRequirement.1 hsigned
    rw [refuseWhen_ok, not_not] at hverified
    exact ⟨mapError_eq_ok.1 hrequired, hown, hverified⟩
  · intro h
    refine ⟨_, mapError_eq_ok.2 h.requirements, bind_ok.2 ⟨signature, ?_, ?_⟩⟩
    · exact mapM_dischargeRequirement.2 ⟨rfl, h.own⟩
    · exact andThen_eq_ok.2 ⟨refuseWhen_ok.2 (not_not.2 h.verifies), rfl⟩

end Discharged

inductive RewardDoor [RewardsDrivers] where
  | refill (request : RewardDistributorRefillRequest)
  | clawback (request : RewardDistributorClawbackRequest)

namespace RewardDoor

section Doors

variable [CoinHash] [RewardsDrivers] (wallet : WalletKey)

def distributor : RewardDoor → LiveDistributor
  | refill request => request.distributor
  | clawback request => request.distributor

def ownCoin : RewardDoor → Coin
  | refill request => request.fundingCat.coin
  | clawback request => request.clawbackCoin

def permitted : RewardDoor → List Bytes32
  | refill request => request.permittedRoots.toList
  | clawback request => request.permittedRoots.toList

def committed : RewardDoor → Nat
  | refill request => request.rewardsBaseUnits
  | clawback _ => 0

def returned : RewardDoor → List (Bytes32 × Nat)
  | refill request =>
      if 0 < refillChange request then [(wallet.puzzleHash, refillChange request)] else []
  | clawback request => [(wallet.puzzleHash, request.clawbackCoin.amount)]

def judge : RewardDoor → Except DoorError Unit
  | refill request => judgeRefill wallet request
  | clawback request => judgeClawback wallet request

def build : RewardDoor → Except DoorError (List CoinSpend)
  | refill request => buildRefill wallet request
  | clawback request => Prod.fst <$> buildClawback wallet request

def sign [Clvm] [DigDrivers] [ChiaBls] (network : MintNetwork) : RewardDoor →
    Except DoorError SpendBundle
  | refill request =>
      SignedRewardDistributorRefill.bundle <$> beginRewardDistributorRefill wallet request network
  | clawback request =>
      SignedRewardDistributorClawback.bundle <$>
        beginRewardDistributorClawback wallet request network

end Doors

section Judged

variable [RewardsDrivers] {wallet : WalletKey}

structure ClawbackFit (wallet : WalletKey) (request : RewardDistributorClawbackRequest) :
    Prop where
  owned : request.clawbackCoin.puzzleHash = wallet.puzzleHash
  nothingStaged : request.distributor.pendingActions = [] ∧
    request.distributor.pendingOtherCats = []
  authority : request.commitmentSlot.value.clawbackPh = wallet.puzzleHash
  sameEpoch : request.rewardSlot.epochStart = request.commitmentSlot.value.epochStart
  enough : request.requiredShare ≤ request.rewardSlot.rewards

theorem judgeClawback_ok {request : RewardDistributorClawbackRequest} :
    judgeClawback wallet request = .ok () ↔ ClawbackFit wallet request := by
  simp only [judgeClawback, andThen_ok, refuseWhen_ok, not_not, not_lt, not_or, ne_eq,
    List.length_eq_zero_iff]
  constructor
  · rintro ⟨howned, hstaged, hauthority, hepoch, henough⟩
    exact ⟨howned, hstaged, hauthority, hepoch, henough⟩
  · rintro ⟨howned, hstaged, hauthority, hepoch, henough⟩
    exact ⟨howned, hstaged, hauthority, hepoch, henough⟩

end Judged

section Built

variable [CoinHash] [Clvm] [DoorDrivers] {wallet : WalletKey} {coinSpends : List CoinSpend}

def Asks (wallet : WalletKey) (asked : List (Bytes32 × Nat)) : RewardDoor → Prop
  | refill request => ∃ staging secureConditions,
      commitIncentives request.distributor request.rewardSlot request.distributorEpochStart
        wallet.puzzleHash request.rewardsBaseUnits = .ok (staging, secureConditions) ∧
      asked = creates secureConditions
  | clawback request => ∃ staging withdrawal,
      withdrawCommittedIncentives request.distributor request.commitmentSlot request.rewardSlot
        wallet.puzzleHash request.observed = .ok (staging, withdrawal) ∧
      asked = creates (intoConditions withdrawal)

theorem buildClawback_recovers {request : RewardDistributorClawbackRequest} {recovered : Nat}
    (h : buildClawback wallet request = .ok (coinSpends, recovered)) :
    ∃ staging withdrawal, withdrawCommittedIncentives request.distributor request.commitmentSlot
        request.rewardSlot wallet.puzzleHash request.observed = .ok (staging, withdrawal) ∧
      recovered = recoveredBaseUnits withdrawal := by
  rw [buildClawback] at h
  obtain ⟨⟨staging, withdrawal⟩, hstaged, h⟩ := bind_ok.1 h
  obtain ⟨inner, -, h⟩ := bind_ok.1 h
  obtain ⟨spend, -, h⟩ := bind_ok.1 h
  obtain ⟨spends, -, h⟩ := bind_ok.1 h
  cases h
  exact ⟨staging, withdrawal, mapError_eq_ok.1 hstaged, rfl⟩

end Built

section Signed

variable [CoinHash] [Clvm] [DigDrivers] [ChiaBls] [RewardsDrivers] {wallet : WalletKey}
  {network : MintNetwork} {bundle : SpendBundle}

structure Opened (wallet : WalletKey) (network : MintNetwork) (bundle : SpendBundle)
    (door : RewardDoor) : Prop where
  judged : door.judge wallet = .ok ()
  built : door.build wallet = .ok bundle.coinSpends
  roots : rootIds bundle.coinSpends = door.permitted.toFinset
  discharged : Discharged wallet network bundle

theorem clawback_eq_ok {request : RewardDistributorClawbackRequest}
    {signed : SignedRewardDistributorClawback}
    (h : beginRewardDistributorClawback wallet request network = .ok signed) :
    (clawback request).Opened wallet network signed.bundle ∧
      buildClawback wallet request = .ok (signed.bundle.coinSpends, signed.recoveredBaseUnits) := by
  rw [beginRewardDistributorClawback] at h
  obtain ⟨hjudged, h⟩ := andThen_eq_ok.1 h
  obtain ⟨⟨coinSpends, recovered⟩, hbuilt, h⟩ := bind_ok.1 h
  obtain ⟨hgate, h⟩ := andThen_eq_ok.1 h
  obtain ⟨signature, hsigned, h⟩ := bind_ok.1 h
  cases h
  refine ⟨⟨hjudged, ?_, gateNamedRoots_ok.1 (mapError_eq_ok.1 hgate),
    dischargeRequirements_ok.1 (mapError_eq_ok.1 hsigned)⟩, hbuilt⟩
  rw [build, hbuilt]
  rfl

end Signed

end RewardDoor

section Example

def solutionOf (creates : List (Bytes32 × Nat)) : Program :=
  creates.flatMap fun (puzzleHash, amount) => [.ofNat puzzleHash, .ofNat amount]

def createsIn : Program → List (Bytes32 × Nat)
  | puzzleHash :: amount :: rest => (puzzleHash.toNat, amount.toNat) :: createsIn rest
  | _ => []

def writtenSpend (coin : Coin) (creates : List (Bytes32 × Nat)) : Except String CoinSpend :=
  if createsIn (solutionOf creates) = creates then .ok ⟨coin, [], solutionOf creates⟩
  else .error "the conditions do not fit the solution"

@[reducible] def creatingClvm : letI := pairHash; Clvm :=
  letI := pairHash
  { additions := fun spend => coinsFrom spend.coin (createsIn spend.solution)
    recreation := fun _ => none
    advertisedDistributor := fun _ launcherId => some ⟨launcherId, ⟨7, 8⟩⟩
    didState := fun id => ⟨⟨id, id, id⟩, id, 0⟩ }

theorem writtenSpend_ok {coin : Coin} {creates : List (Bytes32 × Nat)} {spend : CoinSpend}
    (h : writtenSpend coin creates = .ok spend) :
    letI := pairHash; letI := creatingClvm
    spend.coin = coin ∧ additions spend = coinsFrom coin creates := by
  let _ := pairHash
  rw [writtenSpend] at h
  split at h
  · rename_i hread
    cases h
    exact ⟨rfl, congrArg (coinsFrom coin) hread⟩
  · cases h

@[reducible] def signingDrivers : letI := pairHash; letI := creatingClvm; DigDrivers :=
  letI := pairHash
  letI := creatingClvm
  { hydrate := fun _ => .error "no store"
    hydrate_recreation := fun _ _ h => by cases h
    meltDid := fun did _ => .ok [⟨did.coin, [], []⟩]
    meltStore := fun store _ => .ok [⟨store.coin, [], []⟩]
    updateRoot := fun _ _ _ => .error "no store"
    updateRoot_commits := fun _ _ _ _ h => by cases h
    requiredSignatures := fun coinSpends aggSigMe => .ok (coinSpends.filterMap fun spend =>
      if spend.solution = [] ∨ spend.coin.puzzleHash = 1 then none
      else if spend.coin.puzzleHash = 6 then some (.bls 9 spend.solution (some aggSigMe))
      else some (.bls 3 spend.solution (some aggSigMe))) }

abbrev exactBls : ChiaBls where
  aggregateVerify signature signed := signature = signed

@[reducible] def deskDoors : letI := pairHash; letI := creatingClvm; DoorDrivers :=
  letI := pairHash
  letI := creatingClvm
  { Memos := Unit
    hint := fun _ => .ok ()
    announcementId := fun coinId _ => coinId
    standardSpend := fun _ _ _ => .error "not a reward spend"
    CatProof := Unit
    Node := Unit
    InnerSpend := List (Bytes32 × Nat)
    digAssetId := 8
    curryTreeHash := fun assetId puzzleHash => assetId + puzzleHash + 1
    nodeFromBytes := fun _ => .ok ()
    parseChildren := fun _ _ _ => .ok none
    spendWithConditions := fun _ _ => .error "not a reward spend"
    spendAll := fun _ => .error "not a reward spend"
    StagedAction := Unit
    StagedCat := Unit
    DistributorInfo := Unit
    Staging := List Coin × CommitmentValue
    Clawback := Nat
    Conditions := List (Bytes32 × Nat)
    createCoin := fun conditions puzzleHash amount _ => conditions ++ [(puzzleHash, amount)]
    commitIncentives := fun distributor slot epochStart puzzleHash rewards =>
      .ok (([distributor.coin, distributor.reserve, slot.coin],
        ⟨epochStart, puzzleHash, rewards⟩), [])
    withdrawCommittedIncentives := fun distributor slot rewardSlot puzzleHash observed =>
      if slot.value.clawbackPh ≠ puzzleHash then .error .notTheClawbackAuthority
      else if slot.value.epochStart ≤ observed.peakTimestamp then
        .error (.commitmentEpochStarted slot.value.epochStart observed.peakTimestamp)
      else .ok (([distributor.coin, distributor.reserve, slot.coin, rewardSlot.coin], slot.value),
        slot.value.rewards * distributor.constants.withdrawalShareBps / 10000)
    recoveredBaseUnits := id
    intoConditions := fun _ => []
    p2Spend := fun _ conditions => .ok conditions
    spendCoin := writtenSpend
    finishSpend := fun staging spends cats => do
      let wrapped ← cats.mapM fun (cat, inner) =>
        writtenSpend cat.coin (inner.map (Prod.map (fun p2 => cat.assetId + p2 + 1) id))
      return staging.1.map plainSpend ++ spends ++ wrapped
    creates := id
    innerCreates := id
    committedValue := Prod.snd
    createCoin_creates := fun _ _ _ _ => rfl
    p2Spend_creates := fun _ _ _ h => by cases h; rfl
    spendCoin_creates := fun _ _ _ h => writtenSpend_ok h
    finishSpend_keeps := fun staging spends cats coinSpends h spend hmem => by
      obtain ⟨wrapped, -, h⟩ := bind_ok.1 h
      cases h
      exact List.mem_append_left _ (List.mem_append_right _ hmem)
    finishSpend_wraps := fun staging spends cats coinSpends h input hmem => by
      obtain ⟨wrapped, hwrapped, h⟩ := bind_ok.1 h
      cases h
      obtain ⟨spend, hspend, hok⟩ := mapM_ok_mem hwrapped input hmem
      exact ⟨spend, List.mem_append_right _ hspend, writtenSpend_ok hok⟩
    commit_records := fun _ _ _ _ _ _ _ h => by cases h; rfl
    withdraw_bounded := fun _ _ _ _ _ _ _ h => by
      split at h
      · cases h
      · split at h
        · cases h
        · rename_i hlater
          cases h
          exact ⟨Nat.lt_of_not_le hlater, rfl⟩
    withdraw_refuses := fun _ _ _ _ _ h => by
      split at h
      · assumption
      · split at h <;> cases h }

def deskDistributor : letI := pairHash; letI := creatingClvm; letI := deskDoors; LiveDistributor :=
  letI := pairHash
  letI := creatingClvm
  letI := deskDoors
  { coin := ⟨2, 50, 1⟩
    reserve := ⟨2, 51, 20⟩
    constants := ⟨8, 9000⟩
    info := ()
    pendingActions := []
    pendingOtherCats := [] }

def deskRefill : letI := pairHash; letI := creatingClvm; letI := deskDoors;
    RewardDistributorRefillRequest :=
  letI := pairHash
  letI := creatingClvm
  letI := deskDoors
  { distributor := deskDistributor
    rewardSlot := ⟨⟨2, 52, 0⟩, 700, 0⟩
    distributorEpochStart := 900
    fundingCat := ⟨⟨⟨2, 14, 30⟩, 8, ()⟩, 5⟩
    rewardsBaseUnits := 20 }

end Example

end DigAccount
