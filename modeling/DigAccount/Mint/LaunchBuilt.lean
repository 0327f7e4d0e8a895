import DigAccount.Mint.DoorSafety
import DigAccount.Mint.LaunchBuilder

namespace DigAccount

open Validator Fallible TransferDrivers RewardsDrivers LaunchDrivers DoorDrivers

structure LaunchDescends [CoinHash] [Clvm] [DigRewards] (offered spends : List CoinSpend)
    (launched : LaunchedDistributor) (generation : LaunchComment)
    (settlement security launcher : Coin) : Prop where
  reinserted : offered ⊆ spends
  offered : ∃ spend ∈ offered, settlement ∈ additions spend
  settlement_home : settlement.puzzleHash = DigRewards.settlementPaymentHash
  security_parent : security.parentCoinInfo = coinId settlement
  launcher_parent : launcher.parentCoinInfo = coinId security
  launcher_named : coinId launcher = launched.launcherId
  spends_settlement : ∃ spend ∈ spends, spend.coin = settlement
  launches : ∃ spend ∈ spends, spend.coin = security ∧ launcher ∈ additions spend ∧
    advertisedDistributor spend launched.launcherId = some ⟨launched.launcherId, generation⟩

class LaunchLaws [CoinHash] [Clvm] [DigRewards] [DoorDrivers] [LaunchDrivers] : Prop where
  curry_agrees : ∀ assetId puzzleHash,
    CatDrivers.curryTreeHash assetId puzzleHash = DigRewards.catCurriedPuzzleHash assetId puzzleHash
  noConditions_creates : creates noConditions = []
  reserveFee_creates : ∀ conditions fee, creates (reserveFee conditions fee) = creates conditions
  manager_launches : ∀ fundingCoinId inner manager staged,
    launchManagerSingleton fundingCoinId inner = .ok (manager, staged) →
      managerLauncherId manager = coinId (managerLauncherCoin fundingCoinId) ∧
        creates (parentConditions manager) =
          [(DigRewards.singletonLauncherHash, managerSingletonAmountMojos)]
  terms_reserve : ∀ manager epochSeconds payout terms,
    digDistributorConstants manager epochSeconds payout = .ok terms →
      reserveAssetId terms = DigRewards.digAssetId
  delegated_creates : ∀ conditions puzzle publicKey inner,
    quoteConditions conditions = .ok puzzle → delegatedInnerSpend publicKey puzzle = .ok inner →
      innerCreates inner = creates conditions
  catSpend_creates : ∀ cat single spend, catSpend cat single = .ok spend →
    spend.coin = cat.coin ∧ additions spend = coinsFrom cat.coin
      ((innerCreates single.p2Spend).map (Prod.map (CatDrivers.curryTreeHash cat.assetId) id))
  launch_descends : ∀ offered signature offer start terms constants generation now launched spends,
    offerFromSpendBundle ⟨offered, signature⟩ = .ok offer →
      launchDigDistributor offer start terms constants generation now = .ok (launched, spends) →
        ∃ settlement security launcher,
          LaunchDescends offered spends launched generation settlement security launcher

open LaunchLaws (curry_agrees noConditions_creates reserveFee_creates manager_launches
  terms_reserve delegated_creates catSpend_creates launch_descends)

section Amounts

variable [DigRewards] [RewardsDrivers] [LaunchDrivers] {request : RewardDistributorMintRequest}

omit [RewardsDrivers] [LaunchDrivers] in
theorem requiredXch_eq_some {fee required : Nat} :
    requiredXch fee = some required ↔
      offerXchAmount + managerSingletonAmountMojos + fee = required ∧ required ≤ u64Max := by
  rw [requiredXch, Option.bind_eq_some_iff]
  simp only [checkedAdd_eq_some]
  constructor
  · rintro ⟨offered, ⟨-, rfl⟩, hle, rfl⟩
    exact ⟨rfl, hle⟩
  · rintro ⟨rfl, hle⟩
    exact ⟨_, ⟨by omega, rfl⟩, hle, rfl⟩

theorem launchChange_ok {change : Nat} (h : launchChange request = .ok change) :
    offerXchAmount + managerSingletonAmountMojos + request.fee + change =
      request.funding.amount := by
  rw [launchChange] at h
  split at h
  · cases h
  · rename_i required hrequired
    obtain ⟨rfl, -⟩ := requiredXch_eq_some.1 hrequired
    split_ifs at h with hshort
    cases h
    omega

end Amounts

section Stages

variable [CoinHash] [Clvm] [DigRewards] [DoorDrivers] [LaunchDrivers] [LaunchLaws]
  {wallet : WalletKey} {request : RewardDistributorMintRequest}

def fundingOutputs (wallet : WalletKey) (change : Nat) : List (Bytes32 × Nat) :=
  [(DigRewards.singletonLauncherHash, managerSingletonAmountMojos),
    (DigRewards.settlementPaymentHash, offerXchAmount)] ++
      if 0 < change then [(wallet.puzzleHash, change)] else []

omit [DigRewards] [LaunchDrivers] [LaunchLaws] in
theorem withChange_creates {change : Nat} {conditions changed : Conditions}
    (h : withChange wallet change conditions = .ok changed) :
    creates changed = creates conditions ++ if 0 < change then [(wallet.puzzleHash, change)]
      else [] := by
  rw [withChange] at h
  split_ifs at h ⊢ with hchange
  · obtain ⟨memos, -, h⟩ := bind_ok.1 h
    cases h
    exact createCoin_creates _ _ _ _
  · cases h
    exact (List.append_nil _).symm

theorem fundingConditions_creates {manager : ManagerLaunch} {change : Nat}
    {conditions : Conditions}
    (h : fundingConditions wallet request manager change = .ok conditions) :
    creates conditions = creates (parentConditions manager) ++
      [(DigRewards.settlementPaymentHash, offerXchAmount)] ++
        if 0 < change then [(wallet.puzzleHash, change)] else [] := by
  rw [fundingConditions] at h
  obtain ⟨changed, hchanged, h⟩ := bind_ok.1 h
  cases h
  have hfee : creates (if 0 < request.fee then reserveFee changed request.fee else changed) =
      creates changed := by
    split_ifs
    · exact reserveFee_creates changed request.fee
    · rfl
  rw [hfee, withChange_creates hchanged, createCoin_creates]

omit [DigRewards] [LaunchLaws] in
theorem spendFunding_ok {conditions : Conditions} {spend : CoinSpend}
    (h : spendFunding wallet request conditions = .ok spend) :
    spend.coin = request.funding ∧
      additions spend = coinsFrom request.funding (creates conditions) := by
  rw [spendFunding] at h
  obtain ⟨inner, hinner, h⟩ := bind_ok.1 h
  obtain ⟨hcoin, hadditions⟩ := spendCoin_creates _ _ _ (mapError_eq_ok.1 h)
  rw [p2Spend_creates _ _ _ (mapError_eq_ok.1 hinner)] at hadditions
  exact ⟨hcoin, hadditions⟩

theorem spendRewardCat_ok {rewardCat : OwnedCat CatDrivers.CatProof} {spend : CoinSpend}
    (h : spendRewardCatIntoSettlement wallet rewardCat = .ok spend) :
    spend.coin = rewardCat.coin ∧ additions spend =
      [⟨coinId rewardCat.coin,
        DigRewards.catCurriedPuzzleHash rewardCat.assetId DigRewards.settlementPaymentHash,
        rewardCat.coin.amount⟩] := by
  rw [spendRewardCatIntoSettlement] at h
  obtain ⟨puzzle, hpuzzle, h⟩ := bind_ok.1 h
  obtain ⟨inner, hinner, h⟩ := bind_ok.1 h
  obtain ⟨hcoin, hadditions⟩ := catSpend_creates _ _ _ (mapError_eq_ok.1 h)
  refine ⟨hcoin, hadditions.trans ?_⟩
  rw [delegated_creates _ _ _ _ (mapError_eq_ok.1 hpuzzle) (mapError_eq_ok.1 hinner),
    createCoin_creates, noConditions_creates, ← curry_agrees]
  rfl

omit [DigRewards] [LaunchLaws] in
theorem splitOffer_ok {staged offered rest : List CoinSpend} {fundingSpend catSpend : CoinSpend}
    (hfunding : fundingSpend.coin = request.funding)
    (hcat : catSpend.coin = request.rewardCat.coin)
    (h : splitOffer request (staged ++ [fundingSpend, catSpend]) = .ok (offered, rest)) :
    offered = [fundingSpend, catSpend] := by
  have hpair : [fundingSpend, catSpend].filter (isOffered request) =
      [fundingSpend, catSpend] := by
    simp [isOffered, hfunding, hcat]
  rw [splitOffer, List.partition_eq_filter_filter] at h
  dsimp only at h
  split_ifs at h with hlength
  obtain ⟨rfl, -⟩ := Prod.mk.inj (Except.ok.inj h)
  rw [List.filter_append, hpair] at hlength ⊢
  have hnone : staged.filter (isOffered request) = [] := by
    rw [not_not, List.length_append] at hlength
    exact List.eq_nil_of_length_eq_zero (by simpa using hlength)
  rw [hnone, List.nil_append]

structure DistinctHomes (wallet : WalletKey) : Prop where
  launcher : DigRewards.singletonLauncherHash ≠ DigRewards.settlementPaymentHash
  wallet : wallet.puzzleHash ≠ DigRewards.settlementPaymentHash

structure OfferStaged (wallet : WalletKey) (request : RewardDistributorMintRequest)
    (managerId : Bytes32) (change : Nat) (fundingSpend catSpend : CoinSpend) : Prop where
  balance : offerXchAmount + managerSingletonAmountMojos + request.fee + change =
    request.funding.amount
  managerNamed : managerId = coinId (managerLauncherCoin (coinId request.funding))
  digCat : request.rewardCat.assetId = DigRewards.digAssetId
  funding : fundingSpend.coin = request.funding
  pays : additions fundingSpend = coinsFrom request.funding (fundingOutputs wallet change)
  cat : catSpend.coin = request.rewardCat.coin
  offers : additions catSpend = [⟨coinId request.rewardCat.coin,
    digCurriedPuzzleHash DigRewards.settlementPaymentHash, request.rewardCat.coin.amount⟩]

theorem stageOffer_ok {manager : ManagerLaunch} {terms : DistributorTerms}
    {spends : List CoinSpend} (h : stageOffer wallet request = .ok (manager, terms, spends)) :
    ∃ change fundingSpend catSpend staged, spends = staged ++ [fundingSpend, catSpend] ∧
      OfferStaged wallet request (managerLauncherId manager) change fundingSpend catSpend := by
  rw [stageOffer] at h
  obtain ⟨change, hchange, h⟩ := bind_ok.1 h
  obtain ⟨⟨launched, staged⟩, hmanager, h⟩ := bind_ok.1 h
  obtain ⟨conditions, hconditions, h⟩ := bind_ok.1 h
  obtain ⟨fundingSpend, hfunding, h⟩ := bind_ok.1 h
  obtain ⟨built, hterms, h⟩ := bind_ok.1 h
  obtain ⟨hasset, h⟩ := andThen_eq_ok.1 h
  obtain ⟨catSpend, hcat, h⟩ := bind_ok.1 h
  cases h
  obtain ⟨hnamed, hcreates⟩ := manager_launches _ _ _ _ (mapError_eq_ok.1 hmanager)
  obtain ⟨hcoin, hpays⟩ := spendFunding_ok hfunding
  obtain ⟨hcatCoin, hoffers⟩ := spendRewardCat_ok hcat
  rw [refuseWhen_ok, not_not, terms_reserve _ _ _ _ (mapError_eq_ok.1 hterms)] at hasset
  refine ⟨change, fundingSpend, catSpend, staged, rfl, launchChange_ok hchange, hnamed, hasset,
    hcoin, ?_, hcatCoin, ?_⟩
  · rw [hpays, fundingConditions_creates hconditions, hcreates]
    rfl
  · rw [hoffers, hasset]
    rfl

theorem stageLaunch_ok {constants : ConsensusConstants} {managerId : Bytes32}
    {launched : LaunchedDistributor} {coinSpends : List CoinSpend}
    (h : stageLaunch wallet request constants = .ok (managerId, launched, coinSpends)) :
    ∃ change fundingSpend catSpend spends settlement security launcher,
      spends ⊆ coinSpends ∧
      OfferStaged wallet request managerId change fundingSpend catSpend ∧
      LaunchDescends [fundingSpend, catSpend] spends launched request.generation settlement
        security launcher := by
  rw [stageLaunch] at h
  obtain ⟨⟨manager, terms, staged⟩, hstaged, h⟩ := bind_ok.1 h
  obtain ⟨⟨offered, rest⟩, hsplit, h⟩ := bind_ok.1 h
  obtain ⟨offer, hoffer, h⟩ := bind_ok.1 h
  obtain ⟨⟨distributor, spends⟩, hlaunch, h⟩ := bind_ok.1 h
  cases h
  obtain ⟨change, fundingSpend, catSpend, before, rfl, hoffered⟩ := stageOffer_ok hstaged
  obtain rfl := splitOffer_ok hoffered.funding hoffered.cat hsplit
  obtain ⟨settlement, security, launcher, hdescends⟩ :=
    launch_descends _ _ _ _ _ _ _ _ _ _ (mapError_eq_ok.1 hoffer) (mapError_eq_ok.1 hlaunch)
  exact ⟨change, fundingSpend, catSpend, spends, settlement, security, launcher,
    List.subset_append_right _ _, hoffered, hdescends⟩

omit [LaunchLaws] in
theorem settlement_named {managerId : Bytes32} {change : Nat} {fundingSpend catSpend : CoinSpend}
    {settlement : Coin} (h : OfferStaged wallet request managerId change fundingSpend catSpend)
    (hashes : CollisionFree) (homes : DistinctHomes wallet)
    (hoffered : ∃ spend ∈ [fundingSpend, catSpend], settlement ∈ additions spend)
    (hhome : settlement.puzzleHash = DigRewards.settlementPaymentHash) :
    settlement = offeredXchSettlementCoin (coinId request.funding) := by
  obtain ⟨spend, hmem, hcreated⟩ := hoffered
  rcases List.mem_pair.1 hmem with rfl | rfl
  · rw [h.pays, coinsFrom] at hcreated
    obtain ⟨⟨puzzleHash, amount⟩, hpaid, rfl⟩ := List.mem_map.1 hcreated
    dsimp only at hhome
    subst hhome
    rcases List.mem_append.1 hpaid with hfixed | hchange
    · rcases List.mem_pair.1 hfixed with hlauncher | hsettled
      · exact absurd (Prod.mk.inj hlauncher).1.symm homes.launcher
      · rw [(Prod.mk.inj hsettled).2]
        rfl
    · split_ifs at hchange
      · exact absurd (Prod.mk.inj (List.mem_singleton.1 hchange)).1.symm homes.wallet
      · cases hchange
  · rw [h.offers, List.mem_singleton] at hcreated
    subst hcreated
    exact absurd hhome (hashes.curried_ne _ _)

end Stages

section Signed

variable [CoinHash] [Clvm] [DigDrivers] [ChiaBls] [SpendContext] {wallet : WalletKey}
  {network : MintNetwork} {securityKey : Bytes32} {coinSpends : List CoinSpend}

structure LaunchDischarged (wallet : WalletKey) (network : MintNetwork) (securityKey : Bytes32)
    (bundle : SpendBundle) : Prop where
  requirements : requiredSignatures bundle.coinSpends network.aggSigMe =
    .ok (bundle.aggregatedSignature.map fun signed =>
      .bls signed.publicKey signed.message (some network.aggSigMe))
  keys : ∀ signed ∈ bundle.aggregatedSignature,
    signed.publicKey = wallet.publicKey ∨ signed.publicKey = securityKey
  security : ∃ signed ∈ bundle.aggregatedSignature, signed.publicKey = securityKey
  verifies : ChiaBls.aggregateVerify bundle.aggregatedSignature bundle.aggregatedSignature
  quoted : requireQuoteFormWalletSpends bundle.coinSpends wallet.puzzleHash = .ok ()

omit [CoinHash] [Clvm] [DigDrivers] [ChiaBls] [SpendContext] in
theorem mapM_signLaunchRequirement {required : List RequiredSignature}
    {signed : List SignedMessage}
    (hgated : ∀ requirement ∈ required, ∃ publicKey message,
      requirement = .bls publicKey message (some network.aggSigMe))
    (h : required.mapM (signLaunchRequirement wallet securityKey) = .ok signed) :
    required = signed.map (fun message =>
      .bls message.publicKey message.message (some network.aggSigMe)) ∧
      ∀ message ∈ signed, message.publicKey = wallet.publicKey ∨ message.publicKey = securityKey
        := by
  induction required generalizing signed with
  | nil =>
      cases h
      exact ⟨rfl, fun message hmem => by cases hmem⟩
  | cons requirement required ih =>
      rw [List.mapM_cons] at h
      obtain ⟨first, hfirst, h⟩ := bind_ok.1 h
      obtain ⟨rest, hrest, h⟩ := bind_ok.1 h
      cases h
      obtain ⟨⟨publicKey, message, rfl⟩, hothers⟩ := List.forall_mem_cons.1 hgated
      obtain ⟨htail, hall⟩ := ih hothers hrest
      rw [signLaunchRequirement] at hfirst
      split_ifs at hfirst with hwallet hsecurity
      · cases hfirst
        exact ⟨by rw [htail, List.map_cons, hwallet], List.forall_mem_cons.2 ⟨.inl rfl, hall⟩⟩
      · cases hfirst
        exact ⟨by rw [htail, List.map_cons, hsecurity], List.forall_mem_cons.2 ⟨.inr rfl, hall⟩⟩

theorem launchDischarged_of_signed {required : List RequiredSignature}
    {signed : List SignedMessage} {permitted : Vector Bytes32 2}
    (hrequired : requiredSignatures coinSpends network.aggSigMe = .ok required)
    (hgate : gateRewardDistributorLaunch wallet network securityKey coinSpends required permitted =
      .ok ())
    (hsigned : required.mapM (signLaunchRequirement wallet securityKey) = .ok signed)
    (hverified : verifyAggregateDischarges signed signed securityKey = .ok ()) :
    LaunchDischarged wallet network securityKey ⟨coinSpends, signed⟩ ∧
      rootIds coinSpends = permitted.toList.toFinset := by
  obtain ⟨hkeys, hgate⟩ := andThen_ok.1 hgate
  obtain ⟨hquoted, hroots⟩ := andThen_ok.1 hgate
  have hgated : ∀ requirement ∈ required, ∃ publicKey message,
      requirement = .bls publicKey message (some network.aggSigMe) := by
    intro requirement hmem
    obtain ⟨publicKey, message, heq, -⟩ := gateLaunchRequirement_ok.1 (each_ok.1 hkeys _ hmem)
    exact ⟨publicKey, message, heq⟩
  obtain ⟨rfl, hown⟩ := mapM_signLaunchRequirement hgated hsigned
  obtain ⟨hsecurity, haggregate⟩ := andThen_ok.1 hverified
  rw [refuseWhen_ok, not_not] at hsecurity haggregate
  refine ⟨⟨hrequired, hown, ?_, haggregate, hquoted⟩, gateNamedRoots_ok.1 hroots⟩
  simpa using hsecurity

omit [Clvm] [DigDrivers] [ChiaBls] [SpendContext] in
theorem roots_iff {permitted : List Bytes32} {signed : List SignedMessage}
    (hroots : rootIds coinSpends = permitted.toFinset) {id : Bytes32} :
    (∃ coinSpend ∈ coinSpends, coinId coinSpend.coin = id ∧
      ¬ (SpendBundle.mk coinSpends signed).Spends coinSpend.coin.parentCoinInfo) ↔
        id ∈ permitted := by
  rw [← List.mem_toFinset, ← hroots, mem_rootIds]
  simp only [mem_bundleRoots, spentIds, List.mem_map, SpendBundle.Spends]
  constructor
  · rintro ⟨coinSpend, hmem, hid, hroot⟩
    exact ⟨coinSpend, ⟨hmem, hroot⟩, hid⟩
  · rintro ⟨coinSpend, ⟨hmem, hroot⟩, hid⟩
    exact ⟨coinSpend, hmem, hid, hroot⟩

end Signed

def SignedRewardDistributorMint.parts [CoinHash] [Clvm] (mint : SignedRewardDistributorMint) :
    LaunchParts where
  bundle := mint.bundle
  distributorLauncherId := mint.distributorLauncherId
  managerLauncherId := mint.managerLauncherId
  fundingCoinId := mint.fundingCoinId
  rewardCatCoinId := mint.rewardCatCoinId
  generation := mint.generation

section Built

variable [CoinHash] [Clvm] [DigDrivers] [ChiaBls] [SpendContext] [DigRewards] [DoorDrivers]
  [LaunchDrivers] [LaunchLaws] {wallet : WalletKey} {network : MintNetwork}
  {request : RewardDistributorMintRequest} {constants : ConsensusConstants} {parts : LaunchParts}

structure LaunchBuilt (wallet : WalletKey) (network : MintNetwork)
    (request : RewardDistributorMintRequest) (constants : ConsensusConstants)
    (launched : LaunchedDistributor) (parts : LaunchParts) : Prop where
  owned : request.funding.puzzleHash = wallet.puzzleHash ∧
    request.rewardCat.p2PuzzleHash = wallet.puzzleHash
  staged : stageLaunch wallet request constants =
    .ok (parts.managerLauncherId, launched, parts.bundle.coinSpends)
  discharged : LaunchDischarged wallet network launched.securityPublicKey parts.bundle
  roots : rootIds parts.bundle.coinSpends =
    [coinId request.funding, coinId request.rewardCat.coin].toFinset
  launcher : parts.distributorLauncherId = launched.launcherId
  inputs : parts.fundingCoinId = coinId request.funding ∧
    parts.rewardCatCoinId = coinId request.rewardCat.coin
  generation : parts.generation = request.generation

omit [LaunchLaws] in
theorem beginMint_eq_ok (h : beginRewardDistributorMint wallet request network constants =
    .ok parts) : ∃ launched, LaunchBuilt wallet network request constants launched parts := by
  rw [beginRewardDistributorMint, buildAndSignRewardDistributorLaunch] at h
  obtain ⟨hjudged, h⟩ := andThen_eq_ok.1 h
  obtain ⟨⟨managerId, launched, coinSpends⟩, hstaged, h⟩ := bind_ok.1 h
  obtain ⟨required, hrequired, h⟩ := bind_ok.1 h
  obtain ⟨hgate, h⟩ := andThen_eq_ok.1 h
  obtain ⟨signed, hsigned, h⟩ := bind_ok.1 h
  obtain ⟨hverified, h⟩ := andThen_eq_ok.1 h
  cases h
  obtain ⟨hdischarged, hroots⟩ :=
    launchDischarged_of_signed (mapError_eq_ok.1 hrequired) hgate hsigned hverified
  simp only [judgeLaunchRequest, andThen_ok, refuseWhen_ok, ne_eq, not_not] at hjudged
  exact ⟨launched, ⟨hjudged.1, hjudged.2.1⟩, hstaged, hdischarged, hroots, rfl, ⟨rfl, rfl⟩, rfl⟩

theorem LaunchBuilt.launch {launched : LaunchedDistributor} (hashes : CollisionFree)
    (homes : DistinctHomes wallet)
    (hcat : request.rewardCat.coin.puzzleHash =
      DigRewards.catCurriedPuzzleHash request.rewardCat.assetId request.rewardCat.p2PuzzleHash)
    (h : LaunchBuilt wallet network request constants launched parts) :
    ∃ launch : RewardDistributorLaunch, launch.parts = parts ∧
      launch.walletPuzzleHash = wallet.puzzleHash ∧ launch.funding = request.funding ∧
        launch.rewardCat = request.rewardCat.coin := by
  obtain ⟨⟨coinSpends, signed⟩, launcherId, managerId, fundingId, rewardId, generation⟩ := parts
  have hlauncher : launcherId = launched.launcherId := h.launcher
  obtain ⟨rfl, rfl⟩ : fundingId = coinId request.funding ∧
    rewardId = coinId request.rewardCat.coin := h.inputs
  obtain rfl : generation = request.generation := h.generation
  obtain ⟨change, fundingSpend, catSpend, spends, settlement, security, launcher, hsubset,
    hoffered, hdescends⟩ := stageLaunch_ok h.staged
  have hnamed := settlement_named hoffered hashes homes hdescends.offered hdescends.settlement_home
  have hreinserted : ∀ spend ∈ [fundingSpend, catSpend], spend ∈ coinSpends :=
    fun spend hmem => hsubset (hdescends.reinserted hmem)
  obtain ⟨settled, hsettled, hsettledCoin⟩ := hdescends.spends_settlement
  obtain ⟨launches, hlaunches, hsecurityCoin, hcreated, hadvertised⟩ := hdescends.launches
  refine ⟨{
    bundle := ⟨coinSpends, signed⟩
    distributorLauncherId := launcherId
    managerLauncherId := managerId
    fundingCoinId := coinId request.funding
    rewardCatCoinId := coinId request.rewardCat.coin
    generation := request.generation
    spends_funding := ⟨fundingSpend, hreinserted _ (by simp), by rw [hoffered.funding]⟩
    spends_rewardCat := ⟨catSpend, hreinserted _ (by simp), by rw [hoffered.cat]⟩
    launches := ⟨launches, hsubset hlaunches, ?_, ?_⟩
    walletPuzzleHash := wallet.puzzleHash
    funding := request.funding
    rewardCat := request.rewardCat.coin
    security := security
    launcher := launcher
    funding_named := rfl
    funding_home := h.owned.1
    rewardCat_named := rfl
    rewardCat_home := ?_
    manager_named := hoffered.managerNamed
    launcher_named := ?_
    launcher_parent := hdescends.launcher_parent
    security_parent := ?_
    spends_security := ⟨launches, hsubset hlaunches, by rw [hsecurityCoin]⟩
    spends_settlement := ⟨settled, hsubset hsettled, by rw [hsettledCoin, hnamed]⟩
    roots := ?_ }, rfl, rfl, rfl, rfl⟩
  · exact List.mem_map.2 ⟨launcher, hcreated, hdescends.launcher_named.trans hlauncher.symm⟩
  · rw [hlauncher]
    exact hadvertised
  · rw [hcat, hoffered.digCat, h.owned.2]
    rfl
  · exact hdescends.launcher_named.trans hlauncher.symm
  · rw [hdescends.security_parent, hnamed]
  · intro id
    rw [roots_iff h.roots, List.mem_pair]

end Built

theorem signed_launch_is_own [CoinHash] [Clvm] [DigDrivers] [ChiaBls] [SpendContext] [DigRewards]
    [DoorDrivers] [LaunchDrivers] [LaunchLaws] {wallet : WalletKey} {network : MintNetwork}
    {request : RewardDistributorMintRequest} {constants : ConsensusConstants}
    {parts : LaunchParts}
    (hacyclic : Ancestry.Acyclic (coinId : Coin → Bytes32) Coin.parentCoinInfo)
    (hashes : CollisionFree) (homes : DistinctHomes wallet)
    (h : beginRewardDistributorMint wallet request network constants = .ok parts) :
    (request.rewardCat.coin.puzzleHash =
        DigRewards.catCurriedPuzzleHash request.rewardCat.assetId request.rewardCat.p2PuzzleHash →
      ∃ launch : RewardDistributorLaunch, launch.parts = parts ∧
        launch.walletPuzzleHash = wallet.puzzleHash ∧ launch.funding = request.funding ∧
          launch.rewardCat = request.rewardCat.coin) ∧
      AdmitsOnly [coinId request.funding, coinId request.rewardCat.coin]
        parts.bundle.coinSpends ∧
      (∃ launched, stageLaunch wallet request constants =
          .ok (parts.managerLauncherId, launched, parts.bundle.coinSpends) ∧
        parts.distributorLauncherId = launched.launcherId ∧
          LaunchDischarged wallet network launched.securityPublicKey parts.bundle) ∧
      ∃ change fundingSpend catSpend, [fundingSpend, catSpend] ⊆ parts.bundle.coinSpends ∧
        OfferStaged wallet request parts.managerLauncherId change fundingSpend catSpend := by
  obtain ⟨launched, hbuilt⟩ := beginMint_eq_ok h
  obtain ⟨change, fundingSpend, catSpend, spends, settlement, security, launcher, hsubset,
    hoffered, hdescends⟩ := stageLaunch_ok hbuilt.staged
  exact ⟨hbuilt.launch hashes homes, admitsOnly_of_rootIds hacyclic hbuilt.roots,
    ⟨launched, hbuilt.staged, hbuilt.launcher, hbuilt.discharged⟩, change, fundingSpend, catSpend,
    fun spend hmem => hsubset (hdescends.reinserted hmem), hoffered⟩

section Example

@[reducible] def quotedContext : SpendContext where
  NodePtr := Unit
  alloc _ := .ok ()
  extractStandard _ := .ok ⟨()⟩
  sexp _ := .pair () ()
  smallNumber _ := some 1

def launchOf [CoinHash] (offered : List CoinSpend) (settlement : Coin) :
    LaunchedDistributor × List CoinSpend :=
  let security : Coin := ⟨coinId settlement, 6, 1⟩
  (⟨9, coinId ⟨coinId security, 2, 1⟩⟩,
    offered ++ [⟨settlement, [], [6, 1]⟩, ⟨security, [], [2, 1]⟩])

def launchFrom [CoinHash] [Clvm] (offered : List CoinSpend) (generation : LaunchComment) :
    Except String (LaunchedDistributor × List CoinSpend) :=
  match (offered.flatMap additions).find? fun coin => coin.puzzleHash = 1 with
  | none => .error "no settlement coin in the offer"
  | some settlement =>
      if generation = ⟨7, 8⟩ then .ok (launchOf offered settlement)
      else .error "unknown generation"

theorem launchFrom_ok [CoinHash] [Clvm] {offered spends : List CoinSpend}
    {generation : LaunchComment} {launched : LaunchedDistributor}
    (h : launchFrom offered generation = .ok (launched, spends)) :
    ∃ settlement ∈ offered.flatMap additions, settlement.puzzleHash = 1 ∧
      generation = ⟨7, 8⟩ ∧ (launched, spends) = launchOf offered settlement := by
  rw [launchFrom] at h
  split at h
  · cases h
  · rename_i settlement hfound
    split_ifs at h with hgeneration
    exact ⟨settlement, List.mem_of_find?_eq_some hfound, by simpa using List.find?_some hfound,
      hgeneration, (Except.ok.inj h).symm⟩

@[reducible] def deskLauncherDrivers : letI := pairHash; letI := creatingClvm
    letI := deskDoors; LaunchDrivers :=
  letI := pairHash
  letI := creatingClvm
  letI := deskDoors
  { ManagerInnerPuzzle := Unit
    ManagerLaunch := Bytes32
    DistributorTerms := Unit
    ConsensusConstants := Unit
    InnerPuzzle := List (Bytes32 × Nat)
    Offer := List CoinSpend
    noConditions := []
    reserveFee := fun conditions _ => conditions
    launchManagerSingleton := fun fundingCoinId _ =>
      .ok (fundingCoinId, [plainSpend ⟨fundingCoinId, 2, 1⟩])
    parentConditions := fun _ => [(2, 1)]
    managerLauncherId := fun fundingCoinId => coinId ⟨fundingCoinId, 2, 1⟩
    digDistributorConstants := fun _ _ _ => .ok ()
    reserveAssetId := fun _ => 3
    quoteConditions := fun conditions => .ok conditions
    delegatedInnerSpend := fun _ puzzle => .ok puzzle
    catSpend := fun cat single => writtenSpend cat.coin
      (single.p2Spend.map (Prod.map (fun p2 => cat.assetId + p2 + 1) id))
    offerFromSpendBundle := fun bundle => .ok bundle.coinSpends
    launchDigDistributor := fun offered _ _ _ generation _ => launchFrom offered generation }

theorem deskLauncher_laws :
    letI := pairHash; letI := creatingClvm; letI := deskRewards; letI := deskDoors
    letI := deskLauncherDrivers
    LaunchLaws := by
  let _ := pairHash
  let _ := creatingClvm
  let _ := deskRewards
  let _ := deskDoors
  let _ := deskLauncherDrivers
  constructor
  · exact fun assetId puzzleHash => rfl
  · rfl
  · exact fun conditions fee => rfl
  · intro fundingCoinId inner manager staged h
    cases h
    exact ⟨rfl, rfl⟩
  · exact fun manager epochSeconds payout terms h => rfl
  · intro conditions puzzle publicKey inner hquoted hdelegated
    cases hquoted
    cases hdelegated
    rfl
  · exact fun cat single spend h => writtenSpend_ok h
  · intro offered signature offer start terms constants generation now launched spends hoffer h
    cases hoffer
    obtain ⟨settlement, hsettled, hhome, rfl, hlaunched⟩ := launchFrom_ok h
    cases hlaunched
    obtain ⟨spend, hmem, hcreated⟩ := List.mem_flatMap.1 hsettled
    refine ⟨settlement, ⟨coinId settlement, 6, 1⟩, ⟨coinId ⟨coinId settlement, 6, 1⟩, 2, 1⟩, ?_⟩
    exact {
      reinserted := List.subset_append_left _ _
      offered := ⟨spend, hmem, hcreated⟩
      settlement_home := hhome
      security_parent := rfl
      launcher_parent := rfl
      launcher_named := rfl
      spends_settlement := ⟨_, List.mem_append_right _ (List.mem_cons_self ..), rfl⟩
      launches := ⟨⟨⟨coinId settlement, 6, 1⟩, [], [2, 1]⟩, by simp, rfl,
        List.mem_singleton_self _, rfl⟩ }

def deskMintRequest : letI := pairHash; letI := creatingClvm; letI := deskDoors
    letI := deskLauncherDrivers; RewardDistributorMintRequest :=
  letI := pairHash
  letI := creatingClvm
  letI := deskDoors
  letI := deskLauncherDrivers
  { funding := ⟨2, 5, 9⟩
    rewardCat := ⟨⟨⟨2, 9, 40⟩, 3, ()⟩, 5⟩
    managerInnerPuzzle := ()
    distributorEpochSeconds := 604800
    firstEpochStart := 1000
    generation := ⟨7, 8⟩
    fee := 2
    nowUnixSeconds := 500 }

theorem signed_launch_is_own_desk :
    letI := pairHash; letI := creatingClvm; letI := signingDrivers; letI := exactBls
    letI := quotedContext; letI := deskRewards; letI := deskDoors; letI := deskLauncherDrivers
    ∃ parts, beginRewardDistributorMint gateWallet deskMintRequest ⟨7⟩ () = .ok parts ∧
      (∃ launch : RewardDistributorLaunch, launch.parts = parts ∧
        launch.walletPuzzleHash = gateWallet.puzzleHash) ∧
      AdmitsOnly [coinId ⟨2, 5, 9⟩, coinId ⟨2, 9, 40⟩] parts.bundle.coinSpends ∧
      (∃ signed ∈ parts.bundle.aggregatedSignature, signed.publicKey = 9) ∧
      ∃ spend ∈ parts.bundle.coinSpends, spend.coin = ⟨2, 5, 9⟩ := by
  let _ := pairHash
  let _ := creatingClvm
  let _ := signingDrivers
  let _ := exactBls
  let _ := quotedContext
  let _ := deskRewards
  let _ := deskDoors
  let _ := deskLauncherDrivers
  have _ := deskLauncher_laws
  have hbegun : (beginRewardDistributorMint gateWallet deskMintRequest ⟨7⟩ ()).toOption.any
      fun _ => true := by
    decide +kernel
  obtain ⟨parts, hparts, -⟩ := ok_of_any hbegun
  obtain ⟨hown, hadmits, ⟨launched, hstaged, -, hdischarged⟩, change, fundingSpend, catSpend,
    hsubset, hoffered⟩ := signed_launch_is_own pairHash_acyclic pairHash_collisionFree
      ⟨by decide, by decide⟩ hparts
  obtain ⟨launch, hlaunch, hwallet, -, -⟩ := hown rfl
  have hkey : (stageLaunch gateWallet deskMintRequest ()).toOption.all
      fun staged => staged.2.1.securityPublicKey = 9 := by
    decide +kernel
  obtain ⟨signed, hsigned, hsecurity⟩ := hdischarged.security
  rw [hstaged] at hkey
  have hnine : launched.securityPublicKey = 9 := of_decide_eq_true hkey
  exact ⟨parts, hparts, ⟨launch, hlaunch, hwallet⟩, hadmits,
    ⟨signed, hsigned, hsecurity.trans hnine⟩, fundingSpend, hsubset (List.mem_cons_self ..),
    hoffered.funding⟩

end Example

end DigAccount
