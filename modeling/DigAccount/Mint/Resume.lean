import DigAccount.Chain.Node
import DigAccount.Foundation.Validator
import DigAccount.Mint.RewardDistributor

namespace DigAccount

open Validator

class DigRewards where
  settlementPaymentHash : Bytes32
  singletonLauncherHash : Bytes32
  managerSingletonAmountMojos : Nat
  digAssetId : Bytes32
  catCurriedPuzzleHash : Bytes32 → Bytes32 → Bytes32
  displayComment : LaunchComment → String
  parseComment : String → Option LaunchComment

export DigRewards (managerSingletonAmountMojos digAssetId catCurriedPuzzleHash displayComment
  parseComment)

def offerXchAmount : Nat := 1

section Derived

variable [DigRewards]

def offeredXchSettlementCoin (fundingCoinId : Bytes32) : Coin :=
  ⟨fundingCoinId, DigRewards.settlementPaymentHash, offerXchAmount⟩

def managerLauncherCoin (fundingCoinId : Bytes32) : Coin :=
  ⟨fundingCoinId, DigRewards.singletonLauncherHash, managerSingletonAmountMojos⟩

def digCurriedPuzzleHash (p2PuzzleHash : Bytes32) : Bytes32 :=
  catCurriedPuzzleHash digAssetId p2PuzzleHash

end Derived

structure PendingRewardDistributorRecord where
  distributorLauncherId : Bytes32
  managerLauncherId : Bytes32
  fundingCoinId : Bytes32
  rewardCatCoinId : Bytes32
  generation : String
  pushedAtHeight : Nat
  deriving DecidableEq, Repr

def PendingRewardDistributor.toRecord [DigRewards] (pending : PendingRewardDistributor) :
    PendingRewardDistributorRecord where
  distributorLauncherId := pending.distributorLauncherId
  managerLauncherId := pending.managerLauncherId
  fundingCoinId := pending.fundingCoinId
  rewardCatCoinId := pending.rewardCatCoinId
  generation := displayComment pending.generation
  pushedAtHeight := pending.pushedAtHeight

structure RewardDistributorMinter where
  wallet : WalletKey
  isLive : Bool
  deriving DecidableEq, Repr

def malformed (field : RecordField) (detail : String) : MintError :=
  .recordRejected (.malformed field detail)

def notYours (proof : OwnershipProof) (detail : String) : MintError :=
  .recordRejected (.notYours proof detail)

def unproven (detail : String) : MintError := .recordRejected (.unproven detail)

def launchDead (detail : String) : MintError := .recordRejected (.launchDead detail)

def launcherWhat : String := "the distributor's launcher coin"

def securityWhat : String := "the launch's security coin"

def unusableSpendHeight (funding : CoinRecord) (spentHeight : Nat) : Option String :=
  match funding.confirmedHeight with
  | none =>
      some ("the same record gives that coin no confirmed height at all, so the chain cannot " ++
        "place the coin whose spend is being claimed")
  | some createdAt =>
      if createdAt = 0 then
        some ("the same record places that coin's own creation in block 0, which no coin has")
      else if spentHeight < createdAt then
        some (s!"the same record places that coin's creation later, at height {createdAt}, and " ++
          "no coin is spent before it exists")
      else none

section Resume

variable [CoinHash] [DigRewards] (minter : RewardDistributorMinter)
  (record : PendingRewardDistributorRecord)

def answered (id : Bytes32) (what : String) :
    Option CoinRecord → Except MintError (Option CoinRecord)
  | none => .ok none
  | some found =>
      if coinId found.coin ≠ id then
        .error (.chainUnreachable (s!"the chain answered the read of {what} {hex32 id} with a " ++
          s!"DIFFERENT coin ({hex32 (coinId found.coin)}); a source that answers a question it " ++
          "was not asked proves nothing here"))
      else .ok (some found)

def readCoin (id : Bytes32) (what : String) : ChainReads MintError (Option CoinRecord) := do
  let found ← readCoinRecord
    (fun error => .chainUnreachable
      s!"could not read {what} {hex32 id} while resuming: {error}") id
  .ofExcept (answered id what found)

def ours (id expectedPuzzleHash : Bytes32) (proof : OwnershipProof) (what : String) :
    Option CoinRecord → Except MintError CoinRecord
  | none =>
      .error (notYours proof (s!"the chain has no record of {what} {hex32 id}; a record this " ++
        "account cannot prove ownership of is rejected"))
  | some found =>
      if found.coin.puzzleHash ≠ expectedPuzzleHash then
        .error (notYours proof (s!"{what} {hex32 id} is not at this profile's puzzle hash; a " ++
          "distributor is resumed only from a mint this account itself funded"))
      else .ok found

def proveCoinIsOurs (id expectedPuzzleHash : Bytes32) (proof : OwnershipProof) (what : String) :
    ChainReads MintError CoinRecord := do
  let found ← readCoin id what
  .ofExcept (ours id expectedPuzzleHash proof what found)

def parseConsistentRecord : Except MintError LaunchComment := do
  each
    (fun (field, id) => refuseWhen (id = 0)
      (malformed field "it is all-zero; a resumed record must name real coins"))
    [(.distributorLauncherId, record.distributorLauncherId),
      (.managerLauncherId, record.managerLauncherId),
      (.fundingCoinId, record.fundingCoinId),
      (.rewardCatCoinId, record.rewardCatCoinId)]
  refuseWhen (record.fundingCoinId = record.rewardCatCoinId)
    (malformed .rewardCatCoinId
      "it equals funding_coin_id; a mint spends two DISTINCT pre-existing inputs")
  refuseWhen (record.distributorLauncherId = record.managerLauncherId)
    (malformed .managerLauncherId
      "it equals distributor_launcher_id; a launch creates two DISTINCT singletons")
  refuseWhen (record.pushedAtHeight = 0)
    (malformed .pushedAtHeight "it is zero; no bundle is pushed at genesis")
  match parseComment record.generation with
  | some generation => .ok generation
  | none =>
      .error (malformed .generation
        s!"{record.generation.quote} is not a parseable launch comment")

def judgeBurial (spentHeight peak : Nat) : MintError :=
  let depth := depthOf peak spentHeight
  if depth < minConfirmationDepth then
    unproven (s!"{launcherWhat} {hex32 record.distributorLauncherId} does not exist on chain and " ++
      s!"funding coin {hex32 record.fundingCoinId} was spent at height {spentHeight}, only " ++
      s!"{depth} block(s) under a peak of {peak}; a spend that shallow is still reversible, and " ++
      "the two reads can straddle a reorg, so this is not yet proof the launch is dead; resume " ++
      s!"again once the spend is {minConfirmationDepth} blocks deep")
  else
    launchDead (s!"{launcherWhat} {hex32 record.distributorLauncherId} does not exist on chain, " ++
      s!"yet funding coin {hex32 record.fundingCoinId} has been spent at height {spentHeight} " ++
      s!"and buried {depth} blocks deep; an included launch creates that launcher in the same " ++
      "block it spends the funding coin, so a different spend took it and this mint can never " ++
      "confirm. The coins are back in this account's wallet; mint again rather than retrying " ++
      "this record")

def launcherAbsent (funding : CoinRecord) : ChainReads MintError Unit :=
  match funding.spentHeight with
  | none =>
      .fail (unproven
        (s!"{launcherWhat} {hex32 record.distributorLauncherId} does not exist on chain and " ++
          s!"funding coin {hex32 record.fundingCoinId} is still unspent, so nothing yet ties " ++
          "this distributor to this account's funding coin and the launch may still confirm; " ++
          "resume again once it does"))
  | some spentHeight =>
      match unusableSpendHeight funding spentHeight with
      | some unusable =>
          .fail (unproven
            (s!"{launcherWhat} {hex32 record.distributorLauncherId} does not exist on chain and " ++
              s!"funding coin {hex32 record.fundingCoinId} is reported spent at height " ++
              s!"{spentHeight}, but {unusable}; a height the chain cannot have produced is not " ++
              "evidence the launch is dead, and the record stays live; resume again once a " ++
              "source reports the spend honestly"))
      | none => do
          let peak ← peakHeight .chainUnreachable
          .fail (judgeBurial record spentHeight peak)

def judgeSecurity (securityCoinId : Bytes32) : Option CoinRecord → Except MintError Unit
  | none =>
      .error (notYours .distributorLauncherDescendsFromTheFundingCoin
        (s!"{securityWhat} {hex32 securityCoinId} — the launcher coin's own parent — has no " ++
          "chain record, so the descent to this account's funding coin cannot be walked"))
  | some security =>
      refuseWhen
        (security.coin.parentCoinInfo ≠ coinId (offeredXchSettlementCoin record.fundingCoinId))
        (notYours .distributorLauncherDescendsFromTheFundingCoin
          (s!"distributor_launcher_id {hex32 record.distributorLauncherId} traces back to " ++
            s!"settlement coin {hex32 security.coin.parentCoinInfo}, not to the one this " ++
            "account's funding coin creates " ++
            s!"({hex32 (coinId (offeredXchSettlementCoin record.fundingCoinId))}); this launch " ++
            "was funded by somebody else"))

def judgeManager : Except MintError Unit :=
  let expectedManager := coinId (managerLauncherCoin record.fundingCoinId)
  refuseWhen (record.managerLauncherId ≠ expectedManager)
    (notYours .managerLauncherDescendsFromTheFundingCoin
      (s!"manager_launcher_id {hex32 record.managerLauncherId} is not the launcher this funding " ++
        s!"coin's own spend creates ({hex32 expectedManager}); these are not the coins that " ++
        "produced this mint"))

def walkFromLauncher (funding : CoinRecord) : Option CoinRecord → ChainReads MintError Unit
  | none => launcherAbsent record funding
  | some launcher =>
      if launcher.confirmedHeight.isNone then
        .fail (unproven
          (s!"{launcherWhat} {hex32 record.distributorLauncherId} is a mempool observation with " ++
            "no confirmed height, so the launch's ephemeral security coin does not exist yet " ++
            "and the descent to this account's funding coin cannot be walked; resume again once " ++
            "the launch confirms"))
      else do
        let security ← readCoin launcher.coin.parentCoinInfo securityWhat
        .ofExcept (judgeSecurity record launcher.coin.parentCoinInfo security)

def proveLaunchersDescendFromTheFundingCoin (funding : CoinRecord) :
    ChainReads MintError Unit := do
  .ofExcept (judgeManager record)
  let launcher ← readCoin record.distributorLauncherId launcherWhat
  walkFromLauncher record funding launcher

namespace RewardDistributorMinter

def liveWalletKey : Except MintError WalletKey :=
  if minter.isLive then .ok minter.wallet else .error .locked

def resume : ChainReads MintError PendingRewardDistributor := do
  let wallet ← .ofExcept minter.liveWalletKey
  let generation ← .ofExcept (parseConsistentRecord record)
  let funding ← proveCoinIsOurs record.fundingCoinId wallet.puzzleHash .fundingCoinIsThisAccounts
    "the funding coin"
  let _rewardCat ← proveCoinIsOurs record.rewardCatCoinId (digCurriedPuzzleHash wallet.puzzleHash)
    .rewardCatCoinIsThisAccounts "the reward CAT coin"
  proveLaunchersDescendFromTheFundingCoin record funding
  pure {
    distributorLauncherId := record.distributorLauncherId
    managerLauncherId := record.managerLauncherId
    fundingCoinId := record.fundingCoinId
    rewardCatCoinId := record.rewardCatCoinId
    generation := generation
    pushedAtHeight := record.pushedAtHeight }

end RewardDistributorMinter

variable {record} {oracle : Oracle} {i k : Nat} {id expectedPuzzleHash : Bytes32} {what : String}
  {proof : OwnershipProof}

omit [DigRewards] in
theorem answered_ok {found answer : Option CoinRecord} :
    answered id what answer = .ok found ↔
      found = answer ∧ ∀ coinRecord ∈ answer, coinId coinRecord.coin = id := by
  cases answer with
  | none => simp [answered, eq_comm]
  | some coinRecord =>
      by_cases hname : coinId coinRecord.coin = id
      · simp [answered, hname, eq_comm]
      · simp [answered, hname]

omit [DigRewards] in
theorem readCoin_ok {found : Option CoinRecord} :
    (readCoin id what).exec oracle i = (.ok found, k) ↔
      k = i + 1 ∧ oracle i (.coinRecord id) = .ok found ∧
        ∀ coinRecord ∈ found, coinId coinRecord.coin = id := by
  rw [readCoin, Fallible.exec_bind_eq_ok]
  constructor
  · rintro ⟨answer, m, hread, hanswered⟩
    rw [exec_readCoinRecord, Prod.mk.injEq, Fallible.mapError_eq_ok] at hread
    obtain ⟨hread, rfl⟩ := hread
    obtain ⟨hfound, rfl⟩ := Prod.mk.inj hanswered
    obtain ⟨rfl, hnames⟩ := answered_ok.1 hfound
    exact ⟨rfl, hread, hnames⟩
  · rintro ⟨rfl, hread, hnames⟩
    refine ⟨found, i + 1, ?_, ?_⟩
    · rw [exec_readCoinRecord, hread]
      rfl
    · exact Prod.ext (answered_ok.2 ⟨rfl, hnames⟩) rfl

omit [DigRewards] in
theorem readCoin_unanswered {e : String} (what : String)
    (h : oracle i (.coinRecord id) = .error e) :
    ∃ reason, (readCoin id what).exec oracle i = (.error (.chainUnreachable reason), i + 1) := by
  have hread : ∀ unreachable : String → MintError,
      (readCoinRecord unreachable id).exec oracle i = (.error (unreachable e), i + 1) := by
    intro unreachable
    rw [exec_readCoinRecord, h]
    rfl
  exact ⟨_, Fallible.exec_bind_of_error (hread _)⟩

omit [CoinHash] [DigRewards] in
theorem ours_ok {found : Option CoinRecord} {coinRecord : CoinRecord} :
    ours id expectedPuzzleHash proof what found = .ok coinRecord ↔
      found = some coinRecord ∧ coinRecord.coin.puzzleHash = expectedPuzzleHash := by
  cases found with
  | none => simp [ours]
  | some other =>
      by_cases hhome : other.coin.puzzleHash = expectedPuzzleHash
      · simp only [ours, hhome, ne_eq, not_true_eq_false, if_false, Except.ok.injEq,
          Option.some.injEq]
        exact ⟨fun h => ⟨h, h ▸ hhome⟩, fun h => h.1⟩
      · simp only [ours, hhome, ne_eq, not_false_eq_true, if_true, reduceCtorEq,
          Option.some.injEq, false_iff, not_and]
        exact fun h hother => hhome (h ▸ hother)

omit [DigRewards] in
theorem proveCoinIsOurs_ok {coinRecord : CoinRecord} :
    (proveCoinIsOurs id expectedPuzzleHash proof what).exec oracle i = (.ok coinRecord, k) ↔
      k = i + 1 ∧ oracle i (.coinRecord id) = .ok (some coinRecord) ∧
        coinId coinRecord.coin = id ∧ coinRecord.coin.puzzleHash = expectedPuzzleHash := by
  rw [proveCoinIsOurs, Fallible.exec_bind_eq_ok]
  constructor
  · rintro ⟨found, m, hread, hours⟩
    obtain ⟨rfl, hanswer, hnames⟩ := readCoin_ok.1 hread
    obtain ⟨hfound, rfl⟩ := Prod.mk.inj hours
    obtain ⟨rfl, hhome⟩ := ours_ok.1 hfound
    exact ⟨rfl, hanswer, hnames coinRecord rfl, hhome⟩
  · rintro ⟨rfl, hanswer, hname, hhome⟩
    refine ⟨some coinRecord, i + 1, readCoin_ok.2 ⟨rfl, hanswer, fun _ hsome => ?_⟩, ?_⟩
    · exact Option.some.inj hsome ▸ hname
    · exact Prod.ext (ours_ok.2 ⟨rfl, hhome⟩) rfl

omit [CoinHash] in
theorem parseConsistentRecord_ok {generation : LaunchComment} :
    parseConsistentRecord record = .ok generation ↔
      (record.distributorLauncherId ≠ 0 ∧ record.managerLauncherId ≠ 0 ∧
        record.fundingCoinId ≠ 0 ∧ record.rewardCatCoinId ≠ 0) ∧
      record.fundingCoinId ≠ record.rewardCatCoinId ∧
      record.distributorLauncherId ≠ record.managerLauncherId ∧ record.pushedAtHeight ≠ 0 ∧
      parseComment record.generation = some generation := by
  simp only [parseConsistentRecord, andThen_eq_ok, each_ok, refuseWhen_ok, List.mem_cons,
    List.not_mem_nil, or_false, forall_eq_or_imp, forall_eq]
  cases parseComment record.generation with
  | none => simp
  | some parsed => simp

omit [CoinHash] [DigRewards] in
theorem launcherAbsent_cases (record : PendingRewardDistributorRecord) (funding : CoinRecord)
    (oracle : Oracle) (i : Nat) :
    ((∀ s, funding.spentHeight = some s → unusableSpendHeight funding s ≠ none) ∧
        ∃ detail, (launcherAbsent record funding).run oracle i = .error (unproven detail)) ∨
      ∃ s, funding.spentHeight = some s ∧ unusableSpendHeight funding s = none ∧
        ((∃ peak, oracle i .peakHeight = .ok (some peak) ∧
            (launcherAbsent record funding).run oracle i = .error (judgeBurial record s peak)) ∨
          ((∀ peak, oracle i .peakHeight ≠ .ok (some peak)) ∧ ∃ reason,
            (launcherAbsent record funding).run oracle i = .error (.chainUnreachable reason))) := by
  rw [launcherAbsent]
  cases hspent : funding.spentHeight with
  | none => exact .inl ⟨fun s hs => (by cases hs), _, rfl⟩
  | some s =>
      cases husable : unusableSpendHeight funding s with
      | some unusable =>
          have hunusable : ∀ t, some s = some t → unusableSpendHeight funding t ≠ none := by
            intro t ht
            cases ht
            simp [husable]
          simp only [husable]
          exact .inl ⟨hunusable, _, rfl⟩
      | none =>
          refine .inr ⟨s, rfl, husable, ?_⟩
          simp only [husable]
          rcases peakHeight_cases MintError.chainUnreachable oracle i with
            ⟨peak, hpeak, hrun⟩ | ⟨hunread, reason, hrun⟩
          · refine .inl ⟨peak, hpeak, ?_⟩
            rw [Fallible.run_bind_of_ok hrun]
            rfl
          · exact .inr ⟨hunread, reason, Fallible.run_bind_of_error hrun⟩

omit [CoinHash] [DigRewards] in
theorem judgeBurial_cases (record : PendingRewardDistributorRecord) (spentHeight peak : Nat) :
    (depthOf peak spentHeight < minConfirmationDepth ∧
        ∃ detail, judgeBurial record spentHeight peak = unproven detail) ∨
      (minConfirmationDepth ≤ depthOf peak spentHeight ∧
        ∃ detail, judgeBurial record spentHeight peak = launchDead detail) := by
  by_cases hshallow : depthOf peak spentHeight < minConfirmationDepth
  · exact .inl ⟨hshallow, _, if_pos hshallow⟩
  · exact .inr ⟨Nat.le_of_not_lt hshallow, _, if_neg hshallow⟩

omit [CoinHash] [DigRewards] in
theorem launcherAbsent_not_ok {funding : CoinRecord} {u : Unit} :
    (launcherAbsent record funding).run oracle i ≠ .ok u := by
  intro h
  rcases launcherAbsent_cases record funding oracle i with
    ⟨-, detail, hrun⟩ | ⟨s, -, -, ⟨peak, -, hrun⟩ | ⟨-, reason, hrun⟩⟩
  · cases hrun.symm.trans h
  · cases hrun.symm.trans h
  · cases hrun.symm.trans h

theorem judgeManager_ok :
    judgeManager record = .ok () ↔
      record.managerLauncherId = coinId (managerLauncherCoin record.fundingCoinId) := by
  simp [judgeManager]

theorem judgeSecurity_ok {security : Option CoinRecord} :
    judgeSecurity record id security = .ok () ↔ ∃ coinRecord, security = some coinRecord ∧
      coinRecord.coin.parentCoinInfo =
        coinId (offeredXchSettlementCoin record.fundingCoinId) := by
  cases security with
  | none => simp [judgeSecurity]
  | some coinRecord => simp [judgeSecurity]

theorem walkFromLauncher_ok {funding : CoinRecord} {launcher : Option CoinRecord} {u : Unit}
    (h : (walkFromLauncher record funding launcher).exec oracle i = (.ok u, k)) :
    ∃ found security, launcher = some found ∧
      oracle i (.coinRecord found.coin.parentCoinInfo) = .ok (some security) ∧
      coinId security.coin = found.coin.parentCoinInfo ∧
      security.coin.parentCoinInfo = coinId (offeredXchSettlementCoin record.fundingCoinId) := by
  cases launcher with
  | none => exact absurd (Prod.mk.inj h).1 launcherAbsent_not_ok
  | some found =>
      cases hheight : found.confirmedHeight with
      | none =>
          simp only [walkFromLauncher, hheight, Option.isNone_none, if_true] at h
          cases h
      | some height =>
          simp only [walkFromLauncher, hheight, Option.isNone_some, Bool.false_eq_true,
            if_false, Fallible.exec_bind_eq_ok] at h
          obtain ⟨answer, m, hread, hjudge⟩ := h
          obtain ⟨rfl, hanswer, hnames⟩ := readCoin_ok.1 hread
          obtain ⟨security, rfl, hparent⟩ := judgeSecurity_ok.1 (Prod.mk.inj hjudge).1
          exact ⟨found, security, rfl, hanswer, hnames security rfl, hparent⟩

end Resume

structure OwnMint [CoinHash] [DigRewards] (walletPuzzleHash : Bytes32)
    (pending : PendingRewardDistributor) : Prop where
  manager : pending.managerLauncherId = coinId (managerLauncherCoin pending.fundingCoinId)
  funding : ∃ funding : Coin, coinId funding = pending.fundingCoinId ∧
    funding.puzzleHash = walletPuzzleHash
  launcher : ∃ launcher security : Coin, coinId launcher = pending.distributorLauncherId ∧
    coinId security = launcher.parentCoinInfo ∧
    security.parentCoinInfo = coinId (offeredXchSettlementCoin pending.fundingCoinId)

namespace OwnMint

variable [CoinHash] [DigRewards] {walletPuzzleHash walletPuzzleHash' : Bytes32}
  {pending pending' : PendingRewardDistributor}

theorem settled_by (h : OwnMint walletPuzzleHash pending)
    (injective : Function.Injective (coinId : Coin → Bytes32)) {launcher security : Coin}
    {fundingCoinId : Bytes32} (hname : coinId launcher = pending.distributorLauncherId)
    (hsecurity : coinId security = launcher.parentCoinInfo)
    (hsettled : security.parentCoinInfo = coinId (offeredXchSettlementCoin fundingCoinId)) :
    pending.fundingCoinId = fundingCoinId := by
  obtain ⟨own, parent, hown, hparent, hgrandparent⟩ := h.launcher
  obtain rfl : launcher = own := injective (hname.trans hown.symm)
  obtain rfl : security = parent := injective (hsecurity.trans hparent.symm)
  exact congrArg Coin.parentCoinInfo (injective (hgrandparent.symm.trans hsettled))

theorem funding_unique (h : OwnMint walletPuzzleHash pending)
    (injective : Function.Injective (coinId : Coin → Bytes32))
    (h' : OwnMint walletPuzzleHash' pending')
    (hsame : pending.distributorLauncherId = pending'.distributorLauncherId) :
    pending.fundingCoinId = pending'.fundingCoinId := by
  obtain ⟨launcher, security, hname, hsecurity, hsettled⟩ := h'.launcher
  exact h.settled_by injective (hname.trans hsame.symm) hsecurity hsettled

end OwnMint

namespace RewardDistributorMinter

theorem liveWalletKey_ok {minter : RewardDistributorMinter} {wallet : WalletKey} :
    minter.liveWalletKey = .ok wallet ↔ minter.isLive ∧ minter.wallet = wallet := by
  rw [liveWalletKey]
  split
  · rename_i hlive
    simp [hlive]
  · rename_i hlocked
    simp [hlocked]

variable [CoinHash] [DigRewards] {minter : RewardDistributorMinter}
  {record : PendingRewardDistributorRecord} {pending : PendingRewardDistributor}
  {oracle : Oracle} {i : Nat}

theorem resume_ok (h : (minter.resume record).run oracle i = .ok pending) :
    pending.distributorLauncherId = record.distributorLauncherId ∧
      pending.fundingCoinId = record.fundingCoinId ∧
      OwnMint minter.wallet.puzzleHash pending := by
  have hexec : (minter.resume record).exec oracle i = (.ok pending, _) := Prod.ext h rfl
  simp only [resume, Fallible.exec_bind_eq_ok, proveLaunchersDescendFromTheFundingCoin] at hexec
  obtain ⟨wallet, m₁, hwallet, generation, m₂, -, funding, m₃, hfunding, rewardCat, m₄, -,
    u, m₅, ⟨u', m₆, hmanager, launcher, m₇, hread, hwalk⟩, hpending⟩ := hexec
  obtain ⟨-, rfl⟩ := liveWalletKey_ok.1 (Prod.mk.inj hwallet).1
  obtain ⟨-, -, hfundingName, hfundingHome⟩ := proveCoinIsOurs_ok.1 hfunding
  obtain ⟨-, -, hlauncherName⟩ := readCoin_ok.1 hread
  obtain ⟨found, security, rfl, -, hsecurityName, hsettled⟩ := walkFromLauncher_ok hwalk
  obtain rfl := Except.ok.inj (Prod.mk.inj hpending).1
  refine ⟨rfl, rfl, judgeManager_ok.1 (Prod.mk.inj hmanager).1, ?_, ?_⟩
  · exact ⟨funding.coin, hfundingName, hfundingHome⟩
  · exact ⟨found.coin, security.coin, hlauncherName found rfl, hsecurityName, hsettled⟩

theorem resumed_mint_is_own (h : (minter.resume record).run oracle i = .ok pending) :
    OwnMint minter.wallet.puzzleHash pending ∧
      (Function.Injective (coinId : Coin → Bytes32) →
        (∀ (other : RewardDistributorMinter) record' oracle' i' pending',
          (other.resume record').run oracle' i' = .ok pending' →
          record'.distributorLauncherId = record.distributorLauncherId →
            other.wallet.puzzleHash = minter.wallet.puzzleHash) ∧
        ∀ (launcher security : Coin) (fundingCoinId : Bytes32),
          coinId launcher = record.distributorLauncherId →
          coinId security = launcher.parentCoinInfo →
          security.parentCoinInfo = coinId (offeredXchSettlementCoin fundingCoinId) →
            record.fundingCoinId = fundingCoinId) := by
  obtain ⟨hlauncher, hfunding, hown⟩ := resume_ok h
  refine ⟨hown, fun injective => ⟨?_, ?_⟩⟩
  · intro other record' oracle' i' pending' h' hsame
    obtain ⟨hlauncher', -, hown'⟩ := resume_ok h'
    have hfundings := hown.funding_unique injective hown'
      (hlauncher.trans (hsame.symm.trans hlauncher'.symm))
    obtain ⟨funding, hname, hhome⟩ := hown.funding
    obtain ⟨funding', hname', hhome'⟩ := hown'.funding
    have hcoin : funding = funding' := injective (by rw [hname, hname', hfundings])
    rw [← hhome, ← hhome', hcoin]
  · intro launcher security fundingCoinId hname hsecurity hsettled
    rw [← hfunding]
    exact hown.settled_by injective (hname.trans hlauncher.symm) hsecurity hsettled

end RewardDistributorMinter

section Example

abbrev deskRewards : DigRewards where
  settlementPaymentHash := 1
  singletonLauncherHash := 2
  managerSingletonAmountMojos := 1
  digAssetId := 3
  catCurriedPuzzleHash assetId p2PuzzleHash := assetId + p2PuzzleHash + 1
  displayComment comment := if comment = ⟨7, 8⟩ then "7:8" else ""
  parseComment text := if text = "7:8" then some ⟨7, 8⟩ else none

def deskFunding : Coin := ⟨0, 4, 9⟩

def deskRewardCat : Coin := ⟨0, 8, 5⟩

def deskSecurity : Coin := letI := pairHash; letI := deskRewards
  ⟨coinId (offeredXchSettlementCoin (coinId deskFunding)), 6, 1⟩

def deskLauncher : Coin := letI := pairHash; ⟨coinId deskSecurity, 2, 1⟩

def deskPending : PendingRewardDistributor := letI := pairHash; letI := deskRewards
  { distributorLauncherId := coinId deskLauncher
    managerLauncherId := coinId (managerLauncherCoin (coinId deskFunding))
    fundingCoinId := coinId deskFunding
    rewardCatCoinId := coinId deskRewardCat
    generation := ⟨7, 8⟩
    pushedAtHeight := 1 }

def deskMinter : RewardDistributorMinter := ⟨⟨50, 4⟩, true⟩

def deskOracle : Oracle := fun _ q => letI := pairHash
  match q with
  | .coinRecord id => .ok (([deskFunding, deskRewardCat, deskSecurity, deskLauncher].find?
      fun coin => coinId coin = id).map fun coin => ⟨coin, some 1, some 1⟩)
  | .peakHeight => .ok (some 1)
  | .parentSpend _ => .ok none
  | .resolveSingletonLineage _ => .ok none
  | .walkDidLineageToTip _ => .ok none
  | .proveLineage _ _ => .error (.other "")
  | .discoverDistributor _ => .ok none
  | .fetchProfileSlots _ _ => .ok []
  | .push _ => .error ""

theorem resumed_mint_is_own_desk : letI := pairHash; letI := deskRewards
    (deskMinter.resume deskPending.toRecord).run deskOracle 0 = .ok deskPending ∧
      OwnMint deskMinter.wallet.puzzleHash deskPending := by
  let _ := pairHash
  let _ := deskRewards
  have hrun : (deskMinter.resume deskPending.toRecord).run deskOracle 0 = .ok deskPending := by
    decide +kernel
  exact ⟨hrun, (RewardDistributorMinter.resumed_mint_is_own hrun).1⟩

end Example

end DigAccount
