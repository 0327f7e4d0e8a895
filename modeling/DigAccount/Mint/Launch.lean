import DigAccount.Mint.DistributorStatus
import DigAccount.Mint.Resume

namespace DigAccount

open Ledger

structure CollisionFree [CoinHash] [DigRewards] : Prop where
  injective : Function.Injective (coinId : Coin → Bytes32)
  ne_zero : ∀ coin : Coin, coinId coin ≠ 0
  curried_ne : ∀ assetId p2PuzzleHash, catCurriedPuzzleHash assetId p2PuzzleHash ≠ p2PuzzleHash

section Parented

variable [CoinHash] [Clvm]

structure ParentedChain (chain : Chain) : Prop where
  created : ∀ block ∈ chain, ∀ coinSpend ∈ block.spends, ∀ coin ∈ additions coinSpend,
    coin.parentCoinInfo = coinId coinSpend.coin
  rewards : ∀ block ∈ chain, ∀ reward ∈ block.rewards, ∀ coin : Coin,
    reward.parentCoinInfo ≠ coinId coin
  spent : ∀ n, ∀ coinSpend ∈ coinSpendsOf (chain.take n),
    confirmedHeight ((ledgerOf chain).take n) (coinId coinSpend.coin) ≠ none

variable {chain : Chain} {coin parent : Coin} {n m : Nat}

omit [CoinHash] [Clvm] in
theorem confirmedHeight_ne_none {ledger : Ledger Bytes32} {id : Bytes32} :
    confirmedHeight ledger id ≠ none ↔ ∃ block ∈ ledger, id ∈ block.created := by
  simp [confirmedHeight, List.findIdx?_eq_none_iff]

theorem confirmed_mono {id : Bytes32} (hle : n ≤ m)
    (h : confirmedHeight ((ledgerOf chain).take n) id ≠ none) :
    confirmedHeight ((ledgerOf chain).take m) id ≠ none := by
  obtain ⟨block, hblock, hid⟩ := confirmedHeight_ne_none.1 h
  exact confirmedHeight_ne_none.2 ⟨block, (List.take_prefix_take_left hle).subset hblock, hid⟩

theorem ParentedChain.of_take
    (created : ∀ block ∈ chain, ∀ coinSpend ∈ block.spends, ∀ coin ∈ additions coinSpend,
      coin.parentCoinInfo = coinId coinSpend.coin)
    (rewards : ∀ block ∈ chain, ∀ reward ∈ block.rewards, ∀ coin : Coin,
      reward.parentCoinInfo ≠ coinId coin)
    (spent : ∀ n < chain.length + 1, ∀ coinSpend ∈ coinSpendsOf (chain.take n),
      confirmedHeight ((ledgerOf chain).take n) (coinId coinSpend.coin) ≠ none) :
    ParentedChain chain := by
  refine ⟨created, rewards, fun n => ?_⟩
  rcases Nat.lt_or_ge n (chain.length + 1) with hlt | hge
  · exact spent n hlt
  · have hwhole := spent chain.length (Nat.lt_succ_self _)
    rw [← ledgerOf_take, List.take_length] at hwhole
    rwa [← ledgerOf_take, List.take_of_length_le (Nat.le_of_succ_le hge)]

theorem ParentedChain.parent_confirmed (parented : ParentedChain chain)
    (injective : Function.Injective (coinId : Coin → Bytes32))
    (hparent : coin.parentCoinInfo = coinId parent)
    (h : confirmedHeight ((ledgerOf chain).take n) (coinId coin) ≠ none) :
    confirmedHeight ((ledgerOf chain).take n) (coinId parent) ≠ none := by
  obtain ⟨onLedger, hblock, hid⟩ := confirmedHeight_ne_none.1 h
  rw [← ledgerOf_take] at hblock
  obtain ⟨block, htaken, rfl⟩ := List.mem_map.1 hblock
  have hmem : block ∈ chain := List.mem_of_mem_take htaken
  rcases List.mem_append.1 hid with hpaid | hspend
  · obtain ⟨reward, hreward, hname⟩ := List.mem_map.1 hpaid
    obtain rfl := injective hname
    exact absurd hparent (parented.rewards block hmem reward hreward parent)
  · obtain ⟨spend, hmember, hcreated⟩ := List.mem_flatMap.1 hspend
    obtain ⟨coinSpend, hcoinSpend, rfl⟩ := List.mem_map.1 hmember
    obtain ⟨addition, haddition, hname⟩ := List.mem_map.1 hcreated
    obtain rfl := injective hname
    rw [← hparent, parented.created block hmem coinSpend hcoinSpend addition haddition]
    exact parented.spent n coinSpend (List.mem_flatMap.2 ⟨block, htaken, hcoinSpend⟩)

end Parented

structure RewardDistributorLaunch [CoinHash] [Clvm] [DigRewards] extends
    SignedRewardDistributorMint where
  walletPuzzleHash : Bytes32
  funding : Coin
  rewardCat : Coin
  security : Coin
  launcher : Coin
  funding_named : coinId funding = fundingCoinId
  funding_home : funding.puzzleHash = walletPuzzleHash
  rewardCat_named : coinId rewardCat = rewardCatCoinId
  rewardCat_home : rewardCat.puzzleHash = digCurriedPuzzleHash walletPuzzleHash
  manager_named : managerLauncherId = coinId (managerLauncherCoin fundingCoinId)
  launcher_named : coinId launcher = distributorLauncherId
  launcher_parent : launcher.parentCoinInfo = coinId security
  security_parent : security.parentCoinInfo = coinId (offeredXchSettlementCoin fundingCoinId)
  spends_security : bundle.Spends (coinId security)
  spends_settlement : bundle.Spends (coinId (offeredXchSettlementCoin fundingCoinId))
  roots : ∀ id, (∃ coinSpend ∈ bundle.coinSpends, coinId coinSpend.coin = id ∧
    ¬ bundle.Spends coinSpend.coin.parentCoinInfo) ↔ id = fundingCoinId ∨ id = rewardCatCoinId

namespace RewardDistributorLaunch

variable [CoinHash] [Clvm] [DigRewards] {launch : RewardDistributorLaunch}

theorem inner_ne_input (hashes : CollisionFree) (launch : RewardDistributorLaunch) {coin : Coin}
    (hinner : launch.bundle.Spends coin.parentCoinInfo) {id : Bytes32}
    (hinput : id = launch.fundingCoinId ∨ id = launch.rewardCatCoinId) : coinId coin ≠ id := by
  intro hsame
  obtain ⟨root, -, hname, hroot⟩ := (launch.roots id).2 hinput
  have hcoin : root.coin = coin := hashes.injective (hname.trans hsame.symm)
  rw [hcoin] at hroot
  exact hroot hinner

theorem security_ne_funding (hashes : CollisionFree) (launch : RewardDistributorLaunch) :
    coinId launch.security ≠ launch.fundingCoinId := by
  apply launch.inner_ne_input hashes _ (.inl rfl)
  rw [launch.security_parent]
  exact launch.spends_settlement

theorem launcher_ne_input (hashes : CollisionFree) (launch : RewardDistributorLaunch)
    {id : Bytes32} (hinput : id = launch.fundingCoinId ∨ id = launch.rewardCatCoinId) :
    id ≠ launch.distributorLauncherId := by
  rw [← launch.launcher_named]
  apply (launch.inner_ne_input hashes _ hinput).symm
  rw [launch.launcher_parent]
  exact launch.spends_security

theorem launchers_differ (hashes : CollisionFree) (launch : RewardDistributorLaunch) :
    launch.distributorLauncherId ≠ launch.managerLauncherId := by
  intro hsame
  rw [← launch.launcher_named, launch.manager_named] at hsame
  have hparents := congrArg Coin.parentCoinInfo (hashes.injective hsame)
  rw [launch.launcher_parent] at hparents
  exact launch.security_ne_funding hashes hparents

theorem inputs_differ (hashes : CollisionFree) (launch : RewardDistributorLaunch) :
    launch.fundingCoinId ≠ launch.rewardCatCoinId := by
  intro hsame
  rw [← launch.funding_named, ← launch.rewardCat_named] at hsame
  have hhomes := congrArg Coin.puzzleHash (hashes.injective hsame)
  rw [launch.funding_home, launch.rewardCat_home] at hhomes
  exact hashes.curried_ne _ _ hhomes.symm

theorem record_consistent (hashes : CollisionFree) (launch : RewardDistributorLaunch)
    {pushedAtHeight : Nat} (hpushed : 0 < pushedAtHeight)
    (roundTrip : parseComment (displayComment launch.generation) = some launch.generation) :
    parseConsistentRecord (launch.pendingAt pushedAtHeight).toRecord = .ok launch.generation := by
  refine parseConsistentRecord_ok.2 ⟨⟨?_, ?_, ?_, ?_⟩, launch.inputs_differ hashes,
    launch.launchers_differ hashes, hpushed.ne', roundTrip⟩
  · exact fun h => hashes.ne_zero launch.launcher (launch.launcher_named.trans h)
  · exact fun h => hashes.ne_zero _ (launch.manager_named.symm.trans h)
  · exact fun h => hashes.ne_zero launch.funding (launch.funding_named.trans h)
  · exact fun h => hashes.ne_zero launch.rewardCat (launch.rewardCat_named.trans h)

end RewardDistributorLaunch

def NamesCoins [CoinHash] (oracle : Oracle) : Prop :=
  ∀ k id record, oracle k (.coinRecord id) = .ok (some record) → coinId record.coin = id

def LeavesUnread (oracle : Oracle) (reads : List (Nat × Bytes32)) : Prop :=
  ∃ read ∈ reads, ∃ e, oracle read.1 (.coinRecord read.2) = .error e

def RewardDistributorLaunch.inputReads [CoinHash] [Clvm] [DigRewards]
    (launch : RewardDistributorLaunch) (i : Nat) : List (Nat × Bytes32) :=
  [(i, launch.fundingCoinId), (i + 1, launch.rewardCatCoinId),
    (i + 2, launch.distributorLauncherId)]

theorem RewardDistributorLaunch.reads_funding [CoinHash] [Clvm] [DigRewards]
    (launch : RewardDistributorLaunch) (i : Nat) :
    [(i, launch.fundingCoinId)] ⊆ launch.inputReads i := by
  simp [inputReads]

theorem RewardDistributorLaunch.reads_rewardCat [CoinHash] [Clvm] [DigRewards]
    (launch : RewardDistributorLaunch) (i : Nat) :
    [(i + 1, launch.rewardCatCoinId)] ⊆ launch.inputReads i := by
  simp [inputReads]

section Walk

variable [CoinHash] [Clvm] [DigRewards] {launch : RewardDistributorLaunch} {oracle : Oracle}
  {i pushedAtHeight : Nat}

omit [Clvm] [DigRewards] in
theorem readCoin_answered {id : Bytes32} {found : Option CoinRecord} (what : String)
    (names : NamesCoins oracle) (h : oracle i (.coinRecord id) = .ok found) :
    (readCoin id what).exec oracle i = (.ok found, i + 1) := by
  refine readCoin_ok.2 ⟨rfl, h, fun record hrecord => names i id record ?_⟩
  rw [h, Option.mem_def.1 hrecord]

omit [Clvm] [DigRewards] in
theorem proveCoinIsOurs_cases {coin : Coin} {id expectedPuzzleHash : Bytes32}
    (injective : Function.Injective (coinId : Coin → Bytes32)) (names : NamesCoins oracle)
    (hname : coinId coin = id) (hhome : coin.puzzleHash = expectedPuzzleHash)
    (hknown : oracle i (.coinRecord id) ≠ .ok none) (proof : OwnershipProof) (what : String) :
    (LeavesUnread oracle [(i, id)] ∧ ∃ reason,
        (proveCoinIsOurs id expectedPuzzleHash proof what).exec oracle i =
          (.error (.chainUnreachable reason), i + 1)) ∨
      ∃ record, oracle i (.coinRecord id) = .ok (some record) ∧
        (proveCoinIsOurs id expectedPuzzleHash proof what).exec oracle i = (.ok record, i + 1) := by
  cases h : oracle i (.coinRecord id) with
  | error e =>
      obtain ⟨reason, hread⟩ := readCoin_unanswered what h
      exact .inl ⟨⟨(i, id), by simp, e, h⟩, reason, Fallible.exec_bind_of_error hread⟩
  | ok found =>
      cases found with
      | none => exact absurd h hknown
      | some record =>
          have hnamed := names i id record h
          refine .inr ⟨record, rfl, proveCoinIsOurs_ok.2 ⟨rfl, h, hnamed, ?_⟩⟩
          rw [injective (hnamed.trans hname.symm), hhome]

omit [CoinHash] [Clvm] [DigRewards] in
theorem LeavesUnread.mono {reads reads' : List (Nat × Bytes32)} (h : LeavesUnread oracle reads)
    (hsub : reads ⊆ reads') : LeavesUnread oracle reads' := by
  obtain ⟨read, hmem, herror⟩ := h
  exact ⟨read, hsub hmem, herror⟩

omit [Clvm] in
theorem proveLaunchers_cases {record : PendingRewardDistributorRecord} {funding : CoinRecord}
    (names : NamesCoins oracle) (hmanager : judgeManager record = .ok ()) :
    (∃ e reason, oracle i (.coinRecord record.distributorLauncherId) = .error e ∧
        (proveLaunchersDescendFromTheFundingCoin record funding).exec oracle i =
          (.error (.chainUnreachable reason), i + 1)) ∨
      ∃ launcher, oracle i (.coinRecord record.distributorLauncherId) = .ok launcher ∧
        (proveLaunchersDescendFromTheFundingCoin record funding).exec oracle i =
          (walkFromLauncher record funding launcher).exec oracle (i + 1) := by
  cases hlauncher : oracle i (.coinRecord record.distributorLauncherId) with
  | error e =>
      obtain ⟨reason, hread⟩ := readCoin_unanswered launcherWhat hlauncher
      refine .inl ⟨e, reason, rfl, ?_⟩
      exact (Fallible.exec_bind_ofExcept hmanager).trans (Fallible.exec_bind_of_error hread)
  | ok launcher =>
      have hread := readCoin_answered launcherWhat names hlauncher
      refine .inr ⟨launcher, rfl, ?_⟩
      exact (Fallible.exec_bind_ofExcept hmanager).trans (Fallible.exec_bind_of_ok hread)

theorem resume_owned {minter : RewardDistributorMinter} (hashes : CollisionFree)
    (names : NamesCoins oracle) (live : minter.isLive)
    (home : minter.wallet.puzzleHash = launch.walletPuzzleHash) (hpushed : 0 < pushedAtHeight)
    (roundTrip : parseComment (displayComment launch.generation) = some launch.generation)
    (hfunding : oracle i (.coinRecord launch.fundingCoinId) ≠ .ok none)
    (hrewardCat : oracle (i + 1) (.coinRecord launch.rewardCatCoinId) ≠ .ok none) :
    (LeavesUnread oracle (launch.inputReads i) ∧ ∃ reason,
        (minter.resume (launch.pendingAt pushedAtHeight).toRecord).run oracle i =
          .error (.chainUnreachable reason)) ∨
      ∃ funding launcher, oracle i (.coinRecord launch.fundingCoinId) = .ok (some funding) ∧
        oracle (i + 2) (.coinRecord launch.distributorLauncherId) = .ok launcher ∧
        (minter.resume (launch.pendingAt pushedAtHeight).toRecord).run oracle i =
          (do
            walkFromLauncher (launch.pendingAt pushedAtHeight).toRecord funding launcher
            pure (launch.pendingAt pushedAtHeight) : ChainReads MintError _).run oracle
              (i + 3) := by
  have hwallet : minter.liveWalletKey = .ok minter.wallet := if_pos live
  have hparse := launch.record_consistent hashes hpushed roundTrip
  have hmanager : judgeManager (launch.pendingAt pushedAtHeight).toRecord = .ok () :=
    judgeManager_ok.2 launch.manager_named
  have hfundingNamed : coinId launch.funding =
      (launch.pendingAt pushedAtHeight).toRecord.fundingCoinId := launch.funding_named
  have hcatNamed : coinId launch.rewardCat =
      (launch.pendingAt pushedAtHeight).toRecord.rewardCatCoinId := launch.rewardCat_named
  have hcat : launch.rewardCat.puzzleHash = digCurriedPuzzleHash minter.wallet.puzzleHash := by
    rw [home, launch.rewardCat_home]
  simp only [← Fallible.fst_exec, RewardDistributorMinter.resume,
    Fallible.exec_bind_ofExcept hwallet, Fallible.exec_bind_ofExcept hparse]
  rcases proveCoinIsOurs_cases hashes.injective names hfundingNamed
    (launch.funding_home.trans home.symm) hfunding .fundingCoinIsThisAccounts
    "the funding coin" with
    ⟨hunread, reason, hexec⟩ | ⟨funding, hanswer, hexec⟩
  · refine .inl ⟨hunread.mono (launch.reads_funding i), reason, ?_⟩
    exact congrArg Prod.fst (Fallible.exec_bind_of_error hexec)
  · simp only [Fallible.exec_bind_of_ok hexec]
    rcases proveCoinIsOurs_cases hashes.injective names hcatNamed hcat hrewardCat
      .rewardCatCoinIsThisAccounts "the reward CAT coin" with
      ⟨hunread, reason, hexec'⟩ | ⟨rewardCat, -, hexec'⟩
    · refine .inl ⟨hunread.mono (launch.reads_rewardCat i), reason, ?_⟩
      exact congrArg Prod.fst (Fallible.exec_bind_of_error hexec')
    · simp only [Fallible.exec_bind_of_ok hexec']
      rcases proveLaunchers_cases names hmanager with
        ⟨e, reason, hlauncher, hwalk⟩ | ⟨launcher, hlauncher, hwalk⟩
      · refine .inl ⟨⟨(i + 2, launch.distributorLauncherId), ?_, e, hlauncher⟩, reason, ?_⟩
        · simp [RewardDistributorLaunch.inputReads]
        · exact congrArg Prod.fst (Fallible.exec_bind_of_error hwalk)
      · refine .inr ⟨funding, launcher, hanswer, hlauncher, ?_⟩
        exact congrArg Prod.fst (Fallible.exec_bind_congr hwalk)

omit [CoinHash] [Clvm] [DigRewards] in
theorem launcherAbsent_outcomes (record : PendingRewardDistributorRecord) (funding : CoinRecord) :
    (∃ detail, (launcherAbsent record funding).run oracle i = .error (unproven detail)) ∨
      funding.spentHeight ≠ none ∧
        ((∃ detail, (launcherAbsent record funding).run oracle i = .error (launchDead detail)) ∨
          ∃ reason, (launcherAbsent record funding).run oracle i =
            .error (.chainUnreachable reason)) := by
  rcases launcherAbsent_cases record funding oracle i with
    ⟨-, detail, hrun⟩ | ⟨spent, hspent, -, ⟨peak, -, hrun⟩ | ⟨-, reason, hrun⟩⟩
  · exact .inl ⟨detail, hrun⟩
  · rcases judgeBurial_cases record spent peak with ⟨-, detail, hverdict⟩ | ⟨-, detail, hverdict⟩
    · rw [hverdict] at hrun
      exact .inl ⟨detail, hrun⟩
    · rw [hverdict] at hrun
      exact .inr ⟨by simp [hspent], .inl ⟨detail, hrun⟩⟩
  · exact .inr ⟨by simp [hspent], .inr ⟨reason, hrun⟩⟩

theorem walkFromLauncher_owned (record : PendingRewardDistributorRecord) (funding : CoinRecord)
    {launcher : CoinRecord} (hashes : CollisionFree) (names : NamesCoins oracle)
    (hrecord : record.fundingCoinId = launch.fundingCoinId)
    (hname : coinId launcher.coin = launch.distributorLauncherId)
    (hconfirmed : launcher.confirmedHeight.isSome)
    (hsecurity : oracle i (.coinRecord (coinId launch.security)) ≠ .ok none) :
    (LeavesUnread oracle [(i, coinId launch.security)] ∧ ∃ reason,
        (walkFromLauncher record funding (some launcher)).exec oracle i =
          (.error (.chainUnreachable reason), i + 1)) ∨
      (walkFromLauncher record funding (some launcher)).exec oracle i = (.ok (), i + 1) := by
  have hcoin : launcher.coin = launch.launcher :=
    hashes.injective (hname.trans launch.launcher_named.symm)
  have hnot : ¬ launcher.confirmedHeight.isNone := by
    simpa [← Option.isSome_iff_ne_none] using hconfirmed
  simp only [walkFromLauncher, if_neg hnot, hcoin, launch.launcher_parent]
  cases hanswer : oracle i (.coinRecord (coinId launch.security)) with
  | error e =>
      obtain ⟨reason, hread⟩ := readCoin_unanswered securityWhat hanswer
      exact .inl ⟨⟨(i, _), by simp, e, hanswer⟩, reason, Fallible.exec_bind_of_error hread⟩
  | ok found =>
      cases found with
      | none => exact absurd hanswer hsecurity
      | some security =>
          have hread := readCoin_answered securityWhat names hanswer
          have hsame : security.coin = launch.security :=
            hashes.injective (names i _ security hanswer)
          have hjudge : judgeSecurity record (coinId launch.security) (some security) = .ok () :=
            judgeSecurity_ok.2 ⟨security, rfl, by rw [hsame, launch.security_parent, hrecord]⟩
          refine .inr ((Fallible.exec_bind_of_ok hread).trans ?_)
          rw [hjudge]
          rfl

end Walk

namespace HonestSource

variable [CoinHash] [Clvm] {chain : Chain} {schedule : Schedule}

def Validates (source : HonestSource chain schedule) : Prop :=
  ∀ i bundle, (source.answer i (.push bundle) = .ok .accepted ∨
      source.answer i (.push bundle) = .ok .alreadyInMempool) →
    ∀ coinSpend ∈ bundle.coinSpends, ¬ bundle.Spends coinSpend.coin.parentCoinInfo →
      confirmedHeight ((ledgerOf chain).take (schedule.moment i)) (coinId coinSpend.coin) ≠ none

theorem names (source : HonestSource chain schedule) : NamesCoins source.answer :=
  fun _ _ _ h => (source.recorded h).1

theorem known (source : HonestSource chain schedule) {i j : Nat} {id : Bytes32} (hle : j ≤ i)
    (h : confirmedHeight ((ledgerOf chain).take (schedule.moment j)) id ≠ none) :
    source.answer i (.coinRecord id) ≠ .ok none :=
  fun habsent => confirmed_mono (schedule.forward hle) h (source.absent habsent)

end HonestSource

namespace RewardDistributorLaunch

variable [CoinHash] [Clvm] [DigRewards] {launch : RewardDistributorLaunch} {chain : Chain}
  {schedule : Schedule} {pending : PendingRewardDistributor} {i j : Nat}

theorem inputs_confirmed {source : HonestSource chain schedule} (validates : source.Validates)
    (submitted : launch.submit.run source.answer j = .ok pending) {id : Bytes32}
    (hinput : id = launch.fundingCoinId ∨ id = launch.rewardCatCoinId) :
    confirmedHeight ((ledgerOf chain).take (schedule.moment (j + 1))) id ≠ none := by
  obtain ⟨root, hmem, rfl, hroot⟩ := (launch.roots id).2 hinput
  exact validates (j + 1) launch.bundle
    (SignedRewardDistributorMint.submit_taken submitted) root hmem hroot

theorem resume_outcomes {minter : RewardDistributorMinter} {source : HonestSource chain schedule}
    {pushedAtHeight : Nat} (hashes : CollisionFree) (parented : ParentedChain chain)
    (live : minter.isLive) (home : minter.wallet.puzzleHash = launch.walletPuzzleHash)
    (hpushed : 0 < pushedAtHeight)
    (roundTrip : parseComment (displayComment launch.generation) = some launch.generation)
    (hfunding : source.answer i (.coinRecord launch.fundingCoinId) ≠ .ok none)
    (hrewardCat : source.answer (i + 1) (.coinRecord launch.rewardCatCoinId) ≠ .ok none) :
    (LeavesUnread source.answer (launch.inputReads i ++ [(i + 3, coinId launch.security)]) ∧
      ∃ reason, (minter.resume (launch.pendingAt pushedAtHeight).toRecord).run source.answer i =
        .error (.chainUnreachable reason)) ∨
      (confirmedHeight ((ledgerOf chain).take (schedule.moment (i + 2)))
          launch.distributorLauncherId = none ∧
        ((∃ detail, (minter.resume (launch.pendingAt pushedAtHeight).toRecord).run source.answer
            i = .error (unproven detail)) ∨
          spentHeight ((ledgerOf chain).take (schedule.moment i)) launch.fundingCoinId ≠ none ∧
            ((∃ detail, (minter.resume (launch.pendingAt pushedAtHeight).toRecord).run
                source.answer i = .error (launchDead detail)) ∨
              ∃ reason, (minter.resume (launch.pendingAt pushedAtHeight).toRecord).run
                source.answer i = .error (.chainUnreachable reason)))) ∨
      (confirmedHeight ((ledgerOf chain).take (schedule.moment (i + 2)))
          launch.distributorLauncherId ≠ none ∧
        (minter.resume (launch.pendingAt pushedAtHeight).toRecord).run source.answer i =
          .ok (launch.pendingAt pushedAtHeight)) := by
  rcases resume_owned hashes source.names live home hpushed roundTrip hfunding hrewardCat with
    ⟨hunread, hreason⟩ | ⟨funding, launcher, hfound, hlauncher, hrun⟩
  · exact .inl ⟨hunread.mono (List.subset_append_left ..), hreason⟩
  · rw [hrun]
    have hspent := (source.recorded hfound).2.2
    cases launcher with
    | none =>
        refine .inr (.inl ⟨source.absent hlauncher, ?_⟩)
        rw [← hspent]
        rcases launcherAbsent_outcomes (launch.pendingAt pushedAtHeight).toRecord funding with
          ⟨detail, hwalk⟩ | ⟨hgone, ⟨detail, hwalk⟩ | ⟨reason, hwalk⟩⟩
        · exact .inl ⟨detail, Fallible.run_bind_of_error hwalk⟩
        · exact .inr ⟨hgone, .inl ⟨detail, Fallible.run_bind_of_error hwalk⟩⟩
        · exact .inr ⟨hgone, .inr ⟨reason, Fallible.run_bind_of_error hwalk⟩⟩
    | some record =>
        obtain ⟨hname, hheight, -⟩ := source.recorded hlauncher
        cases hconfirmed : record.confirmedHeight with
        | none =>
            refine .inr (.inl ⟨hheight.symm.trans hconfirmed, .inl ?_⟩)
            simp only [walkFromLauncher, hconfirmed, Option.isNone_none, if_true]
            exact ⟨_, rfl⟩
        | some height =>
            have hon : confirmedHeight ((ledgerOf chain).take (schedule.moment (i + 2)))
                launch.distributorLauncherId ≠ none := by
              rw [← hheight, hconfirmed]
              exact Option.some_ne_none height
            have hsecurity := parented.parent_confirmed hashes.injective launch.launcher_parent
              (by rwa [launch.launcher_named])
            rcases walkFromLauncher_owned (launch.pendingAt pushedAtHeight).toRecord funding
              hashes source.names rfl hname (by rw [hconfirmed]; rfl)
              (source.known (Nat.le_succ (i + 2)) hsecurity) with
              ⟨hunread, reason, hwalk⟩ | hwalk
            · refine .inl ⟨hunread.mono (List.subset_append_right ..), reason, ?_⟩
              exact congrArg Prod.fst (Fallible.exec_bind_of_error hwalk)
            · exact .inr (.inr ⟨hon, congrArg Prod.fst (Fallible.exec_bind_of_ok hwalk)⟩)

omit [CoinHash] [Clvm] [DigRewards] in
theorem not_accused {verdict : Except MintError PendingRewardDistributor}
    (h : (∃ detail, verdict = .error (unproven detail)) ∨
      (∃ detail, verdict = .error (launchDead detail)) ∨
        ∃ reason, verdict = .error (.chainUnreachable reason)) :
    (∀ field detail, verdict ≠ .error (malformed field detail)) ∧
      ∀ proof detail, verdict ≠ .error (notYours proof detail) := by
  rcases h with ⟨_, rfl⟩ | ⟨_, rfl⟩ | ⟨_, rfl⟩
  · exact ⟨fun field detail h => (by cases h), fun proof detail h => (by cases h)⟩
  · exact ⟨fun field detail h => (by cases h), fun proof detail h => (by cases h)⟩
  · exact ⟨fun field detail h => (by cases h), fun proof detail h => (by cases h)⟩

theorem resume_returns_own {minter : RewardDistributorMinter}
    {source : HonestSource chain schedule} (hashes : CollisionFree) (honest : HonestChain chain)
    (parented : ParentedChain chain) (validates : source.Validates)
    (roundTrip : parseComment (displayComment launch.generation) = some launch.generation)
    (submitted : launch.submit.run source.answer j = .ok pending)
    (pushed : 0 < pending.pushedAtHeight) (later : j + 2 ≤ i) (live : minter.isLive)
    (home : minter.wallet.puzzleHash = launch.walletPuzzleHash) :
    (∀ field detail, (minter.resume pending.toRecord).run source.answer i ≠
        .error (malformed field detail)) ∧
      (∀ proof detail, (minter.resume pending.toRecord).run source.answer i ≠
        .error (notYours proof detail)) ∧
      ((∀ k id, i ≤ k → ∃ found, source.answer k (.coinRecord id) = .ok found) →
        (confirmedHeight ((ledgerOf chain).take (schedule.moment (i + 2)))
            launch.distributorLauncherId = none →
          spentHeight ((ledgerOf chain).take (schedule.moment i)) launch.fundingCoinId = none →
          ∃ detail, (minter.resume pending.toRecord).run source.answer i =
            .error (unproven detail)) ∧
        ∀ height, Includes chain launch.bundle height → height < schedule.moment (i + 2) →
          (minter.resume pending.toRecord).run source.answer i = .ok pending) := by
  have hfunding := source.known (i := i) (by omega)
    (inputs_confirmed validates submitted (.inl rfl))
  have hrewardCat := source.known (i := i + 1) (by omega)
    (inputs_confirmed validates submitted (.inr rfl))
  obtain ⟨peak, -, rfl⟩ := SignedRewardDistributorMint.submit_ok submitted
  have hread : (∀ k id, i ≤ k → ∃ found, source.answer k (.coinRecord id) = .ok found) →
      ¬ LeavesUnread source.answer (launch.inputReads i ++ [(i + 3, coinId launch.security)]) := by
    rintro hanswered ⟨⟨k, id⟩, hmem, e, herror⟩
    have hk : i ≤ k := by
      simp only [inputReads, List.cons_append, List.nil_append, List.mem_cons, Prod.mk.injEq,
        List.not_mem_nil, or_false] at hmem
      omega
    obtain ⟨found, hfound⟩ := hanswered k id hk
    cases herror.symm.trans hfound
  have hpushed : 0 < peak := pushed
  rcases resume_outcomes hashes parented live home hpushed roundTrip hfunding hrewardCat with
    ⟨hunread, reason, hrun⟩ | ⟨hunconfirmed, hverdict⟩ | ⟨hconfirmed, hrun⟩
  · obtain ⟨hmalformed, hnotYours⟩ := not_accused (.inr (.inr ⟨reason, hrun⟩))
    exact ⟨hmalformed, hnotYours, fun hanswered => absurd hunread (hread hanswered)⟩
  · obtain ⟨hmalformed, hnotYours⟩ := not_accused (hverdict.imp_right And.right)
    refine ⟨hmalformed, hnotYours, fun _ => ⟨fun _ hunspent => ?_, fun height included hlt => ?_⟩⟩
    · rcases hverdict with hunproven | ⟨hspent, -⟩
      · exact hunproven
      · exact absurd hunspent hspent
    · have hseen := SignedRewardDistributorMint.launcher_confirmed honest included
        (schedule.moment (i + 2))
      rw [if_pos hlt, hunconfirmed] at hseen
      cases hseen
  · rw [hrun]
    refine ⟨fun field detail h => (by cases h), fun proof detail h => (by cases h), ?_⟩
    exact fun _ => ⟨fun hunconfirmed => absurd hunconfirmed hconfirmed, fun _ _ _ => rfl⟩

end RewardDistributorLaunch

section Example

theorem pairHash_collisionFree : letI := pairHash; letI := deskRewards; CollisionFree := by
  let _ := pairHash
  let _ := deskRewards
  refine ⟨pairHash_injective, fun coin => Nat.succ_ne_zero _, fun assetId p2PuzzleHash h => ?_⟩
  exact absurd h (Nat.ne_of_gt (Nat.lt_succ_of_le (Nat.le_add_left p2PuzzleHash assetId)))

def deskSettlement : Coin := letI := pairHash; letI := deskRewards
  offeredXchSettlementCoin (coinId deskFunding)

@[reducible] def deskClvm : Clvm where
  additions coinSpend := letI := pairHash; letI := deskRewards
    if coinSpend.coin = deskFunding then
      [deskSettlement, managerLauncherCoin (coinId deskFunding)]
    else if coinSpend.coin = deskSettlement then [deskSecurity]
    else if coinSpend.coin = deskSecurity then [deskLauncher]
    else []
  recreation _ := none
  advertisedDistributor _ launcherId := some ⟨launcherId, ⟨7, 8⟩⟩
  didState id := ⟨namedCoin id, id, 0⟩

def deskBundle : SpendBundle :=
  ⟨[⟨deskFunding, [], []⟩, ⟨deskRewardCat, [], []⟩, ⟨deskSettlement, [], []⟩,
    ⟨deskSecurity, [], []⟩], []⟩

theorem deskBundle_roots : letI := pairHash; letI := deskClvm
    ∀ coinSpend ∈ deskBundle.coinSpends, ¬ deskBundle.Spends coinSpend.coin.parentCoinInfo →
      coinId coinSpend.coin = deskPending.fundingCoinId ∨
        coinId coinSpend.coin = deskPending.rewardCatCoinId := by
  decide +kernel

def deskLaunch : letI := pairHash; letI := deskClvm; letI := deskRewards;
    RewardDistributorLaunch :=
  letI := pairHash
  letI := deskClvm
  letI := deskRewards
  { bundle := deskBundle
    distributorLauncherId := deskPending.distributorLauncherId
    managerLauncherId := deskPending.managerLauncherId
    fundingCoinId := deskPending.fundingCoinId
    rewardCatCoinId := deskPending.rewardCatCoinId
    generation := deskPending.generation
    spends_funding := by decide +kernel
    spends_rewardCat := by decide +kernel
    launches := by decide +kernel
    walletPuzzleHash := 4
    funding := deskFunding
    rewardCat := deskRewardCat
    security := deskSecurity
    launcher := deskLauncher
    funding_named := rfl
    funding_home := rfl
    rewardCat_named := rfl
    rewardCat_home := rfl
    manager_named := rfl
    launcher_named := rfl
    launcher_parent := rfl
    security_parent := rfl
    spends_security := by decide +kernel
    spends_settlement := by decide +kernel
    roots := by
      intro id
      constructor
      · rintro ⟨coinSpend, hmem, rfl, hroot⟩
        exact deskBundle_roots coinSpend hmem hroot
      · rintro (rfl | rfl)
        · exact ⟨⟨deskFunding, [], []⟩, by decide +kernel⟩
        · exact ⟨⟨deskRewardCat, [], []⟩, by decide +kernel⟩ }

def deskChain : Chain :=
  [⟨[deskFunding, deskRewardCat], []⟩, ⟨[], deskBundle.coinSpends⟩]

theorem deskChain_honest : letI := pairHash; letI := deskClvm; HonestChain deskChain := by
  let _ := pairHash
  let _ := deskClvm
  exact FreshChain.honest (by decide +kernel)

theorem pairHash_unparented {reward : Coin} (h : reward.parentCoinInfo = 0) (coin : Coin) :
    letI := pairHash; reward.parentCoinInfo ≠ coinId coin := by
  rw [h]
  exact (Nat.succ_ne_zero _).symm

theorem deskChain_parented : letI := pairHash; letI := deskClvm; ParentedChain deskChain := by
  let _ := pairHash
  let _ := deskClvm
  have hzero : ∀ block ∈ deskChain, ∀ reward ∈ block.rewards, reward.parentCoinInfo = 0 := by
    decide +kernel
  refine .of_take (by decide +kernel) (fun block hblock reward hreward => ?_) (by decide +kernel)
  exact pairHash_unparented (hzero block hblock reward hreward)

def deskIndex : NodeIndex where
  coin id :=
    let paired := (id - 1).unpair
    ⟨paired.1.unpair.1, paired.1.unpair.2, paired.2⟩
  slots _ _ := []
  launcherOf _ := 0
  outcome bundle := if bundle = deskBundle then .ok .accepted else .error "no mempool answered"
  rejects := true

def deskSource : letI := pairHash; letI := deskClvm; HonestSource deskChain straddling :=
  letI := pairHash
  letI := deskClvm
  .node deskIndex deskChain straddling

theorem deskInputs_confirmed : letI := pairHash; letI := deskClvm
    ∀ n ∈ [1, 2], ∀ coinSpend ∈ deskBundle.coinSpends,
      ¬ deskBundle.Spends coinSpend.coin.parentCoinInfo →
        confirmedHeight (ledgerOf (deskChain.take n)) (coinId coinSpend.coin) ≠ none := by
  decide +kernel

theorem deskSource_validates : letI := pairHash; letI := deskClvm; deskSource.Validates := by
  let _ := pairHash
  let _ := deskClvm
  intro i bundle htaken
  have hbundle : bundle = deskBundle := by
    by_contra hother
    have hanswer : deskSource.answer i (.push bundle) =
        deskIndex.submit (deskChain.take (straddling.moment i)) bundle := rfl
    rw [hanswer, NodeIndex.submit, show deskIndex.outcome bundle = .error "no mempool answered" from
      if_neg hother] at htaken
    split at htaken
    · simp at htaken
    · simp [deskIndex] at htaken
  subst hbundle
  rw [← ledgerOf_take]
  apply deskInputs_confirmed
  by_cases hearly : i ≤ 1
  · simp [straddling, hearly]
  · simp [straddling, hearly]

theorem deskIndex_records (snapshot : Chain) (id : Bytes32) :
    letI := pairHash
    letI := deskClvm
    deskIndex.record snapshot 0 = .ok none →
      ∃ found, deskIndex.record snapshot id = .ok found := by
  let _ := pairHash
  let _ := deskClvm
  intro hzero
  cases id with
  | zero => exact ⟨none, hzero⟩
  | succ n =>
      have hname : coinId (deskIndex.coin (n + 1)) = n + 1 := by
        apply congrArg Nat.succ
        simp [deskIndex, Nat.pair_unpair]
      obtain ⟨found, hfound, -⟩ := NodeIndex.record_eq snapshot hname
      exact ⟨found, hfound⟩

theorem deskSource_answers (k : Nat) (id : Bytes32) (hk : 2 ≤ k) :
    letI := pairHash
    letI := deskClvm
    ∃ found, deskSource.answer k (.coinRecord id) = .ok found := by
  let _ := pairHash
  let _ := deskClvm
  have hmoment : straddling.moment k = 2 := if_neg (by omega)
  have hrecord := deskIndex_records deskChain id (by decide +kernel)
  simp only [deskSource, HonestSource.node, hmoment]
  exact hrecord

theorem resume_returns_own_desk :
    letI := pairHash
    letI := deskClvm
    letI := deskRewards
    deskLaunch.submit.run deskSource.answer 0 = .ok deskPending ∧
      (deskMinter.resume deskPending.toRecord).run deskSource.answer 2 = .ok deskPending := by
  let _ := pairHash
  let _ := deskClvm
  let _ := deskRewards
  have submitted : deskLaunch.submit.run deskSource.answer 0 = .ok deskPending := by
    decide +kernel
  have included : Includes deskChain deskLaunch.bundle 1 :=
    ⟨⟨[], deskBundle.coinSpends⟩, rfl, List.Subset.refl _⟩
  have live : deskMinter.isLive := rfl
  have hresumed := RewardDistributorLaunch.resume_returns_own (i := 2) pairHash_collisionFree
    deskChain_honest deskChain_parented deskSource_validates (by decide) submitted (by decide)
    (by decide) live rfl
  exact ⟨submitted, (hresumed.2.2 deskSource_answers).2 1 included (by decide)⟩

end Example

end DigAccount
