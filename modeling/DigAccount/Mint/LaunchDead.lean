import DigAccount.Chain.Reorganised
import DigAccount.Mint.Launch

namespace DigAccount

open Ledger Validator

def MintError.Spares (e : MintError) : Prop := ∀ detail, e ≠ launchDead detail

theorem MintError.spares_chainUnreachable (reason : String) :
    (MintError.chainUnreachable reason).Spares := by
  intro detail h
  cases h

theorem MintError.spares_malformed (field : RecordField) (detail : String) :
    (malformed field detail).Spares := by
  intro detail h
  cases h

theorem MintError.spares_notYours (proof : OwnershipProof) (detail : String) :
    (notYours proof detail).Spares := by
  intro detail h
  cases h

theorem MintError.spares_unproven (detail : String) : (unproven detail).Spares := by
  intro detail h
  cases h

section Refusals

variable [CoinHash] [DigRewards] {record : PendingRewardDistributorRecord} {oracle : Oracle}
  {i k : Nat} {id expectedPuzzleHash : Bytes32} {what : String} {proof : OwnershipProof}

omit [CoinHash] in
theorem parseConsistentRecord_spares :
    RefusesWith MintError.Spares (parseConsistentRecord record) := by
  rw [parseConsistentRecord]
  refine (refusesWith_each (fun named => ?_) _).bind fun _ => ?_
  · exact refusesWith_refuseWhen (MintError.spares_malformed _ _)
  refine (refusesWith_refuseWhen (MintError.spares_malformed _ _)).bind fun _ => ?_
  refine (refusesWith_refuseWhen (MintError.spares_malformed _ _)).bind fun _ => ?_
  refine (refusesWith_refuseWhen (MintError.spares_malformed _ _)).bind fun _ => ?_
  split
  · exact refusesWith_ok
  · exact refusesWith_error (MintError.spares_malformed _ _)

omit [DigRewards] in
theorem answered_spares {found : Option CoinRecord} :
    RefusesWith MintError.Spares (answered id what found) := by
  cases found with
  | none => exact refusesWith_ok
  | some coinRecord =>
      by_cases hname : coinId coinRecord.coin = id
      · simp [answered, hname, refusesWith_ok]
      · simp only [answered, hname, ne_eq, not_false_eq_true, if_true]
        exact refusesWith_error (MintError.spares_chainUnreachable _)

omit [CoinHash] [DigRewards] in
theorem ours_spares {found : Option CoinRecord} :
    RefusesWith MintError.Spares (ours id expectedPuzzleHash proof what found) := by
  cases found with
  | none => exact refusesWith_error (MintError.spares_notYours _ _)
  | some coinRecord =>
      by_cases hhome : coinRecord.coin.puzzleHash = expectedPuzzleHash
      · simp [ours, hhome, refusesWith_ok]
      · simp only [ours, hhome, ne_eq, not_false_eq_true, if_true]
        exact refusesWith_error (MintError.spares_notYours _ _)

theorem judgeManager_spares : RefusesWith MintError.Spares (judgeManager record) :=
  refusesWith_refuseWhen (MintError.spares_notYours _ _)

theorem judgeSecurity_spares {security : Option CoinRecord} :
    RefusesWith MintError.Spares (judgeSecurity record id security) := by
  cases security with
  | none => exact refusesWith_error (MintError.spares_notYours _ _)
  | some coinRecord => exact refusesWith_refuseWhen (MintError.spares_notYours _ _)

omit [DigRewards] in
theorem readCoin_spares {e : MintError}
    (h : (readCoin id what).exec oracle i = (.error e, k)) : e.Spares := by
  rcases Fallible.exec_bind_eq_error.1 h with hread | ⟨found, m, -, hanswered⟩
  · rw [exec_readCoinRecord, Prod.mk.injEq, Fallible.mapError_eq_error] at hread
    obtain ⟨⟨reason, -, rfl⟩, -⟩ := hread
    exact MintError.spares_chainUnreachable _
  · exact answered_spares e (Prod.mk.inj hanswered).1

omit [DigRewards] in
theorem proveCoinIsOurs_spares {e : MintError}
    (h : (proveCoinIsOurs id expectedPuzzleHash proof what).exec oracle i = (.error e, k)) :
    e.Spares := by
  rcases Fallible.exec_bind_eq_error.1 h with hread | ⟨found, m, -, hours⟩
  · exact readCoin_spares hread
  · exact ours_spares e (Prod.mk.inj hours).1

theorem walkFromLauncher_dead {funding : CoinRecord} {launcher : Option CoinRecord}
    {detail : String} (h : (walkFromLauncher record funding launcher).exec oracle i =
      (.error (launchDead detail), k)) :
    launcher = none ∧ ∃ spent peak, funding.spentHeight = some spent ∧
      unusableSpendHeight funding spent = none ∧ oracle i .peakHeight = .ok (some peak) ∧
      minConfirmationDepth ≤ depthOf peak spent := by
  cases launcher with
  | none =>
      refine ⟨rfl, ?_⟩
      have hrun := (Prod.mk.inj h).1
      rcases launcherAbsent_cases record funding oracle i with
        ⟨-, reason, hother⟩ | ⟨spent, hspent, husable, ⟨peak, hpeak, hother⟩ | ⟨-, reason, hother⟩⟩
      · exact absurd (Except.error.inj (hrun.symm.trans hother)).symm
          (MintError.spares_unproven reason detail)
      · refine ⟨spent, peak, hspent, husable, hpeak, ?_⟩
        have hverdict := Except.error.inj (hrun.symm.trans hother)
        rcases judgeBurial_cases record spent peak with ⟨-, reason, hshallow⟩ | ⟨hdeep, -⟩
        · exact absurd (hverdict.trans hshallow).symm (MintError.spares_unproven reason detail)
        · exact hdeep
      · exact absurd (Except.error.inj (hrun.symm.trans hother)).symm
          (MintError.spares_chainUnreachable reason detail)
  | some found =>
      cases hheight : found.confirmedHeight with
      | none =>
          simp only [walkFromLauncher, hheight, Option.isNone_none, if_true] at h
          exact absurd (Except.error.inj (Prod.mk.inj h).1) (MintError.spares_unproven _ detail)
      | some height =>
          simp only [walkFromLauncher, hheight, Option.isNone_some, Bool.false_eq_true,
            if_false] at h
          rcases Fallible.exec_bind_eq_error.1 h with hread | ⟨answer, m, -, hjudge⟩
          · exact absurd rfl (readCoin_spares hread detail)
          · exact absurd rfl (judgeSecurity_spares _ (Prod.mk.inj hjudge).1 detail)

theorem resume_dead {minter : RewardDistributorMinter} {detail : String}
    (h : (minter.resume record).run oracle i = .error (launchDead detail)) :
    minter.isLive ∧ record.pushedAtHeight ≠ 0 ∧ ∃ funding spent peak,
      oracle i (.coinRecord record.fundingCoinId) = .ok (some funding) ∧
      coinId funding.coin = record.fundingCoinId ∧
      funding.coin.puzzleHash = minter.wallet.puzzleHash ∧
      oracle (i + 2) (.coinRecord record.distributorLauncherId) = .ok none ∧
      funding.spentHeight = some spent ∧ unusableSpendHeight funding spent = none ∧
      oracle (i + 3) .peakHeight = .ok (some peak) ∧
      minConfirmationDepth ≤ depthOf peak spent := by
  have hexec : (minter.resume record).exec oracle i = (.error (launchDead detail), _) :=
    Prod.ext h rfl
  rw [RewardDistributorMinter.resume] at hexec
  rcases Fallible.exec_bind_eq_error.1 hexec with hlocked | ⟨wallet, m, hwallet, hexec⟩
  · have hkey : minter.liveWalletKey = .error (launchDead detail) := (Prod.mk.inj hlocked).1
    rw [RewardDistributorMinter.liveWalletKey] at hkey
    split at hkey
    · cases hkey
    · cases hkey
  obtain ⟨hkey, rfl⟩ := Prod.mk.inj hwallet
  obtain ⟨hlive, rfl⟩ := RewardDistributorMinter.liveWalletKey_ok.1 hkey
  rcases Fallible.exec_bind_eq_error.1 hexec with hparse | ⟨generation, m, hparse, hexec⟩
  · exact absurd rfl (parseConsistentRecord_spares _ (Prod.mk.inj hparse).1 detail)
  obtain ⟨hparsed, rfl⟩ := Prod.mk.inj hparse
  obtain ⟨-, -, -, hpushed, -⟩ := parseConsistentRecord_ok.1 hparsed
  rcases Fallible.exec_bind_eq_error.1 hexec with hours | ⟨funding, m, hours, hexec⟩
  · exact absurd rfl (proveCoinIsOurs_spares hours detail)
  obtain ⟨rfl, hfunding, hnamed, hhome⟩ := proveCoinIsOurs_ok.1 hours
  rcases Fallible.exec_bind_eq_error.1 hexec with hcat | ⟨rewardCat, m, hcat, hexec⟩
  · exact absurd rfl (proveCoinIsOurs_spares hcat detail)
  obtain ⟨rfl, -⟩ := proveCoinIsOurs_ok.1 hcat
  rcases Fallible.exec_bind_eq_error.1 hexec with hprove | ⟨u, m, -, hpending⟩
  · rcases Fallible.exec_bind_eq_error.1 hprove with hmanager | ⟨u, m, hmanager, hwalk⟩
    · exact absurd rfl (judgeManager_spares _ (Prod.mk.inj hmanager).1 detail)
    obtain ⟨-, rfl⟩ := Prod.mk.inj hmanager
    rcases Fallible.exec_bind_eq_error.1 hwalk with hread | ⟨launcher, m, hread, hwalk⟩
    · exact absurd rfl (readCoin_spares hread detail)
    obtain ⟨rfl, hlauncher, -⟩ := readCoin_ok.1 hread
    obtain ⟨rfl, spent, peak, hspent, husable, hpeak, hdeep⟩ := walkFromLauncher_dead hwalk
    exact ⟨hlive, hpushed, funding, spent, peak, hfunding, hnamed, hhome, hlauncher, hspent,
      husable, hpeak, hdeep⟩
  · cases (Prod.mk.inj hpending).1

end Refusals

section Final

variable [CoinHash] [Clvm] [DigRewards] {history : History} {launch : RewardDistributorLaunch}
  {minter : RewardDistributorMinter} {i pushedAtHeight spent : Nat}

structure LooksDead (history : History) (i : Nat) (launch : RewardDistributorLaunch)
    (spent : Nat) : Prop where
  placed : ∃ createdAt, createdAt ≠ 0 ∧ createdAt ≤ spent ∧
    confirmedHeight (ledgerOf (history.snapshot i)) launch.fundingCoinId = some createdAt
  spent_at : spentHeight (ledgerOf (history.snapshot i)) launch.fundingCoinId = some spent
  absent : confirmedHeight (ledgerOf (history.snapshot (i + 2))) launch.distributorLauncherId = none
  outlived : minConfirmationDepth ≤ depthOf (history.snapshot (i + 3)).length spent

structure OwnRecord (minter : RewardDistributorMinter) (launch : RewardDistributorLaunch)
    (pushedAtHeight : Nat) : Prop where
  live : minter.isLive
  home : minter.wallet.puzzleHash = launch.walletPuzzleHash
  pushed : 0 < pushedAtHeight

def DeepWhenAbsent (history : History) (i : Nat) (launch : RewardDistributorLaunch) : Prop :=
  ∃ height, spentHeight (ledgerOf (history.snapshot (i + 2))) launch.fundingCoinId = some height ∧
    height + minConfirmationDepth ≤ (history.snapshot (i + 2)).length

omit [CoinHash] [Clvm] [DigRewards] in
theorem unusableSpendHeight_none (funding : CoinRecord) (spent : Nat) :
    unusableSpendHeight funding spent = none ↔
      ∃ createdAt, createdAt ≠ 0 ∧ createdAt ≤ spent ∧
        funding.confirmedHeight = some createdAt := by
  rw [unusableSpendHeight]
  cases hcreated : funding.confirmedHeight with
  | none => simp
  | some createdAt =>
      by_cases hgenesis : createdAt = 0
      · simp [hgenesis]
      · by_cases hpredates : spent < createdAt
        · simp [hgenesis, hpredates, Nat.not_le.2 hpredates]
        · simp [hgenesis, hpredates, Nat.le_of_not_lt hpredates]

omit [DigRewards] in
theorem TruthfulSource.names (source : TruthfulSource history) : NamesCoins source.answer :=
  fun _ _ _ h => (source.recorded h).1

theorem looksDead_of_resume {source : TruthfulSource history} {detail : String}
    (hashes : CollisionFree)
    (h : (minter.resume (launch.pendingAt pushedAtHeight).toRecord).run source.answer i =
      .error (launchDead detail)) :
    OwnRecord minter launch pushedAtHeight ∧ ∃ spent, LooksDead history i launch spent := by
  obtain ⟨hlive, hpushed, funding, spent, peak, hfunding, hnamed, hhome, hlauncher, hspent,
    husable, hpeak, hdeep⟩ := resume_dead h
  have hcoin : funding.coin = launch.funding :=
    hashes.injective (hnamed.trans launch.funding_named.symm)
  rw [hcoin, launch.funding_home] at hhome
  refine ⟨⟨hlive, hhome.symm, Nat.pos_of_ne_zero hpushed⟩, ?_⟩
  obtain ⟨-, hplaced, hspentAt⟩ := source.recorded hfunding
  obtain ⟨createdAt, hgenesis, hle, hcreated⟩ := (unusableSpendHeight_none _ _).1 husable
  refine ⟨spent, ⟨createdAt, hgenesis, hle, hplaced.symm.trans hcreated⟩,
    hspentAt.symm.trans hspent, source.absent hlauncher, hdeep.trans (depthOf_mono ?_ spent)⟩
  rcases source.peaked hpeak with hlength | hlength
  · exact hlength.le
  · omega

theorem RewardDistributorLaunch.sighted_funding (launch : RewardDistributorLaunch) :
    [launch.funding, launch.rewardCat].find? (fun coin => coinId coin = launch.fundingCoinId) =
      some launch.funding := by
  simp [launch.funding_named]

theorem RewardDistributorLaunch.sighted_rewardCat (hashes : CollisionFree)
    (launch : RewardDistributorLaunch) :
    [launch.funding, launch.rewardCat].find? (fun coin => coinId coin = launch.rewardCatCoinId) =
      some launch.rewardCat := by
  simp [launch.funding_named, launch.rewardCat_named, launch.inputs_differ hashes]

theorem RewardDistributorLaunch.unsighted_launcher (hashes : CollisionFree)
    (launch : RewardDistributorLaunch) :
    [launch.funding, launch.rewardCat].find?
      (fun coin => coinId coin = launch.distributorLauncherId) = none := by
  simp [launch.funding_named, launch.rewardCat_named,
    launch.launcher_ne_input hashes (.inl rfl), launch.launcher_ne_input hashes (.inr rfl)]

theorem resume_of_looksDead (hashes : CollisionFree)
    (own : OwnRecord minter launch pushedAtHeight)
    (roundTrip : parseComment (displayComment launch.generation) = some launch.generation)
    (dead : LooksDead history i launch spent) :
    ∃ source : TruthfulSource history, ∃ detail,
      (minter.resume (launch.pendingAt pushedAtHeight).toRecord).run source.answer i =
        .error (launchDead detail) := by
  have hfundingRead := TruthfulSource.sightings_seen history i launch.sighted_funding
  have hcatRead := TruthfulSource.sightings_seen history (i + 1)
    (launch.sighted_rewardCat hashes)
  have hlauncherRead := TruthfulSource.sightings_unseen (launch.unsighted_launcher hashes)
    dead.absent
  refine ⟨.sightings [launch.funding, launch.rewardCat] history, ?_⟩
  rcases resume_owned hashes (TruthfulSource.names _) own.live own.home own.pushed roundTrip
    (by rw [hfundingRead]; simp) (by rw [hcatRead]; simp) with
    ⟨⟨read, hmem, e, herror⟩, -⟩ | ⟨funding, launcher, hfunding, hlauncher, hrun⟩
  · simp only [RewardDistributorLaunch.inputReads, List.mem_cons, List.not_mem_nil,
      or_false] at hmem
    rcases hmem with rfl | rfl | rfl
    · cases hfundingRead.symm.trans herror
    · cases hcatRead.symm.trans herror
    · cases hlauncherRead.symm.trans herror
  · cases Except.ok.inj (hlauncherRead.symm.trans hlauncher)
    obtain ⟨-, hplaced, hspentAt⟩ :=
      TruthfulSource.recorded (.sightings [launch.funding, launch.rewardCat] history) hfunding
    have hspent := hspentAt.trans dead.spent_at
    obtain ⟨createdAt, hgenesis, hle, hcreated⟩ := dead.placed
    have husable := (unusableSpendHeight_none funding spent).2
      ⟨createdAt, hgenesis, hle, hplaced.trans hcreated⟩
    rw [hrun]
    rcases launcherAbsent_cases (launch.pendingAt pushedAtHeight).toRecord funding
      (TruthfulSource.sightings [launch.funding, launch.rewardCat] history).answer (i + 3) with
      ⟨hunusable, -⟩ | ⟨s, hs, -, ⟨peak, hpeak, hwalk⟩ | ⟨hunpeaked, -⟩⟩
    · exact absurd husable (hunusable spent hspent)
    · cases hs.symm.trans hspent
      cases Except.ok.inj hpeak
      rcases judgeBurial_cases (launch.pendingAt pushedAtHeight).toRecord spent
        (history.snapshot (i + 3)).length with ⟨hshallow, -⟩ | ⟨-, detail, hverdict⟩
      · exact absurd dead.outlived (Nat.not_le.2 hshallow)
      · rw [hverdict] at hwalk
        exact ⟨detail, Fallible.run_bind_of_error hwalk⟩
    · exact absurd rfl (hunpeaked _)

theorem spentForGood_iff (launch : RewardDistributorLaunch)
    (absent : confirmedHeight (ledgerOf (history.snapshot (i + 2)))
      launch.distributorLauncherId = none) :
    (∃ height, SpentForGood (history.snapshot (i + 2)) launch.bundle launch.fundingCoinId
      height) ↔ DeepWhenAbsent history i launch := by
  have honest := history.honest (i + 2)
  constructor
  · rintro ⟨height, hfinal⟩
    exact ⟨height, hfinal.spent, hfinal.deep honest⟩
  · rintro ⟨height, hspent, hdeep⟩
    refine ⟨height, spentForGood_of_deep honest hspent hdeep launch.spends_funding ?_⟩
    intro h included
    have hseen := SignedRewardDistributorMint.launcher_confirmed honest included
      (history.snapshot (i + 2)).length
    obtain ⟨block, hblock, -⟩ := included
    rw [if_pos (List.getElem?_eq_some_iff.1 hblock).1, ← ledgerOf_take, List.take_length,
      absent] at hseen
    cases hseen

theorem launchDead_final_iff (hashes : CollisionFree) (history : History) (i : Nat)
    (launch : RewardDistributorLaunch) (minter : RewardDistributorMinter) (pushedAtHeight : Nat)
    (roundTrip : parseComment (displayComment launch.generation) = some launch.generation) :
    ((∀ (source : TruthfulSource history) detail,
        (minter.resume (launch.pendingAt pushedAtHeight).toRecord).run source.answer i =
          .error (launchDead detail) →
        ∃ height, SpentForGood (history.snapshot (i + 2)) launch.bundle launch.fundingCoinId
          height) ↔
      (OwnRecord minter launch pushedAtHeight →
        ∀ spent, LooksDead history i launch spent → DeepWhenAbsent history i launch)) ∧
    ((∀ spent, spentHeight (ledgerOf (history.snapshot i)) launch.fundingCoinId = some spent →
        spent + minConfirmationDepth ≤ (history.snapshot i).length) →
      ∀ spent, LooksDead history i launch spent → DeepWhenAbsent history i launch) := by
  refine ⟨⟨fun hfinal own spent dead => ?_, fun hdeep source detail hresume => ?_⟩,
    fun hburied spent dead => ?_⟩
  · obtain ⟨source, detail, hresume⟩ := resume_of_looksDead hashes own roundTrip dead
    exact (spentForGood_iff launch dead.absent).1 (hfinal source detail hresume)
  · obtain ⟨own, spent, dead⟩ := looksDead_of_resume hashes hresume
    exact (spentForGood_iff launch dead.absent).2 (hdeep own spent dead)
  · exact ⟨spent, (history.reorganised_le (Nat.le_add_right i 2)).keeps_spent dead.spent_at
      (hburied spent dead.spent_at)⟩

end Final

section Example

def emptyBlock : ChainBlock := ⟨[], []⟩

def deskBase : Chain := [emptyBlock, ⟨[deskFunding, deskRewardCat], []⟩]

def deskMinted : Chain := deskBase ++ [⟨[], deskBundle.coinSpends⟩]

def deskOrphaned : Chain := deskBase ++ [emptyBlock]

def deskReminted : Chain :=
  deskOrphaned ++ ⟨[], deskBundle.coinSpends⟩ :: List.replicate 4 emptyBlock

def deskRival : Chain :=
  deskBase ++ ⟨[], [⟨deskFunding, [1], []⟩]⟩ :: List.replicate 6 emptyBlock

section Honest

theorem deskMinted_honest : letI := pairHash; letI := deskClvm; HonestChain deskMinted := by
  let _ := pairHash
  let _ := deskClvm
  exact FreshChain.honest (by decide +kernel)

theorem deskReminted_honest : letI := pairHash; letI := deskClvm; HonestChain deskReminted := by
  let _ := pairHash
  let _ := deskClvm
  exact FreshChain.honest (by decide +kernel)

theorem deskRival_honest : letI := pairHash; letI := deskClvm; HonestChain deskRival := by
  let _ := pairHash
  let _ := deskClvm
  exact FreshChain.honest (by decide +kernel)

end Honest

def orphaning : letI := pairHash; letI := deskClvm; History :=
  letI := pairHash
  letI := deskClvm
  { snapshot
      | 0 | 1 => deskBase
      | 2 | 3 => deskMinted
      | 4 => deskOrphaned
      | _ => deskReminted
    honest
      | 0 | 1 => deskMinted_honest.rollback 2 0
      | 2 | 3 => deskMinted_honest
      | 4 => deskMinted_honest.rollback 2 1
      | _ + 5 => deskReminted_honest
    reorganised
      | 0 => .refl
      | 1 => .single ⟨⟨2, .grow (by decide) _⟩, deskMinted_honest⟩
      | 2 => .refl
      | 3 => .of_emptied deskMinted_honest (by decide : 2 ≤ 3) (by decide)
      | 4 => .single ⟨⟨3, .grow (by decide) _⟩, deskReminted_honest⟩
      | _ + 5 => .refl
    pruned := fun _ _ => False }

def outbid : letI := pairHash; letI := deskClvm; History :=
  letI := pairHash
  letI := deskClvm
  { snapshot := fun _ => deskRival
    honest := fun _ => deskRival_honest
    reorganised := fun _ => .refl
    pruned := fun _ _ => False }

def MintError.isLaunchDead {α : Type} : Except MintError α → Bool
  | .error (.recordRejected (.launchDead _)) => true
  | _ => false

theorem MintError.isLaunchDead_iff {α : Type} {verdict : Except MintError α}
    (h : isLaunchDead verdict) : ∃ detail, verdict = .error (launchDead detail) := by
  simp only [isLaunchDead] at h
  split at h
  · exact ⟨_, rfl⟩
  · cases h

theorem launchDead_while_remintable :
    letI := pairHash
    letI := deskClvm
    letI := deskRewards
    ∃ (source : TruthfulSource orphaning) (pending : PendingRewardDistributor),
      deskLaunch.submit.run source.answer 0 = .ok pending ∧
      (∃ detail, (deskMinter.resume pending.toRecord).run source.answer 2 =
        .error (launchDead detail)) ∧
      spentHeight (ledgerOf (orphaning.snapshot 4)) deskLaunch.fundingCoinId = none ∧
      Includes (orphaning.snapshot 5) deskLaunch.bundle 3 := by
  let _ := pairHash
  let _ := deskClvm
  let _ := deskRewards
  refine ⟨.node (.naming [deskFunding, deskRewardCat, deskSecurity, deskLauncher] id) orphaning,
    deskLaunch.pendingAt 2, by decide +kernel, MintError.isLaunchDead_iff (by decide +kernel),
    by decide +kernel, ?_⟩
  exact ⟨⟨[], deskBundle.coinSpends⟩, rfl, List.Subset.refl _⟩

theorem launchDead_final_iff_outbid :
    letI := pairHash
    letI := deskClvm
    letI := deskRewards
    ∃ source : TruthfulSource outbid,
      (∃ detail, (deskMinter.resume (deskLaunch.pendingAt 2).toRecord).run source.answer 0 =
        .error (launchDead detail)) ∧
      ∃ height, SpentForGood deskRival deskLaunch.bundle deskLaunch.fundingCoinId height := by
  let _ := pairHash
  let _ := deskClvm
  let _ := deskRewards
  obtain ⟨hiff, hburied⟩ := launchDead_final_iff pairHash_collisionFree outbid 0 deskLaunch
    deskMinter 2 (by decide)
  let source : TruthfulSource outbid :=
    .node (.naming [deskFunding, deskRewardCat, deskSecurity, deskLauncher] id) outbid
  have hdead : ∃ detail, (deskMinter.resume (deskLaunch.pendingAt 2).toRecord).run
      source.answer 0 = .error (launchDead detail) :=
    MintError.isLaunchDead_iff (by decide +kernel)
  obtain ⟨detail, hresume⟩ := hdead
  refine ⟨source, ⟨detail, hresume⟩, hiff.2 (fun _ => hburied fun spent hspent => ?_) source detail
    hresume⟩
  have hsecond : spentHeight (ledgerOf deskRival) deskLaunch.fundingCoinId = some 2 := by
    decide +kernel
  cases hsecond.symm.trans hspent
  decide

end Example

end DigAccount
