import DigAccount.Chain.Node
import DigAccount.Mint.RewardDistributor

namespace DigAccount

open Ledger

namespace PendingRewardDistributor

variable [CoinHash] {pending : PendingRewardDistributor} {oracle : Oracle} {i peak : Nat}

theorem run_status {launcher : Option CoinRecord}
    (hpeak : oracle i .peakHeight = .ok (some peak))
    (hlauncher : oracle (i + 1) (.coinRecord pending.distributorLauncherId) = .ok launcher) :
    pending.status.run oracle i = (pending.judgeLauncher peak launcher).run oracle (i + 2) := by
  have hrun : (peakHeight MintError.chainUnreachable).run oracle i = .ok peak :=
    run_peakHeight.2 hpeak
  rw [status]
  rw [Fallible.run_bind_of_ok hrun, after_peakHeight hrun, run_readCoinRecord_bind hlauncher]

theorem status_ok {status : RewardDistributorStatus}
    (h : pending.status.run oracle i = .ok status) :
    ∃ peak launcher, oracle i .peakHeight = .ok (some peak) ∧
      oracle (i + 1) (.coinRecord pending.distributorLauncherId) = .ok launcher ∧
      (pending.judgeLauncher peak launcher).run oracle (i + 2) = .ok status := by
  obtain ⟨peak, hpeak, hrest⟩ := Fallible.run_bind_eq_ok.1 h
  rw [after_peakHeight hpeak] at hrest
  obtain ⟨launcher, hlauncher, -⟩ := Fallible.run_bind_eq_ok.1 hrest
  rw [run_readCoinRecord, Fallible.mapError_eq_ok] at hlauncher
  have hpeak' := run_peakHeight.1 hpeak
  exact ⟨peak, launcher, hpeak', hlauncher, (run_status hpeak' hlauncher).symm.trans h⟩

theorem run_judgeLauncher_absent {funding rewardCat : Option CoinRecord}
    (hfunding : oracle i (.coinRecord pending.fundingCoinId) = .ok funding)
    (hrewardCat : oracle (i + 1) (.coinRecord pending.rewardCatCoinId) = .ok rewardCat) :
    (pending.judgeLauncher peak none).run oracle i =
      .ok (pending.judgeInputs peak funding rewardCat) := by
  rw [judgeLauncher]
  rw [run_readCoinRecord_bind hfunding, run_readCoinRecord_bind hrewardCat]
  rfl

theorem judgeLauncher_absent_failed {reason : String}
    (h : (pending.judgeLauncher peak none).run oracle i = .ok (.failed reason)) :
    ∃ record, record.isSpent ∧
      (oracle i (.coinRecord pending.fundingCoinId) = .ok (some record) ∨
        oracle (i + 1) (.coinRecord pending.rewardCatCoinId) = .ok (some record)) := by
  obtain ⟨funding, hfunding, hrest⟩ := Fallible.run_bind_eq_ok.1 h
  obtain ⟨rewardCat, hrewardCat, -⟩ := Fallible.run_bind_eq_ok.1 hrest
  rw [run_readCoinRecord, Fallible.mapError_eq_ok] at hfunding hrewardCat
  rw [after_readCoinRecord] at hrewardCat
  rw [run_judgeLauncher_absent hfunding hrewardCat, judgeInputs] at h
  split at h
  · rename_i hspent
    obtain ⟨record, rfl, hrecord⟩ := (Option.any_eq_true _ _).1 hspent
    exact ⟨record, hrecord, .inl hfunding⟩
  · split at h
    · rename_i hspent
      obtain ⟨record, rfl, hrecord⟩ := (Option.any_eq_true _ _).1 hspent
      exact ⟨record, hrecord, .inr hrewardCat⟩
    · cases h

omit [CoinHash] in
theorem judgeInputs_failed {funding rewardCat : Option CoinRecord}
    (h : rewardCat.any CoinRecord.isSpent) :
    ∃ reason, pending.judgeInputs peak funding rewardCat = .failed reason := by
  rw [judgeInputs]
  split
  · exact ⟨_, rfl⟩
  · exact ⟨_, rfl⟩

theorem run_judgeLauncher_confirmed {launcher : CoinRecord}
    {discovered : Option DiscoveredDistributor} (hconfirmed : launcher.confirmedHeight.isSome)
    (h : oracle i (.discoverDistributor pending.distributorLauncherId) = .ok discovered) :
    (pending.judgeLauncher peak (some launcher)).run oracle i =
      .ok (pending.judgeDiscovery peak launcher discovered) := by
  have hread : (readDistributor MintError.chainUnreachable pending.distributorLauncherId).run
      oracle i = .ok discovered := by
    rw [run_readDistributor, Fallible.mapError_eq_ok]
    exact h
  have hnot : ¬ launcher.confirmedHeight.isNone := by
    simpa [← Option.isSome_iff_ne_none] using hconfirmed
  rw [judgeLauncher, if_neg hnot, Fallible.run_bind_of_ok hread]
  rfl

theorem judgeLauncher_present_failed {launcher : CoinRecord} {reason : String}
    (h : (pending.judgeLauncher peak (some launcher)).run oracle i = .ok (.failed reason)) :
    launcher.confirmedHeight.isSome ∧
      ∃ discovered, oracle i (.discoverDistributor pending.distributorLauncherId) =
        .ok discovered ∧ ∀ found, discovered = some found →
          pending.judgeEvidence peak launcher found = .failed reason := by
  cases hconfirmed : launcher.confirmedHeight with
  | none =>
      rw [judgeLauncher, hconfirmed] at h
      cases h
  | some height =>
      have hsome : launcher.confirmedHeight.isSome := by rw [hconfirmed]; rfl
      have hnot : ¬ launcher.confirmedHeight.isNone := by simp [hconfirmed]
      have hstep := h
      rw [judgeLauncher, if_neg hnot] at hstep
      obtain ⟨discovered, hread, -⟩ := Fallible.run_bind_eq_ok.1 hstep
      rw [run_readDistributor, Fallible.mapError_eq_ok] at hread
      refine ⟨rfl, discovered, hread, ?_⟩
      rintro found rfl
      rw [run_judgeLauncher_confirmed hsome hread] at h
      exact Except.ok.inj h

theorem check_of_own {record : CoinRecord} {discovered : DiscoveredDistributor} {height : Nat}
    (hcoin : coinId record.coin = pending.distributorLauncherId)
    (hconfirmed : record.confirmedHeight = some height) (hgenesis : height ≠ 0)
    (hpush : pending.pushedAtHeight ≤ height)
    (hown : discovered = ⟨pending.distributorLauncherId, pending.generation⟩) :
    pending.check record discovered peak = .ok () ∨
      pending.check record discovered peak = .error .shallow := by
  subst hown
  rw [check]
  rw [if_neg (not_not.2 hcoin), hconfirmed]
  dsimp only
  rw [if_neg hgenesis, if_neg (Nat.not_lt.2 hpush), if_neg (not_not.2 rfl),
    if_neg (not_not.2 rfl)]
  split
  · exact .inr rfl
  · exact .inl rfl

theorem judgeEvidence_failed {record : CoinRecord} {discovered : DiscoveredDistributor}
    {reason : String} (h : pending.judgeEvidence peak record discovered = .failed reason) :
    pending.check record discovered peak ≠ .ok () ∧
      pending.check record discovered peak ≠ .error .shallow := by
  rw [judgeEvidence] at h
  split at h
  · cases h
  · cases h
  · rename_i defect hne hcheck
    refine ⟨by rw [hcheck]; simp, ?_⟩
    intro hshallow
    exact hne (Except.error.inj (hcheck.symm.trans hshallow))

theorem judgeEvidence_predates {record : CoinRecord} {discovered : DiscoveredDistributor}
    {height : Nat} (hcoin : coinId record.coin = pending.distributorLauncherId)
    (hconfirmed : record.confirmedHeight = some height) (hgenesis : height ≠ 0)
    (hpush : height < pending.pushedAtHeight) :
    ∃ reason, pending.judgeEvidence peak record discovered = .failed reason := by
  have hcheck : pending.check record discovered peak = .error .predatesPush := by
    rw [check]
    rw [if_neg (not_not.2 hcoin), hconfirmed]
    dsimp only
    rw [if_neg hgenesis, if_pos hpush]
  rw [judgeEvidence]
  split
  · rename_i hok
    rw [hcheck] at hok
    cases hok
  · rename_i hshallow
    rw [hcheck] at hshallow
    cases hshallow
  · exact ⟨_, rfl⟩

theorem judgeDiscovery_predates {record : CoinRecord} {height : Nat}
    (hcoin : coinId record.coin = pending.distributorLauncherId)
    (hconfirmed : record.confirmedHeight = some height) (hgenesis : height ≠ 0)
    (hpush : height < pending.pushedAtHeight) (discovered : Option DiscoveredDistributor) :
    ∃ reason, pending.judgeDiscovery peak record discovered = .failed reason := by
  cases discovered with
  | none => exact ⟨_, rfl⟩
  | some found => exact judgeEvidence_predates hcoin hconfirmed hgenesis hpush

end PendingRewardDistributor

structure ReadsClearOfInclusion (schedule : Schedule) (i : Nat)
    (pending : PendingRewardDistributor) (height : Nat) : Prop where
  inputs : schedule.moment (i + 1) ≤ height → schedule.moment (i + 3) ≤ height
  served : height < schedule.moment (i + 1) →
    ¬ schedule.pruned (i + 2) pending.distributorLauncherId
  pushed_first : height < schedule.moment (i + 1) → pending.pushedAtHeight ≤ height

namespace SignedRewardDistributorMint

variable [CoinHash] [Clvm] {mint : SignedRewardDistributorMint} {chain : Chain}
  {schedule : Schedule} {oracle : Oracle} {i height : Nat} {pending : PendingRewardDistributor}

theorem submit_ok (h : mint.submit.run oracle i = .ok pending) :
    ∃ peak, oracle i .peakHeight = .ok (some peak) ∧ pending = mint.pendingAt peak := by
  obtain ⟨peak, hpeak, hrest⟩ := Fallible.run_bind_eq_ok.1 h
  obtain ⟨-, -, hpending⟩ := Fallible.run_bind_eq_ok.1 hrest
  exact ⟨peak, run_peakHeight.1 hpeak, (Except.ok.inj hpending).symm⟩

theorem submit_taken (h : mint.submit.run oracle i = .ok pending) :
    oracle (i + 1) (.push mint.bundle) = .ok .accepted ∨
      oracle (i + 1) (.push mint.bundle) = .ok .alreadyInMempool := by
  obtain ⟨peak, hpeak, hrest⟩ := Fallible.run_bind_eq_ok.1 h
  obtain ⟨_, hpush, -⟩ := Fallible.run_bind_eq_ok.1 hrest
  rw [after_peakHeight hpeak] at hpush
  obtain ⟨outcome, houtcome, hverdict⟩ := Fallible.run_bind_eq_ok.1 hpush
  rw [run_pushBundle, Fallible.mapError_eq_ok] at houtcome
  cases outcome with
  | accepted => exact .inl houtcome
  | alreadyInMempool => exact .inr houtcome
  | rejected reason => cases hverdict

theorem index_funding (mint : SignedRewardDistributorMint) :
    coinId (mint.bundle.index.coin mint.fundingCoinId) = mint.fundingCoinId := by
  obtain ⟨coinSpend, hmem, hcoin⟩ := mint.spends_funding
  rw [← hcoin]
  exact SpendBundle.index_names_spent hmem

theorem index_rewardCat (mint : SignedRewardDistributorMint) :
    coinId (mint.bundle.index.coin mint.rewardCatCoinId) = mint.rewardCatCoinId := by
  obtain ⟨coinSpend, hmem, hcoin⟩ := mint.spends_rewardCat
  rw [← hcoin]
  exact SpendBundle.index_names_spent hmem

theorem index_launcher (mint : SignedRewardDistributorMint) :
    coinId (mint.bundle.index.coin mint.distributorLauncherId) = mint.distributorLauncherId := by
  obtain ⟨coinSpend, hmem, hcreated, -⟩ := mint.launches
  exact SpendBundle.index_names_created hmem hcreated

section Included

variable (honest : HonestChain chain) (included : Includes chain mint.bundle height)
include honest included

theorem launcher_confirmed (n : Nat) :
    confirmedHeight ((ledgerOf chain).take n) mint.distributorLauncherId =
      if height < n then some height else none := by
  obtain ⟨coinSpend, hmem, hcreated, -⟩ := mint.launches
  exact included.confirmedHeight_take honest hmem hcreated n

theorem funding_spent (n : Nat) :
    spentHeight ((ledgerOf chain).take n) mint.fundingCoinId =
      if height < n then some height else none :=
  included.spent_take honest mint.spends_funding n

theorem rewardCat_spent (n : Nat) :
    spentHeight ((ledgerOf chain).take n) mint.rewardCatCoinId =
      if height < n then some height else none :=
  included.spent_take honest mint.spends_rewardCat n

theorem included_ne_zero : height ≠ 0 := by
  obtain ⟨coinSpend, hmem, -⟩ := mint.launches
  exact included.height_ne_zero honest hmem

theorem advertised_own {n : Nat} (hlt : height < n) {coinSpend : CoinSpend}
    (hmem : coinSpend ∈ coinSpendsOf (chain.take n))
    (hcreated : mint.distributorLauncherId ∈ coinSpend.created) :
    advertisedDistributor coinSpend mint.distributorLauncherId =
      some ⟨mint.distributorLauncherId, mint.generation⟩ := by
  obtain ⟨own, hown, hlaunched, hadvertised⟩ := mint.launches
  have hsame : coinSpend = own :=
    honest.creator_unique (mem_of_take hmem) (mem_of_take (included.mem_take hown hlt)) hcreated
      hlaunched
  rw [hsame, hadvertised]

omit honest in
theorem launcher_in_snapshot {n : Nat} (hlt : height < n) :
    ∃ coinSpend ∈ coinSpendsOf (chain.take n), mint.distributorLauncherId ∈ coinSpend.created ∧
      advertisedDistributor coinSpend mint.distributorLauncherId ≠ none := by
  obtain ⟨own, hown, hlaunched, hadvertised⟩ := mint.launches
  exact ⟨own, included.mem_take hown hlt, hlaunched, by rw [hadvertised]; simp⟩

theorem absent_not_failed {peak now : Nat} (source : HonestSource chain schedule)
    (clear : ReadsClearOfInclusion schedule i (mint.pendingAt peak) height)
    (hlauncher : source.answer (i + 1) (.coinRecord mint.distributorLauncherId) = .ok none)
    (reason : String) : ((mint.pendingAt peak).judgeLauncher now none).run source.answer (i + 2) ≠
      .ok (.failed reason) := by
  intro hjudge
  have habsent := (launcher_confirmed honest included _).symm.trans (source.absent hlauncher)
  have hlate : schedule.moment (i + 1) ≤ height := by
    by_contra hlt
    rw [if_pos (Nat.lt_of_not_le hlt)] at habsent
    cases habsent
  have hunseen : ∀ n, n ≤ schedule.moment (i + 3) → ¬ height < n := by
    intro n hn hlt
    have hclear := clear.inputs hlate
    omega
  obtain ⟨record, hspent, hfunding | hrewardCat⟩ :=
    PendingRewardDistributor.judgeLauncher_absent_failed hjudge
  · have hrecord := (source.recorded hfunding).2.2.trans (funding_spent honest included _)
    rw [if_neg (hunseen _ (schedule.forward (by omega)))] at hrecord
    rw [CoinRecord.isSpent, hrecord] at hspent
    cases hspent
  · have hrecord := (source.recorded hrewardCat).2.2.trans (rewardCat_spent honest included _)
    rw [if_neg (hunseen _ (Nat.le_refl _))] at hrecord
    rw [CoinRecord.isSpent, hrecord] at hspent
    cases hspent

theorem present_not_failed {peak now : Nat} {record : CoinRecord}
    (source : HonestSource chain schedule)
    (clear : ReadsClearOfInclusion schedule i (mint.pendingAt peak) height)
    (hlauncher : source.answer (i + 1) (.coinRecord mint.distributorLauncherId) =
      .ok (some record))
    (reason : String) :
    ((mint.pendingAt peak).judgeLauncher now (some record)).run source.answer (i + 2) ≠
      .ok (.failed reason) := by
  intro hjudge
  obtain ⟨hcoin, hrecorded, -⟩ := source.recorded hlauncher
  obtain ⟨hseen, discovered, hdiscovered, hverdict⟩ :=
    PendingRewardDistributor.judgeLauncher_present_failed hjudge
  have hconfirmed := hrecorded.trans (launcher_confirmed honest included _)
  have hearly : height < schedule.moment (i + 1) := by
    by_contra hge
    rw [hconfirmed, if_neg hge] at hseen
    cases hseen
  rw [if_pos hearly] at hconfirmed
  have hlater : height < schedule.moment (i + 2) :=
    hearly.trans_le (schedule.forward (Nat.le_succ _))
  have htruth := source.truthful (i + 2) (.discoverDistributor mint.distributorLauncherId)
  rw [show source.answer (i + 2) (.discoverDistributor mint.distributorLauncherId) =
    .ok discovered from hdiscovered] at htruth
  cases discovered with
  | none =>
      rcases htruth with hpruned | hunadvertised
      · exact clear.served hearly hpruned
      · obtain ⟨own, hmem, hcreated, hadvertised⟩ := launcher_in_snapshot included hlater
        exact hadvertised (hunadvertised own hmem hcreated)
  | some found =>
      obtain ⟨coinSpend, hmem, hcreated, hadvertised⟩ := htruth
      rw [advertised_own honest included hlater hmem hcreated] at hadvertised
      have hown := (Option.some.inj hadvertised).symm
      obtain ⟨hnotOk, hnotShallow⟩ :=
        PendingRewardDistributor.judgeEvidence_failed (hverdict found rfl)
      rcases PendingRewardDistributor.check_of_own hcoin hconfirmed
        (included_ne_zero honest included) (clear.pushed_first hearly) hown with hok | hshallow
      · exact hnotOk hok
      · exact hnotShallow hshallow

theorem status_not_failed {peak : Nat} (source : HonestSource chain schedule)
    (clear : ReadsClearOfInclusion schedule i (mint.pendingAt peak) height) (reason : String) :
    (mint.pendingAt peak).status.run source.answer i ≠ .ok (.failed reason) := by
  intro h
  obtain ⟨now, launcher, -, hlauncher, hjudge⟩ := PendingRewardDistributor.status_ok h
  cases launcher with
  | none => exact absent_not_failed honest included source clear hlauncher reason hjudge
  | some record => exact present_not_failed honest included source clear hlauncher reason hjudge

theorem launcher_recorded {n : Nat} (hlt : height < n) :
    ∃ record, mint.bundle.index.record (chain.take n) mint.distributorLauncherId =
        .ok (some record) ∧ coinId record.coin = mint.distributorLauncherId ∧
      record.confirmedHeight = some height := by
  obtain ⟨found, hfound, hconfirmed, -⟩ := NodeIndex.record_eq (chain.take n) (index_launcher mint)
  rw [ledgerOf_take, launcher_confirmed honest included, if_pos hlt] at hconfirmed
  obtain ⟨record, rfl, hheight⟩ := Option.bind_eq_some_iff.1 hconfirmed
  have htruth : Truthful (chain.take n) (fun _ => False) (.coinRecord mint.distributorLauncherId)
      (mint.bundle.index.record (chain.take n) mint.distributorLauncherId) :=
    mint.bundle.index.record_truthful _
  rw [hfound] at htruth
  exact ⟨record, hfound, htruth.1, hheight⟩

theorem failed_between_reads {peak : Nat} (hlate : schedule.moment (i + 1) ≤ height)
    (hearly : height < schedule.moment (i + 3)) :
    ∃ source : HonestSource chain schedule, ∃ reason,
      (mint.pendingAt peak).status.run source.answer i = .ok (.failed reason) := by
  have habsent : Truthful (chain.take (schedule.moment (i + 1))) (schedule.pruned (i + 1))
      (.coinRecord mint.distributorLauncherId) (.ok none) := by
    have hconfirmed := launcher_confirmed honest included (schedule.moment (i + 1))
    rw [if_neg (Nat.not_lt.2 hlate)] at hconfirmed
    exact (congrArg (confirmedHeight · _) ledgerOf_take).trans hconfirmed
  let node := HonestSource.node mint.bundle.index chain schedule
  let source := node.withAnswer (i + 1) _ _ habsent
  have hother : ∀ k, k ≠ i + 1 → source.answer k = node.answer k :=
    fun _ hk => HonestSource.withAnswer_of_ne hk
  obtain ⟨funding, hfunding, -⟩ :=
    NodeIndex.record_eq (chain.take (schedule.moment (i + 2))) (index_funding mint)
  obtain ⟨rewardCat, hrewardCat, -, hspent⟩ :=
    NodeIndex.record_eq (chain.take (schedule.moment (i + 3))) (index_rewardCat mint)
  have hspentCat : rewardCat.any CoinRecord.isSpent := by
    rw [ledgerOf_take, rewardCat_spent honest included, if_pos hearly] at hspent
    obtain ⟨record, rfl, hheight⟩ := Option.bind_eq_some_iff.1 hspent
    rw [Option.any_some, CoinRecord.isSpent, hheight]
    rfl
  have hstatus : (mint.pendingAt peak).status.run source.answer i =
      ((mint.pendingAt peak).judgeLauncher (chain.take (schedule.moment i)).length none).run
        source.answer (i + 2) :=
    PendingRewardDistributor.run_status (by rw [hother i (by omega)]; rfl)
      HonestSource.withAnswer_self
  have hjudge : ((mint.pendingAt peak).judgeLauncher (chain.take (schedule.moment i)).length
      none).run source.answer (i + 2) =
        .ok ((mint.pendingAt peak).judgeInputs _ funding rewardCat) :=
    PendingRewardDistributor.run_judgeLauncher_absent
      (by rw [hother (i + 2) (by omega)]; exact hfunding)
      (by rw [hother (i + 2 + 1) (by omega)]; exact hrewardCat)
  obtain ⟨reason, hreason⟩ := PendingRewardDistributor.judgeInputs_failed hspentCat
  exact ⟨source, reason, by rw [hstatus, hjudge, hreason]⟩

theorem failed_when_pruned {peak : Nat} (hearly : height < schedule.moment (i + 1))
    (hpruned : schedule.pruned (i + 2) mint.distributorLauncherId) :
    ∃ source : HonestSource chain schedule, ∃ reason,
      (mint.pendingAt peak).status.run source.answer i = .ok (.failed reason) := by
  have hunserved : Truthful (chain.take (schedule.moment (i + 2))) (schedule.pruned (i + 2))
      (.discoverDistributor mint.distributorLauncherId) (.ok none) := .inl hpruned
  let node := HonestSource.node mint.bundle.index chain schedule
  let source := node.withAnswer (i + 2) _ _ hunserved
  have hother : ∀ k, k ≠ i + 2 → source.answer k = node.answer k :=
    fun _ hk => HonestSource.withAnswer_of_ne hk
  obtain ⟨record, hlauncher, -, hconfirmed⟩ :=
    launcher_recorded honest included hearly
  have hstatus : (mint.pendingAt peak).status.run source.answer i =
      ((mint.pendingAt peak).judgeLauncher (chain.take (schedule.moment i)).length
        (some record)).run source.answer (i + 2) :=
    PendingRewardDistributor.run_status (by rw [hother i (by omega)]; rfl)
      (by rw [hother (i + 1) (by omega)]; exact hlauncher)
  have hjudge : ((mint.pendingAt peak).judgeLauncher (chain.take (schedule.moment i)).length
      (some record)).run source.answer (i + 2) =
        .ok ((mint.pendingAt peak).judgeDiscovery _ record none) :=
    PendingRewardDistributor.run_judgeLauncher_confirmed (by rw [hconfirmed]; rfl)
      HonestSource.withAnswer_self
  exact ⟨source, _, hstatus.trans hjudge⟩

theorem failed_when_predating {peak : Nat} (hearly : height < schedule.moment (i + 1))
    (hpush : height < (mint.pendingAt peak).pushedAtHeight) :
    ∃ source : HonestSource chain schedule, ∃ reason,
      (mint.pendingAt peak).status.run source.answer i = .ok (.failed reason) := by
  let source := HonestSource.node mint.bundle.index chain schedule
  obtain ⟨record, hlauncher, hcoin, hconfirmed⟩ :=
    launcher_recorded honest included hearly
  have hstatus : (mint.pendingAt peak).status.run source.answer i =
      ((mint.pendingAt peak).judgeLauncher (chain.take (schedule.moment i)).length
        (some record)).run source.answer (i + 2) :=
    PendingRewardDistributor.run_status rfl hlauncher
  have hjudge : ((mint.pendingAt peak).judgeLauncher (chain.take (schedule.moment i)).length
      (some record)).run source.answer (i + 2) =
        .ok ((mint.pendingAt peak).judgeDiscovery _ record (NodeIndex.distributor
          (chain.take (schedule.moment (i + 2))) mint.distributorLauncherId)) :=
    PendingRewardDistributor.run_judgeLauncher_confirmed (by rw [hconfirmed]; rfl) rfl
  obtain ⟨reason, hreason⟩ := PendingRewardDistributor.judgeDiscovery_predates hcoin hconfirmed
    (included_ne_zero honest included) hpush _
  exact ⟨source, reason, by rw [hstatus, hjudge, hreason]⟩

end Included

theorem pushed_first_of_honest_submit {submitting : Schedule} {j : Nat}
    (source : HonestSource chain submitting) (honest : HonestChain chain)
    (included : Includes chain mint.bundle height)
    (submitted : mint.submit.run source.answer j = .ok pending) :
    pending.pushedAtHeight ≤ height := by
  obtain ⟨peak, hpeak, rfl⟩ := submit_ok submitted
  obtain ⟨coinSpend, hmem, -⟩ := mint.spends_funding
  have hunspent := source.taken (submit_taken submitted) coinSpend hmem
  rw [included.spentHeight_take honest hmem] at hunspent
  have hlate : submitting.moment (j + 1) ≤ height := by
    by_contra hlt
    rw [if_pos (Nat.lt_of_not_le hlt)] at hunspent
    cases hunspent
  have hpeakLe : peak ≤ submitting.moment j := by
    have hpeaked := source.peaked hpeak
    rw [List.length_take] at hpeaked
    omega
  exact (hpeakLe.trans (submitting.forward (Nat.le_succ j))).trans hlate

theorem status_never_failed_iff (mint : SignedRewardDistributorMint) {submission : Oracle} {j : Nat}
    (submitted : mint.submit.run submission j = .ok pending) (honest : HonestChain chain)
    (included : Includes chain mint.bundle height) (schedule : Schedule) (i : Nat) :
    (∀ source : HonestSource chain schedule, ∀ reason,
        pending.status.run source.answer i ≠ .ok (.failed reason)) ↔
      ReadsClearOfInclusion schedule i pending height := by
  obtain ⟨peak, -, rfl⟩ := submit_ok submitted
  constructor
  · intro hsafe
    refine ⟨?_, ?_, ?_⟩
    · intro hlate
      by_contra hearly
      obtain ⟨source, reason, hfailed⟩ :=
        failed_between_reads honest included hlate (Nat.lt_of_not_le hearly)
      exact hsafe source reason hfailed
    · intro hearly hpruned
      obtain ⟨source, reason, hfailed⟩ := failed_when_pruned honest included hearly hpruned
      exact hsafe source reason hfailed
    · intro hearly
      by_contra hpush
      obtain ⟨source, reason, hfailed⟩ :=
        failed_when_predating honest included hearly (Nat.lt_of_not_le hpush)
      exact hsafe source reason hfailed
  · exact fun clear source reason => status_not_failed honest included source clear reason

end SignedRewardDistributorMint

section Example

@[reducible] def launchOutputs : Clvm where
  additions coinSpend := coinSpend.solution.map fun byte => ⟨coinSpend.coin.amount, 0, byte.toNat⟩
  recreation _ := none
  advertisedDistributor _ launcherId := some ⟨launcherId, ⟨7, 8⟩⟩
  didState id := ⟨namedCoin id, id, 0⟩

def launchMint : letI := amountNames; letI := launchOutputs; SignedRewardDistributorMint :=
  letI := amountNames
  letI := launchOutputs
  { bundle := ⟨[⟨namedCoin 1, [], [3]⟩, ⟨namedCoin 2, [], [4]⟩], []⟩
    distributorLauncherId := 3
    managerLauncherId := 4
    fundingCoinId := 1
    rewardCatCoinId := 2
    generation := ⟨7, 8⟩
    spends_funding := by decide
    spends_rewardCat := by decide
    launches := by decide }

def launchChain : Chain :=
  [⟨[namedCoin 1, namedCoin 2], []⟩,
    ⟨[], [⟨namedCoin 1, [], [3]⟩, ⟨namedCoin 2, [], [4]⟩]⟩] ++ List.replicate 6 ⟨[], []⟩

def launchPending : PendingRewardDistributor :=
  letI := amountNames
  letI := launchOutputs
  launchMint.pendingAt 1

theorem launchChain_honest :
    letI := amountNames
    letI := launchOutputs
    HonestChain launchChain := by
  let _ := amountNames
  let _ := launchOutputs
  exact FreshChain.honest (by decide)

theorem status_never_failed_iff_launchMint :
    letI := amountNames
    letI := launchOutputs
    launchMint.submit.run (HonestSource.node amountIndex launchChain (steadyAt 1)).answer 0 =
        .ok launchPending ∧
      ∀ source : HonestSource launchChain (steadyAt 8), ∀ reason,
        launchPending.status.run source.answer 0 ≠ .ok (.failed reason) := by
  let _ := amountNames
  let _ := launchOutputs
  have submitted : launchMint.submit.run
      (HonestSource.node amountIndex launchChain (steadyAt 1)).answer 0 = .ok launchPending := rfl
  have included : Includes launchChain launchMint.bundle 1 :=
    ⟨⟨[], launchMint.bundle.coinSpends⟩, rfl, List.Subset.refl _⟩
  refine ⟨submitted, (SignedRewardDistributorMint.status_never_failed_iff launchMint submitted
    launchChain_honest included (steadyAt 8) 0).2 ⟨?_, ?_, ?_⟩⟩
  · exact fun hlate => hlate
  · exact fun _ hpruned => hpruned
  · exact fun _ => by decide

theorem straddling_buries_launchMint :
    letI := amountNames
    letI := launchOutputs
    HonestChain launchChain ∧
      launchMint.submit.run (HonestSource.node amountIndex launchChain (steadyAt 1)).answer 0 =
        .ok launchPending ∧
      Includes (launchChain.take (straddling.moment 3)) launchMint.bundle 1 ∧
      launchPending.status.run (HonestSource.node amountIndex launchChain straddling).answer 0 =
        .ok (.failed
          "the funding coin was spent by a different spend; this mint can never confirm") := by
  let _ := amountNames
  let _ := launchOutputs
  exact ⟨launchChain_honest, rfl,
    ⟨⟨[], launchMint.bundle.coinSpends⟩, rfl, List.Subset.refl _⟩, rfl⟩

end Example

end DigAccount
