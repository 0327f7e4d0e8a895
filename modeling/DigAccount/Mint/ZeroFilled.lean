import DigAccount.Chain.ZeroFilled
import DigAccount.Melt.EndStatus
import DigAccount.Mint.Did
import DigAccount.Mint.LaunchDead
import DigAccount.Wallet.Transfer

namespace DigAccount

open Fallible

section Transfer

variable {oracle : Oracle} {i peak : Nat} {pending : PendingTransfer}

theorem proofOfDeath_agree (ids : List Bytes32) :
    Agree Eq Eq ((proofOfDeath pending peak ids).exec oracle i)
      ((proofOfDeath pending peak ids).exec (zeroFilled oracle) i) := by
  induction ids generalizing i with
  | nil => exact agree_pure rfl
  | cons id rest ih =>
      apply (readCoinRecord_agree fun _ => rfl).bind
      rintro found _ k rfl
      cases found with
      | none => exact ih
      | some record =>
          cases hspent : record.spentHeight with
          | none =>
              simp only [Option.map_some, Option.bind_some, hspent,
                CoinRecord.spentHeight_zeroFilled, Option.getD_none, if_true]
              exact ih
          | some height =>
              simp only [Option.map_some, Option.bind_some, hspent,
                CoinRecord.spentHeight_zeroFilled, Option.getD_some]
              split
              · exact ih
              · split
                · exact ih
                · apply (readCoinRecord_agree fun _ => rfl).bind
                  rintro payment _ m rfl
                  cases payment with
                  | none => exact agree_pure rfl
                  | some seen => exact agree_pure rfl

theorem transferStatus_agree [CoinHash] :
    Agree Eq Eq ((transferStatus pending).exec oracle i)
      ((transferStatus pending).exec (zeroFilled oracle) i) := by
  apply (peakHeight_agree fun _ => rfl).bind
  rintro peak _ k rfl
  apply (readCoinRecord_agree fun _ => rfl).bind
  rintro payment _ m rfl
  have hsettled : (payment.map CoinRecord.zeroFilled).bind
      (ConfirmedTransfer.fromConfirmed pending · peak) =
      payment.bind (ConfirmedTransfer.fromConfirmed pending · peak) := by
    cases payment with
    | none => rfl
    | some record => rfl
  rw [hsettled]
  cases payment.bind (ConfirmedTransfer.fromConfirmed pending · peak) with
  | some settled => exact agree_pure rfl
  | none =>
      apply Agree.bind (R := Eq)
      · cases payment with
        | none => exact proofOfDeath_agree pending.sourceCoinIds
        | some record => exact agree_pure rfl
      · rintro death _ n rfl
        cases death with
        | none => exact agree_pure rfl
        | some reason => exact agree_pure rfl

end Transfer

def RecordRejection.verdict : RecordRejection → RecordRejection
  | malformed field _ => .malformed field ""
  | notYours proof _ => .notYours proof ""
  | unproven _ => .unproven ""
  | launchDead _ => .launchDead ""

def MintError.verdict : MintError → MintError
  | .recordRejected rejection => .recordRejected rejection.verdict
  | other => other

def MintError.SameVerdict (d e : MintError) : Prop := d.verdict = e.verdict

theorem MintError.of_dead_verdict {e : MintError} {detail : String}
    (h : e.verdict = (launchDead detail).verdict) : ∃ detail, e = launchDead detail := by
  cases e with
  | recordRejected rejection =>
      cases rejection with
      | launchDead detail => exact ⟨detail, rfl⟩
      | malformed field detail => cases h
      | notYours proof detail => cases h
      | unproven detail => cases h
  | _ => cases h

theorem MintError.sameVerdict_refl (e : MintError) : e.SameVerdict e := rfl

theorem MintError.sameVerdict_unproven (one other : String) :
    (unproven one).SameVerdict (unproven other) := rfl

section Resume

variable [CoinHash] [DigRewards] {oracle : Oracle} {i : Nat} {E : MintError → MintError → Prop}
  {id expectedPuzzleHash : Bytes32} {what : String} {proof : OwnershipProof}
  {record : PendingRewardDistributorRecord} {funding : CoinRecord}

omit [DigRewards] in
theorem answered_agree (hE : ∀ e, E e e) (found : Option CoinRecord) :
    Agree E (fun found filled => filled = found.map CoinRecord.zeroFilled)
      (answered id what found, i) (answered id what (found.map CoinRecord.zeroFilled), i) := by
  cases found with
  | none => exact .returned i rfl
  | some coinRecord =>
      by_cases hname : coinId coinRecord.coin = id
      · simp only [answered, Option.map_some, CoinRecord.coin_zeroFilled, hname, ne_eq,
          not_true_eq_false, if_false]
        exact .returned i rfl
      · simp only [answered, Option.map_some, CoinRecord.coin_zeroFilled, hname, ne_eq,
          not_false_eq_true, if_true]
        exact .failed i i (hE _)

omit [DigRewards] in
theorem readCoin_agree (hE : ∀ e, E e e) :
    Agree E (fun found filled => filled = found.map CoinRecord.zeroFilled)
      ((readCoin id what).exec oracle i) ((readCoin id what).exec (zeroFilled oracle) i) := by
  apply (readCoinRecord_agree hE).bind
  rintro found _ k rfl
  exact answered_agree hE found

omit [CoinHash] [DigRewards] in
theorem ours_agree (hE : ∀ e, E e e) (found : Option CoinRecord) :
    Agree E (fun coinRecord filled => filled = coinRecord.zeroFilled)
      (ours id expectedPuzzleHash proof what found, i)
      (ours id expectedPuzzleHash proof what (found.map CoinRecord.zeroFilled), i) := by
  cases found with
  | none => exact .failed i i (hE _)
  | some coinRecord =>
      by_cases hhome : coinRecord.coin.puzzleHash = expectedPuzzleHash
      · simp only [ours, Option.map_some, CoinRecord.coin_zeroFilled, hhome, ne_eq,
          not_true_eq_false, if_false]
        exact .returned i rfl
      · simp only [ours, Option.map_some, CoinRecord.coin_zeroFilled, hhome, ne_eq,
          not_false_eq_true, if_true]
        exact .failed i i (hE _)

omit [DigRewards] in
theorem proveCoinIsOurs_agree (hE : ∀ e, E e e) :
    Agree E (fun coinRecord filled => filled = coinRecord.zeroFilled)
      ((proveCoinIsOurs id expectedPuzzleHash proof what).exec oracle i)
      ((proveCoinIsOurs id expectedPuzzleHash proof what).exec (zeroFilled oracle) i) := by
  apply (readCoin_agree hE).bind
  rintro found _ k rfl
  exact ours_agree hE found

omit [CoinHash] [DigRewards] in
theorem unusable_zero (funding : CoinRecord) :
    ∃ reason, unusableSpendHeight funding 0 = some reason := by
  apply Option.ne_none_iff_exists'.1
  intro husable
  obtain ⟨createdAt, hgenesis, hle, -⟩ := (unusableSpendHeight_none funding 0).1 husable
  exact hgenesis (Nat.le_zero.1 hle)

omit [CoinHash] [DigRewards] in
theorem launcherAbsent_agree :
    Agree MintError.SameVerdict Eq ((launcherAbsent record funding).exec oracle i)
      ((launcherAbsent record funding.zeroFilled).exec (zeroFilled oracle) i) := by
  cases hspent : funding.spentHeight with
  | none =>
      obtain ⟨reason, hunusable⟩ := unusable_zero funding.zeroFilled
      simp only [launcherAbsent, hspent, CoinRecord.spentHeight_zeroFilled, Option.getD_none,
        hunusable]
      exact agree_fail (MintError.sameVerdict_unproven _ _)
  | some height =>
      have hsame : unusableSpendHeight funding.zeroFilled height =
          unusableSpendHeight funding height := rfl
      simp only [launcherAbsent, hspent, CoinRecord.spentHeight_zeroFilled, Option.getD_some, hsame]
      cases husable : unusableSpendHeight funding height with
      | some reason => exact agree_fail rfl
      | none =>
          apply (peakHeight_agree MintError.sameVerdict_refl).bind
          rintro peak _ k rfl
          exact agree_fail rfl

theorem walkFromLauncher_agree (launcher : Option CoinRecord) :
    Agree MintError.SameVerdict Eq
      ((walkFromLauncher record funding launcher).exec oracle i)
      ((walkFromLauncher record funding.zeroFilled (launcher.map CoinRecord.zeroFilled)).exec
        (zeroFilled oracle) i) := by
  cases launcher with
  | none => exact launcherAbsent_agree
  | some found =>
      by_cases hnone : found.confirmedHeight.isNone
      · simp only [walkFromLauncher, Option.map_some, CoinRecord.confirmedHeight_zeroFilled, hnone,
          if_true]
        exact agree_fail rfl
      · simp only [walkFromLauncher, Option.map_some, CoinRecord.confirmedHeight_zeroFilled, hnone,
          CoinRecord.coin_zeroFilled, Bool.false_eq_true, if_false]
        apply (readCoin_agree MintError.sameVerdict_refl).bind
        rintro security _ k rfl
        cases security with
        | none => exact agree_ofExcept MintError.sameVerdict_refl
        | some coinRecord => exact agree_ofExcept MintError.sameVerdict_refl

theorem resume_agree {minter : RewardDistributorMinter} :
    Agree MintError.SameVerdict Eq ((minter.resume record).exec oracle i)
      ((minter.resume record).exec (zeroFilled oracle) i) := by
  apply (agree_ofExcept MintError.sameVerdict_refl).bind
  rintro wallet _ k rfl
  apply (agree_ofExcept MintError.sameVerdict_refl).bind
  rintro generation _ k rfl
  apply (proveCoinIsOurs_agree MintError.sameVerdict_refl).bind
  rintro funding _ k rfl
  apply (proveCoinIsOurs_agree MintError.sameVerdict_refl).bind
  rintro rewardCat _ k rfl
  apply Agree.bind (R := Eq)
  · apply (agree_ofExcept MintError.sameVerdict_refl).bind
    rintro manager _ k rfl
    apply (readCoin_agree MintError.sameVerdict_refl).bind
    rintro launcher _ k rfl
    exact walkFromLauncher_agree launcher
  · rintro u _ k rfl
    exact agree_pure rfl

end Resume

section Mint

variable [CoinHash] [DidEncoding] {oracle : Oracle} {i : Nat}

omit [CoinHash] in
theorem judgeSource_zeroFilled (pending : PendingMint) (peak : Nat)
    (didRecord source : Option CoinRecord)
    (h : didRecord = none → ∀ record, source = some record → record.isSpent) :
    pending.judgeSource peak didRecord source =
      pending.judgeSource peak (didRecord.map CoinRecord.zeroFilled)
        (source.map CoinRecord.zeroFilled) := by
  cases didRecord with
  | some did => simp [PendingMint.judgeSource]
  | none =>
      cases source with
      | none => rfl
      | some record => simp [PendingMint.judgeSource, h rfl record rfl]

theorem mintStatus_zeroFilled_iff (pending : PendingMint) :
    (mintStatus pending).run oracle i = (mintStatus pending).run (zeroFilled oracle) i ↔
      ∀ peak record, oracle i .peakHeight = .ok (some peak) →
        oracle (i + 1) (.coinRecord pending.didCoinId) = .ok none →
        oracle (i + 2) (.coinRecord pending.sourceCoinId) = .ok (some record) →
        record.isSpent := by
  constructor
  · intro hsame peak record hpeak hdid hsource
    have hpeakFilled : zeroFilled oracle i .peakHeight = .ok (some peak) := hpeak
    rw [run_mintStatus_absent hpeak hdid hsource,
      run_mintStatus_absent hpeakFilled (zeroFilled_ok hdid) (zeroFilled_ok hsource)] at hsame
    by_contra hunspent
    simp [PendingMint.judgeSource, hunspent] at hsame
  · intro hspent
    apply Agree.fst_eq
    apply (peakHeight_agree fun _ => rfl).bind_run
    rintro peak _ k hexec rfl
    obtain ⟨rfl, hpeak⟩ := exec_peakHeight_eq_ok.1 hexec
    apply (readCoinRecord_agree fun _ => rfl).bind_run
    rintro didRecord _ m hexec rfl
    obtain ⟨rfl, hdid⟩ := exec_readCoinRecord_eq_ok.1 hexec
    have hminted : (didRecord.map CoinRecord.zeroFilled).bind
        (MintedDid.fromConfirmed pending · peak) =
        didRecord.bind (MintedDid.fromConfirmed pending · peak) := by
      cases didRecord with
      | none => rfl
      | some record => rfl
    rw [hminted]
    cases didRecord.bind (MintedDid.fromConfirmed pending · peak) with
    | some minted => exact agree_pure rfl
    | none =>
        apply (readCoinRecord_agree fun _ => rfl).bind_run
        rintro source _ n hexec rfl
        obtain ⟨rfl, hsource⟩ := exec_readCoinRecord_eq_ok.1 hexec
        apply agree_pure
        apply judgeSource_zeroFilled
        rintro rfl record rfl
        exact hspent peak record hpeak hdid hsource

end Mint

def RewardDistributorStatus.verdict : RewardDistributorStatus → RewardDistributorStatus
  | .failed _ => .failed ""
  | status => status

namespace PendingRewardDistributor

variable [CoinHash] {oracle : Oracle} {i : Nat}

omit [CoinHash] in
theorem judgeInputs_zeroFilled_iff (pending : PendingRewardDistributor) (peak : Nat)
    (funding rewardCat : Option CoinRecord) :
    (pending.judgeInputs peak funding rewardCat).verdict =
        (pending.judgeInputs peak (funding.map CoinRecord.zeroFilled)
          (rewardCat.map CoinRecord.zeroFilled)).verdict ↔
      funding.any CoinRecord.isSpent ∨ rewardCat.any CoinRecord.isSpent ∨
        funding = none ∧ rewardCat = none := by
  cases funding with
  | none =>
      cases rewardCat with
      | none => simp
      | some record =>
          by_cases hspent : record.isSpent
          · simp [judgeInputs, hspent]
          · simp [judgeInputs, hspent, awaiting, RewardDistributorStatus.verdict]
  | some record =>
      by_cases hspent : record.isSpent
      · simp [judgeInputs, hspent]
      · by_cases hother : rewardCat.any CoinRecord.isSpent
        · simp [judgeInputs, hspent, hother, RewardDistributorStatus.verdict]
        · simp [judgeInputs, hspent, hother, awaiting, RewardDistributorStatus.verdict]

theorem status_zeroFilled_iff (pending : PendingRewardDistributor) :
    (pending.status.run oracle i).map RewardDistributorStatus.verdict =
        (pending.status.run (zeroFilled oracle) i).map RewardDistributorStatus.verdict ↔
      ∀ peak funding rewardCat, oracle i .peakHeight = .ok (some peak) →
        oracle (i + 1) (.coinRecord pending.distributorLauncherId) = .ok none →
        oracle (i + 2) (.coinRecord pending.fundingCoinId) = .ok funding →
        oracle (i + 3) (.coinRecord pending.rewardCatCoinId) = .ok rewardCat →
        funding.any CoinRecord.isSpent ∨ rewardCat.any CoinRecord.isSpent ∨
          funding = none ∧ rewardCat = none := by
  constructor
  · intro hsame peak funding rewardCat hpeak hlauncher hfunding hrewardCat
    have hpeakFilled : zeroFilled oracle i .peakHeight = .ok (some peak) := hpeak
    rw [run_status hpeak hlauncher, run_judgeLauncher_absent hfunding hrewardCat,
      run_status hpeakFilled (zeroFilled_ok hlauncher), Option.map_none,
      run_judgeLauncher_absent (zeroFilled_ok hfunding) (zeroFilled_ok hrewardCat)] at hsame
    exact (judgeInputs_zeroFilled_iff pending peak funding rewardCat).1 (Except.ok.inj hsame)
  · intro hspent
    apply Agree.map_ok_eq
    apply (peakHeight_agree fun _ => rfl).bind_run
    rintro peak _ k hexec rfl
    obtain ⟨rfl, hpeak⟩ := exec_peakHeight_eq_ok.1 hexec
    apply (readCoinRecord_agree fun _ => rfl).bind_run
    rintro launcher _ m hexec rfl
    obtain ⟨rfl, hlauncher⟩ := exec_readCoinRecord_eq_ok.1 hexec
    cases launcher with
    | none =>
        apply (readCoinRecord_agree fun _ => rfl).bind_run
        rintro funding _ n hexec rfl
        obtain ⟨rfl, hfunding⟩ := exec_readCoinRecord_eq_ok.1 hexec
        apply (readCoinRecord_agree fun _ => rfl).bind_run
        rintro rewardCat _ n' hexec rfl
        obtain ⟨rfl, hrewardCat⟩ := exec_readCoinRecord_eq_ok.1 hexec
        apply agree_pure
        apply (judgeInputs_zeroFilled_iff pending peak funding rewardCat).2
        exact hspent peak funding rewardCat hpeak hlauncher hfunding hrewardCat
    | some record =>
        by_cases hnone : record.confirmedHeight.isNone
        · simp only [judgeLauncher, Option.map_some, CoinRecord.confirmedHeight_zeroFilled, hnone,
            if_true]
          exact agree_pure rfl
        · simp only [judgeLauncher, Option.map_some, CoinRecord.confirmedHeight_zeroFilled, hnone,
            Bool.false_eq_true, if_false]
          apply (readDistributor_agree fun _ => rfl).bind
          rintro discovered _ n rfl
          cases discovered with
          | none => exact agree_pure rfl
          | some found => exact agree_pure rfl

end PendingRewardDistributor

section Melt

variable [CoinHash] {oracle : Oracle} {i : Nat} {id : Bytes32}

theorem spentHeightOf_agree :
    Agree Eq (fun spent filled => filled = some (spent.getD 0))
      ((spentHeightOf id).exec oracle i) ((spentHeightOf id).exec (zeroFilled oracle) i) := by
  apply (readCoinRecord_agree fun _ => rfl).bind
  rintro found _ k rfl
  cases found with
  | none => exact agree_fail rfl
  | some record =>
      by_cases hname : coinId record.coin = id
      · simp only [judgeSpent, Option.map_some, CoinRecord.coin_zeroFilled, hname, ne_eq,
          not_true_eq_false, if_false, CoinRecord.spentHeight_zeroFilled]
        exact agree_pure rfl
      · simp only [judgeSpent, Option.map_some, CoinRecord.coin_zeroFilled, hname, ne_eq,
          not_false_eq_true, if_true]
        exact agree_fail rfl

theorem exec_spentHeightOf_eq_ok {spent : Option Nat} {k : Nat}
    (h : (spentHeightOf id).exec oracle i = (.ok spent, k)) :
    k = i + 1 ∧ ∃ record, oracle i (.coinRecord id) = .ok (some record) ∧
      coinId record.coin = id ∧ record.spentHeight = spent := by
  obtain ⟨hrun, rfl⟩ := Prod.mk.inj h
  exact ⟨after_spentHeightOf hrun, run_spentHeightOf.1 hrun⟩

theorem meltStatus_zeroFilled_iff (didCoinId storeCoinId : Bytes32) :
    (meltStatus didCoinId storeCoinId).run oracle i =
        (meltStatus didCoinId storeCoinId).run (zeroFilled oracle) i ↔
      ∀ did store, oracle i (.coinRecord didCoinId) = .ok (some did) →
        oracle (i + 1) (.coinRecord storeCoinId) = .ok (some store) →
        coinId did.coin = didCoinId → coinId store.coin = storeCoinId →
        did.isSpent ∧ store.isSpent := by
  constructor
  · intro hsame did store hdid hstore hdidName hstoreName
    have hread := run_meltStatus.2 ⟨did.spentHeight, store.spentHeight,
      run_spentHeightOf.2 ⟨did, hdid, hdidName, rfl⟩,
      run_spentHeightOf.2 ⟨store, hstore, hstoreName, rfl⟩, rfl⟩
    have hfilled := run_meltStatus.2 ⟨_, _,
      run_spentHeightOf.2 ⟨did.zeroFilled, zeroFilled_ok hdid, hdidName, rfl⟩,
      run_spentHeightOf.2 ⟨store.zeroFilled, zeroFilled_ok hstore, hstoreName, rfl⟩, rfl⟩
    rw [hread, hfilled] at hsame
    simp only [CoinRecord.isSpent]
    cases hdidSpent : did.spentHeight with
    | none => simp [endStatus, hdidSpent] at hsame
    | some didHeight =>
        cases hstoreSpent : store.spentHeight with
        | none => simp [endStatus, hdidSpent, hstoreSpent] at hsame
        | some storeHeight => exact ⟨rfl, rfl⟩
  · intro hspent
    apply Agree.fst_eq
    apply spentHeightOf_agree.bind_run
    rintro didSpent _ k hexec rfl
    obtain ⟨rfl, did, hdid, hdidName, rfl⟩ := exec_spentHeightOf_eq_ok hexec
    apply spentHeightOf_agree.bind_run
    rintro storeSpent _ m hexec rfl
    obtain ⟨rfl, store, hstore, hstoreName, rfl⟩ := exec_spentHeightOf_eq_ok hexec
    obtain ⟨hdidSpent, hstoreSpent⟩ := hspent did store hdid hstore hdidName hstoreName
    obtain ⟨didHeight, hdidHeight⟩ := Option.isSome_iff_exists.1 hdidSpent
    obtain ⟨storeHeight, hstoreHeight⟩ := Option.isSome_iff_exists.1 hstoreSpent
    rw [hdidHeight, hstoreHeight]
    exact agree_pure rfl

end Melt

section Verdicts

variable [CoinHash] [Clvm] [DidEncoding] [DigRewards] {chain : Chain}

omit [DidEncoding] [DigRewards] in
theorem steady_spent (source : HonestSource chain (steadyAt chain.length)) {k : Nat}
    {id : Bytes32} {record : CoinRecord}
    (h : source.answer k (.coinRecord id) = .ok (some record)) :
    record.spentHeight = Ledger.spentHeight (ledgerOf chain) id := by
  obtain ⟨-, -, hspent⟩ := source.recorded h
  rwa [← ledgerOf_take, show (steadyAt chain.length).moment k = chain.length from rfl,
    List.take_length] at hspent

omit [DidEncoding] in
theorem resume_launchDead_spent (source : HonestSource chain (steadyAt chain.length)) {i : Nat}
    {minter : RewardDistributorMinter} {record : PendingRewardDistributorRecord} {detail : String}
    (h : (minter.resume record).run (zeroFilled source.answer) i = .error (launchDead detail)) :
    Ledger.spentHeight (ledgerOf chain) record.fundingCoinId ≠ none := by
  have hverdict : ((minter.resume record).run source.answer i).mapError MintError.verdict =
      ((minter.resume record).run (zeroFilled source.answer) i).mapError MintError.verdict :=
    resume_agree.map_eq
  rw [h] at hverdict
  cases hrun : (minter.resume record).run source.answer i with
  | ok pending =>
      rw [hrun] at hverdict
      cases hverdict
  | error e =>
      rw [hrun] at hverdict
      obtain ⟨detail', rfl⟩ := MintError.of_dead_verdict (Except.error.inj hverdict)
      obtain ⟨-, -, funding, spent, peak, hfunding, -, -, -, hspent, -⟩ := resume_dead hrun
      rw [← steady_spent source hfunding, hspent]
      exact Option.some_ne_none spent

theorem zeroFilled_verdicts (source : HonestSource chain (steadyAt chain.length)) (i : Nat) :
    (∀ pending : PendingMint,
      (mintStatus pending).run source.answer i =
          (mintStatus pending).run (zeroFilled source.answer) i ↔
        ∀ peak record, source.answer i .peakHeight = .ok (some peak) →
          source.answer (i + 1) (.coinRecord pending.didCoinId) = .ok none →
          source.answer (i + 2) (.coinRecord pending.sourceCoinId) = .ok (some record) →
          record.isSpent) ∧
    (∀ pending : PendingRewardDistributor,
      (pending.status.run source.answer i).map RewardDistributorStatus.verdict =
          (pending.status.run (zeroFilled source.answer) i).map
            RewardDistributorStatus.verdict ↔
        ∀ peak funding rewardCat, source.answer i .peakHeight = .ok (some peak) →
          source.answer (i + 1) (.coinRecord pending.distributorLauncherId) = .ok none →
          source.answer (i + 2) (.coinRecord pending.fundingCoinId) = .ok funding →
          source.answer (i + 3) (.coinRecord pending.rewardCatCoinId) = .ok rewardCat →
          funding.any CoinRecord.isSpent ∨ rewardCat.any CoinRecord.isSpent ∨
            funding = none ∧ rewardCat = none) ∧
    (∀ didCoinId storeCoinId,
      (meltStatus didCoinId storeCoinId).run source.answer i =
          (meltStatus didCoinId storeCoinId).run (zeroFilled source.answer) i ↔
        ∀ did store, source.answer i (.coinRecord didCoinId) = .ok (some did) →
          source.answer (i + 1) (.coinRecord storeCoinId) = .ok (some store) →
          did.isSpent ∧ store.isSpent) ∧
    (∀ pending : PendingTransfer,
      (transferStatus pending).run source.answer i =
          (transferStatus pending).run (zeroFilled source.answer) i ∧
        ∀ reason, (transferStatus pending).run (zeroFilled source.answer) i =
            .ok (.failed reason) →
          ∃ id ∈ pending.sourceCoinIds, Ledger.spentHeight (ledgerOf chain) id ≠ none) ∧
    (∀ (minter : RewardDistributorMinter) record,
      ((minter.resume record).run source.answer i).mapError MintError.verdict =
          ((minter.resume record).run (zeroFilled source.answer) i).mapError
            MintError.verdict ∧
        ∀ detail, (minter.resume record).run (zeroFilled source.answer) i =
            .error (launchDead detail) →
          Ledger.spentHeight (ledgerOf chain) record.fundingCoinId ≠ none) := by
  refine ⟨mintStatus_zeroFilled_iff, PendingRewardDistributor.status_zeroFilled_iff,
    fun didCoinId storeCoinId => ?_, fun pending => ⟨transferStatus_agree.fst_eq, ?_⟩,
    fun minter record => ⟨resume_agree.map_eq, fun detail h => resume_launchDead_spent source h⟩⟩
  · rw [meltStatus_zeroFilled_iff]
    constructor
    · intro hspent did store hdid hstore
      exact hspent did store hdid hstore (source.recorded hdid).1 (source.recorded hstore).1
    · intro hspent did store hdid hstore _ _
      exact hspent did store hdid hstore
  · intro reason h
    obtain ⟨id, hid, j, record, height, hrecord, hheight, -⟩ :=
      transferStatus_failed (transferStatus_agree.fst_eq.trans h)
    refine ⟨id, hid, ?_⟩
    rw [← steady_spent source hrecord, hheight]
    exact Option.some_ne_none height

end Verdicts

section Example

def unspentPair : Chain := [⟨[namedCoin 1, namedCoin 2], []⟩]

def waitingMint : PendingMint := ⟨4, 3, 1, 1⟩

def waitingDistributor : PendingRewardDistributor := ⟨3, 4, 1, 2, ⟨7, 8⟩, 1⟩

theorem zeroFilled_buries_unspent :
    letI := amountNames
    letI := byteOutputs
    letI := idAsDid
    HonestChain unspentPair ∧ Ledger.spentHeight (ledgerOf unspentPair) 1 = none ∧
      Ledger.spentHeight (ledgerOf unspentPair) 2 = none ∧
      ∃ source : HonestSource unspentPair (steadyAt unspentPair.length),
        (mintStatus waitingMint).run source.answer 0 = .ok (.awaiting 0) ∧
        (mintStatus waitingMint).run (zeroFilled source.answer) 0 = .ok (.failed
          "the funding coin was spent by a different spend; this mint can never confirm") ∧
        waitingDistributor.status.run source.answer 0 = .ok (.awaiting 0) ∧
        waitingDistributor.status.run (zeroFilled source.answer) 0 = .ok (.failed
          "the funding coin was spent by a different spend; this mint can never confirm") ∧
        (meltStatus 1 2).run source.answer 0 = .ok (.pushed 1 2) ∧
        (meltStatus 1 2).run (zeroFilled source.answer) 0 = .ok (.confirmed 0) := by
  let _ := amountNames
  let _ := byteOutputs
  let _ := idAsDid
  refine ⟨?_, by decide, by decide, .node amountIndex _ _, rfl, rfl, rfl, rfl, rfl, rfl⟩
  exact FreshChain.honest (by decide)

theorem zeroFilled_verdicts_unspentPair :
    letI := amountNames
    letI := byteOutputs
    let source := HonestSource.node amountIndex unspentPair (steadyAt unspentPair.length)
    (transferStatus payment).run source.answer 0 =
        (transferStatus payment).run (zeroFilled source.answer) 0 ∧
      ∀ reason, (transferStatus payment).run (zeroFilled source.answer) 0 ≠
        .ok (.failed reason) := by
  let _ := amountNames
  let _ := byteOutputs
  let _ := idAsDid
  let _ := deskRewards
  intro source
  obtain ⟨-, -, -, htransfer, -⟩ := zeroFilled_verdicts source 0
  obtain ⟨hsame, hspent⟩ := htransfer payment
  refine ⟨hsame, fun reason hfailed => ?_⟩
  obtain ⟨id, hid, htaken⟩ := hspent reason hfailed
  have hunspent : ∀ id ∈ payment.sourceCoinIds,
      Ledger.spentHeight (ledgerOf unspentPair) id = none := by
    decide
  exact htaken (hunspent id hid)

end Example

end DigAccount
