import DigAccount.Mint.HeldCoins
import DigAccount.Registry.StoreFee
import DigAccount.Wallet.TransferBundle

namespace DigAccount

open Validator Fallible TransferDrivers EmittingDrivers LargestFirst

section Split

def checkedSub (a b : Nat) : Option Nat := if b ≤ a then some (a - b) else none

def checkedSplit (sourceAmount requestedFee : Nat) : Option (Nat × Nat) := do
  let left ← checkedSub sourceAmount singletonAmount
  let change ← checkedSub left requestedFee
  if change = singletonAmount then
    let fee ← checkedAdd u64Max requestedFee change
    pure (0, fee)
  else pure (change, requestedFee)

variable {amount fee : Nat}

theorem checkedSub_of_le {a b : Nat} (h : b ≤ a) : checkedSub a b = some (a - b) := if_pos h

theorem splitChangeAndFee_checked (hcovers : singletonAmount + fee ≤ amount)
    (hword : amount ≤ u64Max) :
    checkedSplit amount fee = some (splitChangeAndFee amount fee) := by
  have hsingleton : singletonAmount ≤ amount := by omega
  have hfee : fee ≤ amount - singletonAmount := by omega
  rw [checkedSplit, checkedSub_of_le hsingleton, Option.bind_eq_bind, Option.bind_some,
    checkedSub_of_le hfee, Option.bind_some, splitChangeAndFee]
  split_ifs with hdust
  · have hsum : fee + (amount - singletonAmount - fee) ≤ u64Max := by omega
    rw [checkedAdd, if_pos hsum, saturatingAdd, Nat.min_eq_left hsum]
    rfl
  · rfl

theorem splitChangeAndFee_spec (hcovers : singletonAmount + fee ≤ amount)
    (hword : fee < u64Max) :
    singletonAmount + (splitChangeAndFee amount fee).1 + (splitChangeAndFee amount fee).2 = amount ∧
      fee ≤ (splitChangeAndFee amount fee).2 ∧
      (splitChangeAndFee amount fee).1 ≠ singletonAmount := by
  rw [splitChangeAndFee]
  split_ifs with hdust
  · simp only [singletonAmount, saturatingAdd] at *
    omega
  · exact ⟨by omega, le_rfl, hdust⟩

theorem splitChangeAndFee_le_ceiling (hcovers : singletonAmount + fee ≤ amount)
    (hfee : fee ≤ maxMintFeeMojos) :
    (splitChangeAndFee amount fee).2 ≤ maxMintFeeMojos ↔
      ¬ (fee = maxMintFeeMojos ∧ amount = maxMintFeeMojos + 2) := by
  rw [splitChangeAndFee]
  split_ifs with hdust
  · simp only [singletonAmount, maxMintFeeMojos, saturatingAdd, u64Max] at *
    omega
  · simp only [singletonAmount, maxMintFeeMojos] at *
    omega

end Split

theorem changeAfterLaunch_ok {amount fee change : Nat}
    (h : changeAfterLaunch amount fee = .ok change) : launcherAmount + change + fee = amount := by
  rw [changeAfterLaunch] at h
  split_ifs at h with hcovers
  cases h
  omega

section Funding

variable [CoinHash] {options : MintOptions} {reserved : List Bytes32} {puzzleHash : Bytes32}
  {choice : FundingChoice} {coins : List Coin} {source : Coin}

theorem FundingChoice.consider_best {coin : Coin}
    (h : (choice.consider options reserved coin).best = some source) :
    choice.best = some source ∨ source = coin ∧ options.requiredCoinAmount ≤ coin.amount := by
  rw [consider] at h
  split at h
  · exact .inl h
  rename_i hcovers
  split at h
  · exact .inl h
  dsimp only at h
  split at h
  · cases h
    exact .inr ⟨rfl, Nat.le_of_not_lt hcovers⟩
  · exact .inl h

theorem FundingChoice.foldl_best
    (h : (coins.foldl (FundingChoice.consider options reserved) choice).best = some source) :
    choice.best = some source ∨ source ∈ coins ∧ options.requiredCoinAmount ≤ source.amount := by
  induction coins generalizing choice with
  | nil => exact .inl h
  | cons coin coins ih =>
      rcases ih h with hbest | ⟨hmem, hcovers⟩
      · rcases consider_best hbest with hkept | ⟨rfl, hcovers⟩
        · exact .inl hkept
        · exact .inr ⟨List.mem_cons_self .., hcovers⟩
      · exact .inr ⟨List.mem_cons_of_mem _ hmem, hcovers⟩

theorem chooseFundingCoin_covers {records : List CoinRecord}
    (h : chooseFundingCoin options reserved puzzleHash records = .ok source) :
    options.requiredCoinAmount ≤ source.amount := by
  rw [chooseFundingCoin] at h
  split at h
  · rename_i coin hbest
    cases h
    rcases FundingChoice.foldl_best hbest with hnone | ⟨-, hcovers⟩
    · cases hnone
    · exact hcovers
  · split at h
    · cases h
    · cases h

theorem selectFundingCoin_covers {oracle : HostOracle} {i : Nat}
    (h : (selectFundingCoin options reserved puzzleHash).run oracle i = .ok source) :
    options.requiredCoinAmount ≤ source.amount := by
  obtain ⟨records, -, h⟩ := run_bind_eq_ok.1 h
  obtain ⟨chosen, hchosen, h⟩ := run_bind_eq_ok.1 h
  obtain ⟨confirmed, -, hpure⟩ := run_bind_eq_ok.1 h
  cases hpure
  exact chooseFundingCoin_covers hchosen

omit [CoinHash] in
theorem checkFeeCeiling_ok : options.checkFeeCeiling = .ok () ↔ options.fee ≤ maxMintFeeMojos := by
  rw [MintOptions.checkFeeCeiling, refuseWhen_ok]
  exact not_lt

omit [CoinHash] in
theorem requiredCoinAmount_le {amount : Nat} (hfee : options.fee ≤ maxMintFeeMojos) :
    options.requiredCoinAmount ≤ amount ↔ singletonAmount + options.fee ≤ amount := by
  rw [MintOptions.requiredCoinAmount, saturatingAdd]
  simp only [singletonAmount, maxMintFeeMojos, u64Max] at *
  omega

end Funding

section Ledger

variable [CoinHash] [EmittingDrivers]

def spentMojos (coinSpends : List CoinSpend) : Nat := totalMojos (coinSpends.map CoinSpend.coin)

def createdMojos (coinSpends : List CoinSpend) : Nat := totalMojos (coinSpends.flatMap outputsOf)

def feePaid (coinSpends : List CoinSpend) : Int :=
  (spentMojos coinSpends : Int) - createdMojos coinSpends

variable {xs ys : List CoinSpend}

omit [CoinHash] [EmittingDrivers] in
@[simp] theorem spentMojos_append : spentMojos (xs ++ ys) = spentMojos xs + spentMojos ys := by
  simp [spentMojos, totalMojos, total]

@[simp] theorem createdMojos_append :
    createdMojos (xs ++ ys) = createdMojos xs + createdMojos ys := by
  simp [createdMojos, totalMojos, total]

theorem outputsOf_changeAndFee {spend : CoinSpend} {puzzleHash : Bytes32} {memos : Memos}
    {change fee : Nat}
    (h : emits spend = changeAndFeeConditions puzzleHash memos change fee) :
    outputsOf spend = if 0 < change then [⟨coinId spend.coin, puzzleHash, change⟩] else [] := by
  rw [outputsOf, h, changeAndFeeConditions]
  split_ifs <;> rfl

theorem outputsOf_split {spend : CoinSpend} {puzzleHash : Bytes32} {memos : Memos}
    {change fee : Nat}
    (h : emits spend = .createCoin puzzleHash singletonAmount (some memos) ::
      changeAndFeeConditions puzzleHash memos change fee) :
    outputsOf spend = ⟨coinId spend.coin, puzzleHash, singletonAmount⟩ ::
      if 0 < change then [⟨coinId spend.coin, puzzleHash, change⟩] else [] := by
  rw [outputsOf, h, changeAndFeeConditions]
  split_ifs <;> rfl

omit [CoinHash] in
theorem feeOf_split {spend : CoinSpend} {puzzleHash : Bytes32} {memos : Memos}
    {change fee : Nat}
    (h : emits spend = .createCoin puzzleHash singletonAmount (some memos) ::
      changeAndFeeConditions puzzleHash memos change fee) : feeOf spend = fee := by
  rw [feeOf, h, changeAndFeeConditions]
  split_ifs <;> simp <;> omega

theorem totalMojos_outputsOf_split {spend : CoinSpend} {puzzleHash : Bytes32} {memos : Memos}
    {change fee : Nat}
    (h : emits spend = .createCoin puzzleHash singletonAmount (some memos) ::
      changeAndFeeConditions puzzleHash memos change fee) :
    totalMojos (outputsOf spend) = singletonAmount + change := by
  rw [outputsOf_split h]
  split_ifs with hchange
  · simp [totalMojos]
  · simp [totalMojos, Nat.eq_zero_of_not_pos hchange]

theorem nodup_outputsOf_split {spend : CoinSpend} {puzzleHash : Bytes32} {memos : Memos}
    {change fee : Nat} (hdistinct : change ≠ singletonAmount)
    (h : emits spend = .createCoin puzzleHash singletonAmount (some memos) ::
      changeAndFeeConditions puzzleHash memos change fee) : (outputsOf spend).Nodup := by
  rw [outputsOf_split h]
  split_ifs with hchange
  · refine List.nodup_cons.2 ⟨fun hsame => hdistinct ?_, List.nodup_singleton _⟩
    exact (congrArg Coin.amount (List.mem_singleton.1 hsame)).symm
  · exact List.nodup_singleton _

theorem createdMojos_cons {spend : CoinSpend} :
    createdMojos (spend :: xs) = totalMojos (outputsOf spend) + createdMojos xs := by
  simp [createdMojos, totalMojos, total]

end Ledger

class BalancedDrivers [CoinHash] extends EmittingDrivers, MintDrivers where
  launcherParent : Launcher → Nat
  parentCreates : ParentConditions → Nat
  createSimpleDid_adds : ∀ staged funding publicKey built did,
    funding.amount = singletonAmount →
      createSimpleDid staged funding publicKey = .ok (built, did) →
        ∃ added, built = staged ++ added ∧ createdMojos added = spentMojos added
  createLauncher_adds : ∀ staged parent number total built launcher,
    createLauncher staged parent number total = .ok (built, launcher) →
      ∃ added, built = staged ++ added ∧
        createdMojos added + launcherParent launcher = spentMojos added + launcherAmount
  mintDatastoreLaunch_adds : ∀ staged launcher metadata owner delegated built store conditions,
    mintDatastoreLaunch staged launcher metadata owner delegated =
        .ok (built, store, conditions) →
      parentCreates conditions = launcherParent launcher ∧
        ∃ added, built = staged ++ added ∧ createdMojos added = spentMojos added
  spendDidWithConditions_adds : ∀ staged did publicKey conditions built,
    spendDidWithConditions staged did publicKey conditions = .ok built →
      ∃ added, built = staged ++ added ∧
        createdMojos added = spentMojos added + parentCreates conditions

open BalancedDrivers

section Build

variable [CoinHash] [BalancedDrivers] {wallet : WalletKey} {source funding : Coin}
  {options : MintOptions} {pushedAtHeight : Nat} {coinSpends : List CoinSpend}
  {pending : PendingMint}

theorem buildMintSpends_ok
    (h : buildMintSpends wallet source options pushedAtHeight = .ok (coinSpends, pending)) :
    ∃ split memos added, split.coin = source ∧
      emits split = .createCoin wallet.puzzleHash singletonAmount (some memos) ::
        changeAndFeeConditions wallet.puzzleHash memos
          (splitChangeAndFee source.amount options.fee).1
          (splitChangeAndFee source.amount options.fee).2 ∧
      coinSpends = split :: added ∧ createdMojos added = spentMojos added := by
  simp only [buildMintSpends, bind_ok] at h
  obtain ⟨memos, -, split, hsplit, ⟨built, child⟩, hcreate, h⟩ := h
  obtain ⟨hcoin, hemits⟩ := standardSpend_emits _ _ _ _ (mapError_eq_ok.1 hsplit)
  obtain ⟨added, rfl, hbalanced⟩ := createSimpleDid_adds _ _ _ _ _ rfl (mapError_eq_ok.1 hcreate)
  cases child with
  | none => cases h
  | some did =>
      cases h
      exact ⟨split, memos, added, hcoin, hemits, rfl, hbalanced⟩

theorem feePaid_mint {split : CoinSpend} {memos : Memos} {added : List CoinSpend}
    (hcovers : singletonAmount + options.fee ≤ source.amount) (hword : options.fee < u64Max)
    (hcoin : split.coin = source)
    (hemits : emits split = .createCoin wallet.puzzleHash singletonAmount (some memos) ::
      changeAndFeeConditions wallet.puzzleHash memos
        (splitChangeAndFee source.amount options.fee).1
        (splitChangeAndFee source.amount options.fee).2)
    (hbalanced : createdMojos added = spentMojos added) :
    feePaid (split :: added) = (splitChangeAndFee source.amount options.fee).2 := by
  obtain ⟨hconserved, -, -⟩ := splitChangeAndFee_spec hcovers hword
  have hcreated : createdMojos (split :: added) =
      singletonAmount + (splitChangeAndFee source.amount options.fee).1 + spentMojos added := by
    rw [createdMojos_cons, totalMojos_outputsOf_split hemits, hbalanced]
  have hspent : spentMojos (split :: added) = source.amount + spentMojos added := by
    rw [← hcoin]
    rfl
  rw [feePaid, hcreated, hspent]
  omega

theorem spendFundingCoin_ok {fee : Nat} {spend : CoinSpend}
    (h : spendFundingCoin wallet funding fee = .ok spend) :
    ∃ memos change, launcherAmount + change + fee = funding.amount ∧ spend.coin = funding ∧
      emits spend = changeAndFeeConditions wallet.puzzleHash memos change fee := by
  simp only [spendFundingCoin, bind_ok] at h
  obtain ⟨memos, -, change, hchange, hspend⟩ := h
  obtain ⟨hcoin, hemits⟩ := standardSpend_emits _ _ _ _ (mapError_eq_ok.1 hspend)
  exact ⟨memos, change, changeAfterLaunch_ok hchange, hcoin, hemits⟩

theorem spendFundingCoin_pays {fee : Nat} {spend : CoinSpend}
    (h : spendFundingCoin wallet funding fee = .ok spend) :
    spentMojos [spend] = createdMojos [spend] + launcherAmount + fee := by
  obtain ⟨memos, change, hbalance, hcoin, hemits⟩ := spendFundingCoin_ok h
  have hspent : spentMojos [spend] = funding.amount := by
    rw [← hcoin]
    rfl
  have hcreated : createdMojos [spend] = change := by
    rw [createdMojos_cons, outputsOf_changeAndFee hemits]
    split_ifs with hchange
    · simp [totalMojos, createdMojos]
    · simp [totalMojos, createdMojos, Nat.eq_zero_of_not_pos hchange]
  rw [hspent, hcreated]
  omega

theorem buildStoreLaunch_ok {did : Did} {didCoinId seedRoot : Bytes32} {didString : String}
    {fee : Nat} {store : Datastore}
    (h : buildStoreLaunch wallet did didCoinId funding seedRoot didString fee =
      .ok (coinSpends, store)) :
    feePaid coinSpends = fee := by
  simp only [buildStoreLaunch, bind_ok] at h
  obtain ⟨⟨staged, launcher⟩, hlauncher, ⟨launched, datastore, conditions⟩, hstore, spends, hdid,
    fundingSpend, hfunding, hbuilt⟩ := h
  cases hbuilt
  obtain ⟨first, rfl, hfirst⟩ := createLauncher_adds _ _ _ _ _ _ (mapError_eq_ok.1 hlauncher)
  obtain ⟨hparent, second, rfl, hsecond⟩ :=
    mintDatastoreLaunch_adds _ _ _ _ _ _ _ _ (mapError_eq_ok.1 hstore)
  obtain ⟨third, rfl, hthird⟩ := spendDidWithConditions_adds _ _ _ _ _ (mapError_eq_ok.1 hdid)
  have hpays := spendFundingCoin_pays hfunding
  dsimp only at hparent hthird
  rw [feePaid]
  simp only [spentMojos_append, createdMojos_append]
  omega

end Build

def CeilingFold (options : MintOptions) (source : Coin) : Prop :=
  options.fee = maxMintFeeMojos ∧ source.amount = maxMintFeeMojos + 2

theorem buildMintSpends_fee [CoinHash] [BalancedDrivers] {wallet : WalletKey} {source : Coin}
    {options : MintOptions} {pushedAtHeight : Nat} {coinSpends : List CoinSpend}
    {pending : PendingMint} (hfee : options.fee ≤ maxMintFeeMojos)
    (hrequired : options.requiredCoinAmount ≤ source.amount)
    (h : buildMintSpends wallet source options pushedAtHeight = .ok (coinSpends, pending)) :
    feePaid coinSpends ≤ maxMintFeeMojos ↔ ¬ CeilingFold options source := by
  have hcovers := (requiredCoinAmount_le hfee).1 hrequired
  obtain ⟨split, memos, added, hspent, hemits, rfl, hbalanced⟩ := buildMintSpends_ok h
  have hword : options.fee < u64Max := hfee.trans_lt (by decide)
  rw [feePaid_mint hcovers hword hspent hemits hbalanced, CeilingFold,
    ← splitChangeAndFee_le_ceiling hcovers hfee]
  exact Int.ofNat_le

section Calls

variable [CoinHash] [BalancedDrivers] [Clvm] [DigDrivers] {minter : ProfileMinter}
  {registry : ProfileRegistry} {ix : ProfileIx} {network : MintNetwork} {options : MintOptions}
  {reservations : CoinReservations} {oracle : HostOracle} {i : Nat}

def MintFee (oracle : HostOracle) (options : MintOptions) (puzzleHash : Bytes32)
    (coinSpends : List CoinSpend) : Prop :=
  ∃ source, source ∈ coinSpends.map CoinSpend.coin ∧
    Funding oracle options puzzleHash [coinId source] ∧
    (feePaid coinSpends ≤ maxMintFeeMojos ↔ ¬ CeilingFold options source)

theorem prepareDidMint_fee {bundle : SpendBundle} {pending : PendingMint} {held : ReservationId}
    (h : (minter.prepareDidMint ix network options reservations).run oracle i =
      .ok ((bundle, pending), held)) :
    MintFee oracle options (minter.walletAt ix).puzzleHash bundle.coinSpends := by
  obtain ⟨wallet, hwallet, h⟩ := run_bind_eq_ok.1 h
  obtain ⟨live, -, hpure⟩ := run_bind_eq_ok.1 hwallet
  cases hpure
  obtain ⟨capped, hceiling, h⟩ := run_bind_eq_ok.1 h
  have hfee : options.fee ≤ maxMintFeeMojos := checkFeeCeiling_ok.1 hceiling
  obtain ⟨⟨source, reserved⟩, hselected, h⟩ := run_bind_eq_ok.1 h
  obtain ⟨signed, hsigned, h⟩ := run_bind_eq_ok.1 h
  obtain ⟨kept, hkept, hpure⟩ := run_bind_eq_ok.1 h
  cases hpure
  rw [CoinReservations.orRelease_ok] at hkept
  rw [run_outcome, Except.ok.injEq, hkept] at hsigned
  obtain ⟨peak, -, hsigned⟩ := run_bind_eq_ok.1 hsigned
  obtain ⟨⟨coinSpends, built⟩, hbuilt, hsigned⟩ := run_bind_eq_ok.1 hsigned
  obtain ⟨live, -, hsigned⟩ := run_bind_eq_ok.1 hsigned
  obtain ⟨signature, -, hpure⟩ := run_bind_eq_ok.1 hsigned
  cases hpure
  obtain ⟨excluded, ids, j, hchosen⟩ :=
    CoinReservations.selectAndReserve_chosen hselected
  obtain ⟨coin, hcoin, hpure⟩ := run_bind_eq_ok.1 hchosen
  cases hpure
  refine ⟨source, ?_, ⟨source, rfl, excluded, j, hcoin⟩,
    buildMintSpends_fee hfee (selectFundingCoin_covers hcoin) hbuilt⟩
  obtain ⟨split, memos, added, hspent, -, rfl, -⟩ := buildMintSpends_ok hbuilt
  rw [List.map_cons, hspent]
  exact List.mem_cons_self ..

theorem beginDidMint_fee {outcome : BegunDidMint}
    (h : (minter.beginDidMint ix network options reservations).run oracle i = .ok outcome) :
    ∀ push ∈ outcome.pushed,
      MintFee oracle options (minter.walletAt ix).puzzleHash push.1.coinSpends := by
  intro push hpush
  obtain ⟨prepared, hprepared, h⟩ := run_bind_eq_ok.1 h
  rw [run_outcome, Except.ok.injEq] at hprepared
  cases prepared with
  | error e =>
      cases h
      cases hpush
  | ok prepared =>
      obtain ⟨answer, -, hsettled⟩ := run_bind_eq_ok.1 h
      rw [settleDidMint_push hsettled] at hpush
      cases hpush
      exact prepareDidMint_fee hprepared

variable [DidEncoding]

omit [CoinHash] [BalancedDrivers] [Clvm] [DigDrivers] in
theorem journalThenBroadcast_push {journalled : Mutation Unit} {half : MintHalf}
    {bundle : SpendBundle} {held : ReservationId}
    {undo : ProfileRegistry → MintError → Mutation Unit} {status : ProfileMintStatus}
    {outcome : CeremonyOutcome}
    (h : (MintCeremony.journalThenBroadcast ix journalled half bundle held undo status).run
      oracle i = .ok outcome) : ∀ push ∈ outcome.push, push.1 = bundle := by
  intro push hpush
  cases journalled with
  | panicked reason => cases h
  | returned result registry =>
      cases result with
      | error e =>
          obtain ⟨released, -, hpure⟩ := run_bind_eq_ok.1 h
          cases hpure
          cases hpush
      | ok journalled =>
          obtain ⟨answer, -, hsettled⟩ := run_bind_eq_ok.1 h
          cases answer with
          | ok landed =>
              cases hsettled
              cases hpush
              rfl
          | error e =>
              rw [CeremonyOutcome.push, run_afterRefusal_push hsettled] at hpush
              cases hpush
              rfl

theorem beginProfileMint_fee [ProfileSchema] {seed : ProfileSeed} {outcome : CeremonyOutcome}
    (h : (minter.beginProfileMint registry ix seed network options reservations).run oracle i =
      .ok outcome) :
    ∀ push ∈ outcome.push,
      MintFee oracle options (minter.walletAt ix).puzzleHash push.1.coinSpends := by
  intro push hpush
  rw [ProfileMinter.beginProfileMint] at h
  split at h
  · cases h
    cases hpush
  obtain ⟨prepared, hprepared, h⟩ := run_bind_eq_ok.1 h
  rw [run_outcome, Except.ok.injEq] at hprepared
  cases prepared with
  | error e =>
      cases h
      cases hpush
  | ok prepared =>
      rw [journalThenBroadcast_push h push hpush]
      exact prepareDidMint_fee hprepared

theorem prepareStoreLaunch_fee {did : MintedDid} {launch : StoreLaunchBundle}
    {held : ReservationId}
    (h : (minter.prepareStoreLaunch registry ix did network reservations).run oracle i =
      .ok (launch, held)) :
    ∃ mint ∈ registry.inProgress, feePaid launch.bundle.coinSpends = mint.storeFee := by
  obtain ⟨mint, hmint, h⟩ := run_bind_eq_ok.1 h
  refine ⟨mint, List.mem_of_find?_eq_some (journalledMint_ok.1 hmint), ?_⟩
  obtain ⟨seedRoot, -, h⟩ := run_bind_eq_ok.1 h
  obtain ⟨wallet, -, h⟩ := run_bind_eq_ok.1 h
  obtain ⟨tip, -, h⟩ := run_bind_eq_ok.1 h
  obtain ⟨pinned, -, h⟩ := run_bind_eq_ok.1 h
  obtain ⟨⟨funding, reserved⟩, -, h⟩ := run_bind_eq_ok.1 h
  obtain ⟨signed, hsigned, h⟩ := run_bind_eq_ok.1 h
  obtain ⟨kept, hkept, hpure⟩ := run_bind_eq_ok.1 h
  cases hpure
  rw [CoinReservations.orRelease_ok] at hkept
  rw [run_outcome, Except.ok.injEq, hkept] at hsigned
  obtain ⟨peak, -, hsigned⟩ := run_bind_eq_ok.1 hsigned
  obtain ⟨live, -, hbuilt⟩ := run_bind_eq_ok.1 hsigned
  obtain ⟨anchored, -, hbuilt⟩ := bind_ok.1 hbuilt
  obtain ⟨⟨coinSpends, store⟩, hspends, hbuilt⟩ := bind_ok.1 hbuilt
  obtain ⟨judged, -, hbuilt⟩ := bind_ok.1 hbuilt
  obtain ⟨signature, -, hreturned⟩ := bind_ok.1 hbuilt
  cases hreturned
  exact buildStoreLaunch_ok hspends

theorem advanceProfileMint_fee {outcome : CeremonyOutcome} (hcapped : registry.FeesCapped)
    (h : (minter.advanceProfileMint registry ix network reservations).run oracle i =
      .ok outcome) :
    ∀ push ∈ outcome.push, feePaid push.1.coinSpends ≤ maxMintFeeMojos := by
  intro push hpush
  obtain ⟨status, -, h⟩ := run_bind_eq_ok.1 h
  split at h
  · obtain ⟨prepared, hprepared, h⟩ := run_bind_eq_ok.1 h
    rw [run_outcome, Except.ok.injEq] at hprepared
    cases prepared with
    | error e =>
        cases h
        cases hpush
    | ok prepared =>
        obtain ⟨mint, hmint, hfee⟩ := prepareStoreLaunch_fee hprepared
        rw [journalThenBroadcast_push h push hpush, hfee]
        exact Int.ofNat_le.2 (hcapped mint hmint)
  · cases h
    cases hpush

end Calls

section Claims

variable [CoinHash] [BalancedDrivers]

theorem did_mint_split_conserves (wallet : WalletKey) (source : Coin) (options : MintOptions)
    (pushedAtHeight : Nat) (hcovers : 1 + options.fee ≤ source.amount)
    (hword : source.amount ≤ u64Max) :
    ∃ change paid, checkedSplit source.amount options.fee = some (change, paid) ∧
      splitChangeAndFee source.amount options.fee = (change, paid) ∧
      1 + change + paid = source.amount ∧ options.fee ≤ paid ∧
      ∀ coinSpends pending,
        buildMintSpends wallet source options pushedAtHeight = .ok (coinSpends, pending) →
        ∃ split ∈ coinSpends, split.coin = source ∧ feeOf split = paid ∧
          totalMojos (outputsOf split) = 1 + change ∧ (outputsOf split).Nodup ∧
          (Function.Injective coinId → ((outputsOf split).map coinId).Nodup) := by
  have hfee : options.fee < u64Max := by omega
  obtain ⟨hconserved, hpaid, hdistinct⟩ := splitChangeAndFee_spec hcovers hfee
  refine ⟨_, _, splitChangeAndFee_checked hcovers hword, rfl, hconserved, hpaid, ?_⟩
  intro coinSpends pending hbuilt
  obtain ⟨split, memos, added, hcoin, hemits, rfl, -⟩ := buildMintSpends_ok hbuilt
  have hnodup := nodup_outputsOf_split hdistinct hemits
  exact ⟨split, List.mem_cons_self .., hcoin, feeOf_split hemits,
    totalMojos_outputsOf_split hemits, hnodup, fun hid => hnodup.map hid⟩

variable [Clvm] [DigDrivers] [DidEncoding] [RegistryJson] [ProfileSchema]

theorem fee_paid_within_ceiling (minter : ProfileMinter) (ix : ProfileIx) (network : MintNetwork)
    (reservations : CoinReservations) (oracle : HostOracle) (i : Nat) :
    (∀ wallet source options pushedAtHeight coinSpends pending,
      options.checkFeeCeiling = .ok () → options.requiredCoinAmount ≤ source.amount →
        buildMintSpends wallet source options pushedAtHeight = .ok (coinSpends, pending) →
          (feePaid coinSpends ≤ maxMintFeeMojos ↔ ¬ CeilingFold options source)) ∧
    (∀ options outcome,
      (minter.beginDidMint ix network options reservations).run oracle i = .ok outcome →
        ∀ push ∈ outcome.pushed,
          MintFee oracle options (minter.walletAt ix).puzzleHash push.1.coinSpends) ∧
    (∀ registry seed options outcome,
      (minter.beginProfileMint registry ix seed network options reservations).run oracle i =
          .ok outcome →
        ∀ push ∈ outcome.push,
          MintFee oracle options (minter.walletAt ix).puzzleHash push.1.coinSpends) ∧
    ∀ (registry : ProfileRegistry) outcome, registry.Reached →
      (minter.advanceProfileMint registry ix network reservations).run oracle i = .ok outcome →
        ∀ push ∈ outcome.push, feePaid push.1.coinSpends ≤ maxMintFeeMojos := by
  refine ⟨?_, ?_, ?_, ?_⟩
  · intro wallet source options pushedAtHeight coinSpends pending hceiling hrequired hbuilt
    exact buildMintSpends_fee (checkFeeCeiling_ok.1 hceiling) hrequired hbuilt
  · intro options outcome h
    exact beginDidMint_fee h
  · intro registry seed options outcome h
    exact beginProfileMint_fee h
  · intro registry outcome hreached h
    exact advanceProfileMint_fee hreached.feesCapped h

end Claims

section Example

open ProfileRegistry PartialMachine

def littleEndian : Nat → Nat → List UInt8
  | 0, _ => []
  | width + 1, n => UInt8.ofNat n :: littleEndian width (n / 256)

def fromLittleEndian : List UInt8 → Nat
  | [] => 0
  | byte :: rest => byte.toNat + 256 * fromLittleEndian rest

def writeEntry : Condition Unit → List UInt8
  | .createCoin puzzleHash amount memos =>
      1 :: (if memos.isSome then 1 else 0) ::
        (littleEndian 32 puzzleHash ++ littleEndian 8 amount)
  | .reserveFee amount => 2 :: littleEndian 8 amount
  | .createCoinAnnouncement _ => [3]
  | .assertCoinAnnouncement announcementId => 4 :: littleEndian 32 announcementId

def readEntries : Nat → List UInt8 → List (Condition Unit)
  | fuel + 1, 1 :: memos :: rest =>
      .createCoin (fromLittleEndian (rest.take 32)) (fromLittleEndian ((rest.drop 32).take 8))
          (if memos = 1 then some () else none) ::
        readEntries fuel (rest.drop 40)
  | fuel + 1, 2 :: rest =>
      .reserveFee (fromLittleEndian (rest.take 8)) :: readEntries fuel (rest.drop 8)
  | fuel + 1, 3 :: rest => .createCoinAnnouncement inputBindingMessage :: readEntries fuel rest
  | fuel + 1, 4 :: rest =>
      .assertCoinAnnouncement (fromLittleEndian (rest.take 32)) :: readEntries fuel (rest.drop 32)
  | _, _ => []

def entriesOf (spend : CoinSpend) : List (Condition Unit) :=
  readEntries spend.solution.length spend.solution

def enter (coin : Coin) (conditions : List (Condition Unit)) : Except String CoinSpend :=
  let spend : CoinSpend := ⟨coin, [], conditions.flatMap writeEntry⟩
  if entriesOf spend = conditions then .ok spend
  else .error "the conditions do not fit the solution"

theorem enter_ok {coin : Coin} {conditions : List (Condition Unit)} {spend : CoinSpend}
    (h : enter coin conditions = .ok spend) : spend.coin = coin ∧ entriesOf spend = conditions := by
  rw [enter] at h
  split at h
  · rename_i hread
    cases h
    exact ⟨rfl, hread⟩
  · cases h

@[reducible] def entryDrivers : EmittingDrivers where
  Memos := Unit
  hint _ := .ok ()
  announcementId coinId _ := coinId
  standardSpend _ coin conditions := enter coin conditions
  emits := entriesOf
  standardSpend_emits _ _ _ _ h := enter_ok h

theorem entered_mojos {coin : Coin} {puzzleHash amount : Nat} {spend : CoinSpend}
    (h : enter coin [.createCoin puzzleHash amount none] = .ok spend) :
    letI := pairHash
    letI := entryDrivers
    createdMojos [spend] = amount ∧ spentMojos [spend] = coin.amount := by
  let _ := pairHash
  let _ := entryDrivers
  obtain ⟨rfl, hentries⟩ := enter_ok h
  have houtputs : outputsOf spend = [⟨coinId spend.coin, puzzleHash, amount⟩] := by
    rw [outputsOf, show emits spend = _ from hentries]
    rfl
  constructor
  · rw [createdMojos_cons, houtputs]
    simp [totalMojos, createdMojos]
  · simp [totalMojos, spentMojos]

@[reducible] def ledgerDrivers : letI := pairHash; BalancedDrivers :=
  letI := pairHash
  { entryDrivers with
    Launcher := Coin
    ParentConditions := Unit
    createSimpleDid := fun staged funding _ => do
      let launcher := launcherFrom funding
      let launch ← enter funding [.createCoin launcher.puzzleHash launcherAmount none]
      let child ← enter launcher [.createCoin 8 launcher.amount none]
      return (staged ++ [launch, child], some ⟨childOf launcher, coinId launcher, 0⟩)
    intermediateCoin := intermediateFrom
    createLauncher := fun staged parent number total => do
      let intermediate := intermediateFrom parent number total
      let launch ← enter intermediate [.createCoin singletonLauncherHash launcherAmount none]
      return (staged ++ [launch], launcherFrom intermediate)
    mintDatastoreLaunch := fun staged launcher metadata owner delegated => do
      let child ← enter launcher [.createCoin 8 launcher.amount none]
      return (staged ++ [child],
        ⟨childOf launcher, ⟨coinId launcher, metadata, owner, delegated⟩⟩, ())
    spendDidWithConditions := fun staged did _ _ => do
      let spent ← enter did.coin [.createCoin did.coin.puzzleHash did.coin.amount none]
      return staged ++ [spent]
    launcherParent := fun _ => intermediateAmount
    parentCreates := fun _ => intermediateAmount
    createSimpleDid_adds := by
      let _ := entryDrivers
      intro staged funding publicKey built did hamount h
      obtain ⟨launch, hlaunch, h⟩ := bind_ok.1 h
      obtain ⟨child, hchild, h⟩ := bind_ok.1 h
      cases h
      obtain ⟨hlaunchOut, hlaunchIn⟩ := entered_mojos hlaunch
      obtain ⟨hchildOut, hchildIn⟩ := entered_mojos hchild
      refine ⟨[launch] ++ [child], rfl, ?_⟩
      rw [createdMojos_append, spentMojos_append, hlaunchOut, hlaunchIn, hchildOut, hchildIn,
        hamount]
      rfl
    createLauncher_adds := by
      intro staged parent number total built launcher h
      obtain ⟨launch, hlaunch, h⟩ := bind_ok.1 h
      cases h
      obtain ⟨hout, hin⟩ := entered_mojos hlaunch
      refine ⟨[launch], rfl, ?_⟩
      rw [hout, hin]
      exact Nat.add_comm _ _
    mintDatastoreLaunch_adds := by
      intro staged launcher metadata owner delegated built store conditions h
      obtain ⟨child, hchild, h⟩ := bind_ok.1 h
      cases h
      obtain ⟨hout, hin⟩ := entered_mojos hchild
      exact ⟨rfl, [child], rfl, hout.trans hin.symm⟩
    spendDidWithConditions_adds := by
      intro staged did publicKey conditions built h
      obtain ⟨spent, hspent, h⟩ := bind_ok.1 h
      cases h
      obtain ⟨hout, hin⟩ := entered_mojos hspent
      exact ⟨[spent], rfl, hout.trans hin.symm⟩ }

def ledgerNode (source : Coin) : HostOracle := fun i call =>
  letI := pairHash
  match call with
  | .coinRecordsByPuzzleHash _ _ => .ok [⟨source, some 4, none⟩]
  | .chain (.coinRecord id) =>
      if id = coinId source then .ok (some ⟨source, some 4, none⟩)
      else mintingNode 60 .accepted i (.chain (.coinRecord id))
  | other => mintingNode 60 .accepted i other

def begunMint (options : MintOptions) : HostReads String BegunDidMint :=
  letI := pairHash
  letI := ledgerDrivers
  letI := singletonOutputs
  letI := singletonDrivers
  payerMinter.beginDidMint 0 ⟨7⟩ options ⟨300⟩

def brinkCoin : Coin := ⟨1, 5, 10000000002⟩

def begunProfileMint : letI := decimalDid; MintCeremony :=
  letI := pairHash
  letI := decimalDid
  letI := ledgerDrivers
  letI := singletonOutputs
  letI := singletonDrivers
  letI := nameAndBio
  payerMinter.beginProfileMint ProfileRegistry.empty 0 ⟨⟨Fin.last 15, Fin.last 15⟩⟩ ⟨7⟩ ⟨3⟩ ⟨300⟩

def mintedStage : MintStage := letI := pairHash
  .didPushed ⟨coinId mintedLauncher, coinId mintedDidCoin, coinId payerCoin, 20⟩

def journalled : ProfileRegistry := ⟨[], none, [.withSeedRoot 0 mintedStage 9 4]⟩

theorem journalled_reached : letI := decimalDid; letI := fileJson; journalled.Reached :=
  let _ := decimalDid
  let _ := fileJson
  ⟨ProfileRegistry.empty, [.beginSeededMint 0 mintedStage 9 4], .inl rfl, by decide⟩

def advancedMint : letI := decimalDid; MintCeremony :=
  letI := pairHash
  letI := decimalDid
  letI := ledgerDrivers
  letI := singletonOutputs
  letI := singletonDrivers
  payerMinter.advanceProfileMint journalled 0 ⟨7⟩ ⟨300⟩

theorem folded_dust_breaks_the_ceiling :
    letI := pairHash
    letI := ledgerDrivers
    ((begunMint ⟨10000000000⟩).run (ledgerNode brinkCoin) 0).toOption.map
        (fun outcome => outcome.pushed.map fun push => (feePaid push.1.coinSpends, push.2)) =
          some (some (10000000001, .ok ())) ∧
      ¬ (10000000001 : Int) ≤ maxMintFeeMojos := by
  exact ⟨by decide +kernel, by decide⟩

theorem fee_paid_within_ceiling_of_payer :
    letI := pairHash
    letI := decimalDid
    letI := ledgerDrivers
    (∃ built pending, buildMintSpends payerKey payerCoin ⟨3⟩ 60 = .ok (built, pending) ∧
      feePaid built ≤ maxMintFeeMojos) ∧
    (∃ outcome, (begunMint ⟨3⟩).run (ledgerNode payerCoin) 0 = .ok outcome ∧
      outcome.pushed.isSome ∧ ∀ push ∈ outcome.pushed,
        MintFee (ledgerNode payerCoin) ⟨3⟩ 5 push.1.coinSpends) ∧
    (∃ outcome, begunProfileMint.run (ledgerNode payerCoin) 0 = .ok outcome ∧
      outcome.push.isSome ∧ ∀ push ∈ outcome.push,
        MintFee (ledgerNode payerCoin) ⟨3⟩ 5 push.1.coinSpends) ∧
    ∃ outcome, advancedMint.run (ledgerNode payerCoin) 0 = .ok outcome ∧
      outcome.push.isSome ∧ ∀ push ∈ outcome.push, feePaid push.1.coinSpends ≤ maxMintFeeMojos := by
  let _ := pairHash
  let _ := decimalDid
  let _ := ledgerDrivers
  let _ := singletonOutputs
  let _ := singletonDrivers
  let _ := nameAndBio
  let _ := fileJson
  obtain ⟨hmint, hbegin, hprofile, hlaunch⟩ :=
    fee_paid_within_ceiling payerMinter 0 ⟨7⟩ ⟨300⟩ (ledgerNode payerCoin) 0
  refine ⟨?_, ?_, ?_, ?_⟩
  · have hbuilds : (buildMintSpends payerKey payerCoin ⟨3⟩ 60).toOption.any fun _ => true := by
      decide +kernel
    obtain ⟨⟨built, pending⟩, hbuilt, -⟩ := ok_of_any hbuilds
    refine ⟨built, pending, hbuilt, (hmint _ _ _ _ _ _ rfl (by decide) hbuilt).2 ?_⟩
    rintro ⟨hfee, -⟩
    cases hfee
  · have hpushes : ((begunMint ⟨3⟩).run (ledgerNode payerCoin) 0).toOption.any
        (fun outcome => outcome.pushed.isSome) := by
      decide +kernel
    obtain ⟨outcome, hrun, hpushed⟩ := ok_of_any hpushes
    exact ⟨outcome, hrun, hpushed, hbegin _ _ hrun⟩
  · have hpushes : (begunProfileMint.run (ledgerNode payerCoin) 0).toOption.any
        (fun outcome => outcome.push.isSome) := by
      decide +kernel
    obtain ⟨outcome, hrun, hpushed⟩ := ok_of_any hpushes
    exact ⟨outcome, hrun, hpushed, hprofile _ _ _ _ hrun⟩
  · have hpushes : (advancedMint.run (ledgerNode payerCoin) 0).toOption.any
        (fun outcome => outcome.push.isSome) := by
      decide +kernel
    obtain ⟨outcome, hrun, hpushed⟩ := ok_of_any hpushes
    exact ⟨outcome, hrun, hpushed, hlaunch _ _ journalled_reached hrun⟩

def dustCoin : Coin := ⟨1, 5, 5⟩

theorem did_mint_split_conserves_of_dust :
    letI := pairHash
    letI := ledgerDrivers
    ∃ coinSpends pending split,
      buildMintSpends payerKey dustCoin ⟨3⟩ 60 = .ok (coinSpends, pending) ∧
        split ∈ coinSpends ∧ split.coin = dustCoin ∧ feeOf split = 4 ∧
        totalMojos (outputsOf split) = 1 ∧ ((outputsOf split).map coinId).Nodup := by
  let _ := pairHash
  let _ := ledgerDrivers
  have hbuilds : (buildMintSpends payerKey dustCoin ⟨3⟩ 60).toOption.any fun _ => true := by
    decide +kernel
  obtain ⟨⟨coinSpends, pending⟩, hbuilt, -⟩ := ok_of_any hbuilds
  obtain ⟨change, paid, -, hsplit, -, -, hall⟩ :=
    did_mint_split_conserves payerKey dustCoin ⟨3⟩ 60 (by decide) (by decide)
  cases hsplit
  obtain ⟨split, hmem, hcoin, hfee, htotal, -, hids⟩ := hall coinSpends pending hbuilt
  exact ⟨coinSpends, pending, split, hbuilt, hmem, hcoin, hfee, htotal, hids pairHash_injective⟩

end Example

end DigAccount
