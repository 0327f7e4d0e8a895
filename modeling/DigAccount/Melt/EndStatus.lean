import DigAccount.Chain.Node
import DigAccount.Chain.Singleton
import DigAccount.Melt.Plan

namespace DigAccount

section Status

variable [CoinHash] [Clvm] {chain : Chain} {schedule : Schedule} {anchor : ProfileAnchor}
  {i j k : Nat}

section Planned

variable [DigDrivers] {wallet : WalletKey}

theorem did_live_of_planned (source : HonestSource chain schedule)
    {coin : Coin} {spends : List CoinSpend}
    (h : (planDidHalf anchor wallet).exec source.answer i = (.ok (coin, spends), k)) :
    lineageOf anchor.launcherId (chain.take (schedule.moment i)) = .live (coinId coin) := by
  obtain ⟨-, tip, record, rfl, walked, found, unspent⟩ := planDidHalf_ok h
  rcases (source.walkedDid walked).2 with hlive | hmelted
  · exact hlive
  · have hspent : SpentBy chain (schedule.moment (i + 2)) (coinId tip.coin) :=
      (melted_spentBy hmelted).mono (schedule.forward (by omega))
    rw [← source.record_spent found, unspent] at hspent
    cases hspent

theorem store_live_of_planned (honest : HonestChain chain) (source : HonestSource chain schedule)
    {coin : Coin} {spends : List CoinSpend}
    (h : (planStoreHalf anchor wallet).exec source.answer i = (.ok (coin, spends), k)) :
    lineageOf anchor.storeLauncherId (chain.take (schedule.moment i)) = .live (coinId coin) := by
  obtain ⟨-, lineage, creatingSpend, store, record, rfl, walked, parent, hydrated, found,
    unspent⟩ := planStoreHalf_ok h
  have htip := source.walkedSingleton walked
  obtain ⟨hmem, hcreated⟩ := source.served parent
  have hid := honest.hydrated_tip htip (mem_of_take hmem) hcreated hydrated
  rcases htip with hlive | hmelted
  · rw [hlive, hid]
  · have hspent : SpentBy chain (schedule.moment (i + 2)) (coinId store.coin) := by
      rw [hid]
      exact (melted_spentBy hmelted).mono (schedule.forward (by omega))
    rw [← source.record_spent found, unspent] at hspent
    cases hspent

theorem pushed_planned {melter : ProfileMelter} {ix : ProfileIx} {network : MintNetwork}
    {oracle : Oracle} {didCoinId storeCoinId : Bytes32}
    (h : (melter.meltProfile ix anchor network).run oracle i =
      .ok (.pushed didCoinId storeCoinId)) :
    ∃ plan k, (planMelt anchor (melter.walletAt ix)).exec oracle i = (.ok plan, k) ∧
      coinId plan.didCoin = didCoinId ∧ coinId plan.storeCoin = storeCoinId := by
  obtain ⟨wallet, hwallet, hrest⟩ := Fallible.run_bind_eq_ok.1 h
  obtain ⟨plan, hplan, hrest⟩ := Fallible.run_bind_eq_ok.1 hrest
  obtain ⟨bundle, -, hrest⟩ := Fallible.run_bind_eq_ok.1 hrest
  obtain ⟨outcome, -, hjudged⟩ := Fallible.run_bind_eq_ok.1 hrest
  have hkey : melter.walletAt ix = wallet := by
    rw [Fallible.run_ofExcept, ProfileMelter.liveWalletKey] at hwallet
    split at hwallet
    · exact Except.ok.inj hwallet
    · cases hwallet
  subst hkey
  refine ⟨plan, _, Prod.ext hplan rfl, ?_⟩
  cases outcome with
  | accepted =>
      cases hjudged
      exact ⟨rfl, rfl⟩
  | alreadyInMempool =>
      cases hjudged
      exact ⟨rfl, rfl⟩
  | rejected reason => cases hjudged

theorem pushed_live (honest : HonestChain chain) (source : HonestSource chain schedule)
    {melter : ProfileMelter} {ix : ProfileIx} {network : MintNetwork}
    {didCoinId storeCoinId : Bytes32}
    (h : (melter.meltProfile ix anchor network).run source.answer i =
      .ok (.pushed didCoinId storeCoinId)) :
    lineageOf anchor.launcherId (chain.take (schedule.moment i)) = .live didCoinId ∧
      lineageOf anchor.storeLauncherId (chain.take (schedule.moment (i + 3))) =
        .live storeCoinId ∧
      ∃ didCoin storeCoin, coinId didCoin = didCoinId ∧ coinId storeCoin = storeCoinId := by
  obtain ⟨plan, k, hplan, rfl, rfl⟩ := pushed_planned h
  obtain ⟨didSpends, storeSpends, m, n, hdid, hstore⟩ := planMelt_ok hplan
  obtain rfl := (planDidHalf_ok hdid).1
  exact ⟨did_live_of_planned source hdid, store_live_of_planned honest source hstore,
    _, _, rfl, rfl⟩

end Planned

omit [Clvm] in
theorem run_spentHeightOf {oracle : Oracle} {id : Bytes32} {spent : Option Nat} :
    (spentHeightOf id).run oracle i = .ok spent ↔
      ∃ record, oracle i (.coinRecord id) = .ok (some record) ∧ coinId record.coin = id ∧
        record.spentHeight = spent := by
  rw [spentHeightOf]
  rw [Fallible.run_bind_eq_ok]
  constructor
  · rintro ⟨found, hfound, hjudged⟩
    rw [run_readCoinRecord, Fallible.mapError_eq_ok] at hfound
    rw [Fallible.run_ofExcept] at hjudged
    cases found with
    | none => cases hjudged
    | some record =>
        rw [judgeSpent] at hjudged
        split at hjudged
        · cases hjudged
        · rename_i hid
          exact ⟨record, hfound, not_not.1 hid, Except.ok.inj hjudged⟩
  · rintro ⟨record, hrecord, hid, rfl⟩
    refine ⟨some record, ?_, ?_⟩
    · exact run_readCoinRecord_ok hrecord
    · rw [Fallible.run_ofExcept, judgeSpent, if_neg (not_not.2 hid)]

omit [Clvm] in
theorem after_spentHeightOf {oracle : Oracle} {id : Bytes32} {spent : Option Nat}
    (h : (spentHeightOf id).run oracle i = .ok spent) :
    (spentHeightOf id).after oracle i = i + 1 := by
  obtain ⟨record, hrecord, -⟩ := run_spentHeightOf.1 h
  rw [spentHeightOf, Fallible.after_bind_of_ok (run_readCoinRecord_ok hrecord)]
  rfl

omit [Clvm] in
theorem run_meltStatus {oracle : Oracle} {didCoinId storeCoinId : Bytes32} {status : MeltStatus} :
    (meltStatus didCoinId storeCoinId).run oracle j = .ok status ↔
      ∃ didSpent storeSpent, (spentHeightOf didCoinId).run oracle j = .ok didSpent ∧
        (spentHeightOf storeCoinId).run oracle (j + 1) = .ok storeSpent ∧
        endStatus didCoinId storeCoinId didSpent storeSpent = status := by
  rw [meltStatus]
  rw [Fallible.run_bind_eq_ok]
  constructor
  · rintro ⟨didSpent, hdid, hrest⟩
    rw [after_spentHeightOf hdid, Fallible.run_bind_eq_ok] at hrest
    obtain ⟨storeSpent, hstore, hstatus⟩ := hrest
    exact ⟨didSpent, storeSpent, hdid, hstore, Except.ok.inj hstatus⟩
  · rintro ⟨didSpent, storeSpent, hdid, hstore, rfl⟩
    refine ⟨didSpent, hdid, ?_⟩
    rw [after_spentHeightOf hdid, Fallible.run_bind_eq_ok]
    exact ⟨storeSpent, hstore, rfl⟩

theorem confirmed_spent (source : HonestSource chain schedule) {didCoinId storeCoinId : Bytes32}
    {height : Nat}
    (h : (meltStatus didCoinId storeCoinId).run source.answer j = .ok (.confirmed height)) :
    SpentBy chain (schedule.moment j) didCoinId ∧
      SpentBy chain (schedule.moment (j + 1)) storeCoinId := by
  obtain ⟨didSpent, storeSpent, hdid, hstore, hstatus⟩ := run_meltStatus.1 h
  obtain ⟨didRecord, hdidRecord, -, rfl⟩ := run_spentHeightOf.1 hdid
  obtain ⟨storeRecord, hstoreRecord, -, rfl⟩ := run_spentHeightOf.1 hstore
  rw [← source.record_spent hdidRecord, ← source.record_spent hstoreRecord]
  cases hd : didRecord.spentHeight with
  | none =>
      rw [hd] at hstatus
      cases hstatus
  | some didHeight =>
      cases hs : storeRecord.spentHeight with
      | none =>
          rw [hd, hs] at hstatus
          cases hstatus
      | some storeHeight => exact ⟨rfl, rfl⟩

structure EndedBy (chain : Chain) (n : Nat) (anchor : ProfileAnchor)
    (didCoinId storeCoinId : Bytes32) : Prop where
  did_melted : lineageOf anchor.launcherId (chain.take n) = .melted didCoinId
  store_melted : lineageOf anchor.storeLauncherId (chain.take n) = .melted storeCoinId

theorem EndedBy.no_live_tip {n : Nat} {didCoinId storeCoinId : Bytes32}
    (h : EndedBy chain n anchor didCoinId storeCoinId) :
    ¬ HasLiveTip chain n anchor.launcherId ∧ ¬ HasLiveTip chain n anchor.storeLauncherId := by
  constructor
  · rintro ⟨tip, hlive⟩
    rw [h.did_melted] at hlive
    cases hlive
  · rintro ⟨tip, hlive⟩
    rw [h.store_melted] at hlive
    cases hlive

theorem node_confirms {didCoin storeCoin : Coin}
    (hdid : SpentBy chain (schedule.moment j) (coinId didCoin))
    (hstore : SpentBy chain (schedule.moment (j + 1)) (coinId storeCoin)) :
    ∃ source : HonestSource chain schedule, ∃ height,
      (meltStatus (coinId didCoin) (coinId storeCoin)).run source.answer j =
        .ok (.confirmed height) := by
  let index : NodeIndex := .naming [didCoin, storeCoin] id
  have hdidName : coinId (index.coin (coinId didCoin)) = coinId didCoin :=
    NodeIndex.naming_names (by simp)
  have hstoreName : coinId (index.coin (coinId storeCoin)) = coinId storeCoin :=
    NodeIndex.naming_names (by simp)
  have hrecorded : ∀ n id, coinId (index.coin id) = id → SpentBy chain (schedule.moment n) id →
      ∃ height, (spentHeightOf id).run (HonestSource.node index chain schedule).answer n =
        .ok (some height) := by
    intro n id hname hspent
    obtain ⟨found, hfound, -, hheight⟩ :=
      NodeIndex.record_eq (chain.take (schedule.moment n)) hname
    rw [ledgerOf_take] at hheight
    obtain ⟨height, hsome⟩ := Option.isSome_iff_exists.1 hspent
    rw [hsome] at hheight
    obtain ⟨record, rfl, hspentAt⟩ := Option.bind_eq_some_iff.1 hheight
    refine ⟨height, run_spentHeightOf.2 ⟨record, hfound, ?_, hspentAt⟩⟩
    exact ((HonestSource.node index chain schedule).recorded hfound).1
  obtain ⟨didHeight, hdidRun⟩ := hrecorded j _ hdidName hdid
  obtain ⟨storeHeight, hstoreRun⟩ := hrecorded (j + 1) _ hstoreName hstore
  exact ⟨HonestSource.node index chain schedule, max didHeight storeHeight,
    run_meltStatus.2 ⟨_, _, hdidRun, hstoreRun, rfl⟩⟩

theorem confirmed_ended_iff [DigDrivers] (honest : HonestChain chain) {pushing : Schedule}
    (pushSource : HonestSource chain pushing) (melter : ProfileMelter) (ix : ProfileIx)
    (anchor : ProfileAnchor) (network : MintNetwork) {didCoinId storeCoinId : Bytes32}
    (pushed : (melter.meltProfile ix anchor network).run pushSource.answer i =
      .ok (.pushed didCoinId storeCoinId))
    (schedule : Schedule) (j : Nat) (later : pushing.moment (i + 6) ≤ schedule.moment j) :
    (∀ source : HonestSource chain schedule, ∀ height,
        (meltStatus didCoinId storeCoinId).run source.answer j = .ok (.confirmed height) →
          EndedBy chain (schedule.moment (j + 1)) anchor didCoinId storeCoinId) ↔
      (SpentBy chain (schedule.moment j) didCoinId →
        SpentBy chain (schedule.moment (j + 1)) storeCoinId →
          ¬ RecreatedBy chain (schedule.moment (j + 1)) didCoinId ∧
            ¬ RecreatedBy chain (schedule.moment (j + 1)) storeCoinId) := by
  obtain ⟨hdidLive, hstoreLive, didCoin, storeCoin, rfl, rfl⟩ :=
    pushed_live honest pushSource pushed
  have hnext : schedule.moment j ≤ schedule.moment (j + 1) := schedule.forward (Nat.le_succ j)
  have hdidLe : pushing.moment i ≤ schedule.moment (j + 1) :=
    (pushing.forward (by omega)).trans (later.trans hnext)
  have hstoreLe : pushing.moment (i + 3) ≤ schedule.moment (j + 1) :=
    (pushing.forward (by omega)).trans (later.trans hnext)
  constructor
  · intro hsafe hdid hstore
    obtain ⟨source, height, hconfirmed⟩ := node_confirms hdid hstore
    have hended := hsafe source height hconfirmed
    exact ⟨(honest.melted_iff_not_recreated hdidLe hdidLive (hdid.mono hnext)).1 hended.did_melted,
      (honest.melted_iff_not_recreated hstoreLe hstoreLive hstore).1 hended.store_melted⟩
  · intro hmelts source height hconfirmed
    obtain ⟨hdid, hstore⟩ := confirmed_spent source hconfirmed
    obtain ⟨hdidKept, hstoreKept⟩ := hmelts hdid hstore
    exact ⟨(honest.melted_iff_not_recreated hdidLe hdidLive (hdid.mono hnext)).2 hdidKept,
      (honest.melted_iff_not_recreated hstoreLe hstoreLive hstore).2 hstoreKept⟩

end Status

section Example

def ownMelter : ProfileMelter := ⟨fun _ => ⟨0, 0⟩, true⟩

def meltedProfile : Chain :=
  launchedProfile ++ [⟨[], [⟨namedCoin 11, [], []⟩, ⟨namedCoin 21, [], []⟩]⟩]

def editedProfile : Chain :=
  launchedProfile ++ [⟨[], [⟨namedCoin 11, [], [12]⟩, ⟨namedCoin 21, [], [22]⟩]⟩]

theorem confirmed_ended_iff_meltedProfile :
    letI := amountNames
    letI := singletonOutputs
    letI := singletonDrivers
    (meltStatus 11 21).run (HonestSource.node amountIndex meltedProfile (steadyAt 3)).answer 0 =
        .ok (.confirmed 2) ∧
      EndedBy meltedProfile 3 profileAnchor 11 21 := by
  let _ := amountNames
  let _ := singletonOutputs
  let _ := singletonDrivers
  have honest : HonestChain meltedProfile := FreshChain.honest (by decide)
  have pushed : (ownMelter.meltProfile .root profileAnchor ⟨0⟩).run
      (HonestSource.node amountIndex meltedProfile (steadyAt 2)).answer 0 = .ok (.pushed 11 21) :=
    by decide
  have confirmed : (meltStatus 11 21).run
      (HonestSource.node amountIndex meltedProfile (steadyAt 3)).answer 0 =
        .ok (.confirmed 2) := by
    decide
  refine ⟨confirmed, (confirmed_ended_iff honest _ ownMelter .root profileAnchor ⟨0⟩ pushed
    (steadyAt 3) 0 (by decide)).2 (fun _ _ => ⟨?_, ?_⟩) _ 2 confirmed⟩
  · decide
  · decide

theorem editedProfile_confirmed_alive :
    letI := amountNames
    letI := singletonOutputs
    letI := singletonDrivers
    HonestChain editedProfile ∧
      (ownMelter.meltProfile .root profileAnchor ⟨0⟩).run
        (HonestSource.node amountIndex editedProfile (steadyAt 2)).answer 0 =
          .ok (.pushed 11 21) ∧
      (meltStatus 11 21).run (HonestSource.node amountIndex editedProfile (steadyAt 3)).answer 0 =
        .ok (.confirmed 2) ∧
      lineageOf 10 (editedProfile.take 3) = .live 12 ∧
      lineageOf 20 (editedProfile.take 3) = .live 22 := by
  let _ := amountNames
  let _ := singletonOutputs
  let _ := singletonDrivers
  exact ⟨FreshChain.honest (by decide), by decide, by decide, by decide, by decide⟩

end Example

end DigAccount
