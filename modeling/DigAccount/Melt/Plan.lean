import DigAccount.Melt.Melter

namespace DigAccount

variable [CoinHash] {oracle : Oracle} {i k : Nat} {anchor : ProfileAnchor}

inductive MeltError.Undecided : MeltError → Prop where
  | unreachable (reason : String) : Undecided (.chainUnreachable reason)
  | refused (reason : String) : Undecided (.refused reason)

inductive AliveRead (coin : Coin) (gone : MeltError) (oracle : Oracle) (i : Nat) :
    Except MeltError Unit → Prop where
  | unknown (reason : String) : AliveRead coin gone oracle i (.error (.chainUnreachable reason))
  | spent (record : CoinRecord)
      (found : oracle i (.coinRecord (coinId coin)) = .ok (some record))
      (isSpent : record.spentHeight.isSome) : AliveRead coin gone oracle i (.error gone)
  | alive (record : CoinRecord)
      (found : oracle i (.coinRecord (coinId coin)) = .ok (some record))
      (unspent : record.spentHeight = none) : AliveRead coin gone oracle i (.ok ())

theorem exec_requireStillAlive {coin : Coin} {gone : MeltError} {found : Option CoinRecord}
    (h : oracle i (.coinRecord (coinId coin)) = .ok found) :
    (requireStillAlive coin gone).exec oracle i =
      ((judgeByName coin found).mapError (stillAliveError gone), i + 1) := by
  have hread : (readCoinRecord (UnconfirmedInput.unreadable (coinId coin)) (coinId coin)).exec
      oracle i = (.ok found, i + 1) := by
    rw [exec_readCoinRecord, h]
    rfl
  have hconfirm : (confirmSpendableByName coin).exec oracle i =
      (judgeByName coin found, i + 1) :=
    Fallible.exec_bind_of_ok hread
  exact Fallible.exec_mapError hconfirm

theorem exec_requireStillAlive_unread {coin : Coin} {reason : String} (gone : MeltError)
    (h : oracle i (.coinRecord (coinId coin)) = .error reason) :
    ∃ text, (requireStillAlive coin gone).exec oracle i =
      (.error (.chainUnreachable text), i + 1) := by
  have hread : (readCoinRecord (UnconfirmedInput.unreadable (coinId coin)) (coinId coin)).exec
      oracle i = (.error (.unreadable (coinId coin) reason), i + 1) := by
    rw [exec_readCoinRecord, h]
    rfl
  have hconfirm : (confirmSpendableByName coin).exec oracle i =
      (.error (.unreadable (coinId coin) reason), i + 1) :=
    Fallible.exec_bind_of_error hread
  exact ⟨_, Fallible.exec_mapError hconfirm⟩

theorem judgeByName_cases {coin : Coin} {gone : MeltError} {found : Option CoinRecord}
    (h : oracle i (.coinRecord (coinId coin)) = .ok found) :
    AliveRead coin gone oracle i ((judgeByName coin found).mapError (stillAliveError gone)) := by
  cases found with
  | none => exact .unknown _
  | some record =>
      rw [judgeByName]
      split
      · exact .unknown _
      · split
        · cases hspent : record.spentHeight with
          | none => exact .unknown _
          | some height => exact .spent record h (by rw [hspent]; rfl)
        · rename_i hgood
          rw [not_or, CoinRecord.isSpent] at hgood
          exact .alive record h (by simpa using hgood.2)

theorem requireStillAlive_cases (coin : Coin) (gone : MeltError) (oracle : Oracle) (i : Nat) :
    ∃ result, (requireStillAlive coin gone).exec oracle i = (result, i + 1) ∧
      AliveRead coin gone oracle i result := by
  cases h : oracle i (.coinRecord (coinId coin)) with
  | error reason =>
      obtain ⟨text, hexec⟩ := exec_requireStillAlive_unread gone h
      exact ⟨_, hexec, .unknown text⟩
  | ok found => exact ⟨_, exec_requireStillAlive h, judgeByName_cases h⟩

theorem exec_pinDidTipToAnchor {tip : DidTip} {launcher : Bytes32}
    (h : oracle i (.proveLineage (coinId tip.coin) tip.did) = .ok launcher) :
    (pinDidTipToAnchor tip anchor).exec oracle i = (judgePin tip anchor launcher, i + 1) := by
  have hread : (proveLineage (pinError tip) (coinId tip.coin) tip.did).exec oracle i =
      (.ok launcher, i + 1) := by
    rw [exec_proveLineage, h]
    rfl
  exact Fallible.exec_bind_of_ok hread

theorem pinDidTipToAnchor_cases (tip : DidTip) (anchor : ProfileAnchor) (oracle : Oracle)
    (i : Nat) : ∃ result, (pinDidTipToAnchor tip anchor).exec oracle i = (result, i + 1) ∧
      ∀ e, result = .error e → e.Undecided := by
  cases h : oracle i (.proveLineage (coinId tip.coin) tip.did) with
  | error reason =>
      have hread : (proveLineage (pinError tip) (coinId tip.coin) tip.did).exec oracle i =
          (.error (pinError tip reason), i + 1) := by
        rw [exec_proveLineage, h]
        rfl
      refine ⟨_, Fallible.exec_bind_of_error hread, ?_⟩
      intro e he
      cases he
      cases reason with
      | chain text => exact .unreachable _
      | other text => exact .refused _
  | ok launcher =>
      exact ⟨_, exec_pinDidTipToAnchor h, Validator.refusesWith_refuseWhen (.refused _)⟩

section Halves

variable [Clvm] [DigDrivers] {wallet : WalletKey}

inductive DidHalfRead (anchor : ProfileAnchor) (wallet : WalletKey) (oracle : Oracle) (i : Nat) :
    Except MeltError (Coin × List CoinSpend) × Nat → Prop where
  | undecided (e : MeltError) (k : Nat) (h : e.Undecided) :
      DidHalfRead anchor wallet oracle i (.error e, k)
  | untracked (walked : oracle i (.walkDidLineageToTip anchor.launcherId) = .ok none) :
      DidHalfRead anchor wallet oracle i (.error .noDid, i + 1)
  | gone (tip : DidTip) (record : CoinRecord)
      (walked : oracle i (.walkDidLineageToTip anchor.launcherId) = .ok (some tip))
      (found : oracle (i + 2) (.coinRecord (coinId tip.coin)) = .ok (some record))
      (isSpent : record.spentHeight.isSome) :
      DidHalfRead anchor wallet oracle i (.error .noDid, i + 3)
  | alive (tip : DidTip) (record : CoinRecord)
      (walked : oracle i (.walkDidLineageToTip anchor.launcherId) = .ok (some tip))
      (found : oracle (i + 2) (.coinRecord (coinId tip.coin)) = .ok (some record))
      (unspent : record.spentHeight = none) :
      DidHalfRead anchor wallet oracle i
        (((meltDid tip.did wallet.publicKey).mapError fun e => .build s!"DID melt: {e}").map
          fun spends => (tip.coin, spends), i + 3)

inductive StoreHalfRead (anchor : ProfileAnchor) (wallet : WalletKey) (oracle : Oracle) (i : Nat) :
    Except MeltError (Coin × List CoinSpend) × Nat → Prop where
  | undecided (e : MeltError) (k : Nat) (h : e.Undecided) :
      StoreHalfRead anchor wallet oracle i (.error e, k)
  | absent (walked : oracle i (.resolveSingletonLineage anchor.storeLauncherId) = .ok none) :
      StoreHalfRead anchor wallet oracle i (.error .noStore, i + 1)
  | unserved (lineage : SingletonLineage)
      (walked : oracle i (.resolveSingletonLineage anchor.storeLauncherId) = .ok (some lineage))
      (parent : oracle (i + 1) (.parentSpend lineage.tip) = .ok none) :
      StoreHalfRead anchor wallet oracle i (.error .noStore, i + 2)
  | unreadable (lineage : SingletonLineage) (creatingSpend : CoinSpend) (reason text : String)
      (walked : oracle i (.resolveSingletonLineage anchor.storeLauncherId) = .ok (some lineage))
      (parent : oracle (i + 1) (.parentSpend lineage.tip) = .ok (some creatingSpend))
      (hydrated : hydrate creatingSpend = .error reason) :
      StoreHalfRead anchor wallet oracle i (.error (.format text), i + 2)
  | gone (lineage : SingletonLineage) (creatingSpend : CoinSpend) (store : Datastore)
      (record : CoinRecord)
      (walked : oracle i (.resolveSingletonLineage anchor.storeLauncherId) = .ok (some lineage))
      (parent : oracle (i + 1) (.parentSpend lineage.tip) = .ok (some creatingSpend))
      (hydrated : hydrate creatingSpend = .ok store)
      (owned : gateStoreIdentity wallet anchor.storeLauncherId store = .ok ())
      (found : oracle (i + 2) (.coinRecord (coinId store.coin)) = .ok (some record))
      (isSpent : record.spentHeight.isSome) :
      StoreHalfRead anchor wallet oracle i (.error .noStore, i + 3)
  | alive (lineage : SingletonLineage) (creatingSpend : CoinSpend) (store : Datastore)
      (record : CoinRecord)
      (walked : oracle i (.resolveSingletonLineage anchor.storeLauncherId) = .ok (some lineage))
      (parent : oracle (i + 1) (.parentSpend lineage.tip) = .ok (some creatingSpend))
      (hydrated : hydrate creatingSpend = .ok store)
      (owned : gateStoreIdentity wallet anchor.storeLauncherId store = .ok ())
      (found : oracle (i + 2) (.coinRecord (coinId store.coin)) = .ok (some record))
      (unspent : record.spentHeight = none) :
      StoreHalfRead anchor wallet oracle i
        (((meltStore store wallet.publicKey).mapError fun e => .build s!"store melt: {e}").map
          fun spends => (store.coin, spends), i + 3)

theorem exec_planDidHalf_untracked
    (walked : oracle i (.walkDidLineageToTip anchor.launcherId) = .ok none) :
    (planDidHalf anchor wallet).exec oracle i = (.error .noDid, i + 1) := by
  have hread : (readDidTip (fun e => MeltError.chainUnreachable s!"DID lineage: {e}")
      anchor.launcherId).exec oracle i = (.ok none, i + 1) := by
    rw [exec_readDidTip, walked]
    rfl
  exact Fallible.exec_bind_of_error (Fallible.exec_bind_of_ok hread)

omit [CoinHash] [Clvm] [DigDrivers] in
theorem exec_readLiveDidTip {tip : DidTip}
    (walked : oracle i (.walkDidLineageToTip anchor.launcherId) = .ok (some tip)) :
    (readLiveDidTip anchor).exec oracle i = (.ok tip, i + 1) := by
  have hread : (readDidTip (fun e => MeltError.chainUnreachable s!"DID lineage: {e}")
      anchor.launcherId).exec oracle i = (.ok (some tip), i + 1) := by
    rw [exec_readDidTip, walked]
    rfl
  exact Fallible.exec_bind_of_ok hread

theorem exec_planDidHalf_pinned {tip : DidTip} {result : Except MeltError Unit}
    (walked : oracle i (.walkDidLineageToTip anchor.launcherId) = .ok (some tip))
    (pinned : (pinDidTipToAnchor tip anchor).exec oracle (i + 1) = (.ok (), i + 2))
    (alive : (requireStillAlive tip.coin .noDid).exec oracle (i + 2) = (result, i + 3)) :
    (planDidHalf anchor wallet).exec oracle i =
      (result.bind fun _ =>
        ((meltDid tip.did wallet.publicKey).mapError fun e => .build s!"DID melt: {e}").map
          fun spends => (tip.coin, spends), i + 3) := by
  rw [planDidHalf, Fallible.exec_bind_of_ok (exec_readLiveDidTip walked),
    Fallible.exec_bind_of_ok pinned]
  cases result with
  | error e => exact Fallible.exec_bind_of_error alive
  | ok _ =>
      rw [Fallible.exec_bind_of_ok alive]
      cases meltDid tip.did wallet.publicKey with
      | error e => rfl
      | ok spends => rfl

theorem planDidHalf_cases (anchor : ProfileAnchor) (wallet : WalletKey) (oracle : Oracle)
    (i : Nat) : DidHalfRead anchor wallet oracle i ((planDidHalf anchor wallet).exec oracle i) := by
  cases walked : oracle i (.walkDidLineageToTip anchor.launcherId) with
  | error reason =>
      have hread : (readLiveDidTip anchor).exec oracle i =
          (.error (.chainUnreachable s!"DID lineage: {reason}"), i + 1) := by
        refine Fallible.exec_bind_of_error ?_
        rw [exec_readDidTip, walked]
        rfl
      rw [planDidHalf, Fallible.exec_bind_of_error hread]
      exact .undecided _ _ (.unreachable _)
  | ok found =>
      cases found with
      | none =>
          rw [exec_planDidHalf_untracked walked]
          exact .untracked walked
      | some tip =>
          obtain ⟨pin, hpin, hundecided⟩ := pinDidTipToAnchor_cases tip anchor oracle (i + 1)
          cases pin with
          | error e =>
              rw [planDidHalf, Fallible.exec_bind_of_ok (exec_readLiveDidTip walked),
                Fallible.exec_bind_of_error hpin]
              exact .undecided e _ (hundecided e rfl)
          | ok _ =>
              obtain ⟨result, halive, hcase⟩ :=
                requireStillAlive_cases tip.coin .noDid oracle (i + 2)
              rw [exec_planDidHalf_pinned walked hpin halive]
              cases hcase with
              | unknown reason => exact .undecided _ _ (.unreachable reason)
              | spent record found isSpent => exact .gone tip record walked found isSpent
              | alive record found unspent => exact .alive tip record walked found unspent

theorem planDidHalf_ok {coin : Coin} {spends : List CoinSpend}
    (h : (planDidHalf anchor wallet).exec oracle i = (.ok (coin, spends), k)) :
    k = i + 3 ∧ ∃ tip record, tip.coin = coin ∧
      oracle i (.walkDidLineageToTip anchor.launcherId) = .ok (some tip) ∧
      oracle (i + 2) (.coinRecord (coinId coin)) = .ok (some record) ∧
      record.spentHeight = none := by
  have hcases := planDidHalf_cases anchor wallet oracle i
  rw [h] at hcases
  generalize hresult : ((.ok (coin, spends), k) : Except MeltError (Coin × List CoinSpend) × Nat) =
    result at hcases
  cases hcases with
  | undecided e k' he => cases hresult
  | untracked walked => cases hresult
  | gone tip record walked found isSpent => cases hresult
  | alive tip record walked found unspent =>
      obtain ⟨hmelt, rfl⟩ := Prod.mk.inj hresult
      cases hbuilt : meltDid tip.did wallet.publicKey with
      | error e =>
          rw [hbuilt] at hmelt
          cases hmelt
      | ok built =>
          rw [hbuilt] at hmelt
          cases hmelt
          exact ⟨rfl, tip, record, rfl, walked, found, unspent⟩

theorem exec_planStoreHalf_error {e : EditError} (h : (resolveStoreTip anchor).exec oracle i =
      (.error e, k)) :
    (planStoreHalf anchor wallet).exec oracle i = (.error (mapStoreReadError e), k) :=
  Fallible.exec_bind_of_error (Fallible.exec_mapError h)

theorem exec_planStoreHalf_owned {store : Datastore} {result : Except MeltError Unit}
    (resolved : (resolveStoreTip anchor).exec oracle i = (.ok store, i + 2))
    (owned : gateStoreIdentity wallet anchor.storeLauncherId store = .ok ())
    (alive : (requireStillAlive store.coin .noStore).exec oracle (i + 2) = (result, i + 3)) :
    (planStoreHalf anchor wallet).exec oracle i =
      (result.bind fun _ =>
        ((meltStore store wallet.publicKey).mapError fun e => .build s!"store melt: {e}").map
          fun spends => (store.coin, spends), i + 3) := by
  have hread : (Fallible.mapError mapStoreReadError (resolveStoreTip anchor)).exec oracle i =
      (.ok store, i + 2) := Fallible.exec_mapError resolved
  rw [planStoreHalf, Fallible.exec_bind_of_ok hread]
  refine (Fallible.exec_bind_of_ok (a := ()) (k := i + 2) (by rw [owned]; rfl)).trans ?_
  cases result with
  | error e => exact Fallible.exec_bind_of_error alive
  | ok _ =>
      rw [Fallible.exec_bind_of_ok alive]
      cases meltStore store wallet.publicKey with
      | error e => rfl
      | ok spends => rfl

theorem exec_planStoreHalf_refused {store : Datastore} {e : EditError}
    (resolved : (resolveStoreTip anchor).exec oracle i = (.ok store, i + 2))
    (refused : gateStoreIdentity wallet anchor.storeLauncherId store = .error e) :
    (planStoreHalf anchor wallet).exec oracle i = (.error (.refused e.display), i + 2) := by
  have hread : (Fallible.mapError mapStoreReadError (resolveStoreTip anchor)).exec oracle i =
      (.ok store, i + 2) := Fallible.exec_mapError resolved
  rw [planStoreHalf, Fallible.exec_bind_of_ok hread]
  exact Fallible.exec_bind_of_error (by rw [refused]; rfl)

theorem planStoreHalf_cases (anchor : ProfileAnchor) (wallet : WalletKey) (oracle : Oracle)
    (i : Nat) :
    StoreHalfRead anchor wallet oracle i ((planStoreHalf anchor wallet).exec oracle i) := by
  have hcases : StoreTipRead anchor oracle i ((resolveStoreTip anchor).exec oracle i) :=
    resolveStoreTip_cases
  generalize hresolved : (resolveStoreTip anchor).exec oracle i = resolved at hcases
  cases hcases with
  | unread reason k =>
      rw [exec_planStoreHalf_error hresolved]
      exact .undecided _ _ (.unreachable reason)
  | absent walked =>
      rw [exec_planStoreHalf_error hresolved]
      exact .absent walked
  | unserved lineage walked parent =>
      rw [exec_planStoreHalf_error hresolved]
      exact .unserved lineage walked parent
  | served lineage creatingSpend walked parent =>
      cases hydrated : hydrate creatingSpend with
      | error reason =>
          have hfailed : hydrateTip creatingSpend = .error (.format s!"store tip: {reason}") := by
            rw [hydrateTip, hydrated]
            rfl
          rw [hfailed] at hresolved
          rw [exec_planStoreHalf_error hresolved]
          exact .unreadable lineage creatingSpend reason _ walked parent hydrated
      | ok store =>
          rw [hydrateTip_ok.2 hydrated] at hresolved
          cases owned : gateStoreIdentity wallet anchor.storeLauncherId store with
          | error e =>
              rw [exec_planStoreHalf_refused hresolved owned]
              exact .undecided _ _ (.refused _)
          | ok _ =>
              obtain ⟨result, halive, hcase⟩ :=
                requireStillAlive_cases store.coin .noStore oracle (i + 2)
              rw [exec_planStoreHalf_owned hresolved owned halive]
              cases hcase with
              | unknown reason => exact .undecided _ _ (.unreachable reason)
              | spent record found isSpent =>
                  exact .gone lineage creatingSpend store record walked parent hydrated owned found
                    isSpent
              | alive record found unspent =>
                  exact .alive lineage creatingSpend store record walked parent hydrated owned
                    found unspent

theorem planStoreHalf_ok {coin : Coin} {spends : List CoinSpend}
    (h : (planStoreHalf anchor wallet).exec oracle i = (.ok (coin, spends), k)) :
    k = i + 3 ∧ ∃ lineage creatingSpend store record, store.coin = coin ∧
      oracle i (.resolveSingletonLineage anchor.storeLauncherId) = .ok (some lineage) ∧
      oracle (i + 1) (.parentSpend lineage.tip) = .ok (some creatingSpend) ∧
      hydrate creatingSpend = .ok store ∧
      oracle (i + 2) (.coinRecord (coinId coin)) = .ok (some record) ∧
      record.spentHeight = none := by
  have hcases := planStoreHalf_cases anchor wallet oracle i
  rw [h] at hcases
  generalize hresult : ((.ok (coin, spends), k) : Except MeltError (Coin × List CoinSpend) × Nat) =
    result at hcases
  cases hcases with
  | undecided e k' he => cases hresult
  | absent walked => cases hresult
  | unserved lineage walked parent => cases hresult
  | unreadable lineage creatingSpend reason text walked parent hydrated => cases hresult
  | gone lineage creatingSpend store record walked parent hydrated owned found isSpent =>
      cases hresult
  | alive lineage creatingSpend store record walked parent hydrated owned found unspent =>
      obtain ⟨hmelt, rfl⟩ := Prod.mk.inj hresult
      cases hbuilt : meltStore store wallet.publicKey with
      | error e =>
          rw [hbuilt] at hmelt
          cases hmelt
      | ok built =>
          rw [hbuilt] at hmelt
          cases hmelt
          exact ⟨rfl, lineage, creatingSpend, store, record, rfl, walked, parent, hydrated, found,
            unspent⟩

theorem planMelt_ok {plan : MeltPlan}
    (h : (planMelt anchor wallet).exec oracle i = (.ok plan, k)) :
    ∃ didSpends storeSpends m n, (planDidHalf anchor wallet).exec oracle i =
        (.ok (plan.didCoin, didSpends), m) ∧
      (planStoreHalf anchor wallet).exec oracle m = (.ok (plan.storeCoin, storeSpends), n) := by
  obtain ⟨⟨didCoin, didSpends⟩, m, hdid, hrest⟩ := Fallible.exec_bind_eq_ok.1 h
  obtain ⟨⟨storeCoin, storeSpends⟩, n, hstore, hplan⟩ := Fallible.exec_bind_eq_ok.1 hrest
  cases hplan
  exact ⟨didSpends, storeSpends, m, n, hdid, hstore⟩

end Halves

end DigAccount
