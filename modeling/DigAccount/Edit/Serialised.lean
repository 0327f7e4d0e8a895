import DigAccount.Edit.Commit

namespace DigAccount

section Serialised

variable [CoinHash] [Clvm] [DigDrivers] {chain : Chain} {schedule : Schedule}
  {anchor : ProfileAnchor} {network : MintNetwork} {i k : Nat}

def storeTipAt (chain : Chain) (n : Nat) (anchor : ProfileAnchor) : Option Bytes32 :=
  (lineageOf anchor.storeLauncherId (chain.take n)).tip

theorem HonestSource.resolved (source : HonestSource chain schedule) (honest : HonestChain chain)
    {store : Datastore} (h : (resolveStoreTip anchor).exec source.answer i = (.ok store, k)) :
    storeTipAt chain (schedule.moment i) anchor = some (coinId store.coin) ∧
      ∃ creatingSpend ∈ coinSpendsOf chain, coinId store.coin ∈ creatingSpend.created ∧
        hydrate creatingSpend = .ok store := by
  obtain ⟨-, lineage, creatingSpend, walked, parent, hydrated⟩ := resolveStoreTip_ok h
  have htip := source.walkedSingleton walked
  obtain ⟨hmem, hcreated⟩ := source.served parent
  have hid := honest.hydrated_tip htip (mem_of_take hmem) hcreated hydrated
  refine ⟨?_, creatingSpend, mem_of_take hmem, ?_, hydrated⟩
  · rw [storeTipAt, hid]
    rcases htip with hlive | hmelted
    · rw [hlive]
      rfl
    · rw [hmelted]
      rfl
  · rwa [hid]

theorem HonestSource.resolved_same (source : HonestSource chain schedule)
    (honest : HonestChain chain) {j m : Nat} {store store' : Datastore}
    (h : (resolveStoreTip anchor).exec source.answer i = (.ok store, k))
    (h' : (resolveStoreTip anchor).exec source.answer j = (.ok store', m)) :
    store = store' ↔
      storeTipAt chain (schedule.moment i) anchor =
        storeTipAt chain (schedule.moment j) anchor := by
  obtain ⟨htip, creator, hmem, hcreated, hydrated⟩ := source.resolved honest h
  obtain ⟨htip', creator', hmem', hcreated', hydrated'⟩ := source.resolved honest h'
  constructor
  · rintro rfl
    rw [htip, htip']
  · intro hsame
    rw [htip, htip', Option.some.injEq] at hsame
    rw [← hsame] at hcreated'
    obtain rfl := honest.creator_unique hmem hmem' hcreated hcreated'
    exact Except.ok.inj (hydrated.symm.trans hydrated')

variable [ProfileSchema] {editor : ProfileEditor} {ix : ProfileIx} {edit : ProfileEdit}
  {bundle : SpendBundle}

structure BuiltOnSpentTip (chain : Chain) (schedule : Schedule) (anchor : ProfileAnchor)
    (edit : ProfileEdit) (oracle : Oracle) (i : Nat) (bundle : SpendBundle)
    (outcome : Except EditError CommittedEdit) (store : Datastore)
    (base nextBody : VerifiedBody) : Prop where
  read : (resolveStoreTip anchor).exec oracle i = (.ok store, i + 2)
  committed : root base = store.info.metadata.rootHash
  applied : fromProfile (applyAll (profile base) edit.slotEdits) = .ok nextBody
  spends : Commits bundle store (root nextBody)
  conflicts : SpentBy chain (schedule.moment (i + 5)) (coinId store.coin) →
    ∃ e, outcome = .error e

omit [CoinHash] in
theorem pushUpdate_ok {oracle : Oracle} {wallet : WalletKey} {nextBody : VerifiedBody}
    {edited : CommittedEdit}
    (h : (pushUpdate anchor wallet nextBody network).exec oracle i = (.ok edited, k)) :
    edited = ⟨.pushed (root nextBody), bytes nextBody⟩ ∧ ∃ bundle m,
      (buildAndSignUpdate anchor wallet (root nextBody) network).exec oracle i = (.ok bundle, m) ∧
        (oracle m (.push bundle) = .ok .accepted ∨
          oracle m (.push bundle) = .ok .alreadyInMempool) := by
  obtain ⟨bundle, m, hbuilt, h⟩ := Fallible.exec_bind_eq_ok.1 h
  obtain ⟨outcome, n, hpush, h⟩ := Fallible.exec_bind_eq_ok.1 h
  have hanswer := Fallible.mapError_eq_ok.1 (Prod.mk.inj hpush).1
  have hjudged := (Prod.mk.inj h).1
  cases outcome with
  | accepted =>
      cases hjudged
      exact ⟨rfl, bundle, m, hbuilt, .inl hanswer⟩
  | alreadyInMempool =>
      cases hjudged
      exact ⟨rfl, bundle, m, hbuilt, .inr hanswer⟩
  | rejected reason => cases hjudged

theorem PushesUpdate.conflict_fails (source : HonestSource chain schedule)
    {snapshot : ProfileSnapshot} {nextBody : VerifiedBody} {store : Datastore}
    (pushes : PushesUpdate editor ix anchor edit network source.answer i bundle snapshot nextBody)
    (spends : Commits bundle store (root nextBody))
    (spent : SpentBy chain (schedule.moment (i + 5)) (coinId store.coin)) :
    ∃ e, (editor.commitEdit ix anchor edit network).run source.answer i = .error e := by
  have hexec : (editor.commitEdit ix anchor edit network).exec source.answer i = _ :=
    exec_commitEdit pushes.nonempty pushes.allowed pushes.live pushes.read pushes.advanced
  rw [if_neg pushes.moved] at hexec
  have hrun : (editor.commitEdit ix anchor edit network).run source.answer i =
      ((pushUpdate anchor (editor.walletAt ix) nextBody network).exec source.answer (i + 3)).1 :=
    congrArg Prod.fst hexec
  rw [hrun]
  rcases hresult : (pushUpdate anchor (editor.walletAt ix) nextBody network).exec source.answer
    (i + 3) with ⟨e | edited, k⟩
  · exact ⟨e, rfl⟩
  · obtain ⟨-, built, m, hbuilt, hanswer⟩ := pushUpdate_ok hresult
    obtain ⟨hsame, rfl⟩ := Prod.mk.inj (hbuilt.symm.trans pushes.built)
    cases hsame
    have hcoin : store.coin ∈ bundle.coinSpends.map CoinSpend.coin := by
      rw [spends.spends]
      exact List.mem_singleton.2 rfl
    obtain ⟨coinSpend, hmem, hsame⟩ := List.mem_map.1 hcoin
    have hunspent := source.taken hanswer coinSpend hmem
    rw [SpentBy, ← hsame, hunspent] at spent
    cases spent

theorem commitEdit_serialised_iff (honest : HonestChain chain)
    (source : HonestSource chain schedule) (editor : ProfileEditor) (ix : ProfileIx)
    (anchor : ProfileAnchor) (edit : ProfileEdit) (network : MintNetwork) (i : Nat)
    (pushed : Query.push bundle ∈
      (editor.commitEdit ix anchor edit network).asked source.answer i) :
    (∃ store base nextBody, BuiltOnSpentTip chain schedule anchor edit source.answer i bundle
        ((editor.commitEdit ix anchor edit network).run source.answer i) store base nextBody) ↔
      storeTipAt chain (schedule.moment i) anchor =
        storeTipAt chain (schedule.moment (i + 3)) anchor := by
  obtain ⟨snapshot, nextBody, pushes⟩ := push_mem_asked_commitEdit pushed
  obtain ⟨store, slots, hread, -, -, -, hbound⟩ := exec_readProfile.1 pushes.read
  obtain ⟨store', hread', hcommits⟩ := buildAndSignUpdate_ok pushes.built
  rw [← source.resolved_same honest hread hread']
  constructor
  · rintro ⟨found, base, next, built⟩
    obtain ⟨hfound, -⟩ := Prod.mk.inj (built.read.symm.trans hread)
    cases hfound
    have hcoin : [store.coin] = [store'.coin] := built.spends.spends.symm.trans hcommits.spends
    obtain ⟨htip, -⟩ := source.resolved honest hread
    obtain ⟨htip', -⟩ := source.resolved honest hread'
    rw [source.resolved_same honest hread hread', htip, htip', List.singleton_inj.1 hcoin]
  · rintro rfl
    obtain ⟨hroot, -⟩ := bindToChain_ok.1 hbound
    exact ⟨store, snapshot.body, nextBody, hread, hroot, advanceBody_ok.1 pushes.advanced, hcommits,
      pushes.conflict_fails source hcommits⟩

end Serialised

section Example

def contentIndex : NodeIndex :=
  { amountIndex with
    slots := fun _ root => [(1, [.ofNat (root / 16)]), (2, [.ofNat (root % 16)])] }

def ownEditor : ProfileEditor := ⟨fun _ => ⟨0, 0⟩, true⟩

def clearName : ProfileEdit := ProfileEdit.new.remove .displayName

def overwrittenEdit : Chain := launchedProfile ++ [⟨[], [⟨namedCoin 21, [], [22]⟩]⟩]

def updateOf (coin : Coin) (root : UInt8) : SpendBundle := ⟨[⟨coin, [], [root]⟩], []⟩

theorem commitEdit_serialised_iff_launchedProfile :
    letI := amountNames
    letI := singletonOutputs
    letI := singletonDrivers
    letI := nameAndBio
    let source := HonestSource.node contentIndex launchedProfile (steadyAt 2)
    ∃ store base nextBody, BuiltOnSpentTip launchedProfile (steadyAt 2) profileAnchor clearName
      source.answer 0 (updateOf ⟨20, 0, 21⟩ 5)
      ((ownEditor.commitEdit .root profileAnchor clearName ⟨0⟩).run source.answer 0)
      store base nextBody := by
  let _ := amountNames
  let _ := singletonOutputs
  let _ := singletonDrivers
  let _ := nameAndBio
  have honest : HonestChain launchedProfile := FreshChain.honest (by decide)
  have pushed : Query.push (updateOf ⟨20, 0, 21⟩ 5) ∈
      (ownEditor.commitEdit .root profileAnchor clearName ⟨0⟩).asked
        (HonestSource.node contentIndex launchedProfile (steadyAt 2)).answer 0 := by decide
  exact (commitEdit_serialised_iff honest _ ownEditor .root profileAnchor clearName ⟨0⟩ 0
    pushed).2 rfl

theorem overwrittenEdit_not_serialised :
    letI := amountNames
    letI := singletonOutputs
    letI := singletonDrivers
    letI := nameAndBio
    let source := HonestSource.node contentIndex overwrittenEdit (overtakenAt 3)
    let commit := ownEditor.commitEdit .root profileAnchor clearName ⟨0⟩
    HonestChain overwrittenEdit ∧
      Query.push (updateOf ⟨21, 0, 22⟩ 5) ∈ commit.asked source.answer 0 ∧
      commit.run source.answer 0 = .ok ⟨.pushed 5, [0, 5]⟩ ∧
      ¬ ∃ store base nextBody, BuiltOnSpentTip overwrittenEdit (overtakenAt 3) profileAnchor
        clearName source.answer 0 (updateOf ⟨21, 0, 22⟩ 5) (commit.run source.answer 0)
        store base nextBody := by
  let _ := amountNames
  let _ := singletonOutputs
  let _ := singletonDrivers
  let _ := nameAndBio
  refine ⟨FreshChain.honest (by decide), by decide, by decide, ?_⟩
  rintro ⟨store, base, nextBody, built⟩
  have hread : (resolveStoreTip profileAnchor).exec
      (HonestSource.node contentIndex overwrittenEdit (overtakenAt 3)).answer 0 =
        (.ok ⟨⟨20, 0, 21⟩, 20, byteMetadata 21, 0, []⟩, 2) := by decide
  obtain ⟨hstore, -⟩ := Prod.mk.inj (hread.symm.trans built.read)
  cases hstore
  have hspends := built.spends.spends
  revert hspends
  decide

end Example

end DigAccount
