import DigAccount.Edit.Commit

namespace DigAccount

section Pinned

variable [CoinHash] [Clvm] [DigDrivers] (anchor : ProfileAnchor) (oracle : Oracle) (i : Nat)

structure TipAnswers (lineage : SingletonLineage) (creatingSpend : CoinSpend)
    (store : Datastore) : Prop where
  walked : oracle i (.resolveSingletonLineage anchor.storeLauncherId) = .ok (some lineage)
  parent : oracle (i + 1) (.parentSpend lineage.tip) = .ok (some creatingSpend)
  hydrated : hydrate creatingSpend = .ok store

structure OwnStore (lineage : SingletonLineage) (creatingSpend : CoinSpend)
    (store : Datastore) : Prop where
  launcher : store.info.launcherId = anchor.storeLauncherId
  created : lineage.tip ∈ creatingSpend.created

def PinnedRoot (reported : Bytes32) : Prop :=
  ∃ lineage creatingSpend store, TipAnswers anchor oracle i lineage creatingSpend store ∧
    store.info.metadata.rootHash = reported ∧ OwnStore anchor lineage creatingSpend store

def ServesOwnStore (reported : Datastore → Prop) : Prop :=
  ∀ lineage creatingSpend store, TipAnswers anchor oracle i lineage creatingSpend store →
    reported store → OwnStore anchor lineage creatingSpend store

def ContentServes [ProfileSchema] (store : Datastore) : Prop :=
  ∃ slots body, oracle (i + 2)
      (.fetchProfileSlots anchor.storeLauncherId store.info.metadata.rootHash) = .ok slots ∧
    assembleBody slots = .ok body ∧ root body = store.info.metadata.rootHash

variable {anchor oracle i} {lineage lineage' : SingletonLineage}
  {creatingSpend creatingSpend' : CoinSpend} {store store' : Datastore} {k : Nat}

omit [CoinHash] in
theorem TipAnswers.unique (h : TipAnswers anchor oracle i lineage creatingSpend store)
    (h' : TipAnswers anchor oracle i lineage' creatingSpend' store') :
    lineage = lineage' ∧ creatingSpend = creatingSpend' ∧ store = store' := by
  obtain ⟨hwalked, hparent, hhydrated⟩ := h
  obtain ⟨hwalked', hparent', hhydrated'⟩ := h'
  rw [hwalked, Except.ok.injEq, Option.some.injEq] at hwalked'
  subst hwalked'
  rw [hparent, Except.ok.injEq, Option.some.injEq] at hparent'
  subst hparent'
  rw [hhydrated, Except.ok.injEq] at hhydrated'
  exact ⟨rfl, rfl, hhydrated'⟩

omit [CoinHash] in
theorem exec_resolveStoreTip_eq_ok :
    (resolveStoreTip anchor).exec oracle i = (.ok store, k) ↔
      k = i + 2 ∧ ∃ lineage creatingSpend,
        TipAnswers anchor oracle i lineage creatingSpend store := by
  constructor
  · intro h
    obtain ⟨rfl, lineage, creatingSpend, hwalked, hparent, hhydrated⟩ := resolveStoreTip_ok h
    exact ⟨rfl, lineage, creatingSpend, hwalked, hparent, hhydrated⟩
  · rintro ⟨rfl, lineage, creatingSpend, hwalked, hparent, hhydrated⟩
    rw [exec_resolveStoreTip_walked hwalked hparent, Option.elim_some,
      hydrateTip_ok.2 hhydrated]

theorem PinnedRoot.ownStore {reported : Bytes32} (h : PinnedRoot anchor oracle i reported)
    (answers : TipAnswers anchor oracle i lineage creatingSpend store) :
    OwnStore anchor lineage creatingSpend store := by
  obtain ⟨_, _, _, answers', -, hown⟩ := h
  obtain ⟨rfl, rfl, rfl⟩ := answers.unique answers'
  exact hown

omit [CoinHash] in
theorem exec_editStatus_confirmed {newRoot reported : Bytes32} :
    (ProfileEditor.editStatus anchor newRoot).exec oracle i = (.ok (.confirmed reported), k) ↔
      reported = newRoot ∧ k = i + 2 ∧ ∃ lineage creatingSpend store,
        TipAnswers anchor oracle i lineage creatingSpend store ∧
          store.info.metadata.rootHash = newRoot := by
  rw [ProfileEditor.editStatus, Fallible.exec_bind_eq_ok]
  constructor
  · rintro ⟨store, m, hstore, h⟩
    obtain ⟨rfl, lineage, creatingSpend, answers⟩ := exec_resolveStoreTip_eq_ok.1 hstore
    obtain ⟨hstatus, rfl⟩ := Prod.mk.inj h
    by_cases hanchored : store.info.metadata.rootHash = newRoot
    · rw [if_pos hanchored] at hstatus
      cases hstatus
      exact ⟨rfl, rfl, lineage, creatingSpend, store, answers, hanchored⟩
    · rw [if_neg hanchored] at hstatus
      cases hstatus
  · rintro ⟨rfl, rfl, lineage, creatingSpend, store, answers, hanchored⟩
    refine ⟨store, i + 2, exec_resolveStoreTip_eq_ok.2 ⟨rfl, _, _, answers⟩, ?_⟩
    rw [if_pos hanchored]
    rfl

theorem editStatus_pinned_iff {newRoot : Bytes32} :
    (∀ reported k, (ProfileEditor.editStatus anchor newRoot).exec oracle i =
        (.ok (.confirmed reported), k) → PinnedRoot anchor oracle i reported) ↔
      ServesOwnStore anchor oracle i fun store => store.info.metadata.rootHash = newRoot := by
  constructor
  · intro hpinned lineage creatingSpend store answers hanchored
    have hconfirmed := exec_editStatus_confirmed.2
      ⟨rfl, rfl, lineage, creatingSpend, store, answers, hanchored⟩
    exact (hpinned newRoot (i + 2) hconfirmed).ownStore answers
  · intro hserves reported k h
    obtain ⟨rfl, -, lineage, creatingSpend, store, answers, hanchored⟩ :=
      exec_editStatus_confirmed.1 h
    exact ⟨lineage, creatingSpend, store, answers, hanchored,
      hserves lineage creatingSpend store answers hanchored⟩

section ReadProfile

variable [ProfileSchema]

omit [CoinHash] in
theorem exec_readProfile_snapshot {snapshot : ProfileSnapshot}
    (h : (readProfile anchor).exec oracle i = (.ok snapshot, k)) :
    root snapshot.body = snapshot.root ∧ ∃ lineage creatingSpend store,
      TipAnswers anchor oracle i lineage creatingSpend store ∧
        store.info.metadata.rootHash = snapshot.root ∧ ContentServes anchor oracle i store := by
  obtain ⟨store, slots, hstore, hslots, hassembled, -, hbound⟩ := exec_readProfile.1 h
  obtain ⟨hroot, hsnapshot⟩ := bindToChain_ok.1 hbound
  obtain ⟨-, lineage, creatingSpend, answers⟩ := exec_resolveStoreTip_eq_ok.1 hstore
  have hreported : snapshot.root = store.info.metadata.rootHash := by rw [hsnapshot]
  exact ⟨hroot.trans hreported.symm, lineage, creatingSpend, store, answers, hreported.symm,
    slots, snapshot.body, hslots, hassembled, hroot⟩

omit [CoinHash] in
theorem exec_readProfile_served
    (answers : TipAnswers anchor oracle i lineage creatingSpend store)
    (serves : ContentServes anchor oracle i store) :
    ∃ snapshot, (readProfile anchor).exec oracle i = (.ok snapshot, i + 3) ∧
      snapshot.root = store.info.metadata.rootHash := by
  obtain ⟨slots, body, hslots, hassembled, hroot⟩ := serves
  refine ⟨⟨store.info.metadata.rootHash, body, projectStandardSlots (profile body)⟩,
    exec_readProfile.2 ⟨store, slots, ?_, hslots, hassembled, rfl, ?_⟩, rfl⟩
  · exact exec_resolveStoreTip_eq_ok.2 ⟨rfl, _, _, answers⟩
  · exact bindToChain_ok.2 ⟨hroot, rfl⟩

theorem readProfile_pinned_iff :
    (∀ snapshot k, (readProfile anchor).exec oracle i = (.ok snapshot, k) →
        PinnedRoot anchor oracle i snapshot.root ∧ root snapshot.body = snapshot.root) ↔
      ServesOwnStore anchor oracle i (ContentServes anchor oracle i) := by
  constructor
  · intro hpinned lineage creatingSpend store answers serves
    obtain ⟨snapshot, hread, -⟩ := exec_readProfile_served answers serves
    exact (hpinned snapshot (i + 3) hread).1.ownStore answers
  · intro hserves snapshot k h
    obtain ⟨hroot, lineage, creatingSpend, store, answers, hreported, serves⟩ :=
      exec_readProfile_snapshot h
    exact ⟨⟨lineage, creatingSpend, store, answers, hreported,
      hserves lineage creatingSpend store answers serves⟩, hroot⟩

end ReadProfile

end Pinned

theorem profile_reads_pinned_iff [CoinHash] [Clvm] [DigDrivers] [ProfileSchema]
    (anchor : ProfileAnchor) (oracle : Oracle) (i : Nat) :
    ((∀ snapshot k, (readProfile anchor).exec oracle i = (.ok snapshot, k) →
        PinnedRoot anchor oracle i snapshot.root ∧ root snapshot.body = snapshot.root) ↔
      ServesOwnStore anchor oracle i (ContentServes anchor oracle i)) ∧
    ∀ newRoot, (∀ reported k, (ProfileEditor.editStatus anchor newRoot).exec oracle i =
        (.ok (.confirmed reported), k) → PinnedRoot anchor oracle i reported) ↔
      ServesOwnStore anchor oracle i fun store => store.info.metadata.rootHash = newRoot :=
  ⟨readProfile_pinned_iff, fun _ => editStatus_pinned_iff⟩

section Example

def strangerAnchor : ProfileAnchor := { profileAnchor with storeLauncherId := 30 }

def strangerSpend : CoinSpend := ⟨namedCoin 20, [], [21]⟩

def strangerSource : Oracle := fun _ query =>
  match query with
  | .resolveSingletonLineage launcherId => .ok (some ⟨launcherId, 31⟩)
  | .parentSpend _ => .ok (some strangerSpend)
  | .fetchProfileSlots _ _ => .ok [(1, [1]), (2, [5])]
  | .peakHeight => .ok (some 1)
  | .coinRecord _ => .ok none
  | .walkDidLineageToTip _ => .ok none
  | .proveLineage _ _ => .error (.other "")
  | .discoverDistributor _ => .ok none
  | .push _ => .error ""

theorem strangers_store_shown :
    letI := amountNames
    letI := singletonOutputs
    letI := singletonDrivers
    letI := nameAndBio
    ((readProfile strangerAnchor).exec strangerSource 0).1.toOption.any
        (fun snapshot => snapshot.root = 21) ∧
      (ProfileEditor.editStatus strangerAnchor 21).exec strangerSource 0 =
        (.ok (.confirmed 21), 2) ∧
      ¬ PinnedRoot strangerAnchor strangerSource 0 21 := by
  let _ := amountNames
  let _ := singletonOutputs
  let _ := singletonDrivers
  let _ := nameAndBio
  refine ⟨by decide +kernel, rfl, ?_⟩
  rintro ⟨lineage, creatingSpend, store, ⟨hwalked, hparent, hhydrated⟩, -, ⟨hlauncher, -⟩⟩
  cases hparent
  cases hhydrated
  cases hlauncher

end Example

end DigAccount
