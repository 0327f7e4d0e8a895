import DigAccount.Edit.Serialised

namespace DigAccount

structure EditCall where
  editor : ProfileEditor
  ix : ProfileIx
  anchor : ProfileAnchor
  edit : ProfileEdit
  network : MintNetwork
  chain : Oracle
  start : Nat

def EditCall.again (call : EditCall) (chain : Oracle) (start : Nat) : EditCall :=
  { call with chain := chain, start := start }

section Host

variable [ProfileSchema]

def Holds (kept : List (List UInt8)) (body : VerifiedBody) : Prop :=
  ∃ stored ∈ kept, readBytes stored = some body

def heldBody (kept : List (List UInt8)) (anchored : Bytes32) : Option VerifiedBody :=
  kept.findSome? fun stored => (readBytes stored).filter fun body => root body = anchored

def serveKept (kept : List (List UInt8)) (chain : Oracle) : Oracle
  | _, .fetchProfileSlots _ anchored =>
      match heldBody kept anchored with
      | some body => .ok (encodedSlots body)
      | none => .error "no kept body"
  | i, query => chain i query

variable {kept : List (List UInt8)} {body : VerifiedBody} {anchored : Bytes32}

theorem heldBody_sound (h : heldBody kept anchored = some body) :
    Holds kept body ∧ root body = anchored := by
  obtain ⟨stored, hmem, hfound⟩ := List.exists_of_findSome?_eq_some h
  obtain ⟨hread, hroot⟩ := Option.filter_eq_some_iff.1 hfound
  exact ⟨⟨stored, hmem, hread⟩, by simpa using hroot⟩

theorem Holds.heldBody (h : Holds kept body) : heldBody kept (root body) = some body := by
  obtain ⟨stored, hmem, hread⟩ := h
  cases hheld : DigAccount.heldBody kept (root body) with
  | none =>
      have hnone := List.findSome?_eq_none_iff.1 hheld stored hmem
      rw [hread] at hnone
      simp at hnone
  | some found =>
      rw [root_binds found body (heldBody_sound hheld).2]

theorem holds_bytes (h : bytes body ∈ kept) : Holds kept body := ⟨_, h, readBytes_bytes body⟩

theorem Holds.mono {more : List (List UInt8)} (h : Holds kept body) (hsub : kept ⊆ more) :
    Holds more body := by
  obtain ⟨stored, hmem, hread⟩ := h
  exact ⟨stored, hsub hmem, hread⟩

theorem serveKept_held {chain : Oracle} {i : Nat} {storeLauncherId : Bytes32}
    (h : Holds kept body) :
    serveKept kept chain i (.fetchProfileSlots storeLauncherId (root body)) =
      .ok (encodedSlots body) := by
  simp only [serveKept, h.heldBody]

theorem serveKept_ok {chain : Oracle} {i : Nat} {storeLauncherId : Bytes32}
    {slots : List (Nat × List UInt8)}
    (h : serveKept kept chain i (.fetchProfileSlots storeLauncherId anchored) = .ok slots) :
    ∃ found, heldBody kept anchored = some found ∧ slots = encodedSlots found := by
  cases hheld : heldBody kept anchored with
  | none =>
      simp only [serveKept, hheld] at h
      cases h
  | some found =>
      simp only [serveKept, hheld] at h
      cases h
      exact ⟨found, rfl, rfl⟩

end Host

section Runs

variable [Clvm] [DigDrivers] [ProfileSchema]

namespace EditCall

variable (call : EditCall) (kept : List (List UInt8))

def commit : ChainReads EditError CommittedEdit :=
  call.editor.commitEdit call.ix call.anchor call.edit call.network

def served : Oracle := serveKept kept call.chain

def result : Except EditError CommittedEdit := call.commit.run (call.served kept) call.start

def Pushes (bundle : SpendBundle) : Prop :=
  Query.push bundle ∈ call.commit.asked (call.served kept) call.start

instance (bundle : SpendBundle) : Decidable (call.Pushes kept bundle) :=
  inferInstanceAs (Decidable (_ ∈ _))

def Declined (bundle : SpendBundle) : Prop :=
  ∃ reason, call.chain (call.start + 5) (.push bundle) = .ok (.rejected reason)

def Settled : Prop :=
  ∀ store bundle,
    (resolveStoreTip call.anchor).run (call.served kept) (call.start + 3) = .ok store →
      bundle.coinSpends.map CoinSpend.coin = [store.coin] →
        call.chain (call.start + 5) (.push bundle) = .ok .accepted ∨
          call.chain (call.start + 5) (.push bundle) = .ok .alreadyInMempool ∨
            call.Declined bundle

def NextHeld : Prop :=
  ∀ store base next k,
    (resolveStoreTip call.anchor).exec (call.served kept) call.start = (.ok store, k) →
      Holds kept base → root base = store.info.metadata.rootHash →
        advanceBody (profile base) call.edit = .ok next → Holds kept next

end EditCall

def keep (kept : List (List UInt8)) (call : EditCall) : List (List UInt8) :=
  match call.result kept with
  | .ok edited => kept ++ [edited.body]
  | .error _ => kept

def keptAfter (kept : List (List UInt8)) (calls : List EditCall) : List (List UInt8) :=
  calls.foldl keep kept

variable {kept : List (List UInt8)} {call : EditCall} {calls : List EditCall}
  {anchor : ProfileAnchor} {chain : Oracle} {i k : Nat} {store : Datastore}

theorem subset_keep : kept ⊆ keep kept call := by
  rw [keep]
  split
  · exact List.subset_append_left ..
  · exact List.Subset.refl _

theorem subset_keptAfter : kept ⊆ keptAfter kept calls := by
  induction calls generalizing kept with
  | nil => exact List.Subset.refl _
  | cons call calls ih => exact List.Subset.trans subset_keep ih

theorem keptAfter_cons {past later : List EditCall} :
    keptAfter kept (past ++ call :: later) =
      keptAfter (keep (keptAfter kept past) call) later := by
  simp only [keptAfter]
  rw [List.foldl_append, List.foldl_cons]

theorem readProfile_served {snapshot : ProfileSnapshot}
    (h : (readProfile anchor).exec (serveKept kept chain) i = (.ok snapshot, k)) :
    Holds kept snapshot.body ∧ root snapshot.body = snapshot.root ∧
      ∃ store, (resolveStoreTip anchor).exec (serveKept kept chain) i = (.ok store, i + 2) ∧
        root snapshot.body = store.info.metadata.rootHash := by
  obtain ⟨store, slots, hstore, hslots, hassembled, -, hbound⟩ := exec_readProfile.1 h
  obtain ⟨hroot, hsnapshot⟩ := bindToChain_ok.1 hbound
  obtain ⟨found, hheld, rfl⟩ := serveKept_ok hslots
  have hsame : found = snapshot.body :=
    Except.ok.inj ((assembleBody_encodedSlots found).symm.trans hassembled)
  rw [← hsame]
  refine ⟨(heldBody_sound hheld).1, ?_, store, hstore, (heldBody_sound hheld).2⟩
  rw [(heldBody_sound hheld).2, hsnapshot]

theorem exec_readProfile_held {body : VerifiedBody} (held : Holds kept body)
    (resolved : (resolveStoreTip anchor).exec (serveKept kept chain) i = (.ok store, k))
    (anchored : store.info.metadata.rootHash = root body) :
    (readProfile anchor).exec (serveKept kept chain) i =
      (.ok ⟨root body, body, projectStandardSlots (profile body)⟩, i + 3) := by
  obtain rfl := (resolveStoreTip_ok resolved).1
  refine exec_readProfile.2 ⟨store, encodedSlots body, resolved, ?_, ?_, rfl, ?_⟩
  · rw [anchored]
    exact serveKept_held held
  · exact assembleBody_encodedSlots body
  · exact bindToChain_ok.2 ⟨anchored.symm, by rw [anchored]⟩

structure RetrySafe (kept : List (List UInt8)) (call : EditCall) (bundle : SpendBundle)
    (base next : VerifiedBody) : Prop where
  commits : ∃ store, Commits bundle store (root next)
  held : Holds kept next
  landed : ∀ chain start store k,
    (resolveStoreTip call.anchor).exec ((call.again chain start).served kept) start =
        (.ok store, k) →
      store.info.metadata.rootHash = root next →
        (call.again chain start).result kept = .ok ⟨.confirmed (root next), bytes next⟩
  unlanded : ∀ chain start store k,
    (resolveStoreTip call.anchor).exec ((call.again chain start).served kept) start =
        (.ok store, k) →
      store.info.metadata.rootHash = root base →
        ∀ built m, (buildAndSignUpdate call.anchor (call.editor.walletAt call.ix) (root next)
            call.network).exec ((call.again chain start).served kept) (start + 3) =
              (.ok built, m) →
          (call.again chain start).Pushes kept built ∧ ∃ tip, Commits built tip (root next)

omit [Clvm] [DigDrivers] in
theorem advanceBody_again {edit : ProfileEdit} {content : Profile} {next : VerifiedBody}
    (h : advanceBody content edit = .ok next) : advanceBody (profile next) edit = .ok next := by
  rw [advanceBody_ok] at h ⊢
  rw [profile_fromProfile _ _ h, applyAll_again, h]

abbrev EditCall.PushesOnto (call : EditCall) (kept : List (List UInt8)) (bundle : SpendBundle)
    (snapshot : ProfileSnapshot) (next : VerifiedBody) : Prop :=
  PushesUpdate call.editor call.ix call.anchor call.edit call.network (call.served kept)
    call.start bundle snapshot next

theorem result_of_taken {bundle : SpendBundle} {snapshot : ProfileSnapshot} {next : VerifiedBody}
    (pushes : call.PushesOnto kept bundle snapshot next)
    (taken : call.chain (call.start + 5) (.push bundle) = .ok .accepted ∨
      call.chain (call.start + 5) (.push bundle) = .ok .alreadyInMempool) :
    call.result kept = .ok ⟨.pushed (root next), bytes next⟩ := by
  have hexec : call.commit.exec (call.served kept) call.start = _ :=
    exec_commitEdit pushes.nonempty pushes.allowed pushes.live pushes.read pushes.advanced
  rw [if_neg pushes.moved, pushUpdate, Fallible.exec_bind_of_ok pushes.built] at hexec
  have hpush : ∀ outcome, call.chain (call.start + 5) (.push bundle) = .ok outcome →
      (pushBundle EditError.chainUnreachable bundle).exec (call.served kept) (call.start + 5) =
        (.ok outcome, call.start + 6) :=
    fun outcome h => Prod.ext (Fallible.mapError_eq_ok.2 h) rfl
  rcases taken with h | h
  · rw [Fallible.exec_bind_of_ok (hpush _ h)] at hexec
    exact congrArg Prod.fst hexec
  · rw [Fallible.exec_bind_of_ok (hpush _ h)] at hexec
    exact congrArg Prod.fst hexec

theorem declined_or_holds_keep {bundle : SpendBundle} {snapshot : ProfileSnapshot}
    {next : VerifiedBody} (pushes : call.PushesOnto kept bundle snapshot next)
    (met : call.Settled kept ∨ call.NextHeld kept) :
    call.Declined bundle ∨ Holds (keep kept call) next := by
  have returned : call.result kept = .ok ⟨.pushed (root next), bytes next⟩ →
      Holds (keep kept call) next := by
    intro hresult
    refine holds_bytes ?_
    rw [keep, hresult]
    exact List.mem_append_right _ (List.mem_singleton.2 rfl)
  rcases met with settled | heldAlready
  · obtain ⟨store, hstore, hcommits⟩ := buildAndSignUpdate_ok pushes.built
    rcases settled store bundle (congrArg Prod.fst hstore) hcommits.spends with
      haccepted | hknown | hdeclined
    · exact .inr (returned (result_of_taken pushes (.inl haccepted)))
    · exact .inr (returned (result_of_taken pushes (.inr hknown)))
    · exact .inl hdeclined
  · obtain ⟨hheld, -, store, hstore, hroot⟩ := readProfile_served pushes.read
    exact .inr ((heldAlready store snapshot.body next _ hstore hheld hroot pushes.advanced).mono
      subset_keep)

theorem retrySafe_of_held {bundle : SpendBundle} {snapshot : ProfileSnapshot}
    {next : VerifiedBody} {later : List (List UInt8)}
    (pushes : call.PushesOnto kept bundle snapshot next) (hsub : kept ⊆ later)
    (held : Holds later next) : RetrySafe later call bundle snapshot.body next := by
  obtain ⟨hbase, hroot, -⟩ := readProfile_served pushes.read
  obtain ⟨store, -, hcommits⟩ := buildAndSignUpdate_ok pushes.built
  refine ⟨⟨store, hcommits⟩, held, ?_, ?_⟩
  · intro chain start store k resolved anchored
    have hread := exec_readProfile_held held resolved anchored
    have hexec : (call.again chain start).commit.exec ((call.again chain start).served later)
        start = _ := exec_commitEdit pushes.nonempty pushes.allowed pushes.live hread
          (advanceBody_again pushes.advanced)
    rw [if_pos rfl] at hexec
    exact congrArg Prod.fst hexec
  · intro chain start store k resolved anchored built m hbuilt
    have hread := exec_readProfile_held (hbase.mono hsub) resolved anchored
    obtain ⟨tip, htip, hcommits⟩ := buildAndSignUpdate_ok hbuilt
    obtain rfl := (resolveStoreTip_ok htip).1
    refine ⟨PushesUpdate.asked ⟨pushes.nonempty, pushes.allowed, pushes.live, hread,
      pushes.advanced, ?_, hbuilt⟩, tip, hcommits⟩
    exact fun hsame => pushes.moved (hsame.trans hroot)

theorem retry_safe
    (met : ∀ past call, past ++ [call] <+: calls →
      call.Settled (keptAfter kept past) ∨ call.NextHeld (keptAfter kept past)) :
    ∀ past call later, past ++ call :: later <+: calls → ∀ bundle,
      call.Pushes (keptAfter kept past) bundle →
        ∃ snapshot next, call.PushesOnto (keptAfter kept past) bundle snapshot next ∧
          (call.Declined bundle ∨
            RetrySafe (keptAfter kept (past ++ call :: later)) call bundle snapshot.body next) := by
  intro past call later hrun bundle hpushed
  obtain ⟨snapshot, next, pushes⟩ := push_mem_asked_commitEdit hpushed
  have hstep : past ++ [call] <+: calls :=
    List.IsPrefix.trans ⟨later, by simp⟩ hrun
  rw [keptAfter_cons]
  refine ⟨snapshot, next, pushes, ?_⟩
  rcases declined_or_holds_keep pushes (met past call hstep) with hdeclined | hheld
  · exact .inl hdeclined
  · exact .inr (retrySafe_of_held pushes (List.Subset.trans subset_keep subset_keptAfter)
      (hheld.mono subset_keptAfter))

end Runs

section Example

def takingAll (chain : Oracle) : Oracle
  | _, .push _ => .ok .accepted
  | i, query => chain i query

def declining (chain : Oracle) : Oracle
  | _, .push _ => .ok (.rejected "mempool full")
  | i, query => chain i query

def silent (chain : Oracle) : Oracle
  | _, .push _ => .error "timed out"
  | i, query => chain i query

def launchedOracle : Oracle :=
  letI := amountNames
  letI := singletonOutputs
  (HonestSource.node amountIndex launchedProfile (steadyAt 2)).answer

def clearedOracle : Oracle :=
  letI := amountNames
  letI := singletonOutputs
  (HonestSource.node amountIndex (launchedProfile ++ [⟨[], (updateOf ⟨20, 0, 21⟩ 5).coinSpends⟩])
    (steadyAt 3)).answer

def clearCall (chain : Oracle) : EditCall :=
  ⟨ownEditor, .root, profileAnchor, clearName, ⟨0⟩, chain, 0⟩

theorem retry_safe_declinedThenTaken :
    letI := singletonOutputs
    letI := singletonDrivers
    letI := nameAndBio
    (clearCall clearedOracle).result (keptAfter [[1, 5]]
        [clearCall (declining launchedOracle), clearCall (takingAll launchedOracle)]) =
      .ok ⟨.confirmed 5, [0, 5]⟩ := by
  let _ := singletonOutputs
  let _ := singletonDrivers
  let _ := nameAndBio
  let first := clearCall (declining launchedOracle)
  let call := clearCall (takingAll launchedOracle)
  have met : ∀ past step, past ++ [step] <+: [first, call] →
      step.Settled (keptAfter [[1, 5]] past) ∨ step.NextHeld (keptAfter [[1, 5]] past) := by
    intro past step hrun
    have hstep : step ∈ [first, call] := hrun.subset (by simp)
    rcases List.mem_cons.1 hstep with rfl | hstep
    · exact .inl fun _ _ _ _ => .inr (.inr ⟨_, rfl⟩)
    · obtain rfl := List.mem_singleton.1 hstep
      exact .inl fun _ _ _ _ => .inl rfl
  have hpushed : call.Pushes (keptAfter [[1, 5]] [first]) (updateOf ⟨20, 0, 21⟩ 5) := by decide
  obtain ⟨snapshot, next, pushes, ⟨reason, hdeclined⟩ | safe⟩ :=
    retry_safe met [first] call [] (List.prefix_refl _) _ hpushed
  · cases hdeclined
  have hread : (readProfile profileAnchor).exec
      (call.served (keptAfter [[1, 5]] [first])) 0 = (.ok ⟨21, ⟨1, 5⟩, []⟩, 3) := rfl
  obtain ⟨hsnapshot, -⟩ := Prod.mk.inj (hread.symm.trans pushes.read)
  cases hsnapshot
  obtain rfl : NameAndBio.mk 0 5 = next := Except.ok.inj pushes.advanced
  exact safe.landed clearedOracle 0 ⟨⟨21, 0, 5⟩, 20, byteMetadata 5, 0, []⟩ 2 (by decide) rfl

theorem silentCall_orphans :
    letI := singletonOutputs
    letI := singletonDrivers
    letI := nameAndBio
    let kept := keptAfter [[1, 5]] [clearCall (silent launchedOracle)]
    (clearCall (silent launchedOracle)).Pushes [[1, 5]] (updateOf ⟨20, 0, 21⟩ 5) ∧
      kept = [[1, 5]] ∧
      (resolveStoreTip profileAnchor).run clearedOracle 0 =
        .ok ⟨⟨21, 0, 5⟩, 20, byteMetadata 5, 0, []⟩ ∧
      heldBody kept 5 = none ∧
      (clearCall clearedOracle).result kept = .error (.contentUnavailable "no kept body") := by
  let _ := singletonOutputs
  let _ := singletonDrivers
  let _ := nameAndBio
  exact ⟨by decide, by decide, by decide, by decide, by decide⟩

end Example

end DigAccount
