import DigAccount.Edit.Profile

namespace DigAccount

open Validator

inductive EditStatus where
  | pushed (newRoot : Bytes32)
  | confirmed (root : Bytes32)
  deriving DecidableEq, Repr

structure CommittedEdit where
  status : EditStatus
  body : List UInt8
  deriving DecidableEq, Repr

def editRefusals : SignatureRefusals EditError where
  notBls := .refused "an edit signs only BLS AGG_SIG_ME requirements"
  strangerKey := .refused "the edit asks for a signature under a key this profile does not hold"
  unbound := .refused
    "a signature that is not AGG_SIG_ME (an edit never signs an unbound message)"
  unsignable := .refused "non-BLS signature requirement in a profile edit"

def gateEditedCoin (store : Datastore) : List CoinSpend → Except EditError Unit
  | [only] => refuseWhen (only.coin ≠ store.coin) (.refused
      "the edit spends a coin that is not the store tip it was built from")
  | coinSpends => .error (.refused
      (s!"the edit's bundle spends {coinSpends.length} coins; an edit recreates exactly one " ++
        "singleton"))

def gateEdit (wallet : WalletKey) (store : Datastore) (coinSpends : List CoinSpend)
    (required : List RequiredSignature) (network : MintNetwork) : Except EditError Unit := do
  gateEditedCoin store coinSpends
  each (gateRequirement wallet editRefusals network) required

def rejectEmpty (edit : ProfileEdit) : Except EditError Unit :=
  refuseWhen edit.isEmpty (.refused "an empty edit commits the root the store already has")

theorem gateEditedCoin_ok {store : Datastore} {coinSpends : List CoinSpend}
    (h : gateEditedCoin store coinSpends = .ok ()) :
    ∃ only, coinSpends = [only] ∧ only.coin = store.coin := by
  simp only [gateEditedCoin] at h
  split at h
  · rename_i only
    exact ⟨only, rfl, not_not.1 (refuseWhen_ok.1 h)⟩
  · cases h

section Editor

variable [Clvm] [DigDrivers]

def signUpdate (anchor : ProfileAnchor) (wallet : WalletKey) (newRoot : Bytes32)
    (network : MintNetwork) (store : Datastore) : Except EditError SpendBundle := do
  gateStoreIdentity wallet anchor.storeLauncherId store
  let metadata := { store.info.metadata with rootHash := newRoot }
  let coinSpends ← (updateRoot store wallet.publicKey metadata).mapError
    fun e => EditError.build s!"store update: {e}"
  let required ← (requiredSignatures coinSpends network.aggSigMe).mapError
    fun e => EditError.build s!"required signatures: {e}"
  gateEdit wallet store coinSpends required network
  let signature ← required.mapM (signRequirement wallet editRefusals)
  pure ⟨coinSpends, signature⟩

def buildAndSignUpdate (anchor : ProfileAnchor) (wallet : WalletKey) (newRoot : Bytes32)
    (network : MintNetwork) : ChainReads EditError SpendBundle := do
  let store ← resolveStoreTip anchor
  .ofExcept (signUpdate anchor wallet newRoot network store)

variable [ProfileSchema]

def rejectProtectedRemovals (edit : ProfileEdit) : Except EditError Unit :=
  let removesSchemaVersion := edit.slotEdits.any fun
    | .remove slot => slot = schemaVersion
    | .set _ _ => false
  refuseWhen removesSchemaVersion (.refused
    "a published profile may not be without its schema version")

def advanceBody (content : Profile) (edit : ProfileEdit) : Except EditError VerifiedBody :=
  (fromProfile (applyAll content edit.slotEdits)).mapError
    fun e => .format s!"edited profile body: {e}"

def judgeEditPush (body : VerifiedBody) : PushOutcome → Except EditError CommittedEdit
  | .accepted | .alreadyInMempool => .ok ⟨.pushed (root body), bytes body⟩
  | .rejected reason => .error (.rejected reason)

def pushUpdate (anchor : ProfileAnchor) (wallet : WalletKey) (nextBody : VerifiedBody)
    (network : MintNetwork) : ChainReads EditError CommittedEdit := do
  let bundle ← buildAndSignUpdate anchor wallet (root nextBody) network
  let outcome ← pushBundle .chainUnreachable bundle
  .ofExcept (judgeEditPush nextBody outcome)

structure ProfileEditor where
  walletAt : ProfileIx → WalletKey
  isLive : Bool

namespace ProfileEditor

variable (editor : ProfileEditor)

def liveWalletKey (ix : ProfileIx) : Except EditError WalletKey :=
  if editor.isLive then .ok (editor.walletAt ix) else .error .locked

def commitEdit (ix : ProfileIx) (anchor : ProfileAnchor) (edit : ProfileEdit)
    (network : MintNetwork) : ChainReads EditError CommittedEdit := do
  .ofExcept (rejectEmpty edit)
  .ofExcept (rejectProtectedRemovals edit)
  let wallet ← .ofExcept (editor.liveWalletKey ix)
  let snapshot ← readProfile anchor
  let nextBody ← .ofExcept (advanceBody snapshot.content edit)
  if root nextBody = snapshot.root then pure ⟨.confirmed (root nextBody), bytes nextBody⟩
  else pushUpdate anchor wallet nextBody network

def editStatus (anchor : ProfileAnchor) (newRoot : Bytes32) : ChainReads EditError EditStatus := do
  let store ← resolveStoreTip anchor
  pure (if store.info.metadata.rootHash = newRoot then .confirmed newRoot else .pushed newRoot)

end ProfileEditor

end Editor

section Spec

variable [Clvm] [DigDrivers] {anchor : ProfileAnchor} {wallet : WalletKey} {network : MintNetwork}
  {newRoot : Bytes32} {oracle : Oracle} {i k : Nat}

inductive Query.IsRead : Query → Prop where
  | lineage (launcherId : Bytes32) : IsRead (.resolveSingletonLineage launcherId)
  | parent (id : Bytes32) : IsRead (.parentSpend id)
  | slots (storeLauncherId root : Bytes32) : IsRead (.fetchProfileSlots storeLauncherId root)

omit [Clvm] [DigDrivers] in
theorem push_not_isRead {bundle : SpendBundle} : ¬ (Query.push bundle).IsRead := by
  intro h
  cases h

theorem resolveStoreTip_onlyReads : Fallible.OnlyAsks Query.IsRead (resolveStoreTip anchor) := by
  refine Fallible.OnlyAsks.bind (Fallible.onlyAsks_mapError_query (fun _ _ => rfl) (.lineage _)) ?_
  intro lineage
  cases lineage with
  | none => exact Fallible.onlyAsks_ofExcept
  | some lineage =>
      refine Fallible.OnlyAsks.bind (Fallible.onlyAsks_mapError_query (fun _ _ => rfl) (.parent _))
        ?_
      intro creatingSpend
      cases creatingSpend with
      | none => exact Fallible.onlyAsks_ofExcept
      | some creatingSpend => exact Fallible.onlyAsks_ofExcept

theorem buildAndSignUpdate_onlyReads :
    Fallible.OnlyAsks Query.IsRead (buildAndSignUpdate anchor wallet newRoot network) :=
  resolveStoreTip_onlyReads.bind fun _ => Fallible.onlyAsks_ofExcept

theorem readProfile_onlyReads [ProfileSchema] :
    Fallible.OnlyAsks Query.IsRead (readProfile anchor) :=
  resolveStoreTip_onlyReads.bind fun _ =>
    (Fallible.onlyAsks_mapError_query (fun _ _ => rfl) (.slots _ _)).bind fun _ =>
      Fallible.onlyAsks_ofExcept.bind fun _ => Fallible.onlyAsks_ofExcept

structure Commits (bundle : SpendBundle) (store : Datastore) (newRoot : Bytes32) : Prop where
  spends : bundle.coinSpends.map CoinSpend.coin = [store.coin]
  anchors : ∀ coinSpend ∈ bundle.coinSpends, ∃ next, hydrate coinSpend = .ok next ∧
    next.info.metadata = { store.info.metadata with rootHash := newRoot }

theorem signUpdate_ok {store : Datastore} {bundle : SpendBundle}
    (h : signUpdate anchor wallet newRoot network store = .ok bundle) :
    Commits bundle store newRoot := by
  obtain ⟨_, -, h⟩ := bind_ok.1 h
  obtain ⟨coinSpends, hbuilt, h⟩ := bind_ok.1 h
  obtain ⟨required, -, h⟩ := bind_ok.1 h
  obtain ⟨_, hgate, h⟩ := bind_ok.1 h
  obtain ⟨signature, -, h⟩ := bind_ok.1 h
  cases h
  obtain ⟨only, rfl, hcoin⟩ := gateEditedCoin_ok (andThen_ok.1 hgate).1
  constructor
  · exact congrArg (fun coin => [coin]) hcoin
  · intro coinSpend hmem
    have hsame : coinSpend.coin = store.coin := by
      rw [List.mem_singleton.1 hmem, hcoin]
    exact updateRoot_commits store wallet.publicKey _ _ (Fallible.mapError_eq_ok.1 hbuilt)
      coinSpend hmem hsame

theorem buildAndSignUpdate_ok {bundle : SpendBundle}
    (h : (buildAndSignUpdate anchor wallet newRoot network).exec oracle i = (.ok bundle, k)) :
    ∃ store, (resolveStoreTip anchor).exec oracle i = (.ok store, k) ∧
      Commits bundle store newRoot := by
  obtain ⟨store, m, hstore, hsign⟩ := Fallible.exec_bind_eq_ok.1 h
  obtain ⟨hsigned, rfl⟩ := Prod.mk.inj hsign
  exact ⟨store, hstore, signUpdate_ok hsigned⟩

variable [ProfileSchema]

omit [Clvm] [DigDrivers] in
theorem bindToChain_ok {anchored : Bytes32} {body : VerifiedBody} {snapshot : ProfileSnapshot} :
    bindToChain anchored body = .ok snapshot ↔
      root body = anchored ∧ snapshot = ⟨anchored, body, projectStandardSlots (profile body)⟩ := by
  rw [bindToChain]
  rw [bind_ok]
  constructor
  · rintro ⟨_, hroot, hsnapshot⟩
    exact ⟨not_not.1 (refuseWhen_ok.1 hroot), (Except.ok.inj hsnapshot).symm⟩
  · rintro ⟨hroot, rfl⟩
    exact ⟨(), refuseWhen_ok.2 (not_not.2 hroot), rfl⟩

theorem exec_readProfile {snapshot : ProfileSnapshot} :
    (readProfile anchor).exec oracle i = (.ok snapshot, k) ↔
      ∃ store slots, (resolveStoreTip anchor).exec oracle i = (.ok store, i + 2) ∧
        oracle (i + 2) (.fetchProfileSlots anchor.storeLauncherId store.info.metadata.rootHash) =
          .ok slots ∧
        assembleBody slots = .ok snapshot.body ∧ k = i + 3 ∧
        bindToChain store.info.metadata.rootHash snapshot.body = .ok snapshot := by
  constructor
  · intro h
    obtain ⟨store, m, hstore, h⟩ := Fallible.exec_bind_eq_ok.1 h
    obtain rfl := (resolveStoreTip_ok hstore).1
    obtain ⟨slots, m, hslots, h⟩ := Fallible.exec_bind_eq_ok.1 h
    obtain ⟨hfetched, rfl⟩ := Prod.mk.inj hslots
    obtain ⟨body, m, hbody, h⟩ := Fallible.exec_bind_eq_ok.1 h
    obtain ⟨hassembled, rfl⟩ := Prod.mk.inj hbody
    obtain ⟨hbound, rfl⟩ := Prod.mk.inj h
    obtain ⟨hroot, rfl⟩ := bindToChain_ok.1 hbound
    exact ⟨store, slots, hstore, Fallible.mapError_eq_ok.1 hfetched, hassembled, rfl, hbound⟩
  · rintro ⟨store, slots, hstore, hfetched, hassembled, rfl, hbound⟩
    have hslots : (fetchProfileSlots anchor.storeLauncherId store.info.metadata.rootHash).exec
        oracle (i + 2) = (.ok slots, i + 3) :=
      Prod.ext (Fallible.mapError_eq_ok.2 hfetched) rfl
    have hbody : (Fallible.ofExcept (assembleBody slots) : ChainReads EditError VerifiedBody).exec
        oracle (i + 3) = (.ok snapshot.body, i + 3) := Prod.ext hassembled rfl
    rw [readProfile, Fallible.exec_bind_of_ok hstore, Fallible.exec_bind_of_ok hslots,
      Fallible.exec_bind_of_ok hbody]
    exact Prod.ext hbound rfl

variable {editor : ProfileEditor} {ix : ProfileIx} {edit : ProfileEdit} {bundle : SpendBundle}

omit [Clvm] [DigDrivers] [ProfileSchema] in
theorem ProfileEditor.liveWalletKey_ok :
    editor.liveWalletKey ix = .ok wallet ↔ editor.isLive ∧ editor.walletAt ix = wallet := by
  rw [liveWalletKey]
  split
  · rename_i hlive
    simp [hlive]
  · rename_i hlocked
    simp [hlocked]

omit [Clvm] [DigDrivers] in
theorem advanceBody_ok {content : Profile} {next : VerifiedBody} :
    advanceBody content edit = .ok next ↔
      fromProfile (applyAll content edit.slotEdits) = .ok next :=
  Fallible.mapError_eq_ok

theorem push_mem_asked_pushUpdate {nextBody : VerifiedBody} :
    Query.push bundle ∈ (pushUpdate anchor wallet nextBody network).asked oracle i ↔
      ∃ k, (buildAndSignUpdate anchor wallet (root nextBody) network).exec oracle i =
        (.ok bundle, k) := by
  have hpush : ∀ {built : SpendBundle} {k : Nat},
      Query.push bundle ∈ (pushBundle EditError.chainUnreachable built >>= fun outcome =>
        Fallible.ofExcept (judgeEditPush nextBody outcome)).asked oracle k ↔ bundle = built := by
    intro built k
    rw [Fallible.mem_asked_bind]
    constructor
    · rintro (hfirst | ⟨outcome, -, hrest⟩)
      · cases List.mem_singleton.1 hfirst
        rfl
      · cases hrest
    · rintro rfl
      exact .inl (List.mem_singleton.2 rfl)
  rw [pushUpdate]
  rw [Fallible.mem_asked_bind_of_onlyAsks buildAndSignUpdate_onlyReads push_not_isRead]
  constructor
  · rintro ⟨built, k, hbuilt, hmem⟩
    exact ⟨k, by rw [hpush.1 hmem, hbuilt]⟩
  · rintro ⟨k, hbuilt⟩
    exact ⟨bundle, k, hbuilt, hpush.2 rfl⟩

theorem exec_commitEdit {snapshot : ProfileSnapshot} {nextBody : VerifiedBody}
    (nonempty : rejectEmpty edit = .ok ()) (allowed : rejectProtectedRemovals edit = .ok ())
    (live : editor.isLive) (read : (readProfile anchor).exec oracle i = (.ok snapshot, k))
    (advanced : advanceBody snapshot.content edit = .ok nextBody) :
    (editor.commitEdit ix anchor edit network).exec oracle i =
      if root nextBody = snapshot.root then
        (.ok ⟨.confirmed (root nextBody), bytes nextBody⟩, k)
      else (pushUpdate anchor (editor.walletAt ix) nextBody network).exec oracle k := by
  have hkey : editor.liveWalletKey ix = .ok (editor.walletAt ix) :=
    ProfileEditor.liveWalletKey_ok.2 ⟨live, rfl⟩
  rw [ProfileEditor.commitEdit, Fallible.exec_bind_ofExcept nonempty,
    Fallible.exec_bind_ofExcept allowed, Fallible.exec_bind_ofExcept hkey,
    Fallible.exec_bind_of_ok read, Fallible.exec_bind_ofExcept advanced]
  split
  · rfl
  · rfl

structure PushesUpdate (editor : ProfileEditor) (ix : ProfileIx) (anchor : ProfileAnchor)
    (edit : ProfileEdit) (network : MintNetwork) (oracle : Oracle) (i : Nat) (bundle : SpendBundle)
    (snapshot : ProfileSnapshot) (nextBody : VerifiedBody) : Prop where
  nonempty : rejectEmpty edit = .ok ()
  allowed : rejectProtectedRemovals edit = .ok ()
  live : editor.isLive
  read : (readProfile anchor).exec oracle i = (.ok snapshot, i + 3)
  advanced : advanceBody snapshot.content edit = .ok nextBody
  moved : root nextBody ≠ snapshot.root
  built : (buildAndSignUpdate anchor (editor.walletAt ix) (root nextBody) network).exec oracle
    (i + 3) = (.ok bundle, i + 5)

theorem push_mem_asked_commitEdit
    (h : Query.push bundle ∈ (editor.commitEdit ix anchor edit network).asked oracle i) :
    ∃ snapshot nextBody,
      PushesUpdate editor ix anchor edit network oracle i bundle snapshot nextBody := by
  rw [ProfileEditor.commitEdit] at h
  obtain ⟨_, hnonempty, h⟩ := Fallible.mem_asked_bind_ofExcept.1 h
  obtain ⟨_, hallowed, h⟩ := Fallible.mem_asked_bind_ofExcept.1 h
  obtain ⟨wallet, hkey, h⟩ := Fallible.mem_asked_bind_ofExcept.1 h
  obtain ⟨hlive, rfl⟩ := ProfileEditor.liveWalletKey_ok.1 hkey
  rw [Fallible.mem_asked_bind_of_onlyAsks readProfile_onlyReads push_not_isRead] at h
  obtain ⟨snapshot, m, hread, h⟩ := h
  obtain ⟨store, slots, -, -, -, rfl, -⟩ := exec_readProfile.1 hread
  obtain ⟨nextBody, hadvanced, h⟩ := Fallible.mem_asked_bind_ofExcept.1 h
  split at h
  · cases h
  · rename_i hmoved
    obtain ⟨m, hbuilt⟩ := push_mem_asked_pushUpdate.1 h
    obtain ⟨store', hstore, -⟩ := buildAndSignUpdate_ok hbuilt
    obtain rfl := (resolveStoreTip_ok hstore).1
    exact ⟨snapshot, nextBody, hnonempty, hallowed, hlive, hread, hadvanced, hmoved, hbuilt⟩

theorem PushesUpdate.asked {snapshot : ProfileSnapshot} {nextBody : VerifiedBody}
    (h : PushesUpdate editor ix anchor edit network oracle i bundle snapshot nextBody) :
    Query.push bundle ∈ (editor.commitEdit ix anchor edit network).asked oracle i := by
  have hkey : editor.liveWalletKey ix = .ok (editor.walletAt ix) :=
    ProfileEditor.liveWalletKey_ok.2 ⟨h.live, rfl⟩
  rw [ProfileEditor.commitEdit]
  refine Fallible.mem_asked_bind_ofExcept.2 ⟨(), h.nonempty, ?_⟩
  refine Fallible.mem_asked_bind_ofExcept.2 ⟨(), h.allowed, ?_⟩
  refine Fallible.mem_asked_bind_ofExcept.2 ⟨editor.walletAt ix, hkey, ?_⟩
  refine (Fallible.mem_asked_bind_of_onlyAsks readProfile_onlyReads push_not_isRead).2
    ⟨snapshot, i + 3, h.read, ?_⟩
  refine Fallible.mem_asked_bind_ofExcept.2 ⟨nextBody, h.advanced, ?_⟩
  rw [if_neg h.moved]
  exact push_mem_asked_pushUpdate.2 ⟨i + 5, h.built⟩

end Spec

end DigAccount
