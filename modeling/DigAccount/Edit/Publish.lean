import DigAccount.Edit.Preview

namespace DigAccount

open Validator

class ReadableSchema [ProfileSchema] [SlotwiseSchema] where
  asU16 : Value → Option Nat
  schemaVersionOf : Profile → Option Nat
  schemaVersionOf_eq : ∀ content,
    schemaVersionOf content = (slotValue content schemaVersion).bind asU16
  schemaVersion_unnamed : ∀ slot : ProfileSlot, slot.slotId ≠ schemaVersion

export ReadableSchema (asU16 schemaVersionOf schemaVersionOf_eq schemaVersion_unnamed)

section Writes

variable [ProfileSchema]

inductive ProfileWrite where
  | delta (edit : ProfileEdit)
  | wholesale (content : Profile)

def ProfileWrite.readsBeforeUpdate : ProfileWrite → Nat
  | .delta _ => 3
  | .wholesale _ => 2

def ProfileWrite.preview (write : ProfileWrite) (fields : ProfileFields) : ProfileFields :=
  match write with
  | .delta edit => edit.preview fields
  | .wholesale content => projectStandardSlots content

def publishedBody (content : Profile) : Except EditError VerifiedBody :=
  (fromProfile content).mapError fun e => .format s!"published profile body: {e}"

variable [SlotwiseSchema] [ReadableSchema]

def rejectProfileWithoutSchemaVersion (content : Profile) : Except EditError Unit :=
  refuseWhen (schemaVersionOf content).isNone (.refused
    "a published profile may not be without its schema version")

def ProfileWrite.applied (write : ProfileWrite) (base : VerifiedBody) :
    Except EditError VerifiedBody :=
  match write with
  | .delta edit => advanceBody (profile base) edit
  | .wholesale content => do
      rejectProfileWithoutSchemaVersion content
      publishedBody content

def Readable (body : VerifiedBody) : Prop := (schemaVersionOf (profile body)).isSome

variable {write : ProfileWrite} {base next : VerifiedBody} {content : Profile}
  {edit : ProfileEdit}

theorem applied_wholesale : (ProfileWrite.wholesale content).applied base = .ok next ↔
    (schemaVersionOf content).isSome ∧ fromProfile content = .ok next := by
  rw [ProfileWrite.applied, andThen_eq_ok, rejectProfileWithoutSchemaVersion, refuseWhen_ok,
    publishedBody, Fallible.mapError_eq_ok]
  simp [Option.isSome_iff_ne_none]

theorem schemaVersionOf_edited :
    schemaVersionOf (applyAll content edit.slotEdits) = schemaVersionOf content := by
  have hunnamed : ¬ edit.Names schemaVersion := by
    rintro ⟨slot, -, hslot⟩
    exact schemaVersion_unnamed slot hslot
  rw [schemaVersionOf_eq, schemaVersionOf_eq, ProfileEdit.slotValue_unnamed hunnamed]

theorem ProfileWrite.readable (h : write.applied base = .ok next) (readable : Readable base) :
    Readable next := by
  cases write with
  | delta edit =>
      have hprofile := profile_fromProfile _ _ (advanceBody_ok.1 h)
      rw [Readable, hprofile, schemaVersionOf_edited]
      exact readable
  | wholesale content =>
      obtain ⟨hversion, hencoded⟩ := applied_wholesale.1 h
      rw [Readable, profile_fromProfile _ _ hencoded]
      exact hversion

theorem ProfileWrite.fields (h : write.applied base = .ok next) :
    projectStandardSlots (profile next) =
      write.preview (projectStandardSlots (profile base)) := by
  cases write with
  | delta edit =>
      have hprofile := profile_fromProfile _ _ (advanceBody_ok.1 h)
      rw [hprofile, projectStandardSlots_applied]
      rfl
  | wholesale content =>
      obtain ⟨-, hencoded⟩ := applied_wholesale.1 h
      rw [profile_fromProfile _ _ hencoded]
      rfl

end Writes

section Publish

variable [Clvm] [DigDrivers] [ProfileSchema] [SlotwiseSchema] [ReadableSchema]

def ProfileEditor.publishProfile (editor : ProfileEditor) (ix : ProfileIx) (anchor : ProfileAnchor)
    (content : Profile) (network : MintNetwork) : ChainReads EditError CommittedEdit := do
  .ofExcept (rejectProfileWithoutSchemaVersion content)
  let wallet ← .ofExcept (editor.liveWalletKey ix)
  let nextBody ← .ofExcept (publishedBody content)
  let store ← resolveStoreTip anchor
  if store.info.metadata.rootHash = root nextBody then
    pure ⟨.confirmed (root nextBody), bytes nextBody⟩
  else pushUpdate anchor wallet nextBody network

def ProfileWrite.commit (write : ProfileWrite) (editor : ProfileEditor) (ix : ProfileIx)
    (anchor : ProfileAnchor) (network : MintNetwork) : ChainReads EditError CommittedEdit :=
  match write with
  | .delta edit => editor.commitEdit ix anchor edit network
  | .wholesale content => editor.publishProfile ix anchor content network

variable {editor : ProfileEditor} {ix : ProfileIx} {anchor : ProfileAnchor} {content : Profile}
  {network : MintNetwork} {oracle : Oracle} {i k : Nat} {bundle : SpendBundle}
  {write : ProfileWrite}

structure PushesWrite (write : ProfileWrite) (editor : ProfileEditor) (ix : ProfileIx)
    (anchor : ProfileAnchor) (network : MintNetwork) (oracle : Oracle) (i : Nat)
    (bundle : SpendBundle) (tip : Datastore) (nextBody : VerifiedBody) : Prop where
  read : (resolveStoreTip anchor).exec oracle i = (.ok tip, i + 2)
  moved : tip.info.metadata.rootHash ≠ root nextBody
  applied : ∀ base, root base = tip.info.metadata.rootHash → write.applied base = .ok nextBody
  built : (buildAndSignUpdate anchor (editor.walletAt ix) (root nextBody) network).exec oracle
    (i + write.readsBeforeUpdate) = (.ok bundle, i + write.readsBeforeUpdate + 2)

theorem push_mem_asked_publishProfile
    (h : Query.push bundle ∈ (editor.publishProfile ix anchor content network).asked oracle i) :
    ∃ tip nextBody,
      PushesWrite (.wholesale content) editor ix anchor network oracle i bundle tip nextBody := by
  rw [ProfileEditor.publishProfile] at h
  obtain ⟨_, hreadable, h⟩ := Fallible.mem_asked_bind_ofExcept.1 h
  obtain ⟨wallet, hkey, h⟩ := Fallible.mem_asked_bind_ofExcept.1 h
  obtain ⟨-, rfl⟩ := ProfileEditor.liveWalletKey_ok.1 hkey
  obtain ⟨nextBody, hencoded, h⟩ := Fallible.mem_asked_bind_ofExcept.1 h
  rw [Fallible.mem_asked_bind_of_onlyAsks resolveStoreTip_onlyReads push_not_isRead] at h
  obtain ⟨tip, m, hread, h⟩ := h
  obtain rfl := (resolveStoreTip_ok hread).1
  split at h
  · cases h
  · rename_i hmoved
    obtain ⟨m, hbuilt⟩ := push_mem_asked_pushUpdate.1 h
    obtain ⟨store, hstore, -⟩ := buildAndSignUpdate_ok hbuilt
    obtain rfl := (resolveStoreTip_ok hstore).1
    exact ⟨tip, nextBody, hread, hmoved, fun _ _ => andThen_eq_ok.2 ⟨hreadable, hencoded⟩, hbuilt⟩

theorem push_mem_asked_commit
    (h : Query.push bundle ∈ (write.commit editor ix anchor network).asked oracle i) :
    ∃ tip nextBody, PushesWrite write editor ix anchor network oracle i bundle tip nextBody := by
  cases write with
  | delta edit =>
      obtain ⟨snapshot, nextBody, pushes⟩ := push_mem_asked_commitEdit h
      obtain ⟨tip, slots, hread, -, -, -, hbound⟩ := exec_readProfile.1 pushes.read
      obtain ⟨hroot, hsnapshot⟩ := bindToChain_ok.1 hbound
      refine ⟨tip, nextBody, hread, ?_, fun base hbase => ?_, pushes.built⟩
      · have hmoved := pushes.moved
        rw [hsnapshot] at hmoved
        exact hmoved.symm
      · have hsame : base = snapshot.body := root_binds _ _ (hbase.trans hroot.symm)
        rw [hsame]
        exact pushes.advanced
  | wholesale content => exact push_mem_asked_publishProfile h

end Publish

end DigAccount
