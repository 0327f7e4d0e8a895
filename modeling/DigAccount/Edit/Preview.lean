import DigAccount.Edit.Serialised
import DigAccount.Foundation.OrderedMap
import Mathlib.Logic.Equiv.List

namespace DigAccount

open Validator

namespace ProfileSlot

theorem mem_all (slot : ProfileSlot) : slot ∈ all := by
  cases slot <;> decide

theorem all_ascending : (all.map slotId).SortedLT :=
  List.Pairwise.sortedLT (by decide)

end ProfileSlot

namespace ProfileFields

def get (fields : ProfileFields) (slot : ProfileSlot) : Option String :=
  OrderedMap.get fields slot

def insert (fields : ProfileFields) (slot : ProfileSlot) (text : String) : ProfileFields :=
  OrderedMap.insert ProfileSlot.slotId fields slot text

def remove (fields : ProfileFields) (slot : ProfileSlot) : ProfileFields :=
  OrderedMap.erase fields slot

abbrev Ascending (fields : ProfileFields) : Prop :=
  OrderedMap.Ascending ProfileSlot.slotId fields

end ProfileFields

def SlotChange.text : SlotChange → Option String
  | set text => some text
  | remove => none

namespace ProfileEdit

def previewSlot (next : ProfileFields) (entry : ProfileSlot × SlotChange) : ProfileFields :=
  match entry.2 with
  | .set text => ProfileFields.insert next entry.1 text
  | .remove => ProfileFields.remove next entry.1

def preview (edit : ProfileEdit) (current : ProfileFields) : ProfileFields :=
  edit.changes.foldl previewSlot current

def changeAt (edit : ProfileEdit) (slot : ProfileSlot) : Option SlotChange :=
  OrderedMap.get edit.changes slot

def Names (edit : ProfileEdit) (slot : Nat) : Prop :=
  ∃ named, (edit.changeAt named).isSome ∧ named.slotId = slot

def call (edit : ProfileEdit) (entry : ProfileSlot × SlotChange) : ProfileEdit :=
  match entry.2 with
  | .set text => edit.set entry.1 text
  | .remove => edit.remove entry.1

def build (calls : List (ProfileSlot × SlotChange)) : ProfileEdit := calls.foldl call new

def lastChange (calls : List (ProfileSlot × SlotChange)) (slot : ProfileSlot) :
    Option SlotChange :=
  OrderedMap.get calls.reverse slot

def rightBiasedMerge (first second : ProfileEdit) : ProfileEdit where
  changes := OrderedMap.tabulate ProfileSlot.all fun slot =>
    (second.changeAt slot).or (first.changeAt slot)
  ascending := OrderedMap.ascending_tabulate ProfileSlot.all_ascending _

variable {edit first second : ProfileEdit} {slot : ProfileSlot} {fields : ProfileFields}

theorem ascending_changes (edit : ProfileEdit) :
    OrderedMap.Ascending ProfileSlot.slotId edit.changes := edit.ascending

theorem ext_changeAt (h : ∀ slot, first.changeAt slot = second.changeAt slot) :
    first = second := by
  have hchanges := (ascending_changes first).ext (ascending_changes second) h
  cases first
  cases second
  cases hchanges
  rfl

theorem not_names_of_changeAt (h : edit.changeAt slot = none) : ¬ edit.Names slot.slotId := by
  rintro ⟨named, hnamed, hsame⟩
  rw [ProfileSlot.slotId_injective hsame, h] at hnamed
  cases hnamed

theorem call_changes (entry : ProfileSlot × SlotChange) :
    (edit.call entry).changes =
      OrderedMap.insert ProfileSlot.slotId edit.changes entry.1 entry.2 := by
  obtain ⟨slot, change⟩ := entry
  cases change with
  | set text => rfl
  | remove => rfl

theorem foldl_call_changes (edit : ProfileEdit) (calls : List (ProfileSlot × SlotChange)) :
    (calls.foldl call edit).changes = calls.foldl
      (fun changes entry => OrderedMap.insert ProfileSlot.slotId changes entry.1 entry.2)
      edit.changes := by
  induction calls generalizing edit with
  | nil => rfl
  | cons entry calls ih => rw [List.foldl_cons, ih, call_changes, List.foldl_cons]

theorem changeAt_build (calls : List (ProfileSlot × SlotChange)) (slot : ProfileSlot) :
    (build calls).changeAt slot = lastChange calls slot := by
  have hfold : (build calls).changeAt slot =
      ((lastChange calls slot).map some).getD (OrderedMap.get new.changes slot) := by
    rw [changeAt, build, foldl_call_changes]
    exact OrderedMap.get_foldl (fun _ _ _ => OrderedMap.get_insert) calls
  rw [hfold]
  cases lastChange calls slot with
  | none => rfl
  | some change => rfl

theorem changeAt_rightBiasedMerge :
    (first.rightBiasedMerge second).changeAt slot =
      (second.changeAt slot).or (first.changeAt slot) :=
  OrderedMap.get_tabulate (ProfileSlot.mem_all slot)

theorem build_congr {calls calls' : List (ProfileSlot × SlotChange)}
    (h : ∀ slot, lastChange calls slot = lastChange calls' slot) : build calls = build calls' := by
  refine ext_changeAt fun slot => ?_
  rw [changeAt_build, changeAt_build, h]

theorem merge_build {calls calls' : List (ProfileSlot × SlotChange)} :
    (build calls).rightBiasedMerge (build calls') = build (calls ++ calls') := by
  refine ext_changeAt fun slot => ?_
  rw [changeAt_rightBiasedMerge, changeAt_build, changeAt_build, changeAt_build, lastChange,
    lastChange, lastChange, List.reverse_append, OrderedMap.get_append]

theorem get_previewSlot {entry : ProfileSlot × SlotChange} :
    ProfileFields.get (previewSlot fields entry) slot =
      if slot = entry.1 then entry.2.text else ProfileFields.get fields slot := by
  obtain ⟨changed, change⟩ := entry
  cases change with
  | set text => exact OrderedMap.get_insert
  | remove => exact OrderedMap.get_erase

theorem get_preview :
    ProfileFields.get (edit.preview fields) slot =
      ((edit.changeAt slot).map SlotChange.text).getD (ProfileFields.get fields slot) := by
  have hfold : ProfileFields.get (edit.preview fields) slot =
      ((OrderedMap.get edit.changes.reverse slot).map SlotChange.text).getD
        (ProfileFields.get fields slot) :=
    OrderedMap.get_foldl (fun _ _ _ => get_previewSlot) edit.changes
  rw [hfold, OrderedMap.get_reverse (ascending_changes edit).nodup_keys]
  rfl

theorem ascending_previewSlot {entry : ProfileSlot × SlotChange}
    (h : ProfileFields.Ascending fields) : ProfileFields.Ascending (previewSlot fields entry) := by
  obtain ⟨changed, change⟩ := entry
  cases change with
  | set text => exact h.insert ProfileSlot.slotId_injective changed text
  | remove => exact h.erase changed

theorem ascending_preview (h : ProfileFields.Ascending fields) :
    ProfileFields.Ascending (edit.preview fields) := by
  rw [preview]
  generalize edit.changes = changes
  induction changes generalizing fields with
  | nil => exact h
  | cons entry changes ih => exact ih (ascending_previewSlot h)

end ProfileEdit

def SlotEdit.slot {V : Type} : SlotEdit V → Nat
  | set slot _ => slot
  | remove slot => slot

def SlotEdit.value {V : Type} : SlotEdit V → Option V
  | set _ value => some value
  | remove _ => none

class SlotwiseSchema [ProfileSchema] where
  slotValue : Profile → Nat → Option Value
  asUtf8 : Value → Option String
  textAt_eq : ∀ content slot, textAt content slot = (slotValue content slot).bind asUtf8
  asUtf8_utf8 : ∀ text, asUtf8 (utf8 text) = some text
  profile_ext : ∀ a b, (∀ slot, slotValue a slot = slotValue b slot) → a = b
  applyAll_named : ∀ content edits, (edits.map SlotEdit.slot).Nodup → ∀ edit ∈ edits,
    slotValue (applyAll content edits) edit.slot = edit.value
  applyAll_unnamed : ∀ content edits slot, slot ∉ edits.map SlotEdit.slot →
    slotValue (applyAll content edits) slot = slotValue content slot

export SlotwiseSchema (slotValue asUtf8 textAt_eq asUtf8_utf8 profile_ext applyAll_named
  applyAll_unnamed)

section Schema

variable [ProfileSchema] [SlotwiseSchema]

def SlotChange.value : SlotChange → Option Value
  | set text => some (utf8 text)
  | remove => none

theorem SlotChange.value_text (change : SlotChange) : change.value.bind asUtf8 = change.text := by
  cases change with
  | set text => exact asUtf8_utf8 text
  | remove => rfl

namespace ProfileEdit

variable {edit : ProfileEdit} {slot : ProfileSlot} {content : Profile}

omit [SlotwiseSchema] in
theorem slotEdits_slots : edit.slotEdits.map SlotEdit.slot = edit.changes.map slotOrder := by
  rw [slotEdits, List.map_map]
  refine List.map_congr_left fun entry _ => ?_
  obtain ⟨slot, change⟩ := entry
  cases change with
  | set text => rfl
  | remove => rfl

omit [SlotwiseSchema] in
theorem mem_slotEdits {change : SlotChange} (h : edit.changeAt slot = some change) :
    ∃ slotEdit ∈ edit.slotEdits, slotEdit.slot = slot.slotId ∧ slotEdit.value = change.value := by
  have hmem := (OrderedMap.get_eq_some (ascending_changes edit).nodup_keys).1 h
  refine ⟨_, List.mem_map_of_mem hmem, ?_⟩
  cases change with
  | set text => exact ⟨rfl, rfl⟩
  | remove => exact ⟨rfl, rfl⟩

omit [SlotwiseSchema] in
theorem names_of_mem {slot : Nat} (h : slot ∈ edit.slotEdits.map SlotEdit.slot) :
    edit.Names slot := by
  rw [slotEdits_slots] at h
  obtain ⟨entry, hentry, rfl⟩ := List.mem_map.1 h
  refine ⟨entry.1, Option.isSome_iff_ne_none.2 ?_, rfl⟩
  rw [changeAt, ne_eq, OrderedMap.get_eq_none, not_not]
  exact List.mem_map_of_mem hentry

theorem slotValue_changed {change : SlotChange} (h : edit.changeAt slot = some change) :
    slotValue (applyAll content edit.slotEdits) slot.slotId = change.value := by
  obtain ⟨slotEdit, hmem, hslot, hvalue⟩ := mem_slotEdits h
  have hnodup : (edit.slotEdits.map SlotEdit.slot).Nodup := by
    rw [slotEdits_slots]
    exact edit.ascending.nodup
  rw [← hslot, ← hvalue]
  exact applyAll_named content edit.slotEdits hnodup slotEdit hmem

theorem slotValue_unnamed {slot : Nat} (h : ¬ edit.Names slot) :
    slotValue (applyAll content edit.slotEdits) slot = slotValue content slot :=
  applyAll_unnamed content edit.slotEdits slot fun hmem => h (names_of_mem hmem)

theorem slotValue_applied :
    slotValue (applyAll content edit.slotEdits) slot.slotId =
      ((edit.changeAt slot).map SlotChange.value).getD (slotValue content slot.slotId) := by
  cases h : edit.changeAt slot with
  | none => exact slotValue_unnamed (not_names_of_changeAt h)
  | some change => exact slotValue_changed h

end ProfileEdit

open ProfileEdit

variable {slot : ProfileSlot} {content : Profile}

omit [SlotwiseSchema] in
theorem get_projectStandardSlots :
    ProfileFields.get (projectStandardSlots content) slot = textAt content slot.slotId :=
  OrderedMap.get_tabulate (ProfileSlot.mem_all slot)

omit [SlotwiseSchema] in
theorem ascending_projectStandardSlots (content : Profile) :
    ProfileFields.Ascending (projectStandardSlots content) :=
  OrderedMap.ascending_tabulate ProfileSlot.all_ascending _

theorem projectStandardSlots_applied (content : Profile) (edit : ProfileEdit) :
    projectStandardSlots (applyAll content edit.slotEdits) =
      edit.preview (projectStandardSlots content) := by
  refine OrderedMap.Ascending.ext (ascending_projectStandardSlots _)
    (ascending_preview (ascending_projectStandardSlots _)) fun slot => ?_
  have hshown : ProfileFields.get (projectStandardSlots (applyAll content edit.slotEdits)) slot =
      ((edit.changeAt slot).map SlotChange.text).getD (textAt content slot.slotId) := by
    rw [get_projectStandardSlots, textAt_eq, slotValue_applied]
    cases edit.changeAt slot with
    | none => exact (textAt_eq content slot.slotId).symm
    | some change => exact change.value_text
  rw [← get_projectStandardSlots, ← get_preview] at hshown
  exact hshown

theorem applyAll_merged (content : Profile) (first second : ProfileEdit) :
    applyAll (applyAll content first.slotEdits) second.slotEdits =
      applyAll content (first.rightBiasedMerge second).slotEdits := by
  refine profile_ext _ _ fun slot => ?_
  by_cases hstandard : ∃ named : ProfileSlot, named.slotId = slot
  · obtain ⟨named, rfl⟩ := hstandard
    rw [slotValue_applied, slotValue_applied, slotValue_applied, changeAt_rightBiasedMerge]
    cases second.changeAt named with
    | none => rfl
    | some change => rfl
  · have hunnamed (edit : ProfileEdit) : ¬ edit.Names slot := by
      rintro ⟨named, -, hsame⟩
      exact hstandard ⟨named, hsame⟩
    rw [slotValue_unnamed (hunnamed second), slotValue_unnamed (hunnamed first),
      slotValue_unnamed (hunnamed _)]

theorem preview_merged (content : Profile) (first second : ProfileEdit) :
    second.preview (first.preview (projectStandardSlots content)) =
      (first.rightBiasedMerge second).preview (projectStandardSlots content) := by
  rw [← projectStandardSlots_applied, ← projectStandardSlots_applied,
    ← projectStandardSlots_applied, applyAll_merged]

theorem advanceBody_merged {base middle : VerifiedBody} {first second : ProfileEdit}
    (h : advanceBody (profile base) first = .ok middle) :
    advanceBody (profile middle) second =
      advanceBody (profile base) (first.rightBiasedMerge second) := by
  rw [advanceBody, advanceBody, profile_fromProfile _ _ (advanceBody_ok.1 h), applyAll_merged]

end Schema

section Commit

variable [Clvm] [DigDrivers] [ProfileSchema] {anchor : ProfileAnchor}
  {network : MintNetwork} {oracle : Oracle} {i k : Nat} {editor : ProfileEditor} {ix : ProfileIx}
  {edit : ProfileEdit} {committed : CommittedEdit}

theorem exec_commitEdit_ok
    (h : (editor.commitEdit ix anchor edit network).exec oracle i = (.ok committed, k)) :
    ∃ snapshot next m, (readProfile anchor).exec oracle i = (.ok snapshot, m) ∧
      advanceBody snapshot.content edit = .ok next ∧ committed.body = bytes next := by
  rw [ProfileEditor.commitEdit] at h
  obtain ⟨_, m, hnonempty, h⟩ := Fallible.exec_bind_eq_ok.1 h
  obtain ⟨-, rfl⟩ := Prod.mk.inj hnonempty
  obtain ⟨_, m, hallowed, h⟩ := Fallible.exec_bind_eq_ok.1 h
  obtain ⟨-, rfl⟩ := Prod.mk.inj hallowed
  obtain ⟨_, m, hkey, h⟩ := Fallible.exec_bind_eq_ok.1 h
  obtain ⟨-, rfl⟩ := Prod.mk.inj hkey
  obtain ⟨snapshot, m, hread, h⟩ := Fallible.exec_bind_eq_ok.1 h
  obtain ⟨next, m', hnext, h⟩ := Fallible.exec_bind_eq_ok.1 h
  obtain ⟨hadvanced, rfl⟩ := Prod.mk.inj hnext
  refine ⟨snapshot, next, m, hread, hadvanced, ?_⟩
  split at h
  · obtain ⟨hcommitted, -⟩ := Prod.mk.inj h
    cases hcommitted
    rfl
  · rw [(pushUpdate_ok h).1]

variable [SlotwiseSchema]

structure PreviewedBody (edit : ProfileEdit) (snapshot : ProfileSnapshot)
    (next : VerifiedBody) : Prop where
  standard : projectStandardSlots (profile next) = edit.preview snapshot.fields
  changed : ∀ slot change, edit.changeAt slot = some change →
    slotValue (profile next) slot.slotId = change.value
  kept : ∀ slot, ¬ edit.Names slot →
    slotValue (profile next) slot = slotValue snapshot.content slot

theorem commitEdit_previewed
    (h : (editor.commitEdit ix anchor edit network).exec oracle i = (.ok committed, k)) :
    ∃ snapshot next m, (readProfile anchor).exec oracle i = (.ok snapshot, m) ∧
      readBytes committed.body = some next ∧ PreviewedBody edit snapshot next := by
  obtain ⟨snapshot, next, m, hread, hadvanced, hbody⟩ := exec_commitEdit_ok h
  have happlied := profile_fromProfile _ _ (advanceBody_ok.1 hadvanced)
  have hfields : snapshot.fields = projectStandardSlots snapshot.content := by
    obtain ⟨store, slots, -, -, -, -, hbound⟩ := exec_readProfile.1 hread
    rw [(bindToChain_ok.1 hbound).2]
    rfl
  refine ⟨snapshot, next, m, hread, ?_, ?_, ?_, ?_⟩
  · rw [hbody, readBytes_bytes]
  · rw [happlied, hfields, projectStandardSlots_applied]
  · intro slot change hchange
    rw [happlied]
    exact ProfileEdit.slotValue_changed hchange
  · intro slot hunnamed
    rw [happlied]
    exact ProfileEdit.slotValue_unnamed hunnamed

end Commit

open ProfileEdit in
theorem preview_agrees_with_commit [Clvm] [DigDrivers] [ProfileSchema] [SlotwiseSchema]
    (calls calls' : List (ProfileSlot × SlotChange)) :
    (∀ (editor : ProfileEditor) ix anchor network oracle i committed k,
      (editor.commitEdit ix anchor (build calls) network).exec oracle i = (.ok committed, k) →
        ∃ snapshot next m, (readProfile anchor).exec oracle i = (.ok snapshot, m) ∧
          readBytes committed.body = some next ∧ PreviewedBody (build calls) snapshot next) ∧
    ((∀ slot, lastChange calls slot = lastChange calls' slot) → build calls = build calls') ∧
    (build calls).rightBiasedMerge (build calls') = build (calls ++ calls') ∧
    (∀ base middle, advanceBody (profile base) (build calls) = .ok middle →
      advanceBody (profile middle) (build calls') =
        advanceBody (profile base) ((build calls).rightBiasedMerge (build calls'))) ∧
    ∀ content, (build calls').preview ((build calls).preview (projectStandardSlots content)) =
      ((build calls).rightBiasedMerge (build calls')).preview (projectStandardSlots content) := by
  refine ⟨fun _ _ _ _ _ _ _ _ => commitEdit_previewed, build_congr, merge_build, ?_, ?_⟩
  · exact fun _ _ => advanceBody_merged
  · exact fun content => preview_merged content _ _

section Example

abbrev SlotBook : Type :=
  { entries : List (Nat × (String ⊕ Unit)) // OrderedMap.Ascending id entries }

namespace SlotBook

instance textCode : Encodable String :=
  Encodable.ofLeftInverse (fun text => text.toList.map Char.toNat)
    (fun codes => String.ofList (codes.map Char.ofNat)) fun text => by
      simp [Function.comp_def]

def write (entries : List (Nat × (String ⊕ Unit))) (change : Nat × Option (String ⊕ Unit)) :
    List (Nat × (String ⊕ Unit)) :=
  match change.2 with
  | some value => OrderedMap.insert id entries change.1 value
  | none => OrderedMap.erase entries change.1

theorem get_write (entries : List (Nat × (String ⊕ Unit)))
    (change : Nat × Option (String ⊕ Unit)) (slot : Nat) :
    OrderedMap.get (write entries change) slot =
      if slot = change.1 then change.2 else OrderedMap.get entries slot := by
  obtain ⟨written, value⟩ := change
  cases value with
  | some value => exact OrderedMap.get_insert
  | none => exact OrderedMap.get_erase

theorem ascending_foldl_write {entries : List (Nat × (String ⊕ Unit))}
    (h : OrderedMap.Ascending id entries) (changes : List (Nat × Option (String ⊕ Unit))) :
    OrderedMap.Ascending id (changes.foldl write entries) := by
  induction changes generalizing entries with
  | nil => exact h
  | cons change changes ih =>
      obtain ⟨written, value⟩ := change
      cases value with
      | some value => exact ih (h.insert Function.injective_id written value)
      | none => exact ih (h.erase written)

def writes (edits : List (SlotEdit (String ⊕ Unit))) : List (Nat × Option (String ⊕ Unit)) :=
  edits.map fun edit => (edit.slot, edit.value)

def applyAll (book : SlotBook) (edits : List (SlotEdit (String ⊕ Unit))) : SlotBook :=
  ⟨(writes edits).foldl write book.1, ascending_foldl_write book.2 _⟩

theorem get_applyAll (book : SlotBook) (edits : List (SlotEdit (String ⊕ Unit))) (slot : Nat) :
    OrderedMap.get (applyAll book edits).1 slot =
      ((OrderedMap.get (writes edits).reverse slot).map id).getD (OrderedMap.get book.1 slot) :=
  OrderedMap.get_foldl get_write (writes edits)

theorem ext {a b : SlotBook} (h : ∀ slot, OrderedMap.get a.1 slot = OrderedMap.get b.1 slot) :
    a = b :=
  Subtype.ext (a.2.ext b.2 h)

theorem applyAll_again (book : SlotBook) (edits : List (SlotEdit (String ⊕ Unit))) :
    applyAll (applyAll book edits) edits = applyAll book edits := by
  refine ext fun slot => ?_
  rw [get_applyAll, get_applyAll]
  cases OrderedMap.get (writes edits).reverse slot with
  | none => rfl
  | some value => rfl

theorem writes_keys (edits : List (SlotEdit (String ⊕ Unit))) :
    (writes edits).map Prod.fst = edits.map SlotEdit.slot := by
  rw [writes, List.map_map]
  rfl

theorem get_applyAll_named {book : SlotBook} {edits : List (SlotEdit (String ⊕ Unit))}
    (nodup : (edits.map SlotEdit.slot).Nodup) {edit : SlotEdit (String ⊕ Unit)}
    (hmem : edit ∈ edits) : OrderedMap.get (applyAll book edits).1 edit.slot = edit.value := by
  have hwritten : OrderedMap.get (writes edits) edit.slot = some edit.value :=
    (OrderedMap.get_eq_some (by rwa [writes_keys])).2 (List.mem_map_of_mem hmem)
  rw [get_applyAll, OrderedMap.get_reverse (by rwa [writes_keys]), hwritten]
  rfl

theorem get_applyAll_unnamed {book : SlotBook} {edits : List (SlotEdit (String ⊕ Unit))}
    {slot : Nat} (h : slot ∉ edits.map SlotEdit.slot) :
    OrderedMap.get (applyAll book edits).1 slot = OrderedMap.get book.1 slot := by
  have hunwritten : OrderedMap.get (writes edits).reverse slot = none := by
    rw [OrderedMap.get_eq_none, List.map_reverse, List.mem_reverse, writes_keys]
    exact h
  rw [get_applyAll, hunwritten]
  rfl

def ofPairs (pairs : List (Nat × (String ⊕ Unit))) : Option SlotBook :=
  if h : OrderedMap.Ascending id pairs then some ⟨pairs, h⟩ else none

theorem ofPairs_val (book : SlotBook) : ofPairs book.1 = some book := by
  rw [ofPairs]
  rw [dif_pos book.2]

end SlotBook

open SlotBook in
@[reducible] def slotBook : ProfileSchema where
  Value := String ⊕ Unit
  Profile := SlotBook
  VerifiedBody := SlotBook
  schemaVersion := 0
  utf8 := .inl
  encode value := List.replicate (Encodable.encode value) 0
  decode bytes := (Encodable.decode bytes.length).elim (.error "unknown tag") .ok
  decode_encode value := by rw [List.length_replicate, Encodable.encodek]; rfl
  textAt book slot := (OrderedMap.get book.1 slot).bind Sum.getLeft?
  applyAll := SlotBook.applyAll
  applyAll_again := SlotBook.applyAll_again
  fromPairs pairs := (ofPairs pairs).elim (.error "slots out of order") .ok
  fromProfile := .ok
  profile := id
  pairs book := book.1
  root book := Encodable.encode book.1
  bytes book := List.replicate (Encodable.encode book.1) 0
  readBytes bytes := (Encodable.decode bytes.length).bind ofPairs
  profile_fromProfile _ _ h := (Except.ok.inj h).symm
  fromPairs_pairs book := by rw [ofPairs_val]; rfl
  pairs_ascending book := book.2
  readBytes_bytes book := by
    rw [List.length_replicate, Encodable.encodek]
    exact ofPairs_val book
  root_binds _ _ h := Subtype.ext (Encodable.encode_injective h)

@[reducible] def slotBookSlotwise : letI := slotBook; SlotwiseSchema :=
  letI := slotBook
  { slotValue := fun book slot => OrderedMap.get book.1 slot
    asUtf8 := Sum.getLeft?
    textAt_eq := fun _ _ => rfl
    asUtf8_utf8 := fun _ => rfl
    profile_ext := fun _ _ => SlotBook.ext
    applyAll_named := fun _ _ nodup _ hmem => SlotBook.get_applyAll_named nodup hmem
    applyAll_unnamed := fun _ _ _ h => SlotBook.get_applyAll_unnamed h }

def oddBook : SlotBook := ⟨[(1, .inr ())], (List.pairwise_singleton (· < ·) 1).sortedLT⟩

def oddSource : Oracle := fun _ query => letI := slotBook
  match query with
  | .resolveSingletonLineage launcherId => .ok (some ⟨launcherId, 21⟩)
  | .parentSpend _ => .ok (some ⟨namedCoin 20, [], [13]⟩)
  | .fetchProfileSlots _ _ => .ok (encodedSlots oddBook)
  | .push _ => .ok .accepted
  | .peakHeight => .ok (some 1)
  | .coinRecord _ => .ok none
  | .walkDidLineageToTip _ => .ok none
  | .proveLineage _ _ => .error (.other "")
  | .discoverDistributor _ => .ok none

def clearedName : List (ProfileSlot × SlotChange) :=
  [(.bio, .set "counts things"), (.displayName, .set ""), (.bio, .remove)]

theorem preview_agrees_with_commit_of_oddBook :
    letI := singletonOutputs
    letI := singletonDrivers
    letI := slotBook
    letI := slotBookSlotwise
    ∃ committed k, (ownEditor.commitEdit .root profileAnchor (ProfileEdit.build clearedName)
        ⟨0⟩).exec oddSource 0 = (.ok committed, k) ∧ committed.status = .pushed 7 ∧
      ∃ snapshot next m, (readProfile profileAnchor).exec oddSource 0 = (.ok snapshot, m) ∧
        readBytes committed.body = some next ∧
          PreviewedBody (ProfileEdit.build clearedName) snapshot next := by
  let _ := singletonOutputs
  let _ := singletonDrivers
  let _ := slotBook
  let _ := slotBookSlotwise
  have hpushes : ((ownEditor.commitEdit .root profileAnchor (ProfileEdit.build clearedName)
      ⟨0⟩).exec oddSource 0).1.toOption.any (fun committed => committed.status = .pushed 7) := by
    decide +kernel
  obtain ⟨committed, hcommitted, hstatus⟩ := ok_of_any hpushes
  obtain ⟨hagree, -⟩ := preview_agrees_with_commit clearedName []
  refine ⟨committed, _, Prod.ext hcommitted rfl, of_decide_eq_true hstatus, ?_⟩
  exact hagree ownEditor .root profileAnchor ⟨0⟩ oddSource 0 committed _
    (Prod.ext hcommitted rfl)

end Example

end DigAccount
