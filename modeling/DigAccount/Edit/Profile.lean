import DigAccount.Edit.Store
import DigAccount.Foundation.KeyedList

namespace DigAccount

open KeyedList Validator

inductive ProfileSlot where
  | displayName
  | bio
  | avatar
  | banner
  | pronouns
  | location
  | links
  | xchAddress
  | avatarImage
  | bannerImage
  deriving DecidableEq, Repr

namespace ProfileSlot

def all : List ProfileSlot :=
  [displayName, bio, avatar, banner, pronouns, location, links, xchAddress, avatarImage,
    bannerImage]

def slotId : ProfileSlot → Nat
  | displayName => 0x0001
  | bio => 0x0002
  | avatar => 0x0003
  | banner => 0x0004
  | pronouns => 0x0005
  | location => 0x0006
  | links => 0x0007
  | xchAddress => 0x0008
  | avatarImage => 0x0020
  | bannerImage => 0x0021

theorem slotId_injective : Function.Injective slotId := by
  intro a b h
  cases a <;> cases b <;> first | rfl | cases h

end ProfileSlot

inductive SlotChange where
  | set (text : String)
  | remove
  deriving DecidableEq, Repr

def slotOrder (change : ProfileSlot × SlotChange) : Nat := change.1.slotId

structure ProfileEdit where
  changes : List (ProfileSlot × SlotChange)
  ascending : (changes.map slotOrder).SortedLT

inductive SlotEdit (V : Type) where
  | set (slot : Nat) (value : V)
  | remove (slot : Nat)

class ProfileSchema where
  Value : Type
  Profile : Type
  VerifiedBody : Type
  schemaVersion : Nat
  utf8 : String → Value
  encode : Value → List UInt8
  decode : List UInt8 → Except String Value
  decode_encode : ∀ value, decode (encode value) = .ok value
  textAt : Profile → Nat → Option String
  applyAll : Profile → List (SlotEdit Value) → Profile
  applyAll_again : ∀ content edits, applyAll (applyAll content edits) edits = applyAll content edits
  fromPairs : List (Nat × Value) → Except String VerifiedBody
  fromProfile : Profile → Except String VerifiedBody
  profile : VerifiedBody → Profile
  pairs : VerifiedBody → List (Nat × Value)
  root : VerifiedBody → Bytes32
  bytes : VerifiedBody → List UInt8
  readBytes : List UInt8 → Option VerifiedBody
  profile_fromProfile : ∀ content body, fromProfile content = .ok body → profile body = content
  fromPairs_pairs : ∀ body, fromPairs (pairs body) = .ok body
  pairs_ascending : ∀ body, ((pairs body).map Prod.fst).SortedLT
  readBytes_bytes : ∀ body, readBytes (bytes body) = some body
  root_binds : ∀ a b : VerifiedBody, root a = root b → a = b

export ProfileSchema (Value Profile VerifiedBody schemaVersion utf8 encode decode decode_encode
  textAt applyAll applyAll_again fromPairs fromProfile profile pairs root bytes readBytes
  profile_fromProfile fromPairs_pairs pairs_ascending readBytes_bytes root_binds)

namespace ProfileEdit

def new : ProfileEdit := ⟨[], List.Pairwise.nil.sortedLT⟩

def change (edit : ProfileEdit) (slot : ProfileSlot) (next : SlotChange) : ProfileEdit :=
  let others := edit.changes.filter fun entry => entry.1 ≠ slot
  { changes := others.insertIdx
      (partitionPoint (fun entry => slotOrder entry < slot.slotId) others) (slot, next)
    ascending := by
      have hkept : (others.map slotOrder).SortedLT :=
        (edit.ascending.pairwise.sublist (List.filter_sublist.map slotOrder)).sortedLT
      refine sorted_insert slotOrder (a := (slot, next)) hkept ?_
      rintro hmem
      obtain ⟨entry, hentry, hsame⟩ := List.mem_map.1 hmem
      have hne : entry.1 ≠ slot := by simpa using (List.mem_filter.1 hentry).2
      exact hne (ProfileSlot.slotId_injective hsame) }

def set (edit : ProfileEdit) (slot : ProfileSlot) (text : String) : ProfileEdit :=
  edit.change slot (.set text)

def remove (edit : ProfileEdit) (slot : ProfileSlot) : ProfileEdit := edit.change slot .remove

def isEmpty (edit : ProfileEdit) : Bool := edit.changes.isEmpty

variable [ProfileSchema]

def slotEdits (edit : ProfileEdit) : List (SlotEdit Value) :=
  edit.changes.map fun
    | (slot, .set text) => .set slot.slotId (utf8 text)
    | (slot, .remove) => .remove slot.slotId

end ProfileEdit

abbrev ProfileFields := List (ProfileSlot × String)

section Schema

variable [ProfileSchema]

def projectStandardSlots (content : Profile) : ProfileFields :=
  ProfileSlot.all.filterMap fun slot => (textAt content slot.slotId).map fun text => (slot, text)

structure ProfileSnapshot where
  root : Bytes32
  body : VerifiedBody
  fields : ProfileFields

def ProfileSnapshot.content (snapshot : ProfileSnapshot) : Profile := profile snapshot.body

def hexSlot (slot : Nat) : String :=
  let digits := Nat.toDigits 16 slot
  "0x" ++ String.ofList (List.replicate (4 - digits.length) '0' ++ digits)

def decodeSlot (slot : Nat × List UInt8) : Except EditError (Nat × Value) := do
  let value ← (decode slot.2).mapError fun e => EditError.format s!"slot {hexSlot slot.1}: {e}"
  pure (slot.1, value)

def assembleBody (slots : List (Nat × List UInt8)) : Except EditError VerifiedBody := do
  let pairs ← slots.mapM decodeSlot
  let ascending := pairs.insertionSort fun a b => a.1 ≤ b.1
  (fromPairs ascending).mapError fun e => EditError.format s!"profile body: {e}"

def encodedSlots (body : VerifiedBody) : List (Nat × List UInt8) :=
  (pairs body).map fun pair => (pair.1, encode pair.2)

theorem decodeSlots_encoded (stored : List (Nat × Value)) :
    (stored.map fun pair => (pair.1, encode pair.2)).mapM decodeSlot = .ok stored := by
  induction stored with
  | nil => rfl
  | cons pair stored ih =>
      have hslot : decodeSlot (pair.1, encode pair.2) = .ok pair := by
        rw [decodeSlot]
        rw [decode_encode]
        rfl
      rw [List.map_cons, List.mapM_cons, hslot, ih]
      rfl

theorem assembleBody_encodedSlots (body : VerifiedBody) :
    assembleBody (encodedSlots body) = .ok body := by
  have hsorted : (pairs body).insertionSort (fun a b => a.1 ≤ b.1) = pairs body := by
    refine List.Pairwise.insertionSort_eq ?_
    exact List.pairwise_map.1 ((pairs_ascending body).pairwise.imp fun h => h.le)
  have hread : fromPairs ((pairs body).insertionSort fun a b => a.1 ≤ b.1) = .ok body := by
    rw [hsorted, fromPairs_pairs]
  rw [assembleBody, encodedSlots]
  rw [decodeSlots_encoded]
  exact congrArg (Except.mapError _) hread

def fetchProfileSlots (storeLauncherId root : Bytes32) :
    ChainReads EditError (List (Nat × List UInt8)) :=
  .mapError .contentUnavailable (Reads.query (Query.fetchProfileSlots storeLauncherId root))

def bindToChain (anchored : Bytes32) (body : VerifiedBody) : Except EditError ProfileSnapshot := do
  refuseWhen (root body ≠ anchored) .staleOrTamperedContent
  pure ⟨anchored, body, projectStandardSlots (profile body)⟩

def readProfile [Clvm] [DigDrivers] (anchor : ProfileAnchor) :
    ChainReads EditError ProfileSnapshot := do
  let store ← resolveStoreTip anchor
  let slots ← fetchProfileSlots anchor.storeLauncherId store.info.metadata.rootHash
  let body ← .ofExcept (assembleBody slots)
  .ofExcept (bindToChain store.info.metadata.rootHash body)

end Schema

section Example

structure NameAndBio where
  name : Fin 16
  bio : Fin 16
  deriving DecidableEq, Repr

namespace NameAndBio

def after (slot : Nat) (current : Fin 16) (edits : List (SlotEdit (Fin 16))) : Fin 16 :=
  (edits.reverse.findSome? fun
    | .set found value => if found = slot then some value else none
    | .remove found => if found = slot then some 0 else none).getD current

theorem after_again {slot : Nat} {current : Fin 16} {edits : List (SlotEdit (Fin 16))} :
    after slot (after slot current edits) edits = after slot current edits := by
  simp only [after]
  cases edits.reverse.findSome? _ with
  | none => rfl
  | some value => rfl

def toByte (value : Fin 16) : UInt8 := .ofNat value

def ofByte (byte : UInt8) : Fin 16 := .ofNat 16 byte.toNat

theorem ofByte_toByte : ∀ value, ofByte (toByte value) = value := by decide

end NameAndBio

open NameAndBio in
@[reducible] def nameAndBio : ProfileSchema where
  Value := Fin 16
  Profile := NameAndBio
  VerifiedBody := NameAndBio
  schemaVersion := 0
  utf8 text := .ofNat 16 text.length
  encode value := [toByte value]
  decode
    | [byte] => .ok (ofByte byte)
    | _ => .error "unknown tag"
  decode_encode value := congrArg Except.ok (ofByte_toByte value)
  textAt _ _ := none
  applyAll content edits := ⟨after 1 content.name edits, after 2 content.bio edits⟩
  applyAll_again content edits := by rw [after_again, after_again]
  fromPairs
    | [(1, name), (2, bio)] => .ok ⟨name, bio⟩
    | _ => .error "not a profile"
  fromProfile content := .ok content
  profile body := body
  pairs body := [(1, body.name), (2, body.bio)]
  root body := 16 * body.name + body.bio
  bytes body := [toByte body.name, toByte body.bio]
  readBytes
    | [name, bio] => some ⟨ofByte name, ofByte bio⟩
    | _ => none
  profile_fromProfile content body h := (Except.ok.inj h).symm
  fromPairs_pairs body := rfl
  pairs_ascending _ := List.Pairwise.sortedLT (by simp)
  readBytes_bytes body := congrArg₂ (fun name bio => some (NameAndBio.mk name bio))
    (ofByte_toByte body.name) (ofByte_toByte body.bio)
  root_binds a b h := by
    obtain ⟨⟨name, _⟩, ⟨bio, _⟩⟩ := a
    obtain ⟨⟨name', _⟩, ⟨bio', _⟩⟩ := b
    have hroot : 16 * name + bio = 16 * name' + bio' := h
    obtain rfl : name = name' := by omega
    obtain rfl : bio = bio' := by omega
    rfl

end Example

end DigAccount
