import DigAccount.Foundation.Occupancy
import DigAccount.Foundation.Transcript
import DigAccount.Primitives
import Mathlib.Data.List.Lex
import Mathlib.Data.String.Basic

namespace DigAccount

open Interleaving Occupancy

inductive KeychainAccess (β : Type) where
  | holds (key : String)
  | read (key : String)
  | writeNew (key : String) (blob : β)
  | list (namePrefix : String)
  | delete (key : String)
  deriving DecidableEq, Repr

abbrev KeychainAnswer {β : Type} : KeychainAccess β → Type
  | .holds _ => Except String Bool
  | .read _ => Except String β
  | .writeNew _ _ => Except String Unit
  | .list _ => Except String (List String)
  | .delete _ => Except String Unit

def KeychainAccess.Looks {β : Type} : KeychainAccess β → Prop
  | .holds _ | .read _ | .list _ => True
  | .writeNew _ _ | .delete _ => False

inductive Exclusivity where
  | atomic
  | bestEffort
  deriving DecidableEq, Repr

class KeychainBackend (β : Type) where
  Store : Type
  perform : Store → (q : KeychainAccess β) → KeychainAnswer q × Store
  blobAt : Store → String → Option β
  Scrubbed : β → Prop
  writeNewExclusivity : Exclusivity

section Backend

variable {β : Type} [KeychainBackend β]

open KeychainBackend

class LawfulBackend (β : Type) [KeychainBackend β] : Prop where
  holds_ok : ∀ (s : Store β) key known, (perform s (.holds key)).1 = .ok known →
    (blobAt s key).isSome = known
  read_ok : ∀ (s : Store β) key blob, (perform s (.read key)).1 = .ok blob →
    blobAt s key = some blob
  looks : ∀ (s : Store β) q, q.Looks → blobAt (perform s q).2 = blobAt s
  writeNew_ok : ∀ (s : Store β) key blob, (perform s (.writeNew key blob)).1 = .ok () →
    blobAt (perform s (.writeNew key blob)).2 key = some blob
  writeNew_own : ∀ (s : Store β) key blob,
    blobAt (perform s (.writeNew key blob)).2 key = blobAt s key ∨
      blobAt (perform s (.writeNew key blob)).2 key = some blob
  writeNew_else : ∀ (s : Store β) key blob other, other ≠ key →
    blobAt (perform s (.writeNew key blob)).2 other = blobAt s other
  writeNew_exclusive : writeNewExclusivity β = .atomic → ∀ (s : Store β) key blob held,
    blobAt s key = some held → (perform s (.writeNew key blob)).1 ≠ .ok () ∧
      blobAt (perform s (.writeNew key blob)).2 key = some held
  delete_ok : ∀ (s : Store β) key, (perform s (.delete key)).1 = .ok () →
    blobAt (perform s (.delete key)).2 key = none
  delete_own : ∀ (s : Store β) key blob, blobAt (perform s (.delete key)).2 key = some blob →
    blobAt s key = some blob ∨ Scrubbed blob
  delete_else : ∀ (s : Store β) key other, other ≠ key →
    blobAt (perform s (.delete key)).2 other = blobAt s other

abbrev KeychainTurn (β : Type) := Turn (Σ q : KeychainAccess β, KeychainAnswer q) String β

structure Keychain (β : Type) [KeychainBackend β] where
  store : Store β
  turns : List (KeychainTurn β)

-- beside the backend's answer the keychain names the turn the access had
abbrev TurnAnswer (q : KeychainAccess β) : Type := KeychainAnswer q × Nat

namespace Keychain

def opened (store : Store β) : Keychain β := ⟨store, []⟩

def turnOf (s : Store β) (q : KeychainAccess β) : KeychainTurn β :=
  ⟨⟨q, (KeychainBackend.perform s q).1⟩, blobAt s, blobAt (KeychainBackend.perform s q).2⟩

def perform (m : Keychain β) (q : KeychainAccess β) : TurnAnswer q × Keychain β :=
  (((KeychainBackend.perform m.store q).1, m.turns.length),
    ⟨(KeychainBackend.perform m.store q).2, m.turns ++ [turnOf m.store q]⟩)

def disturb (change : Store β → Store β) (m : Keychain β) : Keychain β :=
  { m with store := change m.store }

end Keychain

def onTurns {α : Type} (p : Reads (KeychainAccess β) KeychainAnswer α) :
    Reads (KeychainAccess β) TurnAnswer α :=
  p.lift (fun q => q) fun _ answer => answer.1

end Backend

class DigSession where
  Password : Type
  Draw : Type
  Entropy : Type
  Blob : Type
  Seed : Type
  expand : Entropy → Seed
  entropyOfPhrase : String → Except String Entropy
  Seals : Password → Entropy → Blob → Prop
  Opens : Password → Blob → Seed → Prop
  enrollMasterSeed : Draw → String → Password → Entropy →
    Reads (KeychainAccess Blob) KeychainAnswer (Except String Seed)
  enrollFromRecoveryPhrase : Draw → String → Password → String →
    Reads (KeychainAccess Blob) KeychainAnswer (Except String Seed)
  unlockMasterSeed : String → Password →
    Reads (KeychainAccess Blob) KeychainAnswer (Except String Seed)

inductive AccountStoreError where
  | alreadyExists (id : String)
  | notFound (id : String)
  | session (reason : String)
  | backend (reason : String)
  deriving DecidableEq, Repr

def AccountStoreError.display : AccountStoreError → String
  | alreadyExists id => s!"account {id} already exists"
  | notFound id => s!"account {id} not found"
  | session reason => s!"session error: {reason}"
  | backend reason => s!"keystore backend error: {reason}"

def startsWith (pattern s : String) : Bool := pattern.toList.isPrefixOf s.toList

def stripPrefix (pattern s : String) : Option String :=
  if startsWith pattern s then some (String.ofList (s.toList.drop pattern.toList.length)) else none

def accountKeyPrefix : String := "account."

def blobKey (id : String) : String := accountKeyPrefix ++ id

def LeavesAccounts {β : Type} [KeychainBackend β]
    (change : KeychainBackend.Store β → KeychainBackend.Store β) : Prop :=
  ∀ store id, KeychainBackend.blobAt (change store) (blobKey id) =
    KeychainBackend.blobAt store (blobKey id)

section Store

variable [DigSession]

open DigSession

def Enrols (key : String) (password : Password) (root : Except String Entropy)
    (q : KeychainAccess Blob) : Prop :=
  q.Looks ∨
    ∃ entropy blob, root = .ok entropy ∧ Seals password entropy blob ∧ q = .writeNew key blob

def SealedBy (key : String) (password : Password) (root : Except String Entropy)
    (trace : List (Σ q : KeychainAccess Blob, KeychainAnswer q))
    (result : Except String Seed) : Prop :=
  ∀ seed, result = .ok seed → ∃ entropy blob, root = .ok entropy ∧ seed = expand entropy ∧
    Seals password entropy blob ∧ ⟨.writeNew key blob, .ok ()⟩ ∈ trace

def OpenedBy (key : String) (password : Password)
    (trace : List (Σ q : KeychainAccess Blob, KeychainAnswer q))
    (result : Except String Seed) : Prop :=
  ∀ seed, result = .ok seed →
    ∃ blob, Opens password blob seed ∧ ⟨.read key, .ok blob⟩ ∈ trace

class LawfulSession [KeychainBackend Blob] : Prop where
  enroll_asks : ∀ draw key password entropy,
    (enrollMasterSeed draw key password entropy).Asks (Enrols key password (.ok entropy))
  enroll_ensures : ∀ draw key password entropy,
    (enrollMasterSeed draw key password entropy).Ensures (SealedBy key password (.ok entropy)) []
  restore_asks : ∀ draw key password phrase,
    (enrollFromRecoveryPhrase draw key password phrase).Asks
      (Enrols key password (entropyOfPhrase phrase))
  restore_ensures : ∀ draw key password phrase,
    (enrollFromRecoveryPhrase draw key password phrase).Ensures
      (SealedBy key password (entropyOfPhrase phrase)) []
  unlock_asks : ∀ key password, (unlockMasterSeed key password).Asks KeychainAccess.Looks
  unlock_ensures : ∀ key password,
    (unlockMasterSeed key password).Ensures (OpenedBy key password) []
  opens_sealed : ∀ presented password entropy blob seed, Opens presented blob seed →
    Seals password entropy blob → presented = password ∧ seed = expand entropy
  scrubbed_closed : ∀ password blob seed, Opens password blob seed →
    ¬ KeychainBackend.Scrubbed blob

abbrev StoreCode :=
  Fallible (KeychainAccess Blob) KeychainAnswer AccountStoreError

inductive EnrolmentRoot where
  | entropy (entropy : Entropy)
  | phrase (phrase : String)

def EnrolmentRoot.accountRoot : EnrolmentRoot → Except String Entropy
  | entropy root => .ok root
  | phrase words => entropyOfPhrase words

namespace AccountStore

def isEnrolled (id : String) : StoreCode Bool :=
  .mapError .backend (Reads.query (KeychainAccess.holds (blobKey id)))

def enroll (id : String) (password : Password) (draw : Draw) (entropy : Entropy) :
    StoreCode Seed := do
  let known ← isEnrolled id
  if known then Fallible.fail (.alreadyExists id)
  else .mapError .session (enrollMasterSeed draw (blobKey id) password entropy)

def enrollFromRecoveryPhrase (id : String) (password : Password) (draw : Draw)
    (phrase : String) : StoreCode Seed := do
  let known ← isEnrolled id
  if known then Fallible.fail (.alreadyExists id)
  else .mapError .session (DigSession.enrollFromRecoveryPhrase draw (blobKey id) password phrase)

def unlock (id : String) (password : Password) : StoreCode Seed := do
  let known ← isEnrolled id
  if known then .mapError .session (unlockMasterSeed (blobKey id) password)
  else Fallible.fail (.notFound id)

def list : StoreCode (List String) := do
  let keys ← .mapError .backend (Reads.query (KeychainAccess.list accountKeyPrefix))
  pure ((keys.filterMap (stripPrefix accountKeyPrefix)).mergeSort fun a b => a ≤ b)

def delete (id : String) : StoreCode Unit := do
  let known ← isEnrolled id
  if known then .mapError .backend (Reads.query (KeychainAccess.delete (blobKey id)))
  else Fallible.fail (.notFound id)

end AccountStore

inductive StoreCall where
  | isEnrolled (id : String)
  | enroll (id : String) (password : Password) (draw : Draw) (root : EnrolmentRoot)
  | unlock (id : String) (password : Password)
  | list
  | delete (id : String)

abbrev StoreAnswer : StoreCall → Type
  | .isEnrolled _ => Except AccountStoreError Bool
  | .enroll _ _ _ _ | .unlock _ _ => Except AccountStoreError Seed
  | .list => Except AccountStoreError (List String)
  | .delete _ => Except AccountStoreError Unit

abbrev StoreReply := Transcribed (KeychainAccess Blob) TurnAnswer StoreAnswer

def AccountStore.code :
    (call : StoreCall) → Reads (KeychainAccess Blob) KeychainAnswer (StoreAnswer call)
  | .isEnrolled id => isEnrolled id
  | .enroll id password draw (.entropy entropy) => enroll id password draw entropy
  | .enroll id password draw (.phrase phrase) => enrollFromRecoveryPhrase id password draw phrase
  | .unlock id password => unlock id password
  | .list => list
  | .delete id => delete id

variable [KeychainBackend Blob]

abbrev AttendedStore := Attended (Keychain Blob) (KeychainAccess Blob) TurnAnswer StoreReply

def AccountStore.next (w : AttendedStore) :
    Action StoreCall (KeychainBackend.Store Blob → KeychainBackend.Store Blob) →
      Option AttendedStore :=
  w.next Keychain.perform (transcribed fun call => onTurns (code call)) Keychain.disturb

end Store

end DigAccount
