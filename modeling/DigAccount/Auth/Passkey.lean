import DigAccount.Foundation.Replies
import DigAccount.Foundation.Validator
import DigAccount.Primitives
import Mathlib.Data.List.DropRight

namespace DigAccount

open Validator (refuseWhen)

inductive PasskeyError where
  | notPresented
  | malformed
  | unknownCredential
  | wrongCeremonyType
  | challengeNotOutstanding
  | untrustedOrigin
  | wrongRelyingParty
  | userNotPresent
  | userNotVerified
  | clonedCredential
  | badSignature
  | badPublicKey
  | clockUnreadable
  deriving DecidableEq, Repr

inductive UserVerification where
  | required
  | preferred
  deriving DecidableEq, Repr

structure AssertionEnvelope where
  credentialId : String
  authenticatorData : String
  clientDataJson : String
  signature : String
  deriving DecidableEq, Repr

structure ClientData where
  ceremonyType : String
  challenge : String
  origin : String
  deriving DecidableEq, Repr

class WebAuthn where
  parseEnvelope : Bytes → Option AssertionEnvelope
  parseClientData : Bytes → Option ClientData
  decodeBase64url : String → Option Bytes
  sha256 : Bytes → Bytes
  signatureFromDer : Bytes → Option Bytes
  verify : Bytes → Bytes → Bytes → Bool

export WebAuthn (parseEnvelope parseClientData decodeBase64url sha256 signatureFromDer)

structure PasskeyCredential where
  id : Bytes
  publicKey : Bytes
  rpId : String
  deriving DecidableEq, Repr

structure PasskeyFactor where
  credential : PasskeyCredential
  ttlSecs : Nat
  acceptedOrigins : List String
  userVerification : UserVerification
  deriving DecidableEq, Repr

structure VerifiedAssertion where
  challenge : Bytes
  signCount : Nat
  deriving DecidableEq, Repr

inductive PasskeyEvent where
  | issued (challenge : Bytes) (expiresAt : Nat)
  | spent (challenge : Bytes) (reading : Nat)
  | counted (challenge : Bytes) (stored presented : Nat)
  deriving DecidableEq, Repr

structure PasskeyMemory where
  clock : Except PasskeyError Nat
  outstanding : Option (Bytes × Nat)
  signCount : Nat
  log : List PasskeyEvent

inductive PasskeyAccess where
  | unixSeconds
  | issue (challenge : Bytes) (expiresAt : Nat)
  | consume (presented : Bytes) (now : Nat)
  | advance (challenge : Bytes) (presentedCount : Nat)
  deriving DecidableEq, Repr

abbrev PasskeyAnswer : PasskeyAccess → Type
  | .unixSeconds => Except PasskeyError Nat
  | .issue _ _ => Unit
  | .consume _ _ | .advance _ _ => Except PasskeyError Unit

abbrev PasskeyCode := Fallible PasskeyAccess PasskeyAnswer PasskeyError

def authenticatorDataMinLen : Nat := 37

def flagUserPresent : UInt8 := 1

def flagUserVerified : UInt8 := 4

namespace PasskeyMemory

def consume (m : PasskeyMemory) (presented : Bytes) (now : Nat) :
    Except PasskeyError Unit × PasskeyMemory :=
  match m.outstanding with
  | none => (.error .challengeNotOutstanding, m)
  | some (challenge, expiresAt) =>
      if expiresAt ≤ now then (.error .challengeNotOutstanding, m)
      else if challenge ≠ presented then (.error .challengeNotOutstanding, m)
      else (.ok (), { m with outstanding := none, log := .spent presented now :: m.log })

def advance (m : PasskeyMemory) (challenge : Bytes) (presentedCount : Nat) :
    Except PasskeyError Unit × PasskeyMemory :=
  if ¬ (presentedCount = 0 ∧ m.signCount = 0) ∧ presentedCount ≤ m.signCount then
    (.error .clonedCredential, m)
  else
    (.ok (), { m with
      signCount := presentedCount
      log := .counted challenge m.signCount presentedCount :: m.log })

def perform (m : PasskeyMemory) : (q : PasskeyAccess) → PasskeyAnswer q × PasskeyMemory
  | .unixSeconds => (m.clock, m)
  | .issue challenge expiresAt =>
      ((), { m with
        outstanding := some (challenge, expiresAt)
        log := .issued challenge expiresAt :: m.log })
  | .consume presented now => m.consume presented now
  | .advance challenge presentedCount => m.advance challenge presentedCount

def setClock (reading : Except PasskeyError Nat) (m : PasskeyMemory) : PasskeyMemory :=
  { m with clock := reading }

def enrolled (clock : Except PasskeyError Nat) (initialSignCount : Nat) : PasskeyMemory :=
  ⟨clock, none, initialSignCount, []⟩

end PasskeyMemory

def bigEndian (bytes : Bytes) : Nat := bytes.foldl (fun value byte => value * 256 + byte.toNat) 0

section Check

variable [WebAuthn]

def b64url (s : String) : Except PasskeyError Bytes :=
  match decodeBase64url (String.ofList (s.toList.rdropWhile (· = '='))) with
  | some bytes => .ok bytes
  | none => .error .malformed

def orRefuse {α : Type} (error : PasskeyError) : Option α → Except PasskeyError α
  | some value => .ok value
  | none => .error error

namespace PasskeyFactor

variable (factor : PasskeyFactor)

def verifyAssertion (envelopeJson : Bytes) : Except PasskeyError VerifiedAssertion := do
  let envelope ← orRefuse .malformed (parseEnvelope envelopeJson)
  let credentialId ← b64url envelope.credentialId
  let authenticatorData ← b64url envelope.authenticatorData
  let clientDataJson ← b64url envelope.clientDataJson
  let signatureDer ← b64url envelope.signature
  refuseWhen (factor.credential.id ≠ credentialId) .unknownCredential
  let clientData ← orRefuse .malformed (parseClientData clientDataJson)
  refuseWhen (clientData.ceremonyType ≠ "webauthn.get") .wrongCeremonyType
  refuseWhen (clientData.origin ∉ factor.acceptedOrigins) .untrustedOrigin
  let presentedChallenge ← b64url clientData.challenge
  refuseWhen (authenticatorData.length < authenticatorDataMinLen) .malformed
  refuseWhen (authenticatorData.take 32 ≠ sha256 factor.credential.rpId.toUTF8.toList)
    .wrongRelyingParty
  let flags := authenticatorData.getD 32 0
  refuseWhen (flags &&& flagUserPresent = 0) .userNotPresent
  refuseWhen (factor.userVerification = .required ∧ flags &&& flagUserVerified = 0)
    .userNotVerified
  let signature ← orRefuse .badSignature (signatureFromDer signatureDer)
  refuseWhen (¬ WebAuthn.verify factor.credential.publicKey
    (authenticatorData ++ sha256 clientDataJson) signature) .badSignature
  pure ⟨presentedChallenge, bigEndian ((authenticatorData.drop 33).take 4)⟩

def readClock : PasskeyCode Nat := Reads.query PasskeyAccess.unixSeconds

def issue (challenge : Bytes) (expiresAt : Nat) : PasskeyCode Unit :=
  Reads.bind (Reads.query (PasskeyAccess.issue challenge expiresAt)) fun _ => .ret (.ok ())

def consume (presented : Bytes) (now : Nat) : PasskeyCode Unit :=
  Reads.query (PasskeyAccess.consume presented now)

def advance (challenge : Bytes) (presentedCount : Nat) : PasskeyCode Unit :=
  Reads.query (PasskeyAccess.advance challenge presentedCount)

def issueChallenge (challenge : Bytes) : PasskeyCode Unit := do
  let now ← readClock
  issue challenge (saturatingAdd u64Max now factor.ttlSecs)

def spend (assertion : VerifiedAssertion) : PasskeyCode Unit := do
  let now ← readClock
  consume assertion.challenge now
  advance assertion.challenge assertion.signCount

def check (envelopeJson : Bytes) : PasskeyCode Unit := do
  let assertion ← Fallible.ofExcept (factor.verifyAssertion envelopeJson)
  spend assertion

end PasskeyFactor

inductive PasskeyCall where
  | issueChallenge (challenge : Bytes)
  | check (envelopeJson : Bytes)
  deriving DecidableEq, Repr

structure PasskeyReply where
  call : PasskeyCall
  result : Except PasskeyError Unit

def PasskeyFactor.program (factor : PasskeyFactor) (call : PasskeyCall) :
    Reads PasskeyAccess PasskeyAnswer PasskeyReply :=
  Reads.bind
    (match call with
      | .issueChallenge challenge => factor.issueChallenge challenge
      | .check envelopeJson => factor.check envelopeJson)
    fun result => .ret ⟨call, result⟩

end Check

end DigAccount
