import DigAccount.Auth.Totp
import DigAccount.Auth.SingleUse
import DigAccount.Session.CustodyRoots
import DigAccount.Session.UnlockGate

namespace DigAccount

open Interleaving DigSession

def TotpError.display : TotpError → String
  | notPresented => "a TOTP code is required"
  | malformed expected => s!"the presented code is not {expected} decimal digits"
  | undecodableSecret => "the enrolled TOTP secret is not valid base32"
  | noMatch => "the presented code is not valid now"
  | replayed => "this code has already been used"
  | clockUnreadable => "the system clock is unreadable, so no TOTP code can be verified"
  | guardPoisoned => "the TOTP replay guard is unusable"

def PasskeyError.display : PasskeyError → String
  | notPresented => "a passkey assertion is required"
  | malformed => "the passkey assertion is malformed"
  | unknownCredential => "the assertion names an unknown credential"
  | wrongCeremonyType => "the assertion is not a webauthn.get ceremony"
  | challengeNotOutstanding => "the assertion answers no outstanding challenge"
  | untrustedOrigin => "the assertion came from an origin this account does not accept"
  | wrongRelyingParty => "the assertion was made for a different relying party"
  | userNotPresent => "the authenticator did not report user presence"
  | userNotVerified => "the authenticator did not verify the user"
  | clonedCredential => "the signature counter did not advance; the credential may be cloned"
  | badSignature => "the assertion signature is invalid"
  | badPublicKey => "the enrolled credential public key is not a valid P-256 point"
  | clockUnreadable => "the system clock is unreadable, so no challenge expiry can be judged"

def UnlockError.display : UnlockError → String
  | unauthorized reason => s!"authorization refused: {reason}"
  | keystore reason => reason

inductive SessionError where
  | provider (failure : AccountError)
  | keystore (reason : String)
  | auth (reason : String)
  deriving DecidableEq, Repr

inductive SecondFactor where
  | totp (slot : Nat)
  | passkey (slot : Nat)
  deriving DecidableEq, Repr

inductive AuthPolicy where
  | passwordOnly
  | allOf (factors : List SecondFactor)
  deriving DecidableEq, Repr

structure FactorTable where
  totps : Nat → TotpFactor
  passkeys : Nat → PasskeyFactor

inductive SessionPart where
  | keychain
  | totp (slot : Nat)
  | passkey (slot : Nat)
  deriving DecidableEq, Repr

structure AccountSession where
  account : String
  defaultProfileIx : ProfileIx
  deriving DecidableEq, Repr

section Session

variable [DigSession] [KeychainBackend Blob]

structure AuthFactors where
  password : Password
  totp : Option String
  passkey : Option Bytes

structure SessionAccount where
  account : String
  seed : Seed
  defaultProfileIx : ProfileIx

abbrev PartMemory : SessionPart → Type
  | .keychain => Keychain Blob
  | .totp _ => TotpMemory
  | .passkey _ => PasskeyMemory

abbrev PartAccess : SessionPart → Type
  | .keychain => KeychainAccess Blob
  | .totp _ => TotpAccess
  | .passkey _ => PasskeyAccess

abbrev PartReply : (part : SessionPart) → PartAccess part → Type
  | .keychain, q => TurnAnswer q
  | .totp _, q => TotpAnswer q
  | .passkey _, q => PasskeyAnswer q

abbrev SessionMemory := ∀ part, PartMemory part

abbrev SessionAccess := Σ part, PartAccess part

abbrev SessionAnswer : SessionAccess → Type := PartAnswer PartReply

abbrev SessionCode := Fallible SessionAccess SessionAnswer

def performIn : ∀ part, PartMemory part → (q : PartAccess part) → PartReply part q × PartMemory part
  | .keychain, m, q => Keychain.perform m q
  | .totp _, m, q => TotpMemory.perform m q
  | .passkey _, m, q => PasskeyMemory.perform m q

section Code

variable [TotpLite] [WebAuthn] (table : FactorTable)

def SecondFactor.name : SecondFactor → String
  | totp _ => "TOTP"
  | passkey _ => "passkey"

def SecondFactor.verify (factors : AuthFactors) : SecondFactor → SessionCode String Unit
  | totp slot =>
      match factors.totp with
      | none => Fallible.fail TotpError.notPresented.display
      | some presented => .mapError TotpError.display
          (onPart (.totp slot) ((table.totps slot).check presented.toUTF8.toList))
  | passkey slot =>
      match factors.passkey with
      | none => Fallible.fail PasskeyError.notPresented.display
      | some envelope => .mapError PasskeyError.display
          (onPart (.passkey slot) ((table.passkeys slot).check envelope))

def verifyAll (factors : AuthFactors) : List SecondFactor → SessionCode UnlockError Unit
  | [] => pure ()
  | factor :: rest => do
      .mapError (fun why => .unauthorized s!"{factor.name}: {why}") (factor.verify table factors)
      verifyAll factors rest

def AuthPolicy.authorize (factors : AuthFactors) : AuthPolicy → SessionCode UnlockError Unit
  | passwordOnly => pure ()
  | allOf required => verifyAll table factors required

def UnlockGate.openSeed (account : String) (policy : AuthPolicy) (factors : AuthFactors) :
    SessionCode UnlockError Seed := do
  policy.authorize table factors
  .mapError (fun why => .keystore why.display)
    (onPart .keychain (onTurns (AccountStore.unlock account factors.password)))

namespace AccountSession

def unlock (session : AccountSession) (collected : Except AccountError AuthFactors)
    (policy : AuthPolicy) : SessionCode SessionError SessionAccount := do
  let factors ← .ofExcept (collected.mapError .provider)
  .mapError (fun why => .auth why.display) (policy.authorize table factors)
  let seed ← .mapError (fun why => .keystore why.display)
    (onPart .keychain (onTurns (AccountStore.unlock session.account factors.password)))
  pure ⟨session.account, seed, session.defaultProfileIx⟩

def enroll (session : AccountSession) (password : Password) (draw : Draw) (root : EnrolmentRoot) :
    SessionCode SessionError SessionAccount := do
  let seed ← .mapError (fun why => .keystore why.display)
    (onPart .keychain (onTurns (AccountStore.code (.enroll session.account password draw root))))
  pure ⟨session.account, seed, session.defaultProfileIx⟩

end AccountSession

inductive SessionCall where
  | enroll (session : AccountSession) (password : Password) (draw : Draw) (root : EnrolmentRoot)
  | unlock (session : AccountSession) (collected : Except AccountError AuthFactors)
      (policy : AuthPolicy)
  | openGate (account : String) (policy : AuthPolicy) (factors : AuthFactors)
  | store (call : StoreCall)
  | issueChallenge (slot : Nat) (challenge : Bytes)

abbrev SessionOutcome : SessionCall → Type
  | .enroll _ _ _ _ | .unlock _ _ _ => Except SessionError SessionAccount
  | .openGate _ _ _ => Except UnlockError Seed
  | .store call => StoreAnswer call
  | .issueChallenge _ _ => Except PasskeyError Unit

def sessionCode : (call : SessionCall) → Reads SessionAccess SessionAnswer (SessionOutcome call)
  | .enroll session password draw root => session.enroll password draw root
  | .unlock session collected policy => session.unlock table collected policy
  | .openGate account policy factors => UnlockGate.openSeed table account policy factors
  | .store call => onPart .keychain (onTurns (AccountStore.code call))
  | .issueChallenge slot challenge =>
      onPart (.passkey slot) ((table.passkeys slot).issueChallenge challenge)

def SessionMemory.fresh (store : KeychainBackend.Store Blob)
    (totpClock : Nat → Except TotpError Nat) (passkeyClock : Nat → Except PasskeyError Nat)
    (initial : Nat → Nat) : SessionMemory
  | .keychain => .opened store
  | .totp slot => .enrolled (totpClock slot)
  | .passkey slot => .enrolled (passkeyClock slot) (initial slot)

inductive SessionEvent where
  | write (change : KeychainBackend.Store Blob → KeychainBackend.Store Blob)
  | totpClock (slot : Nat) (reading : Except TotpError Nat)
  | passkeyClock (slot : Nat) (reading : Except PasskeyError Nat)

def SessionMemory.disturb (event : SessionEvent) (m : SessionMemory) : SessionMemory :=
  match event with
  | .write change => Function.update m .keychain (Keychain.disturb change (m .keychain))
  | .totpClock slot reading =>
      Function.update m (.totp slot) (TotpMemory.setClock reading (m (.totp slot)))
  | .passkeyClock slot reading =>
      Function.update m (.passkey slot) (PasskeyMemory.setClock reading (m (.passkey slot)))

def sessionNext
    (w : Attended SessionMemory SessionAccess SessionAnswer
      (Transcribed SessionAccess SessionAnswer SessionOutcome)) :
    Action SessionCall SessionEvent → Option (Attended SessionMemory SessionAccess SessionAnswer
      (Transcribed SessionAccess SessionAnswer SessionOutcome)) :=
  w.next (performPart performIn) (transcribed (sessionCode table)) SessionMemory.disturb

end Code

end Session

end DigAccount
