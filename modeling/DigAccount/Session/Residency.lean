import DigAccount.Foundation.Interleaving

namespace DigAccount

structure IdleWindow where
  timeout : Nat
  deadline : Nat
  deriving DecidableEq, Repr

def IdleWindow.hasLapsed (window : IdleWindow) (now : Nat) : Bool := window.deadline ≤ now

def IdleWindow.refresh (window : IdleWindow) (now : Nat) : IdleWindow :=
  { window with deadline := now + window.timeout }

structure Residency where
  live : Bool
  idle : Option IdleWindow
  deriving DecidableEq, Repr

namespace Residency

def new : Residency := ⟨true, none⟩

def idleBounded (now timeout : Nat) : Residency := ⟨true, some ⟨timeout, now + timeout⟩⟩

def isLive (token : Residency) (now : Nat) : Bool :=
  token.live && !token.idle.any fun window => window.hasLapsed now

def touch (token : Residency) (now : Nat) : Residency :=
  if token.isLive now then { token with idle := token.idle.map fun window => window.refresh now }
  else token

def revoke (token : Residency) : Residency := { token with live := false }

end Residency

structure LivenessAnswer where
  afterDeath : Bool
  live : Bool
  deriving DecidableEq, Repr

structure SharedResidency where
  now : Nat
  token : Residency
  held : Bool
  lapses : List Nat
  toldDead : Bool
  answers : List LivenessAnswer
  deriving DecidableEq, Repr

def SharedResidency.minted (now : Nat) (token : Residency) : SharedResidency :=
  ⟨now, token, true, [], false, []⟩

inductive ResidencyAccess where
  | asked
  | answered (afterDeath live : Bool)
  | loadLive
  | storeDead
  | clockNow
  | hasLapsed (reading : Nat)
  | refresh (reading : Nat)
  | loadSlot
  | takeSlot
  deriving DecidableEq, Repr

abbrev AccessAnswer : ResidencyAccess → Type
  | .asked | .loadLive | .hasLapsed _ | .loadSlot | .takeSlot => Bool
  | .clockNow => Nat
  | .answered _ _ | .storeDead | .refresh _ => Unit

abbrev ResidencyCode := Reads ResidencyAccess AccessAnswer

def atomically (access : ResidencyAccess) : ResidencyCode (AccessAnswer access) :=
  Reads.query access

namespace SharedResidency

def perform (s : SharedResidency) : (q : ResidencyAccess) → AccessAnswer q × SharedResidency
  | .asked => (s.toldDead, s)
  | .answered afterDeath live =>
      ((), { s with
        toldDead := s.toldDead || !live
        answers := s.answers ++ [⟨afterDeath, live⟩] })
  | .loadLive => (s.token.live, s)
  | .storeDead => ((), { s with token := s.token.revoke })
  | .clockNow => (s.now, s)
  | .hasLapsed reading =>
      let lapsed := s.token.idle.any fun window => window.hasLapsed reading
      (lapsed, if lapsed then { s with lapses := reading :: s.lapses } else s)
  | .refresh reading =>
      let idle := s.token.idle.map fun window => window.refresh reading
      ((), { s with token := { s.token with idle := idle } })
  | .loadSlot => (s.held, s)
  | .takeSlot => (s.held, { s with held := false })

def elapse (seconds : Nat) (s : SharedResidency) : SharedResidency :=
  { s with now := s.now + seconds }

end SharedResidency

section Code

variable (idleBounded : Bool)

def hasLapsedCode : ResidencyCode Bool := do
  let reading ← atomically .clockNow
  atomically (.hasLapsed reading)

def idleLapsedCode (live : Bool) : ResidencyCode Bool :=
  if live && idleBounded then hasLapsedCode else pure false

def isLiveCode : ResidencyCode Bool := do
  let afterDeath ← atomically .asked
  let live ← atomically .loadLive
  let lapsed ← idleLapsedCode idleBounded live
  atomically (.answered afterDeath (live && !lapsed))
  pure (live && !lapsed)

def refreshCode : ResidencyCode Unit := do
  let reading ← atomically .clockNow
  atomically (.refresh reading)

def touchCode : ResidencyCode Unit := do
  let live ← isLiveCode idleBounded
  if live && idleBounded then refreshCode else pure ()

def revokeCode : ResidencyCode Unit := atomically .storeDead

def endUnlockCode : ResidencyCode Unit := do
  let held ← atomically .takeSlot
  if held then revokeCode else pure ()

def isUnlockedCode : ResidencyCode Bool := do
  let held ← atomically .loadSlot
  if held then isLiveCode idleBounded else pure false

def accessCode : ResidencyCode Unit := do
  let unlocked ← isUnlockedCode idleBounded
  if unlocked then touchCode idleBounded else endUnlockCode

def unlockCode (accepted : Bool) : ResidencyCode Unit :=
  if accepted then endUnlockCode else pure ()

inductive ResidencyCall where
  | isLive
  | touch
  | revoke
  | access
  | lock
  | unlock (accepted : Bool)
  deriving DecidableEq, Repr

def ResidencyCall.code : ResidencyCall → ResidencyCode Unit
  | isLive => do
      let _ ← isLiveCode idleBounded
      pure ()
  | touch => touchCode idleBounded
  | revoke => revokeCode
  | access => accessCode idleBounded
  | lock => endUnlockCode
  | unlock accepted => unlockCode accepted

end Code

end DigAccount
