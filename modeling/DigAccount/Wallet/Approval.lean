import DigAccount.Edit.Store
import DigAccount.Wallet.Enforcer

namespace DigAccount

def CustodyScope.assertSignableBy (scope : CustodyScope) (profile : ProfileIx)
    (puzzleHash : Bytes32) : Except AccountError Unit :=
  if scope.profile ≠ profile then
    .error (.policyDenied
      (s!"this permission was minted by the custody gate for profile {scope.profile.val}, but " ++
        s!"the signer is for profile {profile.val}; a gate's rules bound only the wallet it was " ++
        "configured for"))
  else
    match scope.spendingWallet with
    | none => .ok ()
    | some configured =>
        if configured ≠ puzzleHash then
          .error (.policyDenied
            ("this permission was minted by a hot-wallet gate configured for wallet " ++
              s!"{hex32 configured}, but the signer's wallet is {hex32 puzzleHash}"))
        else .ok ()

structure SpendConfirmRequest where
  account : String
  profile : ProfileIx
  summary : SpendSummary
  deriving DecidableEq, Repr

inductive SpendDecision where
  | approve
  | decline (reason : Option String)
  deriving DecidableEq, Repr

namespace AuthorizedSpend

def request (pending : AuthorizedSpend) (account : String) (profile : ProfileIx) :
    SpendConfirmRequest :=
  ⟨account, profile, pending.summary⟩

def decided (pending : AuthorizedSpend) : SpendDecision → Except AccountError AuthorizedSpend
  | .approve => .ok pending
  | .decline reason =>
      let because := (reason.map fun r => s!": {r.quote}").getD ""
      .error (.userDeclined s!"the user declined this spend{because}")

def confirmWith (pending : AuthorizedSpend) (answer : Except AccountError SpendDecision) :
    Except AccountError AuthorizedSpend := do
  let decision ← answer
  pending.decided decision

end AuthorizedSpend

structure BlsRequirement where
  publicKey : Bytes32
  message : Program
  deriving DecidableEq, Repr

structure UnsignedSpend (σ : Type) where
  coinSpends : List CoinSpend
  requiredSignatures : List BlsRequirement
  summary : σ

class MoneyBackend where
  MasterSeed : Type
  Network : Type
  LocalSigner : Type
  ReviewableSummary : Type
  walletKeyFromSeedAt : MasterSeed → ProfileIx → WalletKey
  newCanonical : ProfileIx → MasterSeed → Network → Except String LocalSigner
  aggSigMeExtraData : LocalSigner → Bytes32
  extractSignatures : List CoinSpend → Bytes32 → Except String (List RequiredSignature)
  reviewableSummary : LocalSigner → List CoinSpend → Except String ReviewableSummary
  signUnsigned : LocalSigner → UnsignedSpend ReviewableSummary → Except String SpendBundle
  signUnsigned_coinSpends : ∀ signer unsigned bundle, signUnsigned signer unsigned = .ok bundle →
    bundle.coinSpends = unsigned.coinSpends

open MoneyBackend

structure LocalMoneySigner [MoneyBackend] where
  seed : MasterSeed
  isLive : Bool
  profileIx : ProfileIx
  network : Network

namespace LocalMoneySigner

variable [MoneyBackend] (signer : LocalMoneySigner)

def liveSigner : Except AccountError LocalSigner :=
  if signer.isLive = false then .error .locked
  else
    match newCanonical signer.profileIx signer.seed signer.network with
    | .error e => .error (.spend s!"cannot build money signer: {e}")
    | .ok inner => .ok inner

def walletPuzzleHash : Bytes32 := (walletKeyFromSeedAt signer.seed signer.profileIx).puzzleHash

def blsRequirement : RequiredSignature → Except AccountError BlsRequirement
  | .bls publicKey message _ => .ok ⟨publicKey, message⟩
  | .secp => .error (.spend "unexpected secp signature requirement in a wallet spend")

def requiredSignatures (inner : LocalSigner) (coinSpends : List CoinSpend) :
    Except AccountError (List BlsRequirement) :=
  match extractSignatures coinSpends (aggSigMeExtraData inner) with
  | .error e => .error (.spend s!"required-signature extraction failed: {e}")
  | .ok extracted => extracted.mapM blsRequirement

def renderSummary (inner : LocalSigner) (coinSpends : List CoinSpend) :
    Except AccountError ReviewableSummary :=
  match reviewableSummary inner coinSpends with
  | .error e => .error (.spend s!"cannot render this spend for signing: {e}")
  | .ok summary => .ok summary

def signUnsigned (inner : LocalSigner) (unsigned : UnsignedSpend ReviewableSummary) :
    Except AccountError SpendBundle :=
  match MoneyBackend.signUnsigned inner unsigned with
  | .error e => .error (.spend s!"spend signing refused: {e}")
  | .ok bundle => .ok bundle

def signApproved (approval : AuthorizedSpend) : Except AccountError SpendBundle := do
  let inner ← signer.liveSigner
  approval.scope.assertSignableBy signer.profileIx signer.walletPuzzleHash
  let required ← requiredSignatures inner approval.coinSpends
  let summary ← renderSummary inner approval.coinSpends
  signUnsigned inner ⟨approval.coinSpends, required, summary⟩

end LocalMoneySigner

theorem CustodyScope.assertSignableBy_ok {scope : CustodyScope} {profile : ProfileIx}
    {puzzleHash : Bytes32} :
    scope.assertSignableBy profile puzzleHash = .ok () ↔
      scope.profile = profile ∧
        ∀ configured, scope.spendingWallet = some configured → configured = puzzleHash := by
  rw [assertSignableBy]
  by_cases hprofile : scope.profile = profile
  · rw [if_neg (not_not.2 hprofile)]
    cases hwallet : scope.spendingWallet with
    | none => simp [hprofile]
    | some configured => by_cases hsame : configured = puzzleHash <;> simp [hprofile, hsame]
  · simp [hprofile]

namespace AuthorizedSpend

theorem confirmWith_ok {pending approval : AuthorizedSpend}
    {answer : Except AccountError SpendDecision} :
    pending.confirmWith answer = .ok approval ↔ answer = .ok .approve ∧ pending = approval := by
  rw [confirmWith]
  cases answer with
  | error e => simp [Bind.bind, Except.bind]
  | ok decision => cases decision <;> simp [Bind.bind, Except.bind, decided]

end AuthorizedSpend

namespace LocalMoneySigner

variable [MoneyBackend]

theorem signUnsigned_ok {inner : LocalSigner} {unsigned : UnsignedSpend ReviewableSummary}
    {bundle : SpendBundle} (h : signUnsigned inner unsigned = .ok bundle) :
    bundle.coinSpends = unsigned.coinSpends := by
  rw [signUnsigned] at h
  split at h
  · cases h
  · rename_i signed hsigned
    cases h
    exact signUnsigned_coinSpends inner unsigned _ hsigned

theorem signApproved_ok {signer : LocalMoneySigner} {approval : AuthorizedSpend}
    {bundle : SpendBundle} (h : signer.signApproved approval = .ok bundle) :
    bundle.coinSpends = approval.coinSpends ∧ approval.scope.profile = signer.profileIx ∧
      ∀ configured, approval.scope.spendingWallet = some configured →
        configured = signer.walletPuzzleHash := by
  rw [signApproved] at h
  simp only [Bind.bind, Except.bind] at h
  split at h
  · cases h
  split at h
  · cases h
  rename_i hscope
  split at h
  · cases h
  split at h
  · cases h
  exact ⟨signUnsigned_ok h, CustodyScope.assertSignableBy_ok.1 hscope⟩

end LocalMoneySigner

def SpendRuling.permission : SpendRuling → AuthorizedSpend
  | .approved approval => approval
  | .requiresConfirmation pending => pending

namespace PolicyAuthorizer

def Permits (gate : PolicyAuthorizer) (coinSpends : List CoinSpend)
    (result : Except AccountError SpendRuling) : Prop :=
  ∀ ruling, result = .ok ruling →
    ruling.permission.coinSpends = coinSpends ∧ ruling.permission.scope = gate.scope

variable (gate : PolicyAuthorizer) (coinSpends : List CoinSpend)

theorem permits_error (e : AccountError) : gate.Permits coinSpends (.error e) := by
  intro ruling h
  cases h

theorem escalate_permits (derived : DerivedSpend) (s : GateState) :
    gate.Permits coinSpends (gate.escalate coinSpends derived s).1 := by
  rw [escalate]
  split
  · exact gate.permits_error coinSpends _
  · intro ruling h
    cases h
    exact ⟨rfl, rfl⟩

theorem ruleOnAutoSend_permits (derived : DerivedSpend) (opClass : SpendOpClass) (s : GateState) :
    gate.Permits coinSpends (gate.ruleOnAutoSend coinSpends derived opClass s).1 := by
  rw [ruleOnAutoSend]
  split
  · exact gate.escalate_permits coinSpends derived s
  split
  · exact gate.escalate_permits coinSpends derived s
  split
  · exact gate.escalate_permits coinSpends derived s
  split
  · exact gate.permits_error coinSpends _
  split
  · exact gate.escalate_permits coinSpends derived s
  split
  · exact gate.permits_error coinSpends _
  · intro ruling h
    cases h
    exact ⟨rfl, rfl⟩
  · exact gate.escalate_permits coinSpends derived _

theorem authorizeOp_permits [WalletSdk] (opClass : SpendOpClass) (s : GateState) :
    gate.Permits coinSpends (gate.authorizeOp coinSpends opClass s).1 := by
  rw [authorizeOp]
  split
  · exact gate.permits_error coinSpends _
  split
  · split
    · exact gate.permits_error coinSpends _
    · exact gate.escalate_permits coinSpends _ s
  · exact gate.escalate_permits coinSpends _ s
  · exact gate.ruleOnAutoSend_permits coinSpends _ opClass s

end PolicyAuthorizer

end DigAccount
