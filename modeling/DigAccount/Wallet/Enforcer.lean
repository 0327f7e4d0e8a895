import DigAccount.Wallet.Summary

namespace DigAccount

structure AuthorizedSpend where
  coinSpends : List CoinSpend
  summary : SpendSummary
  scope : CustodyScope
  deriving DecidableEq, Repr

inductive SpendRuling where
  | approved (approval : AuthorizedSpend)
  | requiresConfirmation (pending : AuthorizedSpend)
  deriving DecidableEq, Repr

structure AutoSendRecord where
  atUnix : Nat
  mojos : Nat
  deriving DecidableEq, Repr

inductive CapVerdict where
  | charged
  | overCap
  deriving DecidableEq, Repr

abbrev Clock := Nat → Except AccountError Nat

structure PolicyAuthorizer where
  custody : CustodyPolicy
  autoSend : AutoSendPolicy
  hotWalletPuzzleHash : Bytes32
  scope : CustodyScope
  clock : Clock

structure GateState where
  recent : List AutoSendRecord
  prompts : List Nat
  reads : Nat
  deriving DecidableEq, Repr

def GateState.new : GateState where
  recent := []
  prompts := []
  reads := 0

namespace PolicyAuthorizer

def new [WalletSdk] (profile : ProfileIx) (custody : CustodyPolicy) (autoSend : AutoSendPolicy)
    (hotWalletAddress : String) (clock : Clock) : Except AccountError PolicyAuthorizer :=
  match WalletSdk.decodeAddress hotWalletAddress with
  | .error e =>
      .error (.policyIndeterminate
        s!"hot-wallet address {hotWalletAddress.quote} is not a valid address: {e}")
  | .ok puzzleHash =>
      .ok {
        custody := custody
        autoSend := autoSend
        hotWalletPuzzleHash := puzzleHash
        scope := CustodyScope.new profile custody puzzleHash
        clock := clock }

variable (gate : PolicyAuthorizer)

def readClock (s : GateState) : Except AccountError Nat × GateState :=
  (gate.clock s.reads, { s with reads := s.reads + 1 })

def inWindow (now at_ : Nat) : Bool := now < saturatingAdd u64Max at_ gate.autoSend.periodSeconds

def retain (now : Nat) (recent : List AutoSendRecord) : List AutoSendRecord :=
  recent.filter fun record => gate.inWindow now record.atUnix

def chargeAt (total now : Nat) (recent : List AutoSendRecord) :
    Except AccountError CapVerdict × List AutoSendRecord :=
  let kept := gate.retain now recent
  match checkedSum u64Max total (kept.map AutoSendRecord.mojos) with
  | none =>
      (.error (.policyIndeterminate
        ("this spend plus the rolling period total overflows u64, so the cap cannot be " ++
          "evaluated")), kept)
  | some projected =>
      if gate.autoSend.periodCapMojos < projected then (.ok .overCap, kept)
      else if maxLedgerEntries ≤ kept.length then
        (.error (.policyIndeterminate
          (s!"the rolling auto-send ledger already holds {maxLedgerEntries} approvals in this " ++
            "window, so the cap cannot be measured over any further spend")), kept)
      else if 0 < total then (.ok .charged, kept ++ [{ atUnix := now, mojos := total }])
      else (.ok .charged, kept)

def chargeTheRollingPeriodCap (total : Nat) (s : GateState) :
    Except AccountError CapVerdict × GateState :=
  if gate.autoSend.periodSeconds = 0 then
    (.error (.policyIndeterminate
      ("the auto-send period is zero seconds long, so no window exists to measure the cap " ++
        "over; the cap cannot be evaluated")), s)
  else
    match gate.readClock s with
    | (.error e, s) => (.error e, s)
    | (.ok now, s) =>
        let (verdict, recent) := gate.chargeAt total now s.recent
        (verdict, { s with recent := recent })

def promptAt (now : Nat) (prompts : List Nat) : Except AccountError Unit × List Nat :=
  let kept := prompts.filter (gate.inWindow now)
  if gate.autoSend.maxConfirmationsPerPeriod ≤ kept.length then
    (.error (.policyIndeterminate
      (s!"{kept.length} confirmation ceremonies have already been raised in the last " ++
        s!"{gate.autoSend.periodSeconds}s, reaching the configured ceiling; no further spend " ++
        "can be put to the user until the window rolls forward")), kept)
  else (.ok (), kept ++ [now])

def chargeAConfirmationPrompt (s : GateState) : Except AccountError Unit × GateState :=
  if gate.autoSend.periodSeconds = 0 then
    (.error (.policyIndeterminate
      ("the auto-send period is zero seconds long, so no window exists to measure the " ++
        "confirmation ceiling over")), s)
  else
    match gate.readClock s with
    | (.error e, s) => (.error e, s)
    | (.ok now, s) =>
        let (verdict, prompts) := gate.promptAt now s.prompts
        (verdict, { s with prompts := prompts })

def escalate (coinSpends : List CoinSpend) (derived : DerivedSpend) (s : GateState) :
    Except AccountError SpendRuling × GateState :=
  match gate.chargeAConfirmationPrompt s with
  | (.error e, s) => (.error e, s)
  | (.ok _, s) => (.ok (.requiresConfirmation ⟨coinSpends, derived.summary, gate.scope⟩), s)

def rejectAmountsNoMojoLimitCanBound (summary : SpendSummary) : Except AccountError Unit :=
  let unbounded := summary.recipients.filterMap SpendRecipient.assetId
  if unbounded.isEmpty then .ok ()
  else
    let assets := String.intercalate ", " unbounded
    .error (.policyIndeterminate
      (s!"this spend moves non-native assets ({assets}) whose amounts no " ++
        "mojo-denominated auto-send limit can bound"))

def ruleOnAutoSend (coinSpends : List CoinSpend) (derived : DerivedSpend)
    (opClass : SpendOpClass) (s : GateState) : Except AccountError SpendRuling × GateState :=
  if gate.autoSend.enabled = false then gate.escalate coinSpends derived s
  else
    match gate.autoSend.configuredLimits opClass with
    | none => gate.escalate coinSpends derived s
    | some limits =>
        if limits.enabled = false then gate.escalate coinSpends derived s
        else
          match rejectAmountsNoMojoLimitCanBound derived.summary with
          | .error e => (.error e, s)
          | .ok _ =>
              if limits.perTxLimitMojos < derived.nativeTotalMojos then
                gate.escalate coinSpends derived s
              else
                match gate.chargeTheRollingPeriodCap derived.nativeTotalMojos s with
                | (.error e, s) => (.error e, s)
                | (.ok .charged, s) =>
                    (.ok (.approved ⟨coinSpends, derived.summary, gate.scope⟩), s)
                | (.ok .overCap, s) => gate.escalate coinSpends derived s

variable [WalletSdk]

def rejectVaultRecipient (recipient : SpendRecipient) : Except AccountError Unit :=
  if recipient.destination = .protocolStructure then
    .error (.policyDenied
      ("a vault spend may only pay this profile's own hot wallet, but this one commits value " ++
        s!"to {recipient.address}; move the funds vault -> hot wallet through the 24h clawback " ++
        "window first"))
  else
    match WalletSdk.decodeAddress recipient.address with
    | .error e =>
        .error (.policyIndeterminate
          (s!"a vault spend pays {recipient.address.quote}, which is not a decodable address " ++
            s!"({e}), so it cannot be proven to be the hot wallet"))
    | .ok puzzleHash =>
        if puzzleHash ≠ gate.hotWalletPuzzleHash then
          .error (.policyDenied
            ("a vault spend may only pay this profile's own hot wallet, but this one pays " ++
              s!"{recipient.address}; move the funds vault -> hot wallet through the 24h " ++
              "clawback window first"))
        else .ok ()

def rejectVaultOutflowToAnyoneButTheHotWallet (summary : SpendSummary) : Except AccountError Unit :=
  summary.recipients.forM gate.rejectVaultRecipient

def authorizeOp (coinSpends : List CoinSpend) (opClass : SpendOpClass) (s : GateState) :
    Except AccountError SpendRuling × GateState :=
  match DerivedSpend.derive coinSpends gate.custody with
  | .error e => (.error e, s)
  | .ok derived =>
      match derived.summary.tier with
      | .vault =>
          match gate.rejectVaultOutflowToAnyoneButTheHotWallet derived.summary with
          | .error e => (.error e, s)
          | .ok _ => gate.escalate coinSpends derived s
      | .confirm => gate.escalate coinSpends derived s
      | .autoSend => gate.ruleOnAutoSend coinSpends derived opClass s

end PolicyAuthorizer

end DigAccount
