import DigAccount.Wallet.AddedSpends
import DigAccount.Wallet.AllowanceRuns

namespace DigAccount

section Tier

variable {summary : SpendSummary} {policy : CustodyPolicy} {total : Nat}

theorem SpendSummary.retier_autoSend :
    summary.retier policy total = .autoSend ↔
      SpendTier.classify policy total = .autoSend ∧
        (∀ recipient ∈ summary.recipients, recipient.assetId = none) ∧
        summary.meltedSingletons = [] ∧ summary.nftOperations = [] := by
  rw [retier]
  cases htier : SpendTier.classify policy total with
  | vault => simp
  | confirm => simp
  | autoSend =>
      cases hassets : summary.movesNonNativeAssets <;>
        cases hmelts : summary.destroysSingletons <;> cases hnfts : summary.movesNfts <;>
        simp_all [movesNonNativeAssets, destroysSingletons, movesNfts, Option.isSome_iff_ne_none]

theorem SpendSummary.retier_vault {vault : Vault} : summary.retier (.vault vault) total = .vault :=
  rfl

variable [WalletSdk] {coinSpends : List CoinSpend} {derived : DerivedSpend}

theorem derive_tier (h : DerivedSpend.derive coinSpends policy = .ok derived) :
    derived.summary.tier = derived.summary.retier policy derived.nativeTotalMojos ∧
      derived.nativeTotalMojos ≤ u64Max := by
  simp only [DerivedSpend.derive, Bind.bind, Except.bind] at h
  split at h
  · cases h
  split at h
  · cases h
  split at h
  · cases h
  rename_i total htotal
  cases h
  refine ⟨rfl, ?_⟩
  rw [SpendSummary.checkedNativeTotalMojos] at htotal
  split at htotal
  · cases htotal
  split at htotal
  · cases htotal
  · rename_i sum hsum
    cases htotal
    obtain ⟨hle, rfl⟩ := checkedAdd_eq_some.1 hsum
    exact hle

end Tier

namespace PolicyAuthorizer

variable {gate : PolicyAuthorizer}

theorem chargeAt_charged {total now : Nat} {recent : List AutoSendRecord}
    (htotal : total ≤ u64Max) :
    (gate.chargeAt total now recent).1 = .ok .charged ↔
      total + ((gate.retain now recent).map AutoSendRecord.mojos).sum ≤ u64Max ∧
        total + ((gate.retain now recent).map AutoSendRecord.mojos).sum ≤
          gate.autoSend.periodCapMojos ∧
        (gate.retain now recent).length < maxLedgerEntries := by
  rw [chargeAt]
  cases hsum : checkedSum u64Max total ((gate.retain now recent).map AutoSendRecord.mojos) with
  | none =>
      refine iff_of_false (fun h => by cases h) fun h => ?_
      rw [(checkedSum_iff htotal).2 ⟨rfl, h.1⟩] at hsum
      cases hsum
  | some projected =>
      obtain ⟨rfl, hfits⟩ := (checkedSum_iff htotal).1 hsum
      dsimp only
      split
      · rename_i hover
        refine iff_of_false (fun h => by cases h) fun h => ?_
        exact absurd h.2.1 (Nat.not_le_of_lt hover)
      rename_i hcap
      split
      · rename_i hfull
        refine iff_of_false (fun h => by cases h) fun h => ?_
        exact absurd h.2.2 (Nat.not_lt_of_le hfull)
      rename_i hroom
      have hall := And.intro hfits (And.intro (Nat.le_of_not_lt hcap) (Nat.lt_of_not_le hroom))
      split <;> exact iff_of_true rfl hall

section Gate

variable [WalletSdk]

structure AutoApprovable (gate : PolicyAuthorizer) (coinSpends : List CoinSpend)
    (opClass : SpendOpClass) (s : GateState) (derived : DerivedSpend) (now : Nat) : Prop where
  analysable : DerivedSpend.derive coinSpends gate.custody = .ok derived
  tier : SpendTier.classify gate.custody derived.nativeTotalMojos = .autoSend
  native : ∀ recipient ∈ derived.summary.recipients, recipient.assetId = none
  meltsNothing : derived.summary.meltedSingletons = []
  movesNoNft : derived.summary.nftOperations = []
  enabled : gate.autoSend.enabled = true
  limited : ∃ limits, gate.autoSend.configuredLimits opClass = some limits ∧
    limits.enabled = true ∧ derived.nativeTotalMojos ≤ limits.perTxLimitMojos
  period : gate.autoSend.periodSeconds ≠ 0
  reading : gate.clock s.reads = .ok now
  fits : derived.nativeTotalMojos +
    ((gate.retain now s.recent).map AutoSendRecord.mojos).sum ≤ u64Max
  withinCap : derived.nativeTotalMojos +
    ((gate.retain now s.recent).map AutoSendRecord.mojos).sum ≤ gate.autoSend.periodCapMojos
  room : (gate.retain now s.recent).length < maxLedgerEntries

variable {coinSpends : List CoinSpend} {opClass : SpendOpClass} {s : GateState}
  {derived : DerivedSpend} {now : Nat}

omit [WalletSdk] in
theorem reachesCap_iff :
    gate.reachesCap derived opClass = true ↔
      gate.autoSend.enabled = true ∧
        (∃ limits, gate.autoSend.configuredLimits opClass = some limits ∧
          limits.enabled = true ∧ derived.nativeTotalMojos ≤ limits.perTxLimitMojos) ∧
        ∀ recipient ∈ derived.summary.recipients, recipient.assetId = none := by
  rw [reachesCap]
  cases gate.autoSend.configuredLimits opClass with
  | none => simp
  | some limits =>
      simp only [Bool.and_eq_true, List.isEmpty_iff, List.filterMap_eq_nil_iff,
        decide_eq_true_eq, Option.some.injEq, exists_eq_left']
      constructor
      · rintro ⟨⟨⟨henabled, hclass⟩, hnative⟩, hlimit⟩
        exact ⟨henabled, ⟨hclass, hlimit⟩, hnative⟩
      · rintro ⟨henabled, ⟨hclass, hlimit⟩, hnative⟩
        exact ⟨⟨⟨henabled, hclass⟩, hnative⟩, hlimit⟩

theorem autoApprovable_iff :
    AutoApprovable gate coinSpends opClass s derived now ↔
      gate.weighs coinSpends opClass = some derived ∧ gate.clock s.reads = .ok now ∧
        (gate.chargeAt derived.nativeTotalMojos now s.recent).1 = .ok .charged := by
  constructor
  · intro h
    obtain ⟨htier, htotal⟩ := derive_tier h.analysable
    have hauto : derived.summary.tier = .autoSend := htier.trans
      (SpendSummary.retier_autoSend.2 ⟨h.tier, h.native, h.meltsNothing, h.movesNoNft⟩)
    have hreaches : gate.reachesCap derived opClass = true :=
      reachesCap_iff.2 ⟨h.enabled, h.limited, h.native⟩
    refine ⟨?_, h.reading, (chargeAt_charged htotal).2 ⟨h.fits, h.withinCap, h.room⟩⟩
    rw [weighs, h.analysable]
    exact if_pos ⟨hauto, hreaches, h.period⟩
  · rintro ⟨hweighs, hreading, hcharged⟩
    obtain ⟨hderive, hauto, hreaches, hperiod⟩ := weighs_eq_some hweighs
    obtain ⟨htier, htotal⟩ := derive_tier hderive
    obtain ⟨hclassify, hnative, hmelts, hnfts⟩ :=
      SpendSummary.retier_autoSend.1 (htier.symm.trans hauto)
    obtain ⟨henabled, hlimited, -⟩ := reachesCap_iff.1 hreaches
    obtain ⟨hfits, hcap, hroom⟩ := (chargeAt_charged htotal).1 hcharged
    exact ⟨hderive, hclassify, hnative, hmelts, hnfts, henabled, hlimited, hperiod, hreading, hfits,
      hcap, hroom⟩

theorem approved_iff :
    (∃ approval, (gate.authorizeOp coinSpends opClass s).1 = .ok (.approved approval)) ↔
      ∃ derived now, AutoApprovable gate coinSpends opClass s derived now := by
  simp only [autoApprovable_iff]
  cases hweighs : gate.weighs coinSpends opClass with
  | none =>
      refine iff_of_false ?_ ?_
      · rintro ⟨approval, happroved⟩
        exact (authorizeOp_unweighed hweighs s).not_approved approval happroved
      · rintro ⟨derived, now, hsome, -⟩
        cases hsome
  | some derived =>
      cases hclock : gate.clock s.reads with
      | error e =>
          refine iff_of_false ?_ ?_
          · rintro ⟨approval, happroved⟩
            exact (authorizeOp_unread hweighs hclock).not_approved approval happroved
          · rintro ⟨-, now, -, hnow, -⟩
            cases hnow
      | ok now =>
          rw [(authorizeOp_weighed hweighs hclock).approved]
          constructor
          · exact fun hcharged => ⟨derived, now, rfl, rfl, hcharged⟩
          · rintro ⟨_, _, hsome, hnow, hcharged⟩
            cases hsome
            cases hnow
            exact hcharged

def PaysHotWallet (gate : PolicyAuthorizer) (recipient : SpendRecipient) : Prop :=
  recipient.destination = .address ∧
    WalletSdk.decodeAddress recipient.address = .ok gate.hotWalletPuzzleHash

theorem rejectVaultRecipient_ok {recipient : SpendRecipient}
    (h : gate.rejectVaultRecipient recipient = .ok ()) : gate.PaysHotWallet recipient := by
  rw [rejectVaultRecipient] at h
  split at h
  · cases h
  rename_i hprotocol
  have haddress : recipient.destination = .address := by
    cases hdestination : recipient.destination with
    | address => rfl
    | protocolStructure => exact absurd hdestination hprotocol
  split at h
  · cases h
  rename_i puzzleHash hdecoded
  split at h
  · cases h
  rename_i hhot
  rw [not_not] at hhot
  exact ⟨haddress, hhot ▸ hdecoded⟩

theorem rejectVaultOutflow_ok {recipients : List SpendRecipient}
    (h : recipients.forM gate.rejectVaultRecipient = .ok ()) :
    ∀ recipient ∈ recipients, gate.PaysHotWallet recipient := by
  induction recipients with
  | nil => exact fun recipient hmem => by cases hmem
  | cons first rest ih =>
      rw [List.forM] at h
      cases hfirst : gate.rejectVaultRecipient first with
      | error e =>
          rw [hfirst] at h
          cases h
      | ok u =>
          rw [hfirst] at h
          exact List.forall_mem_cons.2 ⟨rejectVaultRecipient_ok hfirst, ih h⟩

omit [WalletSdk] in
theorem escalate_ok {pending : AuthorizedSpend}
    (h : (gate.escalate coinSpends derived s).1 = .ok (.requiresConfirmation pending)) :
    pending.summary = derived.summary := by
  rw [escalate] at h
  split at h
  · cases h
  · cases h
    rfl

theorem authorizeOp_vault {vault : Vault} (hvault : gate.custody = .vault vault) :
    (∀ approval, (gate.authorizeOp coinSpends opClass s).1 ≠ .ok (.approved approval)) ∧
      ∀ pending, (gate.authorizeOp coinSpends opClass s).1 = .ok (.requiresConfirmation pending) →
        ∀ recipient ∈ pending.summary.recipients, gate.PaysHotWallet recipient := by
  constructor
  · intro approval happroved
    obtain ⟨derived, now, happrovable⟩ := approved_iff.1 ⟨approval, happroved⟩
    have htier := happrovable.tier
    rw [hvault] at htier
    cases htier
  · intro pending hpending
    rw [authorizeOp] at hpending
    split at hpending
    · cases hpending
    rename_i derived hderive
    have htier : derived.summary.tier = .vault := by
      rw [(derive_tier hderive).1, hvault]
      exact SpendSummary.retier_vault
    rw [htier] at hpending
    dsimp only at hpending
    split at hpending
    · cases hpending
    · rename_i hpaid
      rw [escalate_ok hpending]
      exact rejectVaultOutflow_ok hpaid

theorem approves_exactly (gate : PolicyAuthorizer) (coinSpends : List CoinSpend)
    (opClass : SpendOpClass) (s : GateState) :
    ((∃ approval, (gate.authorizeOp coinSpends opClass s).1 = .ok (.approved approval)) ↔
        ∃ derived now, AutoApprovable gate coinSpends opClass s derived now) ∧
      ∀ vault, gate.custody = .vault vault →
        (∀ approval, (gate.authorizeOp coinSpends opClass s).1 ≠ .ok (.approved approval)) ∧
        ∀ pending,
          (gate.authorizeOp coinSpends opClass s).1 = .ok (.requiresConfirmation pending) →
            ∀ recipient ∈ pending.summary.recipients, gate.PaysHotWallet recipient :=
  ⟨approved_iff, fun _ hvault => authorizeOp_vault hvault⟩

end Gate

def vaultGate : PolicyAuthorizer := { tipGate with custody := .vault { clawbackSeconds := 86400 } }

theorem approves_exactly_of_a_tip :
    letI := byteSdk
    (∃ derived now, AutoApprovable tipGate sendOfSix .tip .new derived now) ∧
      ∃ pending, (vaultGate.authorizeOp sendOfSix .tip .new).1 =
          .ok (.requiresConfirmation pending) ∧
        ∀ recipient ∈ pending.summary.recipients, vaultGate.PaysHotWallet recipient := by
  let _ := byteSdk
  have happroved : (tipGate.authorizeOp sendOfSix .tip .new).1 =
      .ok (.approved ⟨sendOfSix, (sixLeaving 1).summary, tipGate.scope⟩) := rfl
  have hpending : (vaultGate.authorizeOp sendOfSix .tip .new).1 =
      .ok (.requiresConfirmation
        ⟨sendOfSix, { (sixLeaving 1).summary with tier := .vault }, tipGate.scope⟩) := rfl
  exact ⟨(approves_exactly tipGate sendOfSix .tip .new).1.1 ⟨_, happroved⟩, _, hpending,
    ((approves_exactly vaultGate sendOfSix .tip .new).2 _ rfl).2 _ hpending⟩

end PolicyAuthorizer

end DigAccount
