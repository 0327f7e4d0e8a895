import DigAccount.Foundation.RollingWindow
import DigAccount.Wallet.Enforcer

namespace DigAccount

open RollingWindow

def AutoSendRecord.toCharge (record : AutoSendRecord) : Charge := ⟨record.atUnix, record.mojos⟩

theorem total_toCharge (recent : List AutoSendRecord) :
    total (recent.map AutoSendRecord.toCharge) = (recent.map AutoSendRecord.mojos).sum := by
  simp [total, Function.comp_def, AutoSendRecord.toCharge]

namespace PolicyAuthorizer

variable {gate : PolicyAuthorizer}

def receipt (amount now : Nat) : List AutoSendRecord :=
  if 0 < amount then [{ atUnix := now, mojos := amount }] else []

theorem chargeAt_cases (gate : PolicyAuthorizer) (amount now : Nat) (recent : List AutoSendRecord) :
    ((gate.chargeAt amount now recent).1 = .ok .charged ∧
      (gate.chargeAt amount now recent).2 = gate.retain now recent ++ receipt amount now ∧
      total ((gate.retain now recent).map AutoSendRecord.toCharge) + amount ≤
        gate.autoSend.periodCapMojos) ∨
    ((gate.chargeAt amount now recent).1 ≠ .ok .charged ∧
      (gate.chargeAt amount now recent).2 = gate.retain now recent) := by
  rw [total_toCharge]
  unfold chargeAt
  dsimp only
  split
  · exact .inr ⟨by simp, rfl⟩
  · rename_i projected hsum
    have hprojected := checkedSum_eq_some hsum
    split
    · exact .inr ⟨by simp, rfl⟩
    · rename_i hcap
      have hfits : ((gate.retain now recent).map AutoSendRecord.mojos).sum + amount ≤
          gate.autoSend.periodCapMojos := by omega
      split
      · exact .inr ⟨by simp, rfl⟩
      · split
        · rename_i hpos
          exact .inl ⟨rfl, by simp [receipt, hpos], hfits⟩
        · rename_i hpos
          exact .inl ⟨rfl, by simp [receipt, hpos], hfits⟩

theorem confirmationPrompt_frame (gate : PolicyAuthorizer) (s : GateState) :
    (gate.chargeAConfirmationPrompt s).2.recent = s.recent ∧
      s.reads ≤ (gate.chargeAConfirmationPrompt s).2.reads := by
  rw [chargeAConfirmationPrompt, readClock]
  split
  · exact ⟨rfl, le_rfl⟩
  · cases gate.clock s.reads with
    | error e => exact ⟨rfl, Nat.le_succ _⟩
    | ok now => exact ⟨rfl, Nat.le_succ _⟩

structure Uncharged (s : GateState) (out : Except AccountError SpendRuling × GateState) : Prop where
  not_approved : ∀ approval, out.1 ≠ .ok (.approved approval)
  recent : out.2.recent = s.recent
  reads : s.reads ≤ out.2.reads

structure Weighed (gate : PolicyAuthorizer) (amount : Nat) (s : GateState)
    (out : Except AccountError SpendRuling × GateState) (now : Nat) : Prop where
  reading : gate.clock s.reads = .ok now
  recent : out.2.recent = (gate.chargeAt amount now s.recent).2
  reads : s.reads < out.2.reads
  approved : (∃ approval, out.1 = .ok (.approved approval)) ↔
    (gate.chargeAt amount now s.recent).1 = .ok .charged

theorem escalate_uncharged (gate : PolicyAuthorizer) (coinSpends : List CoinSpend)
    (derived : DerivedSpend) (s : GateState) :
    Uncharged s (gate.escalate coinSpends derived s) := by
  have hframe := confirmationPrompt_frame gate s
  rw [escalate]
  rcases hout : gate.chargeAConfirmationPrompt s with ⟨verdict, after⟩
  rw [hout] at hframe
  cases verdict with
  | error e => exact ⟨fun _ => by simp, hframe.1, hframe.2⟩
  | ok u => exact ⟨fun _ => by simp, hframe.1, hframe.2⟩

theorem refused_uncharged (s : GateState) (e : AccountError) : Uncharged s (.error e, s) :=
  ⟨fun _ => by simp, rfl, le_rfl⟩

def reachesCap (gate : PolicyAuthorizer) (derived : DerivedSpend) (opClass : SpendOpClass) : Bool :=
  match gate.autoSend.configuredLimits opClass with
  | none => false
  | some limits =>
      gate.autoSend.enabled && limits.enabled &&
        (derived.summary.recipients.filterMap SpendRecipient.assetId).isEmpty &&
        decide (derived.nativeTotalMojos ≤ limits.perTxLimitMojos)

theorem ruleOnAutoSend_reaches {derived : DerivedSpend} {opClass : SpendOpClass}
    (h : gate.reachesCap derived opClass = true) (coinSpends : List CoinSpend) (s : GateState) :
    gate.ruleOnAutoSend coinSpends derived opClass s =
      match gate.chargeTheRollingPeriodCap derived.nativeTotalMojos s with
      | (.error e, s) => (.error e, s)
      | (.ok .charged, s) => (.ok (.approved ⟨coinSpends, derived.summary, gate.scope⟩), s)
      | (.ok .overCap, s) => gate.escalate coinSpends derived s := by
  rw [reachesCap] at h
  cases hlimits : gate.autoSend.configuredLimits opClass with
  | none =>
      rw [hlimits] at h
      cases h
  | some limits =>
      rw [hlimits] at h
      simp only [Bool.and_eq_true, decide_eq_true_eq] at h
      obtain ⟨⟨⟨henabled, hclass⟩, hnative⟩, hlimit⟩ := h
      have hbound : rejectAmountsNoMojoLimitCanBound derived.summary = .ok () := by
        rw [rejectAmountsNoMojoLimitCanBound]
        rw [if_pos hnative]
      rw [ruleOnAutoSend]
      rw [hlimits, henabled, if_neg (by decide)]
      dsimp only
      rw [hclass, if_neg (by decide), hbound]
      dsimp only
      rewrite [if_neg (not_lt.2 hlimit)]
      rcases gate.chargeTheRollingPeriodCap derived.nativeTotalMojos s with ⟨e | verdict, after⟩
      · rfl
      · cases verdict <;> rfl

theorem ruleOnAutoSend_misses {derived : DerivedSpend} {opClass : SpendOpClass}
    (h : gate.reachesCap derived opClass = false) (coinSpends : List CoinSpend) (s : GateState) :
    Uncharged s (gate.ruleOnAutoSend coinSpends derived opClass s) := by
  rw [ruleOnAutoSend]
  split
  · exact escalate_uncharged gate coinSpends derived s
  rename_i henabled
  split
  · exact escalate_uncharged gate coinSpends derived s
  rename_i limits hlimits
  split
  · exact escalate_uncharged gate coinSpends derived s
  rename_i hclass
  split
  · exact refused_uncharged s _
  rename_i hbound
  split
  · exact escalate_uncharged gate coinSpends derived s
  rename_i hlimit
  have hnative : (derived.summary.recipients.filterMap SpendRecipient.assetId).isEmpty = true := by
    rw [rejectAmountsNoMojoLimitCanBound] at hbound
    by_contra hne
    rw [if_neg hne] at hbound
    cases hbound
  rw [reachesCap] at h
  rw [hlimits] at h
  simp_all

theorem chargeTheRollingPeriodCap_eq {amount : Nat} {s : GateState}
    (hperiod : gate.autoSend.periodSeconds ≠ 0) :
    gate.chargeTheRollingPeriodCap amount s =
      match gate.clock s.reads with
      | .error e => (.error e, { s with reads := s.reads + 1 })
      | .ok now => ((gate.chargeAt amount now s.recent).1,
          { s with recent := (gate.chargeAt amount now s.recent).2, reads := s.reads + 1 }) := by
  rw [chargeTheRollingPeriodCap, readClock]
  rw [if_neg hperiod]
  cases gate.clock s.reads <;> rfl

theorem ruleOnAutoSend_weighed {derived : DerivedSpend} {opClass : SpendOpClass}
    (h : gate.reachesCap derived opClass = true) (hperiod : gate.autoSend.periodSeconds ≠ 0)
    (coinSpends : List CoinSpend) {s : GateState} {now : Nat}
    (hclock : gate.clock s.reads = .ok now) :
    Weighed gate derived.nativeTotalMojos s
      (gate.ruleOnAutoSend coinSpends derived opClass s) now := by
  rw [ruleOnAutoSend_reaches h, chargeTheRollingPeriodCap_eq hperiod, hclock]
  dsimp only
  rcases hcharge : gate.chargeAt derived.nativeTotalMojos now s.recent with ⟨verdict, recent⟩
  rcases verdict with e | verdict
  · exact ⟨hclock, by rw [hcharge], Nat.lt_succ_self _, by simp [hcharge]⟩
  cases verdict with
  | charged => exact ⟨hclock, by rw [hcharge], Nat.lt_succ_self _, by simp [hcharge]⟩
  | overCap =>
      have hesc := escalate_uncharged gate coinSpends derived
        { s with recent := recent, reads := s.reads + 1 }
      refine ⟨hclock, by rw [hcharge]; exact hesc.recent, Nat.lt_of_succ_le hesc.reads, ?_⟩
      refine iff_of_false ?_ (by simp [hcharge])
      rintro ⟨approval, happroved⟩
      exact hesc.not_approved approval happroved

section

variable [WalletSdk]

def weighs (gate : PolicyAuthorizer) (coinSpends : List CoinSpend) (opClass : SpendOpClass) :
    Option DerivedSpend :=
  match DerivedSpend.derive coinSpends gate.custody with
  | .error _ => none
  | .ok derived =>
      if derived.summary.tier = .autoSend ∧ gate.reachesCap derived opClass = true ∧
          gate.autoSend.periodSeconds ≠ 0 then
        some derived
      else none

theorem weighs_eq_some {coinSpends : List CoinSpend} {opClass : SpendOpClass}
    {derived : DerivedSpend} (h : gate.weighs coinSpends opClass = some derived) :
    DerivedSpend.derive coinSpends gate.custody = .ok derived ∧
      derived.summary.tier = .autoSend ∧ gate.reachesCap derived opClass = true ∧
      gate.autoSend.periodSeconds ≠ 0 := by
  rw [weighs] at h
  split at h
  · cases h
  · rename_i d hderive
    split at h
    · rename_i hall
      cases h
      exact ⟨hderive, hall⟩
    · cases h

theorem authorizeOp_weighed {coinSpends : List CoinSpend} {opClass : SpendOpClass}
    {derived : DerivedSpend} (h : gate.weighs coinSpends opClass = some derived) {s : GateState}
    {now : Nat} (hclock : gate.clock s.reads = .ok now) :
    Weighed gate derived.nativeTotalMojos s (gate.authorizeOp coinSpends opClass s) now := by
  obtain ⟨hderive, htier, hreach, hperiod⟩ := weighs_eq_some h
  rw [authorizeOp]
  rw [hderive]
  dsimp only
  rw [htier]
  exact ruleOnAutoSend_weighed hreach hperiod coinSpends hclock

theorem authorizeOp_unweighed {coinSpends : List CoinSpend} {opClass : SpendOpClass}
    (h : gate.weighs coinSpends opClass = none) (s : GateState) :
    Uncharged s (gate.authorizeOp coinSpends opClass s) := by
  rw [weighs] at h
  rw [authorizeOp]
  cases hderive : DerivedSpend.derive coinSpends gate.custody with
  | error e => exact refused_uncharged s e
  | ok derived =>
      rw [hderive] at h
      dsimp only at h ⊢
      cases htier : derived.summary.tier with
      | vault =>
          dsimp only
          split
          · exact refused_uncharged s _
          · exact escalate_uncharged gate coinSpends derived s
      | confirm => exact escalate_uncharged gate coinSpends derived s
      | autoSend =>
          dsimp only
          cases hreach : gate.reachesCap derived opClass with
          | false => exact ruleOnAutoSend_misses hreach coinSpends s
          | true =>
              have hperiod : gate.autoSend.periodSeconds = 0 := by
                by_contra hne
                rw [if_pos ⟨htier, hreach, hne⟩] at h
                cases h
              rw [ruleOnAutoSend_reaches hreach]
              rw [chargeTheRollingPeriodCap]
              rw [if_pos hperiod]
              exact refused_uncharged s _

theorem authorizeOp_unread {coinSpends : List CoinSpend} {opClass : SpendOpClass}
    {derived : DerivedSpend} (h : gate.weighs coinSpends opClass = some derived) {s : GateState}
    {e : AccountError} (hclock : gate.clock s.reads = .error e) :
    Uncharged s (gate.authorizeOp coinSpends opClass s) := by
  obtain ⟨hderive, htier, hreach, hperiod⟩ := weighs_eq_some h
  rw [authorizeOp]
  rw [hderive]
  dsimp only
  rw [htier]
  dsimp only
  rw [ruleOnAutoSend_reaches hreach, chargeTheRollingPeriodCap_eq hperiod, hclock]
  exact ⟨fun _ => by simp, rfl, Nat.le_succ _⟩

theorem authorizeOp_cases (gate : PolicyAuthorizer) (coinSpends : List CoinSpend)
    (opClass : SpendOpClass) (s : GateState) :
    Uncharged s (gate.authorizeOp coinSpends opClass s) ∨
      ∃ derived now, DerivedSpend.derive coinSpends gate.custody = .ok derived ∧
        Weighed gate derived.nativeTotalMojos s (gate.authorizeOp coinSpends opClass s) now := by
  cases hweighs : gate.weighs coinSpends opClass with
  | none => exact .inl (authorizeOp_unweighed hweighs s)
  | some derived =>
      cases hclock : gate.clock s.reads with
      | error e => exact .inl (authorizeOp_unread hweighs hclock)
      | ok now =>
          exact .inr ⟨derived, now, (weighs_eq_some hweighs).1, authorizeOp_weighed hweighs hclock⟩

end

end PolicyAuthorizer

end DigAccount
