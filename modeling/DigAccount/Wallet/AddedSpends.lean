import DigAccount.Wallet.Summary

namespace DigAccount

open WalletSdk

def nativeValue (outputs : List DecodedOutput) : Nat :=
  ((outputs.filter fun output => output.assetId.isNone).map DecodedOutput.amount).sum

@[simp] theorem nativeValue_append (xs ys : List DecodedOutput) :
    nativeValue (xs ++ ys) = nativeValue xs + nativeValue ys := by
  simp [nativeValue]

theorem nativeValue_cons (output : DecodedOutput) (outputs : List DecodedOutput) :
    nativeValue (output :: outputs) =
      (if output.assetId.isNone then output.amount else 0) + nativeValue outputs := by
  cases hnative : output.assetId.isNone <;> simp [nativeValue, hnative]

theorem nativeValue_filter_add (p : DecodedOutput → Bool) (outputs : List DecodedOutput) :
    nativeValue (outputs.filter p) + nativeValue (outputs.filter fun output => !p output) =
      nativeValue outputs := by
  induction outputs with
  | nil => rfl
  | cons output outputs ih =>
      cases hp : p output with
      | false =>
          rw [List.filter_cons_of_neg (by simp [hp]), List.filter_cons_of_pos (by simp [hp]),
            nativeValue_cons, nativeValue_cons]
          omega
      | true =>
          rw [List.filter_cons_of_pos hp, List.filter_cons_of_neg (by simp [hp]),
            nativeValue_cons, nativeValue_cons]
          omega

class AdditiveSdk extends WalletSdk where
  analyze_append : ∀ coinSpends added small large, analyze coinSpends = .ok small →
    analyze (coinSpends ++ added) = .ok large →
      small.outputs <+: large.outputs ∧ small.protocolSink <+: large.protocolSink ∧
        small.fee ≤ large.fee

section Derivation

variable [WalletSdk] {coinSpends added : List CoinSpend} {puzzleHash : Bytes32}

def ProvesP2 (puzzleHash : Bytes32) (spend : CoinSpend) : Prop :=
  spend.coin.puzzleHash = puzzleHash ∧ standardPuzzleHash spend.puzzleReveal = some puzzleHash

theorem mem_p2Destinations :
    puzzleHash ∈ p2Destinations coinSpends ↔ ∃ spend ∈ coinSpends, ProvesP2 puzzleHash spend := by
  rw [p2Destinations]
  rw [List.mem_filterMap]
  refine exists_congr fun spend => and_congr_right fun _ => ?_
  rw [ProvesP2]
  cases hcurry : standardPuzzleHash spend.puzzleReveal with
  | none => simp
  | some curried =>
      by_cases hsame : curried = spend.coin.puzzleHash
      · simp [hsame]
      · simp only [if_neg hsame, Option.some.injEq]
        constructor
        · intro h
          cases h
        · rintro ⟨rfl, rfl⟩
          exact absurd rfl hsame

theorem p2Destinations_append (coinSpends added : List CoinSpend) :
    p2Destinations (coinSpends ++ added) = p2Destinations coinSpends ++ p2Destinations added :=
  List.filterMap_append

def leavesToAnAddress (effect : SpendEffect NftOperation) (coinSpends : List CoinSpend) :
    List DecodedOutput :=
  effect.outputs.filter fun output => output.puzzleHash ∉ p2Destinations coinSpends

structure DerivesFrom (effect : SpendEffect NftOperation) (coinSpends : List CoinSpend)
    (derived : DerivedSpend) : Prop where
  analyzed : analyze coinSpends = .ok effect
  recipients : derived.summary.recipients =
    (leavesToAnAddress effect coinSpends).map addressLine ++
      effect.protocolSink.map protocolStructureLine
  weight : derived.nativeTotalMojos =
    nativeValue (leavesToAnAddress effect coinSpends) + nativeValue effect.protocolSink +
      effect.fee

theorem deriveEffect_ok {effect : SpendEffect NftOperation}
    (h : deriveEffect coinSpends = .ok effect) : analyze coinSpends = .ok effect := by
  rw [deriveEffect] at h
  split at h
  · cases h
  split at h
  · cases h
  · rename_i hanalyze
    cases h
    exact hanalyze

theorem fromEffect_ok {effect : SpendEffect NftOperation} {tier : SpendTier}
    {summary : SpendSummary} (h : SpendSummary.fromEffect effect coinSpends tier = .ok summary) :
    summary.recipients = (leavesToAnAddress effect coinSpends).map addressLine ++
      effect.protocolSink.map protocolStructureLine ∧ summary.fee = effect.fee := by
  rw [SpendSummary.fromEffect] at h
  simp only [Bind.bind, Except.bind] at h
  split at h
  · cases h
  · cases h
    exact ⟨rfl, rfl⟩

omit [WalletSdk] in
theorem checkedNativeTotalMojos_ok {summary : SpendSummary} {total : Nat}
    (h : summary.checkedNativeTotalMojos = .ok total) :
    total = ((summary.recipients.filter fun recipient => recipient.assetId.isNone).map
      SpendRecipient.amountMojos).sum + summary.fee := by
  unfold SpendSummary.checkedNativeTotalMojos at h
  dsimp only at h
  split at h
  · cases h
  rename_i nativeOut hnative
  split at h
  · cases h
  rename_i sum hsum
  cases h
  have hout := checkedSum_eq_some hnative
  rw [checkedAdd_eq_some] at hsum
  omega

theorem nativeAmounts_addressLine (outputs : List DecodedOutput) :
    (((outputs.map addressLine).filter fun recipient => recipient.assetId.isNone).map
      SpendRecipient.amountMojos).sum = nativeValue outputs := by
  simp only [List.filter_map, List.map_map, nativeValue]
  congr 2
  exact List.filter_congr fun output _ => by simp [addressLine]

theorem nativeAmounts_protocolStructureLine (outputs : List DecodedOutput) :
    (((outputs.map protocolStructureLine).filter fun recipient => recipient.assetId.isNone).map
      SpendRecipient.amountMojos).sum = nativeValue outputs := by
  simp only [List.filter_map, List.map_map, nativeValue]
  congr 2
  exact List.filter_congr fun output _ => by simp [protocolStructureLine]

theorem derive_ok {policy : CustodyPolicy} {derived : DerivedSpend}
    (h : DerivedSpend.derive coinSpends policy = .ok derived) :
    ∃ effect, DerivesFrom effect coinSpends derived := by
  rw [DerivedSpend.derive] at h
  simp only [Bind.bind, Except.bind] at h
  split at h
  · cases h
  rename_i effect heffect
  split at h
  · cases h
  rename_i summary hsummary
  split at h
  · cases h
  rename_i total htotal
  cases h
  obtain ⟨hrecipients, hfee⟩ := fromEffect_ok hsummary
  refine ⟨effect, deriveEffect_ok heffect, hrecipients, ?_⟩
  rw [checkedNativeTotalMojos_ok htotal, hrecipients, hfee, List.filter_append, List.map_append,
    List.sum_append, nativeAmounts_addressLine, nativeAmounts_protocolStructureLine]

end Derivation

section Added

variable [AdditiveSdk] {coinSpends added : List CoinSpend} {policy : CustodyPolicy}
  {smaller larger : DerivedSpend}

theorem leaves_still {small large : SpendEffect NftOperation}
    (h : small.outputs <+: large.outputs) :
    (leavesToAnAddress small coinSpends).filter (fun output =>
        output.puzzleHash ∉ p2Destinations added) <+:
      leavesToAnAddress large (coinSpends ++ added) := by
  obtain ⟨later, hlater⟩ := h
  refine ⟨leavesToAnAddress { large with outputs := later } (coinSpends ++ added), ?_⟩
  simp only [leavesToAnAddress]
  rw [← hlater, List.filter_append, List.filter_filter]
  congr 1
  refine List.filter_congr fun output _ => ?_
  rw [p2Destinations_append]
  simp [Bool.and_comm, not_or]

theorem mem_leavesToAnAddress_append {small large : SpendEffect NftOperation}
    (h : small.outputs <+: large.outputs) {output : DecodedOutput}
    (hleaves : output ∈ leavesToAnAddress small coinSpends) :
    output ∈ leavesToAnAddress large (coinSpends ++ added) ↔
      ¬ ∃ spend ∈ added, ProvesP2 output.puzzleHash spend := by
  rw [← mem_p2Destinations]
  constructor
  · intro hlarge hproven
    rw [leavesToAnAddress] at hlarge
    simp only [p2Destinations_append, List.mem_filter, List.mem_append, decide_eq_true_eq] at hlarge
    exact hlarge.2 (.inr hproven)
  · intro hproven
    refine (leaves_still h).subset (List.mem_filter.2 ⟨hleaves, ?_⟩)
    exact decide_eq_true hproven

theorem added_spends_weigh (hsmaller : DerivedSpend.derive coinSpends policy = .ok smaller)
    (hlarger : DerivedSpend.derive (coinSpends ++ added) policy = .ok larger) :
    ∃ small large, DerivesFrom small coinSpends smaller ∧
      DerivesFrom large (coinSpends ++ added) larger ∧
      (∀ output ∈ leavesToAnAddress small coinSpends,
        output ∈ leavesToAnAddress large (coinSpends ++ added) ↔
          ¬ ∃ spend ∈ added, ProvesP2 output.puzzleHash spend) ∧
      small.protocolSink <+: large.protocolSink ∧
      smaller.nativeTotalMojos ≤ larger.nativeTotalMojos +
        nativeValue ((leavesToAnAddress small coinSpends).filter fun output =>
          output.puzzleHash ∈ p2Destinations added) := by
  obtain ⟨small, hsmall⟩ := derive_ok hsmaller
  obtain ⟨large, hlarge⟩ := derive_ok hlarger
  obtain ⟨houtputs, hsinks, hfee⟩ :=
    AdditiveSdk.analyze_append _ _ _ _ hsmall.analyzed hlarge.analyzed
  refine ⟨small, large, hsmall, hlarge,
    fun output hleaves => mem_leavesToAnAddress_append houtputs hleaves, hsinks, ?_⟩
  have hsplit := nativeValue_filter_add
    (fun output => output.puzzleHash ∈ p2Destinations added) (leavesToAnAddress small coinSpends)
  have hstill : (leavesToAnAddress small coinSpends).filter (fun output =>
      output.puzzleHash ∉ p2Destinations added) <+:
        leavesToAnAddress large (coinSpends ++ added) := leaves_still houtputs
  obtain ⟨otherLeaving, hleaving⟩ := hstill
  obtain ⟨otherSinks, hsinked⟩ := hsinks
  have hcounted := congrArg nativeValue hleaving
  have hsunk := congrArg nativeValue hsinked
  rw [nativeValue_append] at hcounted hsunk
  simp only [decide_not] at hcounted
  rw [hsmall.weight, hlarge.weight]
  omega

end Added

section Example

def createdBy : Program → List DecodedOutput
  | puzzleHash :: amount :: rest => ⟨puzzleHash.toNat, amount.toNat, none⟩ :: createdBy rest
  | _ => []

def byteEffect (coinSpends : List CoinSpend) : SpendEffect Empty where
  outputs := coinSpends.flatMap fun spend => createdBy (spend.solution.drop 1)
  protocolSink := []
  fee := (coinSpends.map fun spend => (spend.solution.headD 0).toNat).sum
  meltedSingletons := []
  nftOperations := []

def byteAnalyze (coinSpends : List CoinSpend) : Except String (SpendEffect Empty) :=
  let effect := byteEffect coinSpends
  if (coinSpends.map fun spend => spend.coin.amount).sum = nativeValue effect.outputs + effect.fee
  then .ok effect
  else .error "value is not conserved"

theorem byteAnalyze_ok {coinSpends : List CoinSpend} {effect : SpendEffect Empty}
    (h : byteAnalyze coinSpends = .ok effect) : effect = byteEffect coinSpends := by
  unfold byteAnalyze at h
  dsimp only at h
  split at h
  · exact (Except.ok.inj h).symm
  · cases h

@[reducible] def byteSdk : AdditiveSdk where
  NftOperation := Empty
  analyze := byteAnalyze
  describe := Empty.elim
  standardPuzzleHash reveal := reveal.head?.map UInt8.toNat
  encodeAddress _ := some "xch1"
  decodeAddress _ := .ok 0
  settlementPaymentHash := 1
  singletonLauncherHash := 2
  analyze_append coinSpends added small large hsmall hlarge := by
    rw [byteAnalyze_ok hsmall, byteAnalyze_ok hlarge]
    simp only [byteEffect]
    simp

def sendOfSix : List CoinSpend := [⟨⟨0, 5, 10⟩, [5], [1, 7, 6, 5, 3]⟩]

def recipientsOwn : List CoinSpend := [⟨⟨0, 7, 2⟩, [7], [0, 7, 2]⟩]

def ownCoin : List CoinSpend := [⟨⟨0, 5, 4⟩, [5], [1, 5, 3]⟩]

def sixLeaving (fee : Nat) : DerivedSpend where
  summary := ⟨.autoSend, [⟨"xch1", 6, none, .address⟩], fee, [], []⟩
  nativeTotalMojos := 6 + fee

def nothingLeaving (fee : Nat) : DerivedSpend where
  summary := ⟨.autoSend, [], fee, [], []⟩
  nativeTotalMojos := fee

theorem recipients_cospend_weighs_less :
    letI := byteSdk
    DerivedSpend.derive sendOfSix (.hot ⟨1000⟩) = .ok (sixLeaving 1) ∧
      DerivedSpend.derive (sendOfSix ++ recipientsOwn) (.hot ⟨1000⟩) = .ok (nothingLeaving 1) ∧
      (nothingLeaving 1).nativeTotalMojos < (sixLeaving 1).nativeTotalMojos :=
  ⟨rfl, rfl, by decide⟩

def sendOfTwo : List CoinSpend := [⟨⟨0, 5, 14⟩, [5], [1, 7, 6, 9, 4, 5, 3]⟩]

def bothOwn : List CoinSpend := recipientsOwn ++ ownCoin

def leaving (amounts : List Nat) (fee : Nat) : DerivedSpend where
  summary := ⟨.autoSend, amounts.map fun amount => ⟨"xch1", amount, none, .address⟩, fee, [], []⟩
  nativeTotalMojos := amounts.sum + fee

theorem added_spends_weigh_of_bothOwn :
    letI := byteSdk
    DerivedSpend.derive sendOfTwo (.hot ⟨1000⟩) = .ok (leaving [6, 4] 1) ∧
      DerivedSpend.derive (sendOfTwo ++ bothOwn) (.hot ⟨1000⟩) = .ok (leaving [4] 2) ∧
      ∃ small large, DerivesFrom small sendOfTwo (leaving [6, 4] 1) ∧
        DerivesFrom large (sendOfTwo ++ bothOwn) (leaving [4] 2) ∧
        (∀ output ∈ leavesToAnAddress small sendOfTwo,
          output ∈ leavesToAnAddress large (sendOfTwo ++ bothOwn) ↔
            ¬ ∃ spend ∈ bothOwn, ProvesP2 output.puzzleHash spend) ∧
        small.protocolSink <+: large.protocolSink ∧
        (leaving [6, 4] 1).nativeTotalMojos ≤ (leaving [4] 2).nativeTotalMojos +
          nativeValue ((leavesToAnAddress small sendOfTwo).filter fun output =>
            output.puzzleHash ∈ p2Destinations bothOwn) := by
  let _ := byteSdk
  have hsmaller : DerivedSpend.derive sendOfTwo (.hot ⟨1000⟩) = .ok (leaving [6, 4] 1) := rfl
  have hlarger : DerivedSpend.derive (sendOfTwo ++ bothOwn) (.hot ⟨1000⟩) =
      .ok (leaving [4] 2) := rfl
  exact ⟨hsmaller, hlarger, added_spends_weigh hsmaller hlarger⟩

end Example

end DigAccount
