import DigAccount.Chain.Query
import DigAccount.Foundation.TwoRuns

namespace DigAccount

def CoinRecord.zeroFilled (record : CoinRecord) : CoinRecord :=
  { record with spentHeight := some (record.spentHeight.getD 0) }

def zeroFilled (oracle : Oracle) : Oracle := fun i q =>
  match q with
  | .coinRecord id => (oracle i (.coinRecord id)).map (Option.map CoinRecord.zeroFilled)
  | .peakHeight => oracle i .peakHeight
  | .parentSpend id => oracle i (.parentSpend id)
  | .resolveSingletonLineage launcherId => oracle i (.resolveSingletonLineage launcherId)
  | .walkDidLineageToTip launcherId => oracle i (.walkDidLineageToTip launcherId)
  | .proveLineage id did => oracle i (.proveLineage id did)
  | .discoverDistributor launcherId => oracle i (.discoverDistributor launcherId)
  | .fetchProfileSlots storeLauncherId root => oracle i (.fetchProfileSlots storeLauncherId root)
  | .push bundle => oracle i (.push bundle)

namespace CoinRecord

variable {record : CoinRecord}

@[simp] theorem coin_zeroFilled : record.zeroFilled.coin = record.coin := rfl

@[simp] theorem confirmedHeight_zeroFilled :
    record.zeroFilled.confirmedHeight = record.confirmedHeight := rfl

@[simp] theorem spentHeight_zeroFilled :
    record.zeroFilled.spentHeight = some (record.spentHeight.getD 0) := rfl

@[simp] theorem isSpent_zeroFilled : record.zeroFilled.isSpent = true := rfl

end CoinRecord

section Reads

variable {ε : Type} {E : ε → ε → Prop} {oracle : Oracle} {i : Nat} {id : Bytes32}
  {unreachable : String → ε}

theorem zeroFilled_ok {found : Option CoinRecord} (h : oracle i (.coinRecord id) = .ok found) :
    zeroFilled oracle i (.coinRecord id) = .ok (found.map CoinRecord.zeroFilled) := by
  simp only [zeroFilled, h]
  rfl

theorem zeroFilled_error {e : String} (h : oracle i (.coinRecord id) = .error e) :
    zeroFilled oracle i (.coinRecord id) = .error e := by
  simp only [zeroFilled, h]
  rfl

theorem readCoinRecord_agree (hE : ∀ e, E e e) :
    Fallible.Agree E (fun found filled => filled = found.map CoinRecord.zeroFilled)
      ((readCoinRecord unreachable id).exec oracle i)
      ((readCoinRecord unreachable id).exec (zeroFilled oracle) i) := by
  rw [exec_readCoinRecord, exec_readCoinRecord]
  cases h : oracle i (.coinRecord id) with
  | error e =>
      rw [zeroFilled_error h]
      exact .failed (i + 1) (i + 1) (hE (unreachable e))
  | ok found =>
      rw [zeroFilled_ok h]
      exact .returned (i + 1) rfl

theorem peakHeight_zeroFilled :
    (peakHeight unreachable).exec (zeroFilled oracle) i =
      (peakHeight unreachable).exec oracle i := by
  have hsame : (readPeakHeight unreachable).exec (zeroFilled oracle) i =
      (readPeakHeight unreachable).exec oracle i := rfl
  simp only [peakHeight]
  rcases hread : (readPeakHeight unreachable).exec oracle i with ⟨e | answer, m⟩
  · rw [Fallible.exec_bind_of_error hread, Fallible.exec_bind_of_error (hsame.trans hread)]
  · rw [Fallible.exec_bind_of_ok hread, Fallible.exec_bind_of_ok (hsame.trans hread)]
    cases answer with
    | none => rfl
    | some peak => rfl

theorem peakHeight_agree (hE : ∀ e, E e e) :
    Fallible.Agree E Eq ((peakHeight unreachable).exec oracle i)
      ((peakHeight unreachable).exec (zeroFilled oracle) i) := by
  rw [peakHeight_zeroFilled]
  exact .refl hE _

theorem readDistributor_agree (hE : ∀ e, E e e) :
    Fallible.Agree E Eq ((readDistributor unreachable id).exec oracle i)
      ((readDistributor unreachable id).exec (zeroFilled oracle) i) :=
  .refl hE ((oracle i (.discoverDistributor id)).mapError unreachable, i + 1)

end Reads

end DigAccount
