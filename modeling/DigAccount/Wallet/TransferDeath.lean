import DigAccount.Wallet.Transfer

namespace DigAccount

def givenRecord : (q : Query) × Answer q → Option CoinRecord
  | ⟨.coinRecord _, .ok found⟩ => found
  | _ => none

def recordsGiven {ε α : Type} (oracle : Oracle) (i : Nat) (reads : ChainReads ε α) :
    List CoinRecord :=
  (reads.transcript oracle i).filterMap givenRecord

variable {pending : PendingTransfer} {oracle : Oracle} {i peak : Nat} {record : CoinRecord}
  {ids : List Bytes32}

section Given

variable {ε α β : Type} {p : ChainReads ε α} {f : α → ChainReads ε β}

theorem recordsGiven_bind {a : α} (h : p.run oracle i = .ok a) :
    recordsGiven oracle i (p >>= f) =
      recordsGiven oracle i p ++ recordsGiven oracle (p.after oracle i) (f a) := by
  rw [recordsGiven, Fallible.transcript_bind_of_ok h, List.filterMap_append]
  rfl

theorem recordsGiven_readCoinRecord {unreachable : String → ε} {id : Bytes32}
    {found : Option CoinRecord} (h : oracle i (.coinRecord id) = .ok found) :
    recordsGiven oracle i (readCoinRecord unreachable id) = found.toList := by
  change [(⟨.coinRecord id, oracle i (.coinRecord id)⟩ : (q : Query) × Answer q)].filterMap
    givenRecord = found.toList
  rw [h]
  cases found <;> rfl

theorem recordsGiven_peakHeight (unreachable : String → ε)
    (h : oracle i .peakHeight = .ok (some peak)) :
    recordsGiven oracle i (peakHeight unreachable) = [] := by
  have hrun : (readPeakHeight unreachable).run oracle i = .ok (some peak) := by
    rw [run_readPeakHeight, h]
    rfl
  rw [peakHeight, recordsGiven_bind hrun]
  rfl

theorem recordsGiven_readCoinRecord_bind {unreachable : String → ε} {id : Bytes32}
    {found : Option CoinRecord} {g : Option CoinRecord → ChainReads ε β}
    (h : oracle i (.coinRecord id) = .ok found) :
    recordsGiven oracle i (readCoinRecord unreachable id >>= g) =
      found.toList ++ recordsGiven oracle (i + 1) (g found) := by
  rw [recordsGiven_bind (run_readCoinRecord_ok h), recordsGiven_readCoinRecord h,
    after_readCoinRecord]

end Given

section Death

theorem proofOfDeath_alive {id : Bytes32} {rest : List Bytes32} {found : Option CoinRecord}
    (answered : oracle i (.coinRecord id) = .ok found)
    (alive : ∀ other ∈ found, ∀ height, ¬ other.BuriedSpend peak height) :
    (proofOfDeath pending peak (id :: rest)).run oracle i =
        (proofOfDeath pending peak rest).run oracle (i + 1) ∧
      recordsGiven oracle i (proofOfDeath pending peak (id :: rest)) =
        found.toList ++ recordsGiven oracle (i + 1) (proofOfDeath pending peak rest) := by
  obtain ⟨judge, hjudge, halive, -⟩ := proofOfDeath_cons pending peak id rest
  rw [hjudge, run_readCoinRecord_bind answered, recordsGiven_readCoinRecord_bind answered,
    halive found alive]
  exact ⟨rfl, rfl⟩

theorem proofOfDeath_buried {id : Bytes32} {rest : List Bytes32} {height : Nat}
    (answered : oracle i (.coinRecord id) = .ok (some record))
    (buried : record.BuriedSpend peak height)
    (absent : oracle (i + 1) (.coinRecord pending.paymentCoinId) = .ok none) :
    (proofOfDeath pending peak (id :: rest)).run oracle i =
        .ok (some (deathNotice id height (depthOf peak height))) ∧
      recordsGiven oracle i (proofOfDeath pending peak (id :: rest)) = [record] := by
  obtain ⟨judge, hjudge, -, hburied⟩ := proofOfDeath_cons pending peak id rest
  rw [hjudge, run_readCoinRecord_bind answered, recordsGiven_readCoinRecord_bind answered,
    hburied record height buried, run_readCoinRecord_bind absent,
    recordsGiven_readCoinRecord_bind absent]
  exact ⟨rfl, rfl⟩

theorem Condemns.judged (h : Condemns oracle pending peak i ids record) :
    (∃ reason, (proofOfDeath pending peak ids).run oracle i = .ok (some reason)) ∧
      (∃ height, record.BuriedSpend peak height) ∧
      ∀ other, other ∈ recordsGiven oracle i (proofOfDeath pending peak ids) →
        (∃ height, other.BuriedSpend peak height) → other = record := by
  induction h with
  | here answered buried absent =>
      obtain ⟨hrun, hgiven⟩ := proofOfDeath_buried answered buried absent
      refine ⟨⟨_, hrun⟩, ⟨_, buried⟩, fun other hother _ => ?_⟩
      rw [hgiven] at hother
      exact List.mem_singleton.1 hother
  | later answered alive next ih =>
      obtain ⟨⟨reason, hreason⟩, hburied, honly⟩ := ih
      obtain ⟨hrun, hgiven⟩ := proofOfDeath_alive answered alive
      refine ⟨⟨reason, hrun.trans hreason⟩, hburied, fun other hother hdead => ?_⟩
      rw [hgiven, List.mem_append, Option.mem_toList] at hother
      rcases hother with hfound | hrest
      · obtain ⟨height, hheight⟩ := hdead
        exact absurd hheight (alive other hfound height)
      · exact honly other hrest hdead

theorem Condemns.given (h : Condemns oracle pending peak i ids record) :
    record ∈ recordsGiven oracle i (proofOfDeath pending peak ids) := by
  induction h with
  | here answered buried absent =>
      rw [(proofOfDeath_buried answered buried absent).2]
      exact List.mem_singleton_self _
  | later answered alive next ih =>
      rw [(proofOfDeath_alive answered alive).2]
      exact List.mem_append_right _ ih

variable [CoinHash]

def WitnessedDeath (oracle : Oracle) (i : Nat) (pending : PendingTransfer) : Prop :=
  ∀ reason, (transferStatus pending).run oracle i = .ok (.failed reason) →
    ∃ peak height, oracle i .peakHeight = .ok (some peak) ∧
      ∃ record ∈ recordsGiven oracle i (transferStatus pending),
        coinId record.coin ∈ pending.sourceCoinIds ∧ record.BuriedSpend peak height

def CondemnsOwnInput (oracle : Oracle) (i : Nat) (pending : PendingTransfer) : Prop :=
  ∀ peak record, oracle i .peakHeight = .ok (some peak) →
    oracle (i + 1) (.coinRecord pending.paymentCoinId) = .ok none →
    Condemns oracle pending peak (i + 2) pending.sourceCoinIds record →
      coinId record.coin ∈ pending.sourceCoinIds

theorem transferStatus_unseen (hpeak : oracle i .peakHeight = .ok (some peak))
    (hunseen : oracle (i + 1) (.coinRecord pending.paymentCoinId) = .ok none) {reason : String}
    (hdeath : (proofOfDeath pending peak pending.sourceCoinIds).run oracle (i + 2) =
      .ok (some reason)) :
    (transferStatus pending).run oracle i = .ok (.failed reason) ∧
      recordsGiven oracle i (transferStatus pending) =
        recordsGiven oracle (i + 2) (proofOfDeath pending peak pending.sourceCoinIds) := by
  have hrun : (peakHeight TransferError.chainUnreachable).run oracle i = .ok peak :=
    run_peakHeight.2 hpeak
  rw [transferStatus, Fallible.run_bind_of_ok hrun, recordsGiven_bind hrun, after_peakHeight hrun,
    recordsGiven_peakHeight _ hpeak, run_readCoinRecord_bind hunseen,
    recordsGiven_readCoinRecord_bind hunseen]
  constructor
  · exact Fallible.run_bind_of_ok hdeath
  · exact (recordsGiven_bind hdeath).trans (List.append_nil _)

theorem transfer_death_witnessed_iff :
    WitnessedDeath oracle i pending ↔ CondemnsOwnInput oracle i pending := by
  constructor
  · intro hwitnessed peak record hpeak hunseen hcondemns
    obtain ⟨⟨reason, hdeath⟩, -, honly⟩ := hcondemns.judged
    obtain ⟨hfailed, hgiven⟩ := transferStatus_unseen hpeak hunseen hdeath
    obtain ⟨peak', height, hpeak', witness, hwitness, hown, hburied⟩ := hwitnessed reason hfailed
    cases hpeak.symm.trans hpeak'
    rw [hgiven] at hwitness
    rw [← honly witness hwitness ⟨height, hburied⟩]
    exact hown
  · intro hown reason hfailed
    obtain ⟨peak, record, hpeak, hunseen, hcondemns⟩ := transferStatus_failed_condemns hfailed
    obtain ⟨⟨found, hdeath⟩, ⟨height, hburied⟩, -⟩ := hcondemns.judged
    obtain ⟨-, hgiven⟩ := transferStatus_unseen hpeak hunseen hdeath
    refine ⟨peak, height, hpeak, record, ?_, hown peak record hpeak hunseen hcondemns, hburied⟩
    rw [hgiven]
    exact hcondemns.given

end Death

section Example

def strangersRecord : CoinRecord := ⟨⟨8, 6, 100⟩, some 2, some 10⟩

def misroutingOracle : Oracle := fun _ query =>
  match query with
  | .peakHeight => .ok (some 100)
  | .coinRecord id => .ok (if id = 1 then some strangersRecord else none)
  | .parentSpend _ => .ok none
  | .resolveSingletonLineage _ => .ok none
  | .walkDidLineageToTip _ => .ok none
  | .proveLineage _ _ => .error (.other "")
  | .discoverDistributor _ => .ok none
  | .fetchProfileSlots _ _ => .ok []
  | .push _ => .ok .accepted

theorem strangers_spend_buries_transfer :
    letI := amountNames
    (transferStatus payment).run misroutingOracle 0 = .ok (.failed (deathNotice 1 10 91)) ∧
      recordsGiven misroutingOracle 0 (transferStatus payment) = [strangersRecord] ∧
      coinId strangersRecord.coin ∉ payment.sourceCoinIds ∧
      ¬ WitnessedDeath misroutingOracle 0 payment := by
  let _ := amountNames
  have hfailed : (transferStatus payment).run misroutingOracle 0 =
      .ok (.failed (deathNotice 1 10 91)) := rfl
  have hgiven : recordsGiven misroutingOracle 0 (transferStatus payment) = [strangersRecord] := rfl
  have hstranger : coinId strangersRecord.coin ∉ payment.sourceCoinIds := by decide
  refine ⟨hfailed, hgiven, hstranger, fun hwitnessed => ?_⟩
  obtain ⟨peak, height, -, record, hrecord, hown, -⟩ := hwitnessed _ hfailed
  rw [hgiven, List.mem_singleton] at hrecord
  exact hstranger (hrecord ▸ hown)

end Example

end DigAccount
