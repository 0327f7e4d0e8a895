import DigAccount.Chain.Node
import DigAccount.Foundation.Kleene
import DigAccount.Registry.Records

namespace DigAccount

inductive AnchorVerdict where
  | verified
  | contradicted (why : String)
  | unknown (why : String)
  deriving DecidableEq, Repr

namespace AnchorVerdict

def mayPresent : AnchorVerdict → Bool
  | .contradicted _ => false
  | _ => true

def standing : AnchorVerdict → Kleene
  | .verified => .holds
  | .contradicted _ => .fails
  | .unknown _ => .unsettled

theorem standing_eq_holds {verdict : AnchorVerdict} :
    verdict.standing = .holds ↔ verdict = .verified := by
  cases verdict <;> simp [standing]

theorem standing_eq_fails {verdict : AnchorVerdict} :
    verdict.standing = .fails ↔ ∃ why, verdict = .contradicted why := by
  cases verdict <;> simp [standing]

theorem mayPresent_iff {verdict : AnchorVerdict} :
    verdict.mayPresent = true ↔ verdict.standing ≠ .fails := by
  cases verdict <;> simp [standing, mayPresent]

end AnchorVerdict

def judgeRecord (coinId : Bytes32) (claimedHeight : Nat) (half : String) :
    Except String (Option CoinRecord) → Option AnchorVerdict
  | .error e =>
      some (.unknown s!"the chain could not be asked about the {half} coin {hex32 coinId}: {e}")
  | .ok none =>
      some (.contradicted
        s!"the {half} coin {hex32 coinId} this profile names does not exist on chain")
  | .ok (some record) =>
      match record.confirmedHeight with
      | none =>
          some (.unknown (s!"this source knows the {half} coin {hex32 coinId} but not the block " ++
            "it confirmed in"))
      | some height =>
          if height ≠ claimedHeight then
            some (.contradicted
              (s!"the {half} coin {hex32 coinId} confirmed at height {height}, " ++
                s!"but this profile claims {claimedHeight}"))
          else none

def confirmCoin (coinId : Bytes32) (claimedHeight : Nat) (half : String) :
    Reads Query Answer (Option AnchorVerdict) :=
  (Reads.query (Query.coinRecord coinId)).bind fun answer =>
    .ret (judgeRecord coinId claimedHeight half answer)

def confirmStore (anchor : ProfileAnchor) : Reads Query Answer (Option AnchorVerdict) :=
  match anchor.storeCoinId with
  | some storeCoinId => confirmCoin storeCoinId anchor.storeConfirmedHeight "store"
  | none =>
      .ret (some (.unknown ("this anchor predates dig-account 0.22 and records no store coin, " ++
        "so its store half cannot be re-read")))

def combineHalves : Option AnchorVerdict → Option AnchorVerdict → AnchorVerdict
  | none, none => .verified
  | some (.contradicted why), _ => .contradicted why
  | _, some (.contradicted why) => .contradicted why
  | some other, _ => other
  | none, some other => other

def verifyAnchor (anchor : ProfileAnchor) : Reads Query Answer AnchorVerdict :=
  (confirmCoin anchor.didCoinId anchor.didConfirmedHeight "DID").bind fun did =>
    (confirmStore anchor).bind fun store => .ret (combineHalves did store)

def halfStanding : Option AnchorVerdict → Kleene
  | none => .holds
  | some verdict => verdict.standing

def answerStanding (claimedHeight : Nat) : Except String (Option CoinRecord) → Kleene
  | .error _ => .unsettled
  | .ok none => .fails
  | .ok (some record) =>
      match record.confirmedHeight with
      | none => .unsettled
      | some height => if height = claimedHeight then .holds else .fails

section Standing

variable {answer weaker : Except String (Option CoinRecord)} {claimedHeight : Nat}

def Uninformative : Except String (Option CoinRecord) → Prop
  | .error _ => True
  | .ok none => False
  | .ok (some record) => record.confirmedHeight = none

def Disagrees (claimedHeight : Nat) (answer : Except String (Option CoinRecord)) : Prop :=
  answer = .ok none ∨ ∃ record height,
    answer = .ok (some record) ∧ record.confirmedHeight = some height ∧ height ≠ claimedHeight

def Agrees (claimedHeight : Nat) (answer : Except String (Option CoinRecord)) : Prop :=
  ∃ record, answer = .ok (some record) ∧ record.confirmedHeight = some claimedHeight

theorem answerStanding_eq_unsettled :
    answerStanding claimedHeight answer = .unsettled ↔ Uninformative answer := by
  rcases answer with e | _ | ⟨coin, _ | height, spent⟩
  · simp [answerStanding, Uninformative]
  · simp [answerStanding, Uninformative]
  · simp [answerStanding, Uninformative]
  · by_cases h : height = claimedHeight <;> simp [answerStanding, Uninformative, h]

theorem answerStanding_eq_fails :
    answerStanding claimedHeight answer = .fails ↔ Disagrees claimedHeight answer := by
  rcases answer with e | _ | ⟨coin, _ | height, spent⟩
  · simp [answerStanding, Disagrees]
  · simp [answerStanding, Disagrees]
  · simp [answerStanding, Disagrees]
  · by_cases h : height = claimedHeight <;> simp [answerStanding, Disagrees, h]

theorem answerStanding_eq_holds :
    answerStanding claimedHeight answer = .holds ↔ Agrees claimedHeight answer := by
  rcases answer with e | _ | ⟨coin, _ | height, spent⟩
  · simp [answerStanding, Agrees]
  · simp [answerStanding, Agrees]
  · simp [answerStanding, Agrees]
  · by_cases h : height = claimedHeight <;> simp [answerStanding, Agrees, h]

theorem halfStanding_judgeRecord {coinId : Bytes32} {half : String} :
    halfStanding (judgeRecord coinId claimedHeight half answer) =
      answerStanding claimedHeight answer := by
  rcases answer with e | _ | ⟨coin, _ | height, spent⟩
  · rfl
  · rfl
  · rfl
  · by_cases h : height = claimedHeight <;>
      simp [judgeRecord, answerStanding, halfStanding, AnchorVerdict.standing, h]

theorem judgeRecord_ne_verified {coinId : Bytes32} {half : String} :
    judgeRecord coinId claimedHeight half answer ≠ some .verified := by
  rcases answer with e | _ | ⟨coin, _ | height, spent⟩
  · simp [judgeRecord]
  · simp [judgeRecord]
  · simp [judgeRecord]
  · by_cases h : height = claimedHeight <;> simp [judgeRecord, h]

theorem standing_combineHalves {did : Option AnchorVerdict} (hdid : did ≠ some .verified)
    (store : Option AnchorVerdict) :
    (combineHalves did store).standing = (halfStanding did).and (halfStanding store) := by
  rcases did with _ | _ | _ | _
  · rcases store with _ | _ | _ | _ <;> rfl
  · exact absurd rfl hdid
  · rcases store with _ | _ | _ | _ <;> rfl
  · rcases store with _ | _ | _ | _ <;> rfl

end Standing

section Runs

variable {anchor : ProfileAnchor} {oracle weaker : Oracle} {i : Nat}

def storeStanding (oracle : Oracle) (i : Nat) (anchor : ProfileAnchor) : Kleene :=
  match anchor.storeCoinId with
  | some storeCoinId =>
      answerStanding anchor.storeConfirmedHeight (oracle (i + 1) (.coinRecord storeCoinId))
  | none => .unsettled

theorem halfStanding_confirmStore :
    halfStanding ((confirmStore anchor).run oracle (i + 1)) = storeStanding oracle i anchor := by
  unfold confirmStore storeStanding
  cases anchor.storeCoinId with
  | none => rfl
  | some storeCoinId => exact halfStanding_judgeRecord

theorem standing_verifyAnchor :
    ((verifyAnchor anchor).run oracle i).standing =
      (answerStanding anchor.didConfirmedHeight (oracle i (.coinRecord anchor.didCoinId))).and
        (storeStanding oracle i anchor) := by
  have hstore : halfStanding ((confirmStore anchor).run oracle (i + 1)) =
      storeStanding oracle i anchor := halfStanding_confirmStore
  have hrun : (verifyAnchor anchor).run oracle i =
      combineHalves (judgeRecord anchor.didCoinId anchor.didConfirmedHeight "DID"
          (oracle i (.coinRecord anchor.didCoinId)))
        ((confirmStore anchor).run oracle (i + 1)) := by
    rw [verifyAnchor, Reads.run_bind, Reads.run_bind]
    rfl
  rw [hrun, standing_combineHalves judgeRecord_ne_verified, halfStanding_judgeRecord, hstore]

def LosesRecords (oracle weaker : Oracle) : Prop :=
  ∀ i coinId, weaker i (.coinRecord coinId) = oracle i (.coinRecord coinId) ∨
    Uninformative (weaker i (.coinRecord coinId))

theorem LosesRecords.answerStanding_le (h : LosesRecords oracle weaker) (claimedHeight : Nat)
    (coinId : Bytes32) :
    answerStanding claimedHeight (weaker i (.coinRecord coinId)) ≤
      answerStanding claimedHeight (oracle i (.coinRecord coinId)) := by
  rcases h i coinId with hsame | hlost
  · rw [hsame]
  · rw [answerStanding_eq_unsettled.2 hlost]
    exact Kleene.unsettled_le _

theorem LosesRecords.storeStanding_le (h : LosesRecords oracle weaker) :
    storeStanding weaker i anchor ≤ storeStanding oracle i anchor := by
  unfold storeStanding
  cases anchor.storeCoinId with
  | none => exact le_refl _
  | some storeCoinId => exact h.answerStanding_le _ _

theorem LosesRecords.standing_le (h : LosesRecords oracle weaker) :
    ((verifyAnchor anchor).run weaker i).standing ≤
      ((verifyAnchor anchor).run oracle i).standing := by
  rw [standing_verifyAnchor, standing_verifyAnchor]
  exact Kleene.and_le_and (h.answerStanding_le _ _) h.storeStanding_le

theorem storeStanding_eq_fails : storeStanding oracle i anchor = .fails ↔
    ∃ storeCoinId, anchor.storeCoinId = some storeCoinId ∧
      Disagrees anchor.storeConfirmedHeight (oracle (i + 1) (.coinRecord storeCoinId)) := by
  unfold storeStanding
  cases anchor.storeCoinId with
  | none => simp
  | some storeCoinId => simp [answerStanding_eq_fails]

theorem storeStanding_eq_holds : storeStanding oracle i anchor = .holds ↔
    ∃ storeCoinId, anchor.storeCoinId = some storeCoinId ∧
      Agrees anchor.storeConfirmedHeight (oracle (i + 1) (.coinRecord storeCoinId)) := by
  unfold storeStanding
  cases anchor.storeCoinId with
  | none => simp
  | some storeCoinId => simp [answerStanding_eq_holds]

theorem LosesRecords.mayPresent (h : LosesRecords oracle weaker)
    (hpresent : ((verifyAnchor anchor).run oracle i).mayPresent = true) :
    ((verifyAnchor anchor).run weaker i).mayPresent = true := by
  have hle : ((verifyAnchor anchor).run weaker i).standing ≤
      ((verifyAnchor anchor).run oracle i).standing := h.standing_le
  rw [AnchorVerdict.mayPresent_iff] at hpresent ⊢
  intro hfails
  rw [hfails] at hle
  exact hpresent (Kleene.eq_of_le_of_ne hle (by decide)).symm

theorem verifyAnchor_monotone (hloses : LosesRecords oracle weaker) :
    (((verifyAnchor anchor).run weaker i = .verified →
        (verifyAnchor anchor).run oracle i = .verified) ∧
      ((∃ why, (verifyAnchor anchor).run weaker i = .contradicted why) →
        ∃ why, (verifyAnchor anchor).run oracle i = .contradicted why)) ∧
    ((∃ why, (verifyAnchor anchor).run oracle i = .contradicted why) ↔
      Disagrees anchor.didConfirmedHeight (oracle i (.coinRecord anchor.didCoinId)) ∨
        ∃ storeCoinId, anchor.storeCoinId = some storeCoinId ∧
          Disagrees anchor.storeConfirmedHeight (oracle (i + 1) (.coinRecord storeCoinId))) ∧
    ((verifyAnchor anchor).run oracle i = .verified ↔
      Agrees anchor.didConfirmedHeight (oracle i (.coinRecord anchor.didCoinId)) ∧
        ∃ storeCoinId, anchor.storeCoinId = some storeCoinId ∧
          Agrees anchor.storeConfirmedHeight (oracle (i + 1) (.coinRecord storeCoinId))) := by
  have hle : ((verifyAnchor anchor).run weaker i).standing ≤
      ((verifyAnchor anchor).run oracle i).standing := hloses.standing_le
  refine ⟨⟨fun hverified => ?_, fun hcontradicted => ?_⟩, ?_, ?_⟩
  · have hholds := AnchorVerdict.standing_eq_holds.2 hverified
    rw [hholds] at hle
    exact AnchorVerdict.standing_eq_holds.1 (Kleene.eq_of_le_of_ne hle (by decide)).symm
  · have hfails := AnchorVerdict.standing_eq_fails.2 hcontradicted
    rw [hfails] at hle
    exact AnchorVerdict.standing_eq_fails.1 (Kleene.eq_of_le_of_ne hle (by decide)).symm
  · rw [← AnchorVerdict.standing_eq_fails, standing_verifyAnchor, Kleene.and_eq_fails,
      answerStanding_eq_fails, storeStanding_eq_fails]
  · rw [← AnchorVerdict.standing_eq_holds, standing_verifyAnchor, Kleene.and_eq_holds,
      answerStanding_eq_holds, storeStanding_eq_holds]

end Runs

section Example

def seenAnchor : ProfileAnchor where
  did := "did:chia:1seen"
  launcherId := 3
  didCoinId := 5
  didConfirmedHeight := 7
  storeLauncherId := 4
  storeConfirmedHeight := 7
  storeLaunchedFrom := some 5
  storeCoinId := some 6

def answeringRecords (answer : Except String (Option CoinRecord)) : Oracle := fun _ query =>
  match query with
  | .peakHeight => .ok (some 7)
  | .coinRecord _ => answer
  | .parentSpend _ => .ok none
  | .resolveSingletonLineage _ => .ok none
  | .walkDidLineageToTip _ => .ok none
  | .proveLineage _ _ => .error (.other "")
  | .discoverDistributor _ => .ok none
  | .fetchProfileSlots _ _ => .ok []
  | .push _ => .ok .accepted

def tipStranger : CoinRecord := ⟨⟨0, 0, 1⟩, some 7, none⟩

theorem refused_reads_verify_nothing :
    LosesRecords (answeringRecords (.ok none)) (answeringRecords (.error "connection refused")) ∧
      (verifyAnchor seenAnchor).run (answeringRecords (.error "connection refused")) 0 ≠
        .verified ∧
      ∃ why, (verifyAnchor seenAnchor).run (answeringRecords (.ok none)) 0 = .contradicted why := by
  have hloses : LosesRecords (answeringRecords (.ok none))
      (answeringRecords (.error "connection refused")) := fun _ _ => Or.inr trivial
  obtain ⟨⟨hverified, -⟩, hcontradicted, hagrees⟩ :=
    @verifyAnchor_monotone seenAnchor _ _ 0 hloses
  refine ⟨hloses, fun hholds => ?_, hcontradicted.2 (Or.inl (Or.inl rfl))⟩
  obtain ⟨⟨record, hrecord, -⟩, -⟩ := hagrees.1 (hverified hholds)
  cases hrecord

theorem stranger_at_tip_verified :
    letI := pairHash
    (verifyAnchor seenAnchor).run (answeringRecords (.ok (some tipStranger))) 0 = .verified ∧
      coinId tipStranger.coin ≠ seenAnchor.didCoinId ∧
      some (coinId tipStranger.coin) ≠ seenAnchor.storeCoinId ∧
      answeringRecords (.ok (some tipStranger)) 0 .peakHeight =
        .ok tipStranger.confirmedHeight := by
  let _ := pairHash
  refine ⟨by decide +kernel, by decide, by decide, rfl⟩

end Example

end DigAccount
