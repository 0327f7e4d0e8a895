import DigAccount.Foundation.Latch
import DigAccount.Mint.Ceremony

namespace DigAccount

open Validator ProfileRegistry

def HostCall.pushedBundle : HostCall → Option SpendBundle
  | .chain (.push bundle) => some bundle
  | _ => none

def HostCall.IsNotPush (call : HostCall) : Prop := call.pushedBundle = none

section Asks

open Fallible HostCall

theorem onlyAsks_ensureLive : OnlyAsks IsNotPush ProfileMinter.ensureLive := by
  intro oracle i call hcall
  have hasked : ProfileMinter.ensureLive.asked oracle i = [.isLive] := rfl
  rw [hasked, List.mem_singleton] at hcall
  rw [hcall]
  rfl

theorem onlyAsks_liveWalletKey {minter : ProfileMinter} {ix : ProfileIx} :
    OnlyAsks IsNotPush (minter.liveWalletKey ix) :=
  onlyAsks_ensureLive.bind fun _ => onlyAsks_ofExcept

theorem onlyAsks_peakHeight :
    OnlyAsks (fun query => IsNotPush (.chain query)) (peakHeight MintError.chainUnreachable) := by
  refine OnlyAsks.bind (onlyAsks_mapError_query (fun _ _ => rfl) rfl) fun answer => ?_
  cases answer with
  | none => exact onlyAsks_ofExcept
  | some peak => exact onlyAsks_ofExcept

theorem onlyAsks_readCoinRecord {ε : Type} {unreachable : String → ε} {id : Bytes32} :
    OnlyAsks (fun query => IsNotPush (.chain query)) (readCoinRecord unreachable id) :=
  onlyAsks_mapError_query (fun _ _ => rfl) rfl

theorem onlyAsks_readMintedDidTip [DidEncoding] {did : MintedDid} :
    OnlyAsks (fun query => IsNotPush (.chain query)) (readMintedDidTip did) := by
  refine OnlyAsks.bind (onlyAsks_mapError_query (fun _ _ => rfl) rfl) fun tip => ?_
  cases tip with
  | none => exact onlyAsks_ofExcept
  | some tip => exact onlyAsks_ofExcept

theorem pushedBundle_of_onlyAsks {ε α : Type} {code : HostReads ε α} {oracle : HostOracle}
    {i : Nat} (h : OnlyAsks IsNotPush code) :
    (code.asked oracle i).filterMap pushedBundle = [] :=
  List.filterMap_eq_nil_iff.2 (h oracle i)

theorem asked_pushMint {bundle : SpendBundle} {oracle : Oracle} {i : Nat} :
    (pushMint bundle).asked oracle i = [.push bundle] := by
  have hquery : (pushBundle MintError.chainUnreachable bundle).asked oracle i = [.push bundle] :=
    rfl
  cases hanswer : (pushBundle MintError.chainUnreachable bundle).run oracle i with
  | error e => rw [pushMint, asked_bind_of_error hanswer, hquery]
  | ok outcome =>
      rw [pushMint, asked_bind_of_ok hanswer, hquery]
      cases outcome with
      | accepted => rfl
      | alreadyInMempool => rfl
      | rejected reason => rfl

variable [CoinHash]

theorem onlyAsks_selectFundingWithId {options : MintOptions} {reserved : List Bytes32}
    {puzzleHash : Bytes32} :
    OnlyAsks IsNotPush (selectFundingWithId options reserved puzzleHash) := by
  refine OnlyAsks.bind ?_ fun coin => onlyAsks_ofExcept
  refine OnlyAsks.bind (onlyAsks_mapError_query (fun _ _ => rfl) rfl) fun records => ?_
  refine OnlyAsks.bind onlyAsks_ofExcept fun chosen => ?_
  refine OnlyAsks.bind (onlyAsks_onChain ?_) fun confirmed => onlyAsks_ofExcept
  refine OnlyAsks.mapError ?_
  exact onlyAsks_readCoinRecord.bind fun record => onlyAsks_ofExcept

theorem onlyAsks_profileMintStatus [DidEncoding] {registry : ProfileRegistry} {ix : ProfileIx} :
    OnlyAsks (fun query => IsNotPush (.chain query)) (profileMintStatus registry ix) := by
  have hreverified {did : MintedDidRecord} {peak : Nat} :
      OnlyAsks (fun query => IsNotPush (.chain query)) (reverifiedDid did peak) := by
    refine onlyAsks_readCoinRecord.bind fun found => ?_
    split
    · exact onlyAsks_ofExcept
    · exact onlyAsks_ofExcept
  refine OnlyAsks.bind onlyAsks_ofExcept fun mint => ?_
  refine onlyAsks_peakHeight.bind fun peak => ?_
  cases mint.stage with
  | didPushed pending =>
      refine OnlyAsks.bind (onlyAsks_readCoinRecord.bind fun _ => onlyAsks_ofExcept) fun did => ?_
      cases did with
      | none => exact onlyAsks_ofExcept
      | some did => exact onlyAsks_ofExcept
  | didConfirmedStoreNotLaunched did => exact hreverified.bind fun _ => onlyAsks_ofExcept
  | storePushed did pendingStore =>
      refine hreverified.bind fun _ => ?_
      refine OnlyAsks.bind (onlyAsks_readCoinRecord.bind fun _ => onlyAsks_ofExcept)
        fun store => ?_
      cases store with
      | none => exact onlyAsks_ofExcept
      | some store => exact onlyAsks_ofExcept

variable [TransferDrivers] [MintDrivers] [Clvm] [DigDrivers] {minter : ProfileMinter}
  {ix : ProfileIx} {network : MintNetwork} {reservations : CoinReservations}

theorem onlyAsks_prepareDidMint {options : MintOptions} :
    OnlyAsks IsNotPush (minter.prepareDidMint ix network options reservations) := by
  have hcall (call : ReservationCall) : IsNotPush (.reservation call) := rfl
  refine onlyAsks_liveWalletKey.bind fun wallet => ?_
  refine OnlyAsks.bind onlyAsks_ofExcept fun ceiling => ?_
  refine OnlyAsks.bind (CoinReservations.onlyAsks_selectAndReserve hcall rfl
    fun excluded => onlyAsks_selectFundingWithId) fun funding => ?_
  refine OnlyAsks.bind (OnlyAsks.outcome ?_) fun signed => ?_
  · refine (onlyAsks_onChain onlyAsks_peakHeight).bind fun peak => ?_
    refine OnlyAsks.bind onlyAsks_ofExcept fun built => ?_
    exact onlyAsks_ensureLive.bind fun _ => onlyAsks_ofExcept.bind fun _ => onlyAsks_ofExcept
  · exact (CoinReservations.onlyAsks_orRelease hcall).bind fun _ => onlyAsks_ofExcept

theorem onlyAsks_prepareStoreLaunch [DidEncoding] {registry : ProfileRegistry} {did : MintedDid} :
    OnlyAsks IsNotPush (minter.prepareStoreLaunch registry ix did network reservations) := by
  have hcall (call : ReservationCall) : IsNotPush (.reservation call) := rfl
  refine OnlyAsks.bind onlyAsks_ofExcept fun mint => ?_
  refine OnlyAsks.bind onlyAsks_ofExcept fun seedRoot => ?_
  refine onlyAsks_liveWalletKey.bind fun wallet => ?_
  refine (onlyAsks_onChain onlyAsks_readMintedDidTip).bind fun tip => ?_
  refine OnlyAsks.bind onlyAsks_ofExcept fun pinned => ?_
  refine OnlyAsks.bind (CoinReservations.onlyAsks_selectAndReserve hcall rfl
    fun excluded => onlyAsks_selectFundingWithId) fun funding => ?_
  refine OnlyAsks.bind (OnlyAsks.outcome ?_) fun launch => ?_
  · refine (onlyAsks_onChain onlyAsks_peakHeight).bind fun peak => ?_
    exact onlyAsks_ensureLive.bind fun _ => onlyAsks_ofExcept
  · exact (CoinReservations.onlyAsks_orRelease hcall).bind fun _ => onlyAsks_ofExcept

end Asks

section Recorded

open Fallible HostCall

variable [DidEncoding]

def MintCeremony.Recorded (ceremony : MintCeremony) : Prop :=
  ∀ oracle i outcome, ceremony.run oracle i = .ok outcome →
    (ceremony.asked oracle i).filterMap pushedBundle = outcome.pushed.toList.map Pushed.bundle

theorem recorded_pure {result : Except MintError ProfileMintStatus} {registry : ProfileRegistry} :
    MintCeremony.Recorded (pure ⟨result, registry, none⟩) := by
  intro oracle i outcome hrun
  cases hrun
  rfl

theorem recorded_fail {reason : String} : MintCeremony.Recorded (.fail reason) := by
  intro oracle i outcome hrun
  cases hrun

theorem recorded_bind {α : Type} {code : HostReads String α} {next : α → MintCeremony}
    (hcode : OnlyAsks IsNotPush code) (hnext : ∀ a, MintCeremony.Recorded (next a)) :
    MintCeremony.Recorded (code >>= next) := by
  intro oracle i outcome hrun
  obtain ⟨a, hfirst, hrest⟩ := run_bind_eq_ok.1 hrun
  rw [asked_bind_of_ok hfirst, List.filterMap_append, pushedBundle_of_onlyAsks hcode,
    List.nil_append]
  exact hnext a oracle _ outcome hrest

theorem onlyAsks_afterRefusal {held : ReservationId} {pushed : Pushed} {e : MintError}
    {undone : Mutation Unit} :
    OnlyAsks IsNotPush (MintCeremony.afterRefusal held pushed e undone) := by
  have hcall (call : ReservationCall) : IsNotPush (.reservation call) := rfl
  cases undone with
  | panicked reason => exact onlyAsks_ofExcept
  | returned result registry =>
      rw [MintCeremony.afterRefusal]
      split
      · exact (CoinReservations.onlyAsks_release hcall).outcome.bind fun _ => onlyAsks_ofExcept
      · exact onlyAsks_ofExcept

theorem run_afterRefusal {held : ReservationId} {pushed : Pushed} {e : MintError}
    {result : Except AccountError Unit} {registry : ProfileRegistry} {oracle : HostOracle}
    {i : Nat} :
    (MintCeremony.afterRefusal held pushed e (.returned result registry)).run oracle i =
      .ok ⟨.error e, registry, some pushed⟩ := by
  rw [MintCeremony.afterRefusal]
  split
  · rw [run_bind_of_ok run_outcome]
    rfl
  · rfl

section Broadcast

variable {registry : ProfileRegistry} {ix : ProfileIx} {half : MintHalf} {bundle : SpendBundle}
  {held : ReservationId} {status : ProfileMintStatus}

theorem recorded_broadcast {undo : MintError → Mutation Unit} :
    (MintCeremony.broadcast registry ix half bundle held undo status).Recorded := by
  intro oracle i outcome hrun
  rw [MintCeremony.broadcast, run_bind_of_ok run_outcome] at hrun
  rw [MintCeremony.broadcast, asked_bind_of_ok run_outcome, asked_outcome, asked_onChain,
    asked_pushMint, List.filterMap_append]
  cases hanswer : (onChain (pushMint bundle)).run oracle i with
  | ok _ =>
      rw [hanswer] at hrun
      cases hrun
      rfl
  | error e =>
      rw [hanswer] at hrun
      dsimp only at hrun ⊢
      rw [pushedBundle_of_onlyAsks onlyAsks_afterRefusal]
      cases hundo : undo e with
      | panicked reason =>
          rw [hundo] at hrun
          cases hrun
      | returned result after =>
          rw [hundo, run_afterRefusal] at hrun
          cases hrun
          rfl

theorem recorded_journalThenBroadcast {journalled : Mutation Unit}
    {undo : ProfileRegistry → MintError → Mutation Unit} :
    (MintCeremony.journalThenBroadcast ix journalled half bundle held undo status).Recorded := by
  have hcall (call : ReservationCall) : IsNotPush (.reservation call) := rfl
  cases journalled with
  | panicked reason => exact recorded_fail
  | returned result registry =>
      cases result with
      | ok _ => exact recorded_broadcast
      | error e =>
          exact recorded_bind (CoinReservations.onlyAsks_release hcall).outcome
            fun _ => recorded_pure

end Broadcast

variable [CoinHash] [TransferDrivers] [MintDrivers] [Clvm] [DigDrivers] {minter : ProfileMinter}
  {registry : ProfileRegistry} {ix : ProfileIx} {network : MintNetwork}
  {reservations : CoinReservations}

theorem recorded_beginProfileMint [ProfileSchema] {seed : ProfileSeed} {options : MintOptions} :
    (minter.beginProfileMint registry ix seed network options reservations).Recorded := by
  rw [ProfileMinter.beginProfileMint]
  cases seed.root with
  | error e => exact recorded_pure
  | ok seedRoot =>
      refine recorded_bind onlyAsks_prepareDidMint.outcome fun prepared => ?_
      cases prepared with
      | error e => exact recorded_pure
      | ok prepared => exact recorded_journalThenBroadcast

theorem recorded_advanceProfileMint :
    (minter.advanceProfileMint registry ix network reservations).Recorded := by
  refine recorded_bind (onlyAsks_onChain onlyAsks_profileMintStatus).outcome fun status => ?_
  split
  · refine recorded_bind onlyAsks_prepareStoreLaunch.outcome fun prepared => ?_
    cases prepared with
    | error e => exact recorded_pure
    | ok prepared => exact recorded_journalThenBroadcast
  · exact recorded_pure

end Recorded

def Pushed.rejected (pushed : Pushed) : Bool :=
  match pushed.answer with
  | .error e => e.definitiveNo
  | .ok _ => false

def MintStage.isStorePushed : MintStage → Bool
  | .storePushed _ _ => true
  | _ => false

theorem journalledMint_ok {r : ProfileRegistry} {ix : ProfileIx}
    {mint : ProfileMintInProgress} :
    r.journalledMint ix = .ok mint ↔ r.journalAt ix = some mint := by
  rw [ProfileRegistry.journalledMint, journalAt]
  cases r.inProgress.find? fun mint => mint.ix = ix with
  | none => simp
  | some found => simp

section Effect

open Fallible

variable [DidEncoding] {r : ProfileRegistry} {ix : ProfileIx} {outcome : CeremonyOutcome}

structure PushEffect (r : ProfileRegistry) (ix : ProfileIx) (half : MintHalf)
    (mint : ProfileMintInProgress) (undone : Option ProfileMintInProgress)
    (outcome : CeremonyOutcome) : Prop where
  accepted : outcome.registry.Accepted
  elsewhere : ∀ j, j ≠ ix → outcome.registry.journalAt j = r.journalAt j
  unproven : ∀ did store, outcome.result ≠ .ok (.confirmed did store)
  pushed : ∃ push, outcome.pushed = some push ∧ push.half = half ∧ push.ix = ix ∧
    push.journalled = some mint.stage ∧
    (push.rejected = true → ∃ e, outcome.result = .error e) ∧
    outcome.registry.journalAt ix = if push.rejected then undone else some mint

structure Undoes (registry : ProfileRegistry) (ix : ProfileIx)
    (undone : Option ProfileMintInProgress) (undo : MintError → Mutation Unit) : Prop where
  kept : ∀ e, e.definitiveNo = false → undo e = .returned (.ok ()) registry
  undone : ∀ e, e.definitiveNo = true → ∃ after, undo e = .returned (.ok ()) after ∧
    after.Accepted ∧ after.journalAt ix = undone ∧
    ∀ j, j ≠ ix → after.journalAt j = registry.journalAt j

theorem broadcast_effect {registry : ProfileRegistry} {mint : ProfileMintInProgress}
    {undone : Option ProfileMintInProgress} {undo : MintError → Mutation Unit} {half : MintHalf}
    {bundle : SpendBundle} {held : ReservationId} {status : ProfileMintStatus}
    (haccepted : registry.Accepted) (hmint : registry.journalAt ix = some mint)
    (helsewhere : ∀ j, j ≠ ix → registry.journalAt j = r.journalAt j)
    (hundo : Undoes registry ix undone undo)
    (hstatus : ∀ did store, status ≠ .confirmed did store) (oracle : HostOracle) (i : Nat) :
    ∃ outcome, (MintCeremony.broadcast registry ix half bundle held undo status).run oracle i =
        .ok outcome ∧ PushEffect r ix half mint undone outcome := by
  rw [MintCeremony.broadcast, run_bind_of_ok run_outcome, hmint]
  cases hanswer : (onChain (pushMint bundle)).run oracle i with
  | ok _ =>
      refine ⟨_, rfl, haccepted, helsewhere, fun did store h => ?_, _, rfl, rfl, rfl, rfl,
        fun hno => ?_, hmint⟩
      · exact hstatus did store (Except.ok.inj h)
      · cases hno
  | error e =>
      dsimp only
      cases hno : e.definitiveNo with
      | false =>
          rw [hundo.kept e hno, run_afterRefusal]
          refine ⟨_, rfl, haccepted, helsewhere, fun did store h => ?_, _, rfl, rfl, rfl, rfl,
            fun _ => ⟨e, rfl⟩, ?_⟩
          · cases h
          · simpa only [Pushed.rejected, hno, Bool.false_eq_true, if_false] using hmint
      | true =>
          obtain ⟨after, hafter, hacc, hjournal, hother⟩ := hundo.undone e hno
          rw [hafter, run_afterRefusal]
          refine ⟨_, rfl, hacc, fun j hj => (hother j hj).trans (helsewhere j hj),
            fun did store h => ?_, _, rfl, rfl, rfl, rfl, fun _ => ⟨e, rfl⟩, ?_⟩
          · cases h
          · simpa only [Pushed.rejected, hno, if_true] using hjournal

theorem Undoes.release {registry : ProfileRegistry} {mint : ProfileMintInProgress}
    (h : registry.Accepted) (hmint : registry.journalAt ix = some mint) :
    Undoes registry ix none (registry.releaseIndexOnADefinitiveNo ix) where
  kept e hno := by rw [releaseIndexOnADefinitiveNo, hno, if_neg Bool.false_ne_true]
  undone e hno := by
    rw [releaseIndexOnADefinitiveNo, hno, if_pos rfl]
    exact h.abandonMint_journal hmint

theorem didRecordOk_ofMinted (did : MintedDid) : DidRecordOk (.ofMinted did) :=
  ⟨did.did_of_launcher, did.height_ne_zero⟩

theorem stageOk_ofMinted {did : MintedDid} {pending : PendingStoreLaunchRecord} :
    StageOk (.storePushed (.ofMinted did) pending) := by
  intro record hrecord
  rw [MintStage.mintedDids, List.mem_singleton] at hrecord
  rw [hrecord]
  exact didRecordOk_ofMinted did

theorem Undoes.rewind {registry : ProfileRegistry} {mint : ProfileMintInProgress}
    {stage : MintStage} {did : MintedDid} (h : registry.Accepted)
    (hmint : registry.journalAt ix = some (mint.setStage stage)) :
    Undoes registry ix (some (mint.setStage (.didConfirmedStoreNotLaunched (.ofMinted did))))
      (registry.rewindToAnUnlaunchedStoreOnADefinitiveNo ix did) where
  kept e hno := by
    rw [rewindToAnUnlaunchedStoreOnADefinitiveNo, hno, if_neg Bool.false_ne_true]
  undone e hno := by
    rw [rewindToAnUnlaunchedStoreOnADefinitiveNo, hno, if_pos rfl]
    have hstage : StageOk (.didConfirmedStoreNotLaunched (.ofMinted did)) := by
      intro record hrecord
      rw [MintStage.mintedDids, List.mem_singleton] at hrecord
      rw [hrecord]
      exact didRecordOk_ofMinted did
    obtain ⟨after, hok, haccepted, hjournal, hother⟩ := h.advanceMint_journal hmint hstage
    exact ⟨after, hok, haccepted, hjournal, hother⟩

theorem unlaunched_of_status [CoinHash] {oracle : Oracle} {i : Nat} {did : MintedDid}
    {mint : ProfileMintInProgress} (hmint : r.journalAt ix = some mint)
    (h : (profileMintStatus r ix).run oracle i = .ok (.didConfirmedStoreNotLaunched did)) :
    mint.stage.isStorePushed = false := by
  rw [profileMintStatus, run_bind_eq_ok] at h
  obtain ⟨found, hfound, h⟩ := h
  obtain rfl : found = mint := by
    rw [run_ofExcept, journalledMint_ok, hmint] at hfound
    exact (Option.some.inj hfound).symm
  rw [run_bind_eq_ok] at h
  obtain ⟨peak, -, h⟩ := h
  cases hstage : found.stage with
  | didPushed pending => rfl
  | didConfirmedStoreNotLaunched record => rfl
  | storePushed record pendingStore =>
      rw [hstage, MintStage.status, run_bind_eq_ok] at h
      obtain ⟨proven, -, h⟩ := h
      rw [run_bind_eq_ok] at h
      obtain ⟨store, -, h⟩ := h
      cases store with
      | none => cases h
      | some store => cases h

variable [CoinHash] [TransferDrivers] [MintDrivers] [Clvm] [DigDrivers] {minter : ProfileMinter}
  {network : MintNetwork} {reservations : CoinReservations}

inductive BeginEffect (r : ProfileRegistry) (ix : ProfileIx) : CeremonyOutcome → Prop where
  | refused (e : MintError) : BeginEffect r ix ⟨.error e, r, none⟩
  | pushed {outcome : CeremonyOutcome} (pending : PendingMintRecord) (seedRoot : Bytes32)
      (fee : Nat) (free : r.journalAt ix = none)
      (effect : PushEffect r ix .did (.withSeedRoot ix (.didPushed pending) seedRoot fee) none
        outcome) : BeginEffect r ix outcome

theorem beginProfileMint_effect [ProfileSchema] (h : r.Accepted) (seed : ProfileSeed)
    (options : MintOptions) (oracle : HostOracle) (i : Nat) :
    ∃ outcome, (minter.beginProfileMint r ix seed network options reservations).run oracle i =
      .ok outcome ∧ BeginEffect r ix outcome := by
  rw [ProfileMinter.beginProfileMint]
  cases seed.root with
  | error e => exact ⟨_, rfl, .refused e⟩
  | ok seedRoot =>
      dsimp only
      rw [run_bind_of_ok run_outcome]
      cases (minter.prepareDidMint ix network options reservations).run oracle i with
      | error e => exact ⟨_, rfl, .refused e⟩
      | ok prepared =>
          obtain ⟨⟨bundle, pending⟩, held⟩ := prepared
          dsimp only
          have hstage : StageOk (ProfileMintInProgress.withSeedRoot ix
              (.didPushed (.ofPending pending)) seedRoot options.fee).stage := by
            intro did hdid
            cases hdid
          rw [ProfileRegistry.beginSeededMint]
          rcases h.reserve_cases hstage with
            ⟨e, herror⟩ | ⟨next, hok, hnext, hfree, hmint, hother⟩
          · rw [herror, MintCeremony.journalThenBroadcast, run_bind_of_ok run_outcome]
            exact ⟨_, rfl, .refused _⟩
          · rw [hok, MintCeremony.journalThenBroadcast]
            have hunproven : ∀ did store, ProfileMintStatus.didPending pending.didCoinId ≠
                .confirmed did store := by
              intro did store h
              cases h
            obtain ⟨outcome, hrun, heffect⟩ :=
              broadcast_effect hnext hmint hother (.release hnext hmint) hunproven oracle _
            exact ⟨outcome, hrun, .pushed _ seedRoot options.fee hfree heffect⟩

theorem prepareStoreLaunch_ok {did : MintedDid} {launch : StoreLaunchBundle}
    {held : ReservationId} {oracle : HostOracle} {i : Nat}
    (h : (minter.prepareStoreLaunch r ix did network reservations).run oracle i =
      .ok (launch, held)) :
    (∃ mint, r.journalAt ix = some mint) ∧ launch.pending.didCoinId = did.coinId := by
  rw [ProfileMinter.prepareStoreLaunch, run_bind_eq_ok] at h
  obtain ⟨mint, hmint, h⟩ := h
  refine ⟨⟨mint, journalledMint_ok.1 hmint⟩, ?_⟩
  simp only [run_bind_eq_ok] at h
  obtain ⟨seedRoot, -, wallet, -, tip, -, -, -, ⟨funding, reserved⟩, -, signed, hsigned, kept,
    hkept, hlaunch⟩ := h
  rw [CoinReservations.orRelease_ok] at hkept
  rw [run_outcome, Except.ok.injEq, hkept] at hsigned
  cases hlaunch
  rw [ProfileMinter.signLaunch] at hsigned
  simp only [run_bind_eq_ok] at hsigned
  obtain ⟨peak, -, -, -, hbuilt⟩ := hsigned
  exact buildAndSignStoreLaunch_ok wallet hbuilt

inductive AdvanceEffect (r : ProfileRegistry) (ix : ProfileIx)
    (status : Except MintError ProfileMintStatus) : CeremonyOutcome → Prop where
  | waited (settled : ∀ did, status ≠ .ok (.didConfirmedStoreNotLaunched did)) :
      AdvanceEffect r ix status ⟨status, r, none⟩
  | refused (e : MintError) : AdvanceEffect r ix status ⟨.error e, r, none⟩
  | pushed {outcome : CeremonyOutcome} (mint : ProfileMintInProgress) (did : MintedDid)
      (pending : PendingStoreLaunchRecord) (journalled : r.journalAt ix = some mint)
      (confirmed : status = .ok (.didConfirmedStoreNotLaunched did))
      (unlaunched : mint.stage.isStorePushed = false) (paired : pending.didCoinId = did.coinId)
      (effect : PushEffect r ix .store (mint.setStage (.storePushed (.ofMinted did) pending))
        (some (mint.setStage (.didConfirmedStoreNotLaunched (.ofMinted did)))) outcome) :
      AdvanceEffect r ix status outcome

theorem advanceProfileMint_effect (h : r.Accepted) (oracle : HostOracle) (i : Nat) :
    ∃ outcome, (minter.advanceProfileMint r ix network reservations).run oracle i = .ok outcome ∧
      AdvanceEffect r ix ((profileMintStatus r ix).run oracle.chainSide i) outcome := by
  rw [ProfileMinter.advanceProfileMint, run_bind_of_ok run_outcome, run_onChain]
  generalize hstatus : (profileMintStatus r ix).run oracle.chainSide i = status
  split
  · rename_i did
    rw [ProfileMinter.launchStore, run_bind_of_ok run_outcome]
    cases hprepared : (minter.prepareStoreLaunch r ix did network reservations).run oracle _ with
    | error e => exact ⟨_, rfl, .refused e⟩
    | ok prepared =>
        obtain ⟨launch, held⟩ := prepared
        obtain ⟨⟨mint, hmint⟩, hpaired⟩ := prepareStoreLaunch_ok hprepared
        dsimp only
        have hstage : StageOk (.storePushed (.ofMinted did) (.ofPending launch.pending)) :=
          stageOk_ofMinted
        obtain ⟨next, hok, hnext, hmoved, hother⟩ := h.advanceMint_journal hmint hstage
        have hundo : Undoes next ix
            (some (mint.setStage (.didConfirmedStoreNotLaunched (.ofMinted did))))
            (next.rewindToAnUnlaunchedStoreOnADefinitiveNo ix did) := .rewind hnext hmoved
        rw [hok, MintCeremony.journalThenBroadcast]
        have hunproven : ∀ minted store,
            ProfileMintStatus.storePending did launch.pending.launcherId ≠
              .confirmed minted store := by
          intro minted store h
          cases h
        obtain ⟨outcome, hrun, heffect⟩ :=
          broadcast_effect hnext hmoved hother hundo hunproven oracle _
        exact ⟨outcome, hrun, .pushed mint did _ hmint rfl (unlaunched_of_status hmint hstatus)
          hpaired heffect⟩
  · rename_i hsettled
    exact ⟨_, rfl, .waited fun did => hsettled did⟩

theorem beginEffect_of_run [ProfileSchema] {seed : ProfileSeed} {options : MintOptions}
    {oracle : HostOracle} {i : Nat} (h : r.Accepted)
    (hrun : (minter.beginProfileMint r ix seed network options reservations).run oracle i =
      .ok outcome) : BeginEffect r ix outcome := by
  obtain ⟨found, hfound, heffect⟩ := beginProfileMint_effect h seed options oracle i
  rw [hrun, Except.ok.injEq] at hfound
  exact hfound ▸ heffect

theorem advanceEffect_of_run {oracle : HostOracle} {i : Nat} (h : r.Accepted)
    (hrun : (minter.advanceProfileMint r ix network reservations).run oracle i = .ok outcome) :
    AdvanceEffect r ix ((profileMintStatus r ix).run oracle.chainSide i) outcome := by
  obtain ⟨found, hfound, heffect⟩ := advanceProfileMint_effect h oracle i
  rw [hrun, Except.ok.injEq] at hfound
  exact hfound ▸ heffect

end Effect

end DigAccount
