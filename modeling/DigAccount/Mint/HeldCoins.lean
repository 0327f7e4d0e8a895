import DigAccount.Mint.CeremonyRuns
import DigAccount.Wallet.Stranded

namespace DigAccount

open Desk Fallible CoinReservations HostCall

structure BegunDidMint where
  result : Except MintError (PendingMint × ReservationId)
  pushed : Option (SpendBundle × Except MintError Unit)

namespace ProfileMinter

def settleDidMint (bundle : SpendBundle) (pending : PendingMint) (held : ReservationId) :
    Except MintError Unit → HostReads String BegunDidMint
  | .ok () => pure ⟨.ok (pending, held), some (bundle, .ok ())⟩
  | .error e =>
      if e.definitiveNo then do
        let _ ← Fallible.outcome (CoinReservations.release held)
        pure ⟨.error e, some (bundle, .error e)⟩
      else pure ⟨.error e, some (bundle, .error e)⟩

variable [CoinHash] [TransferDrivers] [MintDrivers] [Clvm] [DigDrivers]

def beginDidMint (minter : ProfileMinter) (ix : ProfileIx) (network : MintNetwork)
    (options : MintOptions) (reservations : CoinReservations) : HostReads String BegunDidMint := do
  let prepared ← Fallible.outcome (minter.prepareDidMint ix network options reservations)
  match prepared with
  | .error e => pure ⟨.error e, none⟩
  | .ok ((bundle, pending), held) => do
      let answer ← Fallible.outcome (onChain (pushMint bundle))
      settleDidMint bundle pending held answer

end ProfileMinter

namespace Desk

variable {moves : Shelf → Shelf → Prop} {shelf : Shelf} {desk later : Desk}
  {reservations : CoinReservations} {id : ReservationId} {coins : List Bytes32}

def LeavesHold : HostCall → Prop
  | .chain _ => True
  | .isLive => True
  | _ => False

theorem HoldsExactly.left {call : HostCall} (hcall : LeavesHold call)
    {answered : HostAnswer call} (h : HoldsExactly moves shelf reservations id coins desk)
    (hserves : Serves moves desk call answered later) :
    HoldsExactly moves shelf reservations id coins later := by
  obtain ⟨served, hanswer, hdrift⟩ := hserves
  cases call with
  | chain query =>
      cases hanswer
      exact h.drifts hdrift
  | isLive =>
      cases hanswer
      exact h.drifts hdrift
  | reservation call => exact hcall.elim
  | nowUnix => exact hcall.elim
  | coinRecordsByPuzzleHash puzzleHash includeSpent => exact hcall.elim

theorem leavesHold_ensures {oracle : HostOracle} {ε α : Type} {p : HostReads ε α}
    (hp : OnlyAsks LeavesHold p) :
    Ensures oracle (Serves moves) (HoldsExactly moves shelf reservations id coins) p
      (fun _ => HoldsExactly moves shelf reservations id coins)
      fun _ => HoldsExactly moves shelf reservations id coins :=
  (hp.ensures fun _ hcall _ _ _ h hserves => h.left hcall hserves).imp (fun _ h => h)
    (fun _ _ h => h.1) fun _ _ h => h

end Desk

theorem onChain_leavesHold {ε α : Type} {reads : ChainReads ε α} :
    OnlyAsks LeavesHold (onChain reads) :=
  onlyAsks_onChain fun _ _ _ _ => trivial

theorem onlyAsks_isLive {P : HostCall → Prop} (hlive : P .isLive) :
    OnlyAsks P ProfileMinter.ensureLive := by
  intro oracle i call hcall
  have hasked : ProfileMinter.ensureLive.asked oracle i = [.isLive] := rfl
  rw [hasked, List.mem_singleton] at hcall
  exact hcall ▸ hlive

theorem untouched_of_untaken {oracle : HostOracle} {moves : Shelf → Shelf → Prop} {shelf : Shelf}
    {ε α : Type} {p : HostReads ε α} (hp : OnlyAsks SparesStore p) :
    Ensures oracle (Serves moves) (Untaken moves shelf) p (fun _ => Untaken moves shelf)
      fun _ => Untouched moves shelf :=
  (spares_ensures hp).imp (fun _ h => h) (fun _ _ h => h.1) fun _ _ h => h.untouched

theorem liveWalletKey_ensures {oracle : HostOracle} {moves : Shelf → Shelf → Prop} {shelf : Shelf}
    {minter : ProfileMinter} {ix : ProfileIx} :
    Ensures oracle (Serves moves) (Untaken moves shelf) (minter.liveWalletKey ix)
      (fun wallet desk => Untaken moves shelf desk ∧ wallet = minter.walletAt ix)
      fun _ => Untouched moves shelf := by
  have hlive : Ensures oracle (Serves moves) (Untaken moves shelf) ProfileMinter.ensureLive
      (fun _ => Untaken moves shelf) fun _ => Untouched moves shelf :=
    untouched_of_untaken (onlyAsks_isLive trivial)
  exact hlive.bind fun _ => ensures_pure fun _ h => ⟨h, rfl⟩

def MayLand (answer : Except MintError Unit) : Prop :=
  ∀ e, answer = .error e → e.definitiveNo = false

structure HoldFollows (moves : Shelf → Shelf → Prop) (shelf : Shelf)
    (reservations : CoinReservations) (funding : List Bytes32 → Prop)
    (answer : Option (Except MintError Unit)) (desk : Desk) : Prop where
  held : (∃ given ∈ answer, MayLand given) →
    ∃ id coins, funding coins ∧ HoldsExactly moves shelf reservations id coins desk
  released : (∀ given ∈ answer, ¬ MayLand given) → Untouched moves shelf desk

section Prepare

variable [CoinHash] {oracle : HostOracle} {moves : Shelf → Shelf → Prop} {shelf : Shelf}
  {reservations : CoinReservations}

def Funding (oracle : HostOracle) (options : MintOptions) (puzzleHash : Bytes32)
    (coins : List Bytes32) : Prop :=
  ∃ source, coins = [coinId source] ∧
    ∃ reserved i, (selectFundingCoin options reserved puzzleHash).run oracle i = .ok source

theorem chose_funding {options : MintOptions} {puzzleHash : Bytes32} {source : Coin}
    {coins : List Bytes32}
    (h : Chose oracle (selectFundingWithId options · puzzleHash) source coins) :
    Funding oracle options puzzleHash coins := by
  obtain ⟨reserved, i, hrun⟩ := h
  obtain ⟨coin, hcoin, hpure⟩ := run_bind_eq_ok.1 hrun
  cases hpure
  exact ⟨source, rfl, reserved, i, hcoin⟩

theorem selectFundingWithId_sparesStore {options : MintOptions} {puzzleHash : Bytes32}
    (reserved : List Bytes32) :
    OnlyAsks SparesStore (selectFundingWithId options reserved puzzleHash) := by
  refine OnlyAsks.bind ?_ fun coin => onlyAsks_ofExcept
  refine listing_sparesStore.bind fun records => onlyAsks_ofExcept.bind fun chosen => ?_
  exact onChain_sparesStore.bind fun _ => onlyAsks_ofExcept

omit [CoinHash] in
theorem signThenRelease_ensures {α : Type} {sign : HostReads MintError α} {id : ReservationId}
    {coins : List Bytes32} (hsign : OnlyAsks LeavesHold sign) :
    Ensures oracle (Serves moves) (HoldsExactly moves shelf reservations id coins)
      (Fallible.outcome sign >>= fun signed =>
        orRelease id signed >>= fun signed => pure (signed, id))
      (fun prepared => HoldsExactly moves shelf reservations prepared.2 coins)
      fun _ => Untouched moves shelf := by
  have hkept (result : Except MintError α) :
      Ensures oracle (Serves moves) (HoldsExactly moves shelf reservations id coins)
        (orRelease id result >>= fun signed => pure (signed, id))
        (fun prepared => HoldsExactly moves shelf reservations prepared.2 coins)
        fun _ => Untouched moves shelf :=
    orRelease_ensures.bind fun _ => ensures_pure fun _ h => h.2
  refine (leavesHold_ensures hsign).outcome.bind fun signed => ?_
  cases signed with
  | ok signed => exact hkept (.ok signed)
  | error e => exact hkept (.error e)

variable [TransferDrivers] [MintDrivers] [Clvm] [DigDrivers] {minter : ProfileMinter}
  {ix : ProfileIx} {network : MintNetwork}

theorem signDidMint_leavesHold {wallet : WalletKey} {source : Coin} {options : MintOptions} :
    OnlyAsks LeavesHold (ProfileMinter.signDidMint wallet source network options) := by
  refine onChain_leavesHold.bind fun peak => onlyAsks_ofExcept.bind fun built => ?_
  exact (onlyAsks_isLive trivial).bind fun _ => onlyAsks_ofExcept.bind fun _ => onlyAsks_ofExcept

theorem signLaunch_leavesHold [DidEncoding] {wallet : WalletKey} {tip : DidTip} {did : MintedDid}
    {funding : Coin} {seedRoot : Bytes32} {fee : Nat} :
    OnlyAsks LeavesHold (ProfileMinter.signLaunch wallet tip did funding seedRoot fee network) :=
  onChain_leavesHold.bind fun _ => (onlyAsks_isLive trivial).bind fun _ => onlyAsks_ofExcept

theorem prepareDidMint_ensures {options : MintOptions} :
    Ensures oracle (Serves moves) (Untaken moves shelf)
      (minter.prepareDidMint ix network options reservations)
      (fun prepared desk => ∃ coins, HoldsExactly moves shelf reservations prepared.2 coins desk ∧
        Funding oracle options (minter.walletAt ix).puzzleHash coins)
      fun _ => Untouched moves shelf := by
  refine liveWalletKey_ensures.bind fun wallet => ensures_given fun hwallet => ?_
  refine (untouched_of_untaken onlyAsks_ofExcept).bind fun ceiling => ?_
  refine selectAndReserve_bind selectFundingWithId_sparesStore fun source id coins hchose => ?_
  rw [hwallet] at hchose
  refine (signThenRelease_ensures signDidMint_leavesHold).imp (fun _ h => h) ?_ fun _ _ h => h
  exact fun prepared desk h => ⟨coins, h, chose_funding hchose⟩

theorem prepareStoreLaunch_ensures [DidEncoding] {registry : ProfileRegistry} {did : MintedDid} :
    Ensures oracle (Serves moves) (Untaken moves shelf)
      (minter.prepareStoreLaunch registry ix did network reservations)
      (fun prepared desk => ∃ coins, HoldsExactly moves shelf reservations prepared.2 coins desk ∧
        ∃ mint, registry.journalAt ix = some mint ∧
          Funding oracle ⟨mint.storeFee⟩ (minter.walletAt ix).puzzleHash coins)
      fun _ => Untouched moves shelf := by
  have hjournal : Ensures oracle (Serves moves) (Untaken moves shelf)
      (.ofExcept (registry.journalledMint ix))
      (fun mint desk => Untaken moves shelf desk ∧ registry.journalAt ix = some mint)
      fun _ => Untouched moves shelf := by
    refine ensures_ofExcept fun desk h => ?_
    cases hmint : registry.journalledMint ix with
    | ok mint => exact ⟨h, journalledMint_ok.1 hmint⟩
    | error e => exact h.untouched
  refine hjournal.bind fun mint => ensures_given fun hmint => ?_
  refine (untouched_of_untaken onlyAsks_ofExcept).bind fun seedRoot => ?_
  refine liveWalletKey_ensures.bind fun wallet => ensures_given fun hwallet => ?_
  refine (untouched_of_untaken onChain_sparesStore).bind fun tip => ?_
  refine (untouched_of_untaken onlyAsks_ofExcept).bind fun pinned => ?_
  refine selectAndReserve_bind selectFundingWithId_sparesStore fun source id coins hchose => ?_
  rw [hwallet] at hchose
  refine (signThenRelease_ensures signLaunch_leavesHold).imp (fun _ h => h) ?_ fun _ _ h => h
  exact fun prepared desk h => ⟨coins, h, mint, hmint, chose_funding hchose⟩

end Prepare

section Follows

variable {α : Type} {oracle : HostOracle} {moves : Shelf → Shelf → Prop} {shelf : Shelf}
  {reservations : CoinReservations} {funding : List Bytes32 → Prop} {id : ReservationId}
  {coins : List Bytes32} {answer : Option (Except MintError Unit)} {desk : Desk}

theorem HoldFollows.unpushed (h : Untouched moves shelf desk) :
    HoldFollows moves shelf reservations funding none desk := by
  refine ⟨?_, fun _ => h⟩
  rintro ⟨given, hgiven, -⟩
  cases hgiven

theorem HoldFollows.landing {given : Except MintError Unit} (hland : MayLand given)
    (hfunding : funding coins) (h : HoldsExactly moves shelf reservations id coins desk) :
    HoldFollows moves shelf reservations funding (some given) desk :=
  ⟨fun _ => ⟨id, coins, hfunding, h⟩, fun hnone => absurd hland (hnone given rfl)⟩

theorem HoldFollows.refused {e : MintError} (hno : e.definitiveNo = true)
    (h : Untouched moves shelf desk) :
    HoldFollows moves shelf reservations funding (some (.error e)) desk := by
  refine ⟨?_, fun _ => h⟩
  rintro ⟨given, hgiven, hland⟩
  cases hgiven
  have hyes := hland e rfl
  rw [hno] at hyes
  cases hyes

theorem mayLand_ok : MayLand (.ok ()) := by
  intro e h
  cases h

theorem mayLand_error {e : MintError} (h : e.definitiveNo = false) : MayLand (.error e) := by
  intro other hother
  cases hother
  exact h

theorem settleDidMint_ensures {bundle : SpendBundle} {pending : PendingMint}
    (hfunding : funding coins) (given : Except MintError Unit) :
    Ensures oracle (Serves moves) (HoldsExactly moves shelf reservations id coins)
      (ProfileMinter.settleDidMint bundle pending id given)
      (fun outcome => HoldFollows moves shelf reservations funding (outcome.pushed.map Prod.snd))
      fun _ _ => True := by
  cases given with
  | ok landed => exact ensures_pure fun desk h => .landing mayLand_ok hfunding h
  | error e =>
      rw [ProfileMinter.settleDidMint]
      split
      · rename_i hno
        refine release_ensures.outcome.bind fun released => ensures_pure fun desk h => ?_
        cases released with
        | ok freed => exact .refused hno h
        | error refused => exact .refused hno h
      · rename_i hyes
        exact ensures_pure fun desk h =>
          .landing (mayLand_error (Bool.eq_false_iff.2 hyes)) hfunding h

variable [DidEncoding]

def CeremonyOutcome.push (outcome : CeremonyOutcome) :
    Option (SpendBundle × Except MintError Unit) :=
  outcome.pushed.map fun pushed => (pushed.bundle, pushed.answer)

def Follows (moves : Shelf → Shelf → Prop) (shelf : Shelf) (reservations : CoinReservations)
    (funding : List Bytes32 → Prop) (outcome : CeremonyOutcome) (desk : Desk) : Prop :=
  HoldFollows moves shelf reservations funding (outcome.push.map Prod.snd) desk

theorem afterRefusal_ensures {pushed : Pushed} {e : MintError} {undone : Mutation Unit}
    (hfunding : funding coins) (hanswer : pushed.answer = .error e) :
    Ensures oracle (Serves moves) (HoldsExactly moves shelf reservations id coins)
      (MintCeremony.afterRefusal id pushed e undone) (Follows moves shelf reservations funding)
      fun _ _ => True := by
  have hpush (result : Except MintError ProfileMintStatus) (registry : ProfileRegistry) :
      (CeremonyOutcome.push ⟨result, registry, some pushed⟩).map Prod.snd = some (.error e) :=
    congrArg some hanswer
  cases undone with
  | panicked reason => exact ensures_fail fun _ _ => trivial
  | returned result registry =>
      rw [MintCeremony.afterRefusal]
      split
      · rename_i hno
        refine release_ensures.outcome.bind fun released => ensures_pure fun desk h => ?_
        rw [Follows, hpush]
        cases released with
        | ok freed => exact .refused hno h
        | error refused => exact .refused hno h
      · rename_i hyes
        refine ensures_pure fun desk h => ?_
        rw [Follows, hpush]
        exact .landing (mayLand_error (Bool.eq_false_iff.2 hyes)) hfunding h

theorem journalThenBroadcast_ensures {ix : ProfileIx} {journalled : Mutation Unit}
    {half : MintHalf} {bundle : SpendBundle} {undo : ProfileRegistry → MintError → Mutation Unit}
    {status : ProfileMintStatus} (hfunding : funding coins) :
    Ensures oracle (Serves moves) (HoldsExactly moves shelf reservations id coins)
      (MintCeremony.journalThenBroadcast ix journalled half bundle id undo status)
      (Follows moves shelf reservations funding) fun _ _ => True := by
  cases journalled with
  | panicked reason => exact ensures_fail fun _ _ => trivial
  | returned result registry =>
      cases result with
      | error e =>
          refine release_ensures.outcome.bind fun released => ensures_pure fun desk h => ?_
          cases released with
          | ok freed => exact .unpushed h
          | error refused => exact .unpushed h
      | ok journalled =>
          refine (leavesHold_ensures onChain_leavesHold).outcome.bind fun given => ?_
          cases given with
          | ok landed => exact ensures_pure fun desk h => .landing mayLand_ok hfunding h
          | error e => exact afterRefusal_ensures hfunding rfl

end Follows

section Answers

variable {α β : Type} {push : α → Option (SpendBundle × Except MintError Unit)}

def Answers (push : α → Option (SpendBundle × Except MintError Unit)) (call : HostReads String α) :
    Prop :=
  ∀ (oracle : HostOracle) (i : Nat) (outcome : α), call.run oracle i = .ok outcome →
    ∀ pushed ∈ push outcome, ∃ j, (pushMint pushed.1).run oracle.chainSide j = pushed.2

theorem Answers.bind {code : HostReads String β} {next : β → HostReads String α}
    (h : ∀ value, Answers push (next value)) : Answers push (code >>= next) := by
  intro oracle i outcome hrun
  obtain ⟨value, -, hrest⟩ := run_bind_eq_ok.1 hrun
  exact h value oracle _ outcome hrest

theorem answers_fail {reason : String} : Answers push (.fail reason) := by
  intro oracle i outcome hrun
  cases hrun

theorem answers_pure {outcome : α} (h : push outcome = none) : Answers push (pure outcome) := by
  intro oracle i found hrun pushed hpushed
  cases hrun
  rw [h] at hpushed
  cases hpushed

theorem answers_pushMint {bundle : SpendBundle} {next : Except MintError Unit → HostReads String α}
    (h : ∀ (answer : Except MintError Unit) (oracle : HostOracle) (i : Nat) (outcome : α),
      (next answer).run oracle i = .ok outcome → push outcome = some (bundle, answer)) :
    Answers push (Fallible.outcome (onChain (pushMint bundle)) >>= next) := by
  intro oracle i outcome hrun pushed hpushed
  obtain ⟨answer, hanswer, hrest⟩ := run_bind_eq_ok.1 hrun
  rw [run_outcome, run_onChain, Except.ok.injEq] at hanswer
  rw [h answer oracle _ outcome hrest] at hpushed
  cases hpushed
  exact ⟨i, hanswer⟩

variable [DidEncoding]

theorem run_afterRefusal_push {held : ReservationId} {pushed : Pushed} {e : MintError}
    {undone : Mutation Unit} {oracle : HostOracle} {i : Nat} {outcome : CeremonyOutcome}
    (h : (MintCeremony.afterRefusal held pushed e undone).run oracle i = .ok outcome) :
    outcome.pushed = some pushed := by
  cases undone with
  | panicked reason => cases h
  | returned result registry =>
      rw [run_afterRefusal] at h
      cases h
      rfl

theorem answers_journalThenBroadcast {ix : ProfileIx} {journalled : Mutation Unit}
    {half : MintHalf} {bundle : SpendBundle} {held : ReservationId}
    {undo : ProfileRegistry → MintError → Mutation Unit} {status : ProfileMintStatus} :
    Answers CeremonyOutcome.push
      (MintCeremony.journalThenBroadcast ix journalled half bundle held undo status) := by
  cases journalled with
  | panicked reason => exact answers_fail
  | returned result registry =>
      cases result with
      | error e => exact Answers.bind fun _ => answers_pure rfl
      | ok journalled =>
          refine answers_pushMint fun answer oracle i outcome hrun => ?_
          cases answer with
          | ok landed =>
              cases hrun
              rfl
          | error e => rw [CeremonyOutcome.push, run_afterRefusal_push hrun]; rfl

end Answers

structure FollowsPush {α : Type} (reservations : CoinReservations)
    (funding : HostOracle → List Bytes32 → Prop)
    (push : α → Option (SpendBundle × Except MintError Unit)) (call : HostReads String α) :
    Prop where
  asked : ∀ oracle i outcome, call.run oracle i = .ok outcome →
    (call.asked oracle i).filterMap pushedBundle = (push outcome).toList.map Prod.fst
  answered : Answers push call
  holds : ∀ oracle moves shelf, Ensures oracle (Serves moves) (Untaken moves shelf) call
    (fun outcome =>
      HoldFollows moves shelf reservations (funding oracle) ((push outcome).map Prod.snd))
    fun _ _ => True

theorem settleDidMint_push {bundle : SpendBundle} {pending : PendingMint} {held : ReservationId}
    {answer : Except MintError Unit} {oracle : HostOracle} {i : Nat} {outcome : BegunDidMint}
    (h : (ProfileMinter.settleDidMint bundle pending held answer).run oracle i = .ok outcome) :
    outcome.pushed = some (bundle, answer) := by
  cases answer with
  | ok landed =>
      cases h
      rfl
  | error e =>
      rw [ProfileMinter.settleDidMint] at h
      split at h
      · rw [run_bind_of_ok run_outcome] at h
        cases h
        rfl
      · cases h
        rfl

theorem settleDidMint_asksNoPush {bundle : SpendBundle} {pending : PendingMint}
    {held : ReservationId} {answer : Except MintError Unit} :
    OnlyAsks IsNotPush (ProfileMinter.settleDidMint bundle pending held answer) := by
  have hcall (call : ReservationCall) : IsNotPush (.reservation call) := rfl
  cases answer with
  | ok landed => exact onlyAsks_ofExcept
  | error e =>
      rw [ProfileMinter.settleDidMint]
      split
      · exact (onlyAsks_release hcall).outcome.bind fun _ => onlyAsks_ofExcept
      · exact onlyAsks_ofExcept

section Calls

variable [CoinHash] [TransferDrivers] [MintDrivers] [Clvm] [DigDrivers] {minter : ProfileMinter}
  {ix : ProfileIx} {network : MintNetwork} {options : MintOptions}
  {reservations : CoinReservations}

theorem beginDidMint_asked {oracle : HostOracle} {i : Nat} {outcome : BegunDidMint}
    (h : (minter.beginDidMint ix network options reservations).run oracle i = .ok outcome) :
    ((minter.beginDidMint ix network options reservations).asked oracle i).filterMap
      pushedBundle = outcome.pushed.toList.map Prod.fst := by
  rw [ProfileMinter.beginDidMint, run_bind_of_ok run_outcome] at h
  rw [ProfileMinter.beginDidMint, asked_bind_of_ok run_outcome, asked_outcome,
    List.filterMap_append, pushedBundle_of_onlyAsks onlyAsks_prepareDidMint, List.nil_append]
  cases hprepared : (minter.prepareDidMint ix network options reservations).run oracle i with
  | error e =>
      rw [hprepared] at h
      cases h
      rfl
  | ok prepared =>
      obtain ⟨⟨bundle, pending⟩, held⟩ := prepared
      rw [hprepared] at h
      dsimp only at h ⊢
      rw [run_bind_of_ok run_outcome] at h
      rw [asked_bind_of_ok run_outcome, asked_outcome, asked_onChain, asked_pushMint,
        List.filterMap_append, pushedBundle_of_onlyAsks settleDidMint_asksNoPush,
        settleDidMint_push h]
      rfl

theorem beginDidMint_follows :
    FollowsPush reservations
      (fun oracle => Funding oracle options (minter.walletAt ix).puzzleHash) BegunDidMint.pushed
      (minter.beginDidMint ix network options reservations) := by
  refine ⟨fun oracle i outcome => beginDidMint_asked, ?_, ?_⟩
  · refine Answers.bind fun prepared => ?_
    cases prepared with
    | error e => exact answers_pure rfl
    | ok prepared => exact answers_pushMint fun answer oracle i outcome => settleDidMint_push
  · intro oracle moves shelf
    refine prepareDidMint_ensures.outcome.bind fun prepared => ?_
    cases prepared with
    | error e => exact ensures_pure fun desk h => .unpushed h
    | ok prepared =>
        refine ensures_exists fun coins => ensures_given fun hfunding => ?_
        refine (leavesHold_ensures onChain_leavesHold).outcome.bind fun given => ?_
        cases given with
        | ok landed => exact settleDidMint_ensures hfunding (.ok landed)
        | error e => exact settleDidMint_ensures hfunding (.error e)

variable [DidEncoding] {registry : ProfileRegistry}

omit [CoinHash] [TransferDrivers] [MintDrivers] [Clvm] [DigDrivers] in
theorem recorded_asked {ceremony : MintCeremony} (h : ceremony.Recorded) {oracle : HostOracle}
    {i : Nat} {outcome : CeremonyOutcome} (hrun : ceremony.run oracle i = .ok outcome) :
    (ceremony.asked oracle i).filterMap pushedBundle = outcome.push.toList.map Prod.fst := by
  rw [h oracle i outcome hrun, CeremonyOutcome.push]
  cases outcome.pushed <;> rfl

theorem beginProfileMint_follows [ProfileSchema] {seed : ProfileSeed} :
    FollowsPush reservations
      (fun oracle => Funding oracle options (minter.walletAt ix).puzzleHash) CeremonyOutcome.push
      (minter.beginProfileMint registry ix seed network options reservations) := by
  refine ⟨fun oracle i outcome => recorded_asked recorded_beginProfileMint, ?_, ?_⟩
  · rw [ProfileMinter.beginProfileMint]
    cases seed.root with
    | error e => exact answers_pure rfl
    | ok seedRoot =>
        refine Answers.bind fun prepared => ?_
        cases prepared with
        | error e => exact answers_pure rfl
        | ok prepared => exact answers_journalThenBroadcast
  · intro oracle moves shelf
    rw [ProfileMinter.beginProfileMint]
    cases seed.root with
    | error e => exact ensures_pure fun desk h => .unpushed h.untouched
    | ok seedRoot =>
        refine prepareDidMint_ensures.outcome.bind fun prepared => ?_
        cases prepared with
        | error e => exact ensures_pure fun desk h => .unpushed h
        | ok prepared =>
            refine ensures_exists fun coins => ensures_given fun hfunding => ?_
            exact journalThenBroadcast_ensures hfunding

theorem launchStore_follows {did : MintedDid} :
    FollowsPush reservations
      (fun oracle coins => ∃ mint, registry.journalAt ix = some mint ∧
        Funding oracle ⟨mint.storeFee⟩ (minter.walletAt ix).puzzleHash coins) CeremonyOutcome.push
      (minter.launchStore registry ix did network reservations) := by
  refine ⟨fun oracle i outcome => recorded_asked ?_, ?_, ?_⟩
  · refine recorded_bind onlyAsks_prepareStoreLaunch.outcome fun prepared => ?_
    cases prepared with
    | error e => exact recorded_pure
    | ok prepared => exact recorded_journalThenBroadcast
  · refine Answers.bind fun prepared => ?_
    cases prepared with
    | error e => exact answers_pure rfl
    | ok prepared => exact answers_journalThenBroadcast
  · intro oracle moves shelf
    refine prepareStoreLaunch_ensures.outcome.bind fun prepared => ?_
    cases prepared with
    | error e => exact ensures_pure fun desk h => .unpushed h
    | ok prepared =>
        refine ensures_exists fun coins => ensures_given fun hfunding => ?_
        exact journalThenBroadcast_ensures hfunding

end Calls

theorem holds_follow_the_push [CoinHash] [TransferDrivers] [MintDrivers] [Clvm] [DigDrivers]
    [DidEncoding] [ProfileSchema] (minter : ProfileMinter) (registry : ProfileRegistry)
    (ix : ProfileIx) (network : MintNetwork) (reservations : CoinReservations) :
    (∀ options, FollowsPush reservations
      (fun oracle => Funding oracle options (minter.walletAt ix).puzzleHash) BegunDidMint.pushed
      (minter.beginDidMint ix network options reservations)) ∧
    (∀ seed options, FollowsPush reservations
      (fun oracle => Funding oracle options (minter.walletAt ix).puzzleHash) CeremonyOutcome.push
      (minter.beginProfileMint registry ix seed network options reservations)) ∧
    ∀ did, FollowsPush reservations
      (fun oracle coins => ∃ mint, registry.journalAt ix = some mint ∧
        Funding oracle ⟨mint.storeFee⟩ (minter.walletAt ix).puzzleHash coins) CeremonyOutcome.push
      (minter.launchStore registry ix did network reservations) :=
  ⟨fun _ => beginDidMint_follows, fun _ _ => beginProfileMint_follows, fun _ => launchStore_follows⟩

section Example

def unreleasingStore (answer : PushOutcome) : HostOracle := fun i call =>
  match call with
  | .reservation (.release _) => .error (.unavailable "unreadable")
  | other => mintingNode 20 answer i other

def payerDidMint : HostReads String BegunDidMint :=
  letI := pairHash
  letI := plainDrivers
  letI := launchingDrivers
  letI := singletonOutputs
  letI := singletonDrivers
  payerMinter.beginDidMint 0 ⟨7⟩ ⟨0⟩ ⟨300⟩

def stillHeld : Desk := letI := pairHash
  ⟨[], [(0, ⟨[coinId payerCoin], 400⟩)], 100, [0]⟩

theorem rejected_mint_still_held :
    (payerDidMint.run (unreleasingStore (.rejected "DOUBLE_SPEND")) 0).toOption.map
        BegunDidMint.result = some (.error (.rejected "DOUBLE_SPEND")) ∧
      Reads.Walk (Serves fun _ _ => False) (opened [])
        (payerDidMint.transcript (unreleasingStore (.rejected "DOUBLE_SPEND")) 0) stillHeld ∧
      stillHeld.ours ≠ (opened []).ours := by
  have hserved : PartialMachine.run Desk.serve (opened [])
      (payerDidMint.transcript (unreleasingStore (.rejected "DOUBLE_SPEND")) 0) =
        some stillHeld := by
    decide +kernel
  refine ⟨by decide +kernel, ?_, by decide⟩
  exact Reads.walk_of_run (fun _ _ _ _ => serves_of_serve) hserved

end Example

end DigAccount
