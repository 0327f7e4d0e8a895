import DigAccount.Chain.Node
import DigAccount.Chain.Singleton
import DigAccount.Foundation.Validator
import DigAccount.Registry.Records

namespace DigAccount

open Validator

structure MintNetwork where
  aggSigMe : Bytes32
  deriving DecidableEq, Repr

structure DigDataStoreMetadata where
  rootHash : Bytes32
  label : Option String
  description : Option String
  sizeBucket : Option Nat
  programHash : Option Bytes32
  deriving DecidableEq, Repr

structure DatastoreInfo where
  launcherId : Bytes32
  metadata : DigDataStoreMetadata
  ownerPuzzleHash : Bytes32
  delegatedPuzzles : List Bytes32
  deriving DecidableEq, Repr

structure Datastore where
  coin : Coin
  info : DatastoreInfo
  deriving DecidableEq, Repr

inductive RequiredSignature where
  | bls (publicKey : Bytes32) (message : Program) (domainString : Option Bytes32)
  | secp
  deriving DecidableEq, Repr

class DigDrivers [Clvm] where
  hydrate : CoinSpend → Except String Datastore
  hydrate_recreation : ∀ coinSpend store, hydrate coinSpend = .ok store →
    recreation coinSpend = some store.coin
  meltDid : Did → Bytes32 → Except String (List CoinSpend)
  meltStore : Datastore → Bytes32 → Except String (List CoinSpend)
  updateRoot : Datastore → Bytes32 → DigDataStoreMetadata → Except String (List CoinSpend)
  updateRoot_commits : ∀ store publicKey metadata coinSpends,
    updateRoot store publicKey metadata = .ok coinSpends →
      ∀ coinSpend ∈ coinSpends, coinSpend.coin = store.coin →
        ∃ next, hydrate coinSpend = .ok next ∧ next.info.metadata = metadata
  requiredSignatures : List CoinSpend → Bytes32 → Except String (List RequiredSignature)

export DigDrivers (hydrate hydrate_recreation meltDid meltStore updateRoot updateRoot_commits
  requiredSignatures)

inductive EditError where
  | chainUnreachable (reason : String)
  | rejected (reason : String)
  | noStore
  | staleOrTamperedContent
  | contentUnavailable (reason : String)
  | format (reason : String)
  | build (reason : String)
  | locked
  | refused (reason : String)
  deriving DecidableEq, Repr

def EditError.display : EditError → String
  | chainUnreachable reason => s!"chain unreachable: {reason}"
  | rejected reason => s!"the network rejected the edit: {reason}"
  | noStore => "the profile's store has no current on-chain coin"
  | staleOrTamperedContent => "profile content does not match the store's on-chain root"
  | contentUnavailable reason => s!"profile content unavailable: {reason}"
  | format reason => s!"profile format error: {reason}"
  | build reason => s!"could not build the edit spend: {reason}"
  | locked => "the account is locked"
  | refused reason => s!"the edit was refused: {reason}"

def gateStoreIdentity (wallet : WalletKey) (expectedLauncherId : Bytes32) (store : Datastore) :
    Except EditError Unit := do
  refuseWhen (store.info.ownerPuzzleHash ≠ wallet.puzzleHash) (.refused
    "the store to be recreated is owned by a puzzle hash this profile does not hold")
  refuseWhen (store.info.launcherId ≠ expectedLauncherId) (.refused
    "the store to be recreated is not the singleton this profile's anchor names")
  refuseWhen (store.info.delegatedPuzzles ≠ []) (.refused
    ("the store to be recreated carries delegated puzzles, which a DIG profile store never " ++
      "has"))

structure SignatureRefusals (ε : Type) where
  notBls : ε
  strangerKey : ε
  unbound : ε
  unsignable : ε

section Signing

variable {ε : Type} (wallet : WalletKey) (refusals : SignatureRefusals ε)

def gateRequirement (network : MintNetwork) : RequiredSignature → Except ε Unit
  | .secp => .error refusals.notBls
  | .bls publicKey _ domainString => do
      refuseWhen (publicKey ≠ wallet.publicKey) refusals.strangerKey
      refuseWhen (domainString ≠ some network.aggSigMe) refusals.unbound

def signRequirement : RequiredSignature → Except ε SignedMessage
  | .secp => .error refusals.unsignable
  | .bls _ message _ => .ok ⟨wallet.publicKey, message⟩

end Signing

section ResolveStoreTip

variable [Clvm] [DigDrivers]

def hydrateTip (creatingSpend : CoinSpend) : Except EditError Datastore :=
  (hydrate creatingSpend).mapError fun e => .format s!"store tip: {e}"

def resolveStoreTip (anchor : ProfileAnchor) : ChainReads EditError Datastore := do
  let lineage ← readSingletonLineage .chainUnreachable anchor.storeLauncherId
  match lineage with
  | none => .fail .noStore
  | some lineage => do
      let creatingSpend ← readParentSpend .chainUnreachable lineage.tip
      match creatingSpend with
      | none => .fail .noStore
      | some creatingSpend => .ofExcept (hydrateTip creatingSpend)

variable {anchor : ProfileAnchor} {oracle : Oracle} {i k : Nat}

theorem exec_resolveStoreTip_absent
    (h : oracle i (.resolveSingletonLineage anchor.storeLauncherId) = .ok none) :
    (resolveStoreTip anchor).exec oracle i = (.error .noStore, i + 1) := by
  refine Fallible.exec_bind_of_ok (a := none) (k := i + 1) ?_
  rw [exec_readSingletonLineage, h]
  rfl

theorem exec_resolveStoreTip_walked {lineage : SingletonLineage} {creatingSpend : Option CoinSpend}
    (h : oracle i (.resolveSingletonLineage anchor.storeLauncherId) = .ok (some lineage))
    (hparent : oracle (i + 1) (.parentSpend lineage.tip) = .ok creatingSpend) :
    (resolveStoreTip anchor).exec oracle i =
      (creatingSpend.elim (.error .noStore) hydrateTip, i + 2) := by
  have hread : (readSingletonLineage EditError.chainUnreachable anchor.storeLauncherId).exec
      oracle i = (.ok (some lineage), i + 1) := by
    rw [exec_readSingletonLineage, h]
    rfl
  have hserved : (readParentSpend EditError.chainUnreachable lineage.tip).exec oracle (i + 1) =
      (.ok creatingSpend, i + 2) := by
    rw [exec_readParentSpend, hparent]
    rfl
  rw [resolveStoreTip, Fallible.exec_bind_of_ok hread]
  dsimp only
  rw [Fallible.exec_bind_of_ok hserved]
  cases creatingSpend with
  | none => rfl
  | some found => rfl

inductive StoreTipRead (anchor : ProfileAnchor) (oracle : Oracle) (i : Nat) :
    Except EditError Datastore × Nat → Prop where
  | unread (reason : String) (k : Nat) :
      StoreTipRead anchor oracle i (.error (.chainUnreachable reason), k)
  | absent (h : oracle i (.resolveSingletonLineage anchor.storeLauncherId) = .ok none) :
      StoreTipRead anchor oracle i (.error .noStore, i + 1)
  | unserved (lineage : SingletonLineage)
      (walked : oracle i (.resolveSingletonLineage anchor.storeLauncherId) = .ok (some lineage))
      (parent : oracle (i + 1) (.parentSpend lineage.tip) = .ok none) :
      StoreTipRead anchor oracle i (.error .noStore, i + 2)
  | served (lineage : SingletonLineage) (creatingSpend : CoinSpend)
      (walked : oracle i (.resolveSingletonLineage anchor.storeLauncherId) = .ok (some lineage))
      (parent : oracle (i + 1) (.parentSpend lineage.tip) = .ok (some creatingSpend)) :
      StoreTipRead anchor oracle i (hydrateTip creatingSpend, i + 2)

theorem resolveStoreTip_cases :
    StoreTipRead anchor oracle i ((resolveStoreTip anchor).exec oracle i) := by
  cases hwalk : oracle i (.resolveSingletonLineage anchor.storeLauncherId) with
  | error reason =>
      have hexec : (resolveStoreTip anchor).exec oracle i =
          (.error (.chainUnreachable reason), i + 1) := by
        refine Fallible.exec_bind_of_error ?_
        rw [exec_readSingletonLineage, hwalk]
        rfl
      rw [hexec]
      exact .unread reason (i + 1)
  | ok walked =>
      cases walked with
      | none =>
          rw [exec_resolveStoreTip_absent hwalk]
          exact .absent hwalk
      | some lineage =>
          cases hparent : oracle (i + 1) (.parentSpend lineage.tip) with
          | error reason =>
              have hexec : (resolveStoreTip anchor).exec oracle i =
                  (.error (.chainUnreachable reason), i + 2) := by
                refine (Fallible.exec_bind_of_ok (a := some lineage) (k := i + 1) ?_).trans ?_
                · rw [exec_readSingletonLineage, hwalk]
                  rfl
                · refine Fallible.exec_bind_of_error ?_
                  rw [exec_readParentSpend, hparent]
                  rfl
              rw [hexec]
              exact .unread reason (i + 2)
          | ok creatingSpend =>
              rw [exec_resolveStoreTip_walked hwalk hparent]
              cases creatingSpend with
              | none => exact .unserved lineage hwalk hparent
              | some found => exact .served lineage found hwalk hparent

theorem hydrateTip_ok {creatingSpend : CoinSpend} {store : Datastore} :
    hydrateTip creatingSpend = .ok store ↔ hydrate creatingSpend = .ok store :=
  Fallible.mapError_eq_ok

theorem resolveStoreTip_ok {store : Datastore}
    (h : (resolveStoreTip anchor).exec oracle i = (.ok store, k)) :
    k = i + 2 ∧ ∃ lineage creatingSpend,
      oracle i (.resolveSingletonLineage anchor.storeLauncherId) = .ok (some lineage) ∧
      oracle (i + 1) (.parentSpend lineage.tip) = .ok (some creatingSpend) ∧
      hydrate creatingSpend = .ok store := by
  have hcases : StoreTipRead anchor oracle i ((resolveStoreTip anchor).exec oracle i) :=
    resolveStoreTip_cases
  rw [h] at hcases
  generalize hresult : ((.ok store, k) : Except EditError Datastore × Nat) = result at hcases
  cases hcases with
  | unread reason k' => cases hresult
  | absent walked => cases hresult
  | unserved lineage walked parent => cases hresult
  | served lineage creatingSpend walked parent =>
      obtain ⟨hstore, rfl⟩ := Prod.mk.inj hresult
      exact ⟨rfl, lineage, creatingSpend, walked, parent, hydrateTip_ok.1 hstore.symm⟩

theorem HonestChain.hydrated_tip [CoinHash] {chain : Chain} (honest : HonestChain chain)
    {launcherId tip : Bytes32} {n : Nat}
    (htip : lineageOf launcherId (chain.take n) = .live tip ∨
      lineageOf launcherId (chain.take n) = .melted tip)
    {creatingSpend : CoinSpend} {store : Datastore} (hmem : creatingSpend ∈ coinSpendsOf chain)
    (hcreated : tip ∈ creatingSpend.created) (hydrated : hydrate creatingSpend = .ok store) :
    coinId store.coin = tip := by
  obtain ⟨coin, hcoin, rfl⟩ := honest.creator_recreates htip hmem hcreated
  rw [hydrate_recreation creatingSpend store hydrated, Option.some.injEq] at hcoin
  rw [hcoin]

end ResolveStoreTip

section Example

@[reducible] def singletonOutputs : Clvm where
  additions coinSpend := coinSpend.solution.map fun byte => ⟨coinSpend.coin.amount, 0, byte.toNat⟩
  recreation coinSpend :=
    coinSpend.solution.head?.map fun byte => ⟨coinSpend.coin.amount, 0, byte.toNat⟩
  advertisedDistributor _ _ := none
  didState id := ⟨namedCoin id, 10, 0⟩

def byteMetadata (byte : UInt8) : DigDataStoreMetadata := ⟨byte.toNat, none, none, none, none⟩

@[reducible] def singletonDrivers : letI := singletonOutputs; DigDrivers :=
  letI := singletonOutputs
  { hydrate := fun coinSpend =>
      match coinSpend.solution.head? with
      | none => .error "no recreation"
      | some byte => .ok ⟨⟨coinSpend.coin.amount, 0, byte.toNat⟩, 20, byteMetadata byte, 0, []⟩
    hydrate_recreation := by
      intro coinSpend store h
      split at h
      · cases h
      · rename_i byte hbyte
        cases h
        exact congrArg (Option.map _) hbyte
    meltDid := fun did _ => .ok [⟨did.coin, [], []⟩]
    meltStore := fun store _ => .ok [⟨store.coin, [], []⟩]
    updateRoot := fun store _ metadata =>
      if metadata = byteMetadata (.ofNat metadata.rootHash) then
        .ok [⟨store.coin, [], [.ofNat metadata.rootHash]⟩]
      else .error "unencodable metadata"
    updateRoot_commits := by
      intro store publicKey metadata coinSpends h coinSpend hmem hcoin
      split at h
      · rename_i hbyte
        cases h
        rw [List.mem_singleton] at hmem
        subst hmem
        exact ⟨_, rfl, hbyte.symm⟩
      · cases h
    requiredSignatures := fun _ _ => .ok [] }

def profileAnchor : ProfileAnchor where
  did := "did:chia:10"
  launcherId := 10
  didCoinId := 11
  didConfirmedHeight := 1
  storeLauncherId := 20
  storeConfirmedHeight := 1
  storeLaunchedFrom := none
  storeCoinId := none

def launchedProfile : Chain :=
  [⟨[namedCoin 10, namedCoin 20], []⟩,
    ⟨[], [⟨namedCoin 10, [], [11]⟩, ⟨namedCoin 20, [], [21]⟩]⟩]

def overtakenAt (read : Nat) : Schedule where
  moment i := if i < read then 2 else 3
  forward i j h := by
    dsimp only
    split <;> split <;> omega
  pruned _ _ := False

end Example

end DigAccount
