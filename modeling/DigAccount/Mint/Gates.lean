import DigAccount.Chain.Node
import DigAccount.Foundation.Ancestry
import DigAccount.Mint.StoreLaunch
import Mathlib.Data.List.Permutation

namespace DigAccount

open Validator

inductive SExp (NodePtr : Type) where
  | atom
  | pair (first rest : NodePtr)

structure StandardSolution (NodePtr : Type) where
  delegatedPuzzle : NodePtr

class SpendContext where
  NodePtr : Type
  alloc : Program → Except String NodePtr
  extractStandard : NodePtr → Except String (StandardSolution NodePtr)
  sexp : NodePtr → SExp NodePtr
  smallNumber : NodePtr → Option Nat

section QuoteForm

variable [SpendContext]

open SpendContext

def isQuoteForm (delegatedPuzzle : NodePtr) : Bool :=
  match sexp delegatedPuzzle with
  | .pair operator _ => smallNumber operator = some 1
  | .atom => false

def requireQuoteFormSpend (walletPuzzleHash : Bytes32) (spend : CoinSpend) :
    Except MintError Unit :=
  if spend.coin.puzzleHash ≠ walletPuzzleHash then .ok ()
  else do
    let solution ← (alloc spend.solution).mapError
      fun e => .build s!"wallet spend solution: {e}"
    let solution ← (extractStandard solution).mapError
      fun e => .build s!"wallet spend solution shape: {e}"
    refuseWhen (¬ isQuoteForm solution.delegatedPuzzle) (.refused
      ("a wallet spend whose delegated puzzle is not quote-form; the signed message would pin " ++
        "a solution-malleable puzzle rather than exact conditions"))

def requireQuoteFormWalletSpends (coinSpends : List CoinSpend) (walletPuzzleHash : Bytes32) :
    Except MintError Unit :=
  each (requireQuoteFormSpend walletPuzzleHash) coinSpends

end QuoteForm

section NamedRoots

variable [CoinHash] {n : Nat}

def spentIds (coinSpends : List CoinSpend) : List Bytes32 :=
  coinSpends.map fun spend => coinId spend.coin

def rootIds (coinSpends : List CoinSpend) : Finset Bytes32 :=
  (spentIds (bundleRoots coinSpends)).toFinset

def gateNamedRoots (refusal : Nat → MintError) (permittedRoots : Vector Bytes32 n)
    (coinSpends : List CoinSpend) : Except MintError Unit :=
  refuseWhen (rootIds coinSpends ≠ permittedRoots.toList.toFinset)
    (refusal (rootIds coinSpends).card)

def gateRewardDistributorRefillRoots (coinSpends : List CoinSpend)
    (permittedRoots : Vector Bytes32 4) : Except MintError Unit :=
  gateNamedRoots .refillUnexpectedRoots permittedRoots coinSpends

def gateRewardDistributorClawbackRoots (coinSpends : List CoinSpend)
    (permittedRoots : Vector Bytes32 5) : Except MintError Unit :=
  gateNamedRoots .clawbackUnexpectedRoots permittedRoots coinSpends

end NamedRoots

section DistributorLaunch

variable [CoinHash] [SpendContext] (wallet : WalletKey) (network : MintNetwork)
  (securityPublicKey : Bytes32)

def gateLaunchRequirement : RequiredSignature → Except MintError Unit
  | .bls publicKey _ domainString => do
      refuseWhen (publicKey ≠ wallet.publicKey ∧ publicKey ≠ securityPublicKey) (.refused
        ("a signature under a key that is neither this profile's wallet key nor the launch's " ++
          "own security coin key"))
      refuseWhen (domainString ≠ some network.aggSigMe) (.refused
        ("a signature that is not AGG_SIG_ME (a distributor launch never signs an unbound " ++
          "message)"))
  | .secp =>
      .error (.refused
        "a secp signature requirement, which a distributor launch never produces")

def gateRewardDistributorLaunch (coinSpends : List CoinSpend) (required : List RequiredSignature)
    (permittedRoots : Vector Bytes32 2) : Except MintError Unit := do
  each (gateLaunchRequirement wallet network securityPublicKey) required
  requireQuoteFormWalletSpends coinSpends wallet.puzzleHash
  gateNamedRoots (fun roots => .refused
    (s!"the bundle spends {roots} pre-existing coins; a distributor launch spends exactly the " ++
      "two this mint named")) permittedRoots coinSpends

end DistributorLaunch

section Lineage

variable [CoinHash]

def DescendsFrom (coinSpends : List CoinSpend) : CoinSpend → CoinSpend → Prop :=
  Ancestry.Descends (coinId ∘ CoinSpend.coin) (Coin.parentCoinInfo ∘ CoinSpend.coin) coinSpends

structure AdmitsOnly (permitted : List Bytes32) (coinSpends : List CoinSpend) : Prop where
  descends : ∀ spend ∈ coinSpends, ∃ root ∈ bundleRoots coinSpends,
    coinId root.coin ∈ permitted ∧ DescendsFrom coinSpends root spend
  spent : ∀ id ∈ permitted, id ∈ rootIds coinSpends

theorem bundleRoots_eq (coinSpends : List CoinSpend) :
    bundleRoots coinSpends = Ancestry.roots (coinId ∘ CoinSpend.coin)
      (Coin.parentCoinInfo ∘ CoinSpend.coin) coinSpends := rfl

theorem mem_bundleRoots {coinSpends : List CoinSpend} {spend : CoinSpend} :
    spend ∈ bundleRoots coinSpends ↔
      spend ∈ coinSpends ∧ spend.coin.parentCoinInfo ∉ spentIds coinSpends := by
  rw [bundleRoots_eq]
  exact Ancestry.mem_roots

theorem mem_rootIds {coinSpends : List CoinSpend} {id : Bytes32} :
    id ∈ rootIds coinSpends ↔ ∃ root ∈ bundleRoots coinSpends, coinId root.coin = id := by
  rw [rootIds, List.mem_toFinset, spentIds, List.mem_map]

theorem admitsOnly_of_rootIds
    (hacyclic : Ancestry.Acyclic (coinId : Coin → Bytes32) Coin.parentCoinInfo)
    {permitted : List Bytes32} {coinSpends : List CoinSpend}
    (hroots : rootIds coinSpends = permitted.toFinset) : AdmitsOnly permitted coinSpends := by
  constructor
  · intro spend hspend
    obtain ⟨root, hroot, hdescends⟩ :=
      Ancestry.exists_root (hacyclic.comap CoinSpend.coin) hspend
    have hid : coinId root.coin ∈ rootIds coinSpends := mem_rootIds.2 ⟨root, hroot, rfl⟩
    rw [hroots, List.mem_toFinset] at hid
    exact ⟨root, hroot, hid, hdescends⟩
  · intro id hid
    rw [hroots, List.mem_toFinset]
    exact hid

theorem bundleRoots_added
    (hacyclic : Ancestry.Acyclic (coinId : Coin → Bytes32) Coin.parentCoinInfo)
    {added : CoinSpend} {coinSpends extended : List CoinSpend}
    (horphan : added.coin.parentCoinInfo ∉ spentIds coinSpends)
    (hextended : extended.Perm (added :: coinSpends)) :
    (bundleRoots extended).Perm (added :: (bundleRoots coinSpends).filter
      fun root => root.coin.parentCoinInfo ≠ coinId added.coin) := by
  have hperm : (bundleRoots extended).Perm (Ancestry.roots (coinId ∘ CoinSpend.coin)
      (Coin.parentCoinInfo ∘ CoinSpend.coin) (added :: coinSpends)) :=
    Ancestry.roots_perm hextended
  rw [Ancestry.roots_cons] at hperm
  · exact hperm
  · rw [List.map_cons, List.mem_cons, not_or]
    exact ⟨hacyclic.parent_ne added.coin, horphan⟩

theorem added_mem_rootIds
    (hacyclic : Ancestry.Acyclic (coinId : Coin → Bytes32) Coin.parentCoinInfo)
    {added : CoinSpend} {coinSpends extended : List CoinSpend}
    (horphan : added.coin.parentCoinInfo ∉ spentIds coinSpends)
    (hextended : extended.Perm (added :: coinSpends)) : coinId added.coin ∈ rootIds extended := by
  have hroot : added ∈ bundleRoots extended :=
    (bundleRoots_added hacyclic horphan hextended).mem_iff.2 List.mem_cons_self
  exact mem_rootIds.2 ⟨added, hroot, rfl⟩

end Lineage

section Verdicts

variable [CoinHash] {wallet : WalletKey} {network : MintNetwork}

theorem gateRoot_ok {coinSpends : List CoinSpend} :
    gateRoot wallet coinSpends = .ok () ↔
      ∃ only, bundleRoots coinSpends = [only] ∧ only.coin.puzzleHash = wallet.puzzleHash := by
  rw [gateRoot]
  split
  next only hroots =>
    rw [hroots, refuseWhen_ok, not_not]
    constructor
    · intro hown
      exact ⟨only, rfl, hown⟩
    · rintro ⟨other, hother, hown⟩
      cases hother
      exact hown
  next roots hroots =>
    constructor
    · intro h
      cases h
    · rintro ⟨only, honly, -⟩
      exact absurd honly (hroots only)

theorem gateLaunchRoots_ok {coinSpends : List CoinSpend} {didCoinId : Bytes32}
    (h : gateLaunchRoots wallet coinSpends didCoinId = .ok ()) :
    ∃ did own, (bundleRoots coinSpends).Perm [did, own] ∧ coinId did.coin = didCoinId ∧
      own.coin.puzzleHash = wallet.puzzleHash := by
  rw [gateLaunchRoots] at h
  split at h
  next first second hroots =>
    rw [hroots]
    by_cases hfirst : coinId first.coin = didCoinId
    · simp only [hfirst, if_true, refuseWhen_ok, not_not] at h
      exact ⟨first, second, .refl _, hfirst, h⟩
    · by_cases hsecond : coinId second.coin = didCoinId
      · simp only [hfirst, hsecond, if_true, if_false, refuseWhen_ok, not_not] at h
        exact ⟨second, first, .swap _ _ _, hsecond, h⟩
      · simp only [hfirst, hsecond, if_false, reduceCtorEq] at h
  next => cases h

theorem gateLaunchRoots_of_perm {coinSpends : List CoinSpend} {didCoinId : Bytes32}
    {did own : CoinSpend} (hroots : (bundleRoots coinSpends).Perm [did, own])
    (hdid : coinId did.coin = didCoinId) (hother : coinId own.coin ≠ didCoinId)
    (hown : own.coin.puzzleHash = wallet.puzzleHash) :
    gateLaunchRoots wallet coinSpends didCoinId = .ok () := by
  rw [gateLaunchRoots]
  rcases List.perm_pair.1 hroots with hpair | hpair
  · simp only [hpair, hdid, if_true, refuseWhen_ok, not_not]
    exact hown
  · simp only [hpair, hdid, hother, if_true, if_false, refuseWhen_ok, not_not]
    exact hown

theorem gateNamedRoots_ok {n : Nat} {refusal : Nat → MintError}
    {permittedRoots : Vector Bytes32 n} {coinSpends : List CoinSpend} :
    gateNamedRoots refusal permittedRoots coinSpends = .ok () ↔
      rootIds coinSpends = permittedRoots.toList.toFinset := by
  rw [gateNamedRoots, refuseWhen_ok, not_not]

omit [CoinHash] in
theorem gateRequirement_ok {refusals : SignatureRefusals MintError}
    {requirement : RequiredSignature} :
    gateRequirement wallet refusals network requirement = .ok () ↔
      ∃ message, requirement = .bls wallet.publicKey message (some network.aggSigMe) := by
  cases requirement with
  | bls publicKey message domainString =>
      simp [gateRequirement]
  | secp => simp [gateRequirement]

omit [CoinHash] in
theorem gateLaunchRequirement_ok {securityPublicKey : Bytes32} {requirement : RequiredSignature} :
    gateLaunchRequirement wallet network securityPublicKey requirement = .ok () ↔
      ∃ publicKey message, requirement = .bls publicKey message (some network.aggSigMe) ∧
        (publicKey = wallet.publicKey ∨ publicKey = securityPublicKey) := by
  cases requirement with
  | bls publicKey message domainString =>
      rw [gateLaunchRequirement, andThen_ok, refuseWhen_ok, refuseWhen_ok, not_and_or, not_not,
        not_not, not_not]
      constructor
      · rintro ⟨hkey, hdomain⟩
        exact ⟨publicKey, message, by rw [hdomain], hkey⟩
      · rintro ⟨key, signed, hsame, hkey⟩
        cases hsame
        exact ⟨hkey, rfl⟩
  | secp => simp [gateLaunchRequirement]

end Verdicts

theorem perm_pair_of_mem {α : Type} {xs : List α} {a b x y : α} (h : xs.Perm [a, b])
    (hx : x ∈ xs) (hy : y ∈ xs) (hne : x ≠ y) : xs.Perm [x, y] := by
  rcases List.mem_pair.1 (h.mem_iff.1 hx) with rfl | rfl
  · rcases List.mem_pair.1 (h.mem_iff.1 hy) with rfl | rfl
    · exact absurd rfl hne
    · exact h
  · rcases List.mem_pair.1 (h.mem_iff.1 hy) with rfl | rfl
    · exact h.trans (.swap _ _ _)
    · exact absurd rfl hne

inductive PreSigningGate where
  | didMint
  | storeLaunch (didCoinId : Bytes32)
  | distributorLaunch (securityPublicKey : Bytes32) (permittedRoots : Vector Bytes32 2)
  | distributorRefill (permittedRoots : Vector Bytes32 4)
  | distributorClawback (permittedRoots : Vector Bytes32 5)

namespace PreSigningGate

section Rules

variable [CoinHash] (wallet : WalletKey) (network : MintNetwork)

def run [SpendContext] (coinSpends : List CoinSpend) (required : List RequiredSignature) :
    PreSigningGate → Except MintError Unit
  | didMint => gateDidMint wallet network coinSpends required
  | storeLaunch didCoinId => gateStoreLaunch wallet network coinSpends required didCoinId
  | distributorLaunch securityPublicKey permittedRoots =>
      gateRewardDistributorLaunch wallet network securityPublicKey coinSpends required
        permittedRoots
  | distributorRefill permittedRoots =>
      gateRewardDistributorRefillRoots coinSpends permittedRoots
  | distributorClawback permittedRoots =>
      gateRewardDistributorClawbackRoots coinSpends permittedRoots

def Permits (coinSpends : List CoinSpend) (permitted : List Bytes32) : PreSigningGate → Prop
  | didMint => ∃ own ∈ coinSpends, own.coin.puzzleHash = wallet.puzzleHash ∧
      permitted = [coinId own.coin]
  | storeLaunch didCoinId => ∃ own ∈ coinSpends, own.coin.puzzleHash = wallet.puzzleHash ∧
      permitted = [didCoinId, coinId own.coin]
  | distributorLaunch _ permittedRoots => permitted = permittedRoots.toList
  | distributorRefill permittedRoots => permitted = permittedRoots.toList
  | distributorClawback permittedRoots => permitted = permittedRoots.toList

def Signs (requirement : RequiredSignature) : PreSigningGate → Prop
  | didMint | storeLaunch _ =>
      ∃ message, requirement = .bls wallet.publicKey message (some network.aggSigMe)
  | distributorLaunch securityPublicKey _ =>
      ∃ publicKey message, requirement = .bls publicKey message (some network.aggSigMe) ∧
        (publicKey = wallet.publicKey ∨ publicKey = securityPublicKey)
  | distributorRefill _ | distributorClawback _ => True

def Adopts (coinSpends : List CoinSpend) (added : CoinSpend) : PreSigningGate → Prop
  | didMint => added.coin.puzzleHash = wallet.puzzleHash ∧
      ∀ root ∈ bundleRoots coinSpends, root.coin.parentCoinInfo = coinId added.coin
  | storeLaunch didCoinId => added.coin.puzzleHash = wallet.puzzleHash ∧
      (∃ root ∈ bundleRoots coinSpends, root.coin.parentCoinInfo = coinId added.coin) ∧
      ∃ root ∈ bundleRoots coinSpends, coinId root.coin = didCoinId ∧
        root.coin.parentCoinInfo ≠ coinId added.coin
  | distributorLaunch _ _ | distributorRefill _ | distributorClawback _ => False

end Rules

section Accepted

variable [CoinHash] [SpendContext] {wallet : WalletKey} {network : MintNetwork}
  {coinSpends : List CoinSpend} {required : List RequiredSignature}

theorem rootIds_of_run {gate : PreSigningGate}
    (h : gate.run wallet network coinSpends required = .ok ()) :
    ∃ permitted, gate.Permits wallet coinSpends permitted ∧
      rootIds coinSpends = permitted.toFinset := by
  cases gate with
  | didMint =>
      obtain ⟨only, honly, hown⟩ := gateRoot_ok.1 (andThen_ok.1 h).2
      have hmem : only ∈ coinSpends := (mem_bundleRoots.1 (honly ▸ List.mem_singleton_self _)).1
      refine ⟨_, ⟨only, hmem, hown, rfl⟩, ?_⟩
      rw [rootIds, honly]
      rfl
  | storeLaunch didCoinId =>
      obtain ⟨did, own, hroots, hdid, hown⟩ := gateLaunchRoots_ok (andThen_ok.1 h).2
      have hmem : own ∈ coinSpends := (mem_bundleRoots.1 (hroots.mem_iff.2 (by simp))).1
      refine ⟨_, ⟨own, hmem, hown, rfl⟩, ?_⟩
      rw [rootIds, spentIds, List.toFinset_eq_of_perm _ _ (hroots.map _), ← hdid]
      rfl
  | distributorLaunch securityPublicKey permittedRoots =>
      have hroots := (andThen_ok.1 (andThen_ok.1 h).2).2
      exact ⟨_, rfl, gateNamedRoots_ok.1 hroots⟩
  | distributorRefill permittedRoots => exact ⟨_, rfl, gateNamedRoots_ok.1 h⟩
  | distributorClawback permittedRoots => exact ⟨_, rfl, gateNamedRoots_ok.1 h⟩

theorem signs_of_run {gate : PreSigningGate}
    (h : gate.run wallet network coinSpends required = .ok ()) :
    ∀ requirement ∈ required, gate.Signs wallet network requirement := by
  intro requirement hmem
  cases gate with
  | didMint => exact gateRequirement_ok.1 (each_ok.1 (andThen_ok.1 h).1 requirement hmem)
  | storeLaunch didCoinId =>
      exact gateRequirement_ok.1 (each_ok.1 (andThen_ok.1 h).1 requirement hmem)
  | distributorLaunch securityPublicKey permittedRoots =>
      exact gateLaunchRequirement_ok.1 (each_ok.1 (andThen_ok.1 h).1 requirement hmem)
  | distributorRefill permittedRoots => exact trivial
  | distributorClawback permittedRoots => exact trivial

end Accepted

section Added

variable [CoinHash] [SpendContext] {wallet : WalletKey} {network : MintNetwork}
  {coinSpends extended : List CoinSpend} {required : List RequiredSignature} {added : CoinSpend}

theorem adopts_of_didMint_run
    (hroots : (bundleRoots extended).Perm (added :: (bundleRoots coinSpends).filter
      fun root => root.coin.parentCoinInfo ≠ coinId added.coin))
    (h : didMint.run wallet network extended required = .ok ()) :
    didMint.Adopts wallet coinSpends added := by
  obtain ⟨only, honly, hown⟩ := gateRoot_ok.1 (andThen_ok.1 h).2
  rw [honly, List.singleton_perm] at hroots
  obtain ⟨rfl, hkept⟩ := List.cons.inj hroots
  refine ⟨hown, fun root hroot => ?_⟩
  simpa using List.filter_eq_nil_iff.1 hkept.symm root hroot

theorem adopts_of_storeLaunch_run {didCoinId : Bytes32}
    (hroots : (bundleRoots extended).Perm (added :: (bundleRoots coinSpends).filter
      fun root => root.coin.parentCoinInfo ≠ coinId added.coin))
    (hother : coinId added.coin ≠ didCoinId)
    (haccepted : (storeLaunch didCoinId).run wallet network coinSpends required = .ok ())
    {signatures : List RequiredSignature}
    (h : (storeLaunch didCoinId).run wallet network extended signatures = .ok ()) :
    (storeLaunch didCoinId).Adopts wallet coinSpends added := by
  obtain ⟨did, own, hpair, hdid, hown⟩ := gateLaunchRoots_ok (andThen_ok.1 h).2
  obtain ⟨_, _, hbefore, -, -⟩ := gateLaunchRoots_ok (andThen_ok.1 haccepted).2
  have hadded := hroots.symm.trans hpair
  have hmem : added ∈ [did, own] := hadded.mem_iff.1 List.mem_cons_self
  obtain rfl : added = own := by
    rcases List.mem_pair.1 hmem with rfl | rfl
    · exact absurd hdid hother
    · rfl
  have hkept := List.perm_singleton.1 (hadded.trans (.swap _ _ _)).cons_inv
  have hdidRoot : did ∈ (bundleRoots coinSpends).filter
      fun root => root.coin.parentCoinInfo ≠ coinId added.coin := by
    rw [hkept]
    exact List.mem_singleton_self did
  obtain ⟨hroot, hparent⟩ := List.mem_filter.1 hdidRoot
  refine ⟨hown, ?_, did, hroot, hdid, by simpa using hparent⟩
  -- two roots before and one kept: the added spend created the other one
  by_contra hnone
  have hall : (bundleRoots coinSpends).filter
      (fun root => root.coin.parentCoinInfo ≠ coinId added.coin) = bundleRoots coinSpends := by
    refine List.filter_eq_self.2 fun root hroot => decide_eq_true ?_
    intro hcreated
    exact hnone ⟨root, hroot, hcreated⟩
  have hlength := hbefore.length_eq
  rw [← hall, hkept] at hlength
  simp at hlength

theorem adopts_of_run {gate : PreSigningGate} {permitted : List Bytes32}
    (hacyclic : Ancestry.Acyclic (coinId : Coin → Bytes32) Coin.parentCoinInfo)
    (haccepted : gate.run wallet network coinSpends required = .ok ())
    (hpermits : gate.Permits wallet coinSpends permitted)
    (hother : coinId added.coin ∉ permitted)
    (horphan : added.coin.parentCoinInfo ∉ spentIds coinSpends)
    (hextended : extended.Perm (added :: coinSpends)) {signatures : List RequiredSignature}
    (h : gate.run wallet network extended signatures = .ok ()) :
    gate.Adopts wallet coinSpends added := by
  have hroots := bundleRoots_added hacyclic horphan hextended
  have hroot := added_mem_rootIds hacyclic horphan hextended
  -- a gate that names its roots refuses any root it did not name
  have hnamed {n : Nat} {refusal : Nat → MintError} {permittedRoots : Vector Bytes32 n}
      (hsame : permitted = permittedRoots.toList)
      (hgate : gateNamedRoots refusal permittedRoots extended = .ok ()) : False := by
    rw [gateNamedRoots_ok.1 hgate, List.mem_toFinset, ← hsame] at hroot
    exact hother hroot
  cases gate with
  | didMint => exact adopts_of_didMint_run hroots h
  | storeLaunch didCoinId =>
      obtain ⟨own, -, -, rfl⟩ := hpermits
      have hne : coinId added.coin ≠ didCoinId := by
        rintro rfl
        exact hother List.mem_cons_self
      exact adopts_of_storeLaunch_run hroots hne haccepted h
  | distributorLaunch securityPublicKey permittedRoots =>
      exact hnamed hpermits (andThen_ok.1 (andThen_ok.1 h).2).2
  | distributorRefill permittedRoots => exact hnamed hpermits h
  | distributorClawback permittedRoots => exact hnamed hpermits h

theorem run_of_adopts {gate : PreSigningGate} {permitted : List Bytes32}
    (hacyclic : Ancestry.Acyclic (coinId : Coin → Bytes32) Coin.parentCoinInfo)
    (haccepted : gate.run wallet network coinSpends required = .ok ())
    (hpermits : gate.Permits wallet coinSpends permitted)
    (hother : coinId added.coin ∉ permitted)
    (horphan : added.coin.parentCoinInfo ∉ spentIds coinSpends)
    (hextended : extended.Perm (added :: coinSpends))
    (hadopts : gate.Adopts wallet coinSpends added) :
    gate.run wallet network extended required = .ok () := by
  have hroots := bundleRoots_added hacyclic horphan hextended
  cases gate with
  | didMint =>
      obtain ⟨hown, hparent⟩ := hadopts
      have hkept : (bundleRoots coinSpends).filter
          (fun root => root.coin.parentCoinInfo ≠ coinId added.coin) = [] :=
        List.filter_eq_nil_iff.2 fun root hroot => by simpa using hparent root hroot
      rw [hkept] at hroots
      exact andThen_ok.2 ⟨(andThen_ok.1 haccepted).1,
        gateRoot_ok.2 ⟨added, List.perm_singleton.1 hroots, hown⟩⟩
  | storeLaunch didCoinId =>
      obtain ⟨hown, ⟨displaced, hdisplaced, hcreated⟩, did, hdid, hid, hkept⟩ := hadopts
      obtain ⟨own, -, -, rfl⟩ := hpermits
      obtain ⟨_, _, hbefore, -, -⟩ := gateLaunchRoots_ok (andThen_ok.1 haccepted).2
      have hne : coinId added.coin ≠ didCoinId := by
        rintro rfl
        exact hother List.mem_cons_self
      have hdiffer : displaced ≠ did := by
        rintro rfl
        exact hkept hcreated
      have hpair := perm_pair_of_mem hbefore hdisplaced hdid hdiffer
      have hfilter := hpair.filter fun root => root.coin.parentCoinInfo ≠ coinId added.coin
      have hsingle : [displaced, did].filter
          (fun root => root.coin.parentCoinInfo ≠ coinId added.coin) = [did] := by
        simp [hcreated, hkept]
      rw [hsingle] at hfilter
      have hafter := hroots.trans ((hfilter.cons added).trans (.swap _ _ _))
      exact andThen_ok.2 ⟨(andThen_ok.1 haccepted).1,
        gateLaunchRoots_of_perm hafter hid hne hown⟩
  | distributorLaunch securityPublicKey permittedRoots => exact hadopts.elim
  | distributorRefill permittedRoots => exact hadopts.elim
  | distributorClawback permittedRoots => exact hadopts.elim

end Added

end PreSigningGate

open PreSigningGate in
theorem gates_admit_named_lineages [CoinHash] [SpendContext] {wallet : WalletKey}
    {network : MintNetwork}
    (hacyclic : Ancestry.Acyclic (coinId : Coin → Bytes32) Coin.parentCoinInfo)
    {gate : PreSigningGate} {coinSpends : List CoinSpend} {required : List RequiredSignature}
    (haccepted : gate.run wallet network coinSpends required = .ok ()) :
    ∃ permitted, gate.Permits wallet coinSpends permitted ∧ AdmitsOnly permitted coinSpends ∧
      (∀ requirement ∈ required, gate.Signs wallet network requirement) ∧
      ∀ added extended, coinId added.coin ∉ permitted →
        added.coin.parentCoinInfo ∉ spentIds coinSpends → extended.Perm (added :: coinSpends) →
          (¬ gate.Adopts wallet coinSpends added → ∀ signatures, ∃ refusal,
            gate.run wallet network extended signatures = .error refusal) ∧
          (gate.Adopts wallet coinSpends added →
            gate.run wallet network extended required = .ok ()) := by
  obtain ⟨permitted, hpermits, hroots⟩ := rootIds_of_run haccepted
  refine ⟨permitted, hpermits, admitsOnly_of_rootIds hacyclic hroots, signs_of_run haccepted,
    ?_⟩
  intro added extended hother horphan hextended
  constructor
  · intro hadopts signatures
    rcases ok_or_error (gate.run wallet network extended signatures) with hok | herror
    · exact absurd
        (adopts_of_run hacyclic haccepted hpermits hother horphan hextended hok) hadopts
    · exact herror
  · exact run_of_adopts hacyclic haccepted hpermits hother horphan hextended

section Example

theorem pairHash_acyclic : letI := pairHash
    Ancestry.Acyclic (coinId : Coin → Bytes32) Coin.parentCoinInfo := by
  let _ := pairHash
  refine Ancestry.acyclic_of_lt fun coin => Nat.lt_succ_of_le ?_
  exact (Nat.left_le_pair _ _).trans (Nat.left_le_pair _ _)

def gateWallet : WalletKey := ⟨3, 5⟩

def plainSpend (coin : Coin) : CoinSpend := ⟨coin, [], []⟩

def walletRequirement : RequiredSignature := .bls gateWallet.publicKey [1] (some 7)

def grantingCoin : Coin := ⟨2, gateWallet.puzzleHash, 10⟩

def grantedCoin : Coin := letI := pairHash
  ⟨coinId grantingCoin, gateWallet.puzzleHash, 4⟩

theorem granting_coin_adopted : letI := pairHash
    Ancestry.Acyclic (coinId : Coin → Bytes32) Coin.parentCoinInfo ∧
      gateDidMint gateWallet ⟨7⟩ [plainSpend grantedCoin] [walletRequirement] = .ok () ∧
      coinId grantingCoin ∉ spentIds [plainSpend grantedCoin] ∧
      grantingCoin.parentCoinInfo ∉ spentIds [plainSpend grantedCoin] ∧
      gateDidMint gateWallet ⟨7⟩ [plainSpend grantingCoin, plainSpend grantedCoin]
        [walletRequirement] = .ok () := by
  refine ⟨pairHash_acyclic, ?_, ?_, ?_, ?_⟩ <;> decide +kernel

abbrev unreadableContext : SpendContext where
  NodePtr := Unit
  alloc _ := .error "bad encoding"
  extractStandard _ := .error "path into atom"
  sexp _ := .atom
  smallNumber _ := none

def refillCoins : List Coin := [⟨2, 50, 1⟩, ⟨2, 51, 20⟩, ⟨2, 52, 0⟩, ⟨2, 5, 30⟩]

def refillSpends : List CoinSpend := letI := pairHash
  plainSpend ⟨coinId ⟨2, 51, 20⟩, 60, 7⟩ :: refillCoins.map plainSpend

def refillRoots : Vector Bytes32 4 := letI := pairHash
  #v[coinId ⟨2, 50, 1⟩, coinId ⟨2, 51, 20⟩, coinId ⟨2, 52, 0⟩, coinId ⟨2, 5, 30⟩]

theorem gates_admit_named_lineages_of_refill :
    letI := pairHash
    letI := unreadableContext
    AdmitsOnly refillRoots.toList refillSpends ∧
      ∀ added, coinId added.coin ∉ refillRoots.toList →
        added.coin.parentCoinInfo ∉ spentIds refillSpends →
          ∃ refusal, (PreSigningGate.distributorRefill refillRoots).run gateWallet ⟨7⟩
            (added :: refillSpends) [walletRequirement] = .error refusal := by
  let _ := pairHash
  let _ := unreadableContext
  have haccepted : (PreSigningGate.distributorRefill refillRoots).run gateWallet ⟨7⟩ refillSpends
      [walletRequirement] = .ok () := by
    decide +kernel
  obtain ⟨_, rfl, hadmits, -, hadded⟩ := gates_admit_named_lineages pairHash_acyclic haccepted
  refine ⟨hadmits, fun added hother horphan => ?_⟩
  exact (hadded added _ hother horphan (.refl _)).1 id [walletRequirement]

end Example

end DigAccount
