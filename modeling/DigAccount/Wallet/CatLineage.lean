import DigAccount.Wallet.Stranded

namespace DigAccount

open CatDrivers Fallible

class CatPuzzles extends CatDrivers where
  treeHash : Node → Bytes32

open CatPuzzles

section Pins

variable [CatPuzzles]

def RevealHashes (spend : CoinSpend) : Prop :=
  ∃ puzzle, nodeFromBytes spend.puzzleReveal = .ok puzzle ∧
    treeHash puzzle = spend.coin.puzzleHash

structure Backed [CoinHash] (assetId : Bytes32) (coin : Coin) (cat : Cat CatProof)
    (parent : CoinSpend) : Prop where
  parentId : coinId parent.coin = coin.parentCoinInfo
  reveal : RevealHashes parent
  creates : ∃ puzzle solution children, nodeFromBytes parent.puzzleReveal = .ok puzzle ∧
    nodeFromBytes parent.solution = .ok solution ∧
    parseChildren parent.coin puzzle solution = .ok (some children) ∧
    cat ∈ children ∧ cat.coin = coin ∧ cat.assetId = assetId

def ChildrenNameParent [CoinHash] : Prop :=
  ∀ parent puzzle solution children,
    parseChildren parent puzzle solution = .ok (some children) →
      ∀ child ∈ children, child.coin.parentCoinInfo = coinId parent

end Pins

section Runs

variable [CoinHash] [CatPuzzles] {assetId : Bytes32} {coin : Coin} {coins : List Coin}
  {cat : Cat CatProof} {cats : List (Cat CatProof)} {parent : CoinSpend} {oracle : Oracle} {i : Nat}

theorem Backed.of_proved (hid : Function.Injective coinId) (hparse : ChildrenNameParent)
    (hreveal : RevealHashes parent) (h : proveCat assetId coin (some parent) = .ok cat) :
    Backed assetId coin cat parent := by
  obtain ⟨spend, puzzle, solution, children, hspend, hpuzzle, hsolution, hchildren, hmem, hcoin,
    hasset⟩ := proveCat_ok h
  cases hspend
  have hcreated : cat.coin = coin := hid hcoin
  refine ⟨?_, hreveal, puzzle, solution, children, hpuzzle, hsolution, hchildren, hmem, hcreated,
    hasset⟩
  rw [← hcreated]
  exact (hparse _ _ _ _ hchildren cat hmem).symm

theorem resolveLineage_backed (hid : Function.Injective coinId) (hparse : ChildrenNameParent)
    (hrun : (resolveLineage assetId coins).run oracle i = .ok cats) :
    (cats.length = coins.length ∧
      ∀ n coin cat, coins[n]? = some coin → cats[n]? = some cat →
        ∃ parent, oracle (i + n) (.parentSpend (coinId coin)) = .ok (some parent) ∧
          Backed assetId coin cat parent) ↔
    ∀ n coin parent, coins[n]? = some coin →
      oracle (i + n) (.parentSpend (coinId coin)) = .ok (some parent) → RevealHashes parent := by
  have hlength := resolveLineage_length hrun
  constructor
  · rintro ⟨-, hbacked⟩ n coin parent hcoin hparent
    have hinside : n < cats.length := hlength ▸ (List.getElem?_eq_some_iff.1 hcoin).1
    obtain ⟨served, hserved, hback⟩ :=
      hbacked n coin cats[n] hcoin (List.getElem?_eq_getElem hinside)
    rw [hparent] at hserved
    cases hserved
    exact hback.reveal
  · intro hreveals
    refine ⟨hlength, fun n coin cat hcoin hcat => ?_⟩
    obtain ⟨served, hserved, hproved⟩ := resolveLineage_proved hrun hcoin hcat
    obtain ⟨parent, _, _, _, hparent, -⟩ := proveCat_ok hproved
    rw [hparent] at hserved hproved
    exact ⟨parent, hserved, .of_proved hid hparse (hreveals n coin parent hcoin hserved) hproved⟩

end Runs

section Example

@[reducible] def revealDrivers : CatPuzzles where
  toTransferDrivers := plainDrivers
  CatProof := Unit
  Node := Program
  InnerSpend := Nat
  digAssetId := 8
  curryTreeHash assetId p2PuzzleHash := assetId + p2PuzzleHash
  nodeFromBytes program := .ok program
  parseChildren parent puzzle solution := letI := pairHash
    match puzzle with
    | [asset] => .ok (some (solution.map fun byte =>
        ⟨⟨coinId parent, asset.toNat + 5, byte.toNat⟩, asset.toNat, ()⟩))
    | _ => .ok none
  spendWithConditions _ conditions := .ok conditions.length
  spendAll inputs :=
    .ok (inputs.map fun (cat, conditions) => ⟨cat.coin, [], [UInt8.ofNat conditions]⟩)
  treeHash program := program.length

theorem revealDrivers_children : letI := pairHash; letI := revealDrivers; ChildrenNameParent := by
  let _ := pairHash
  let _ := revealDrivers
  intro parent puzzle solution children hparsed child hchild
  rcases puzzle with _ | ⟨asset, _ | ⟨second, rest⟩⟩
  · cases hparsed
  · cases hparsed
    obtain ⟨byte, -, rfl⟩ := List.mem_map.1 hchild
    rfl
  · cases hparsed

def catParent : CoinSpend := ⟨⟨0, 1, 20⟩, [8], [10]⟩

def plainParent : CoinSpend := ⟨⟨0, 0, 20⟩, [8], [10]⟩

def catChildOf (parent : CoinSpend) : Coin := letI := pairHash; ⟨coinId parent.coin, 13, 10⟩

def servingParent (parent : CoinSpend) : Oracle := fun i query =>
  match query with
  | .parentSpend _ => .ok (some parent)
  | query => payerOracle.chainSide i query

def resolvedCat (parent : CoinSpend) : letI := revealDrivers; Cat CatProof :=
  ⟨catChildOf parent, 8, ()⟩

theorem revealed_lineage_backed :
    letI := pairHash
    letI := revealDrivers
    (resolveLineage 8 [catChildOf catParent]).run (servingParent catParent) 0 =
        .ok [resolvedCat catParent] ∧
      ∃ parent, servingParent catParent 0 (.parentSpend (coinId (catChildOf catParent))) =
          .ok (some parent) ∧
        Backed 8 (catChildOf catParent) (resolvedCat catParent) parent := by
  let _ := pairHash
  let _ := revealDrivers
  let _ : DecidableEq CatProof := inferInstanceAs (DecidableEq Unit)
  have hrun : (resolveLineage 8 [catChildOf catParent]).run (servingParent catParent) 0 =
      .ok [resolvedCat catParent] := by decide
  have hreveals : ∀ n coin parent, [catChildOf catParent][n]? = some coin →
      servingParent catParent (0 + n) (.parentSpend (coinId coin)) = .ok (some parent) →
        RevealHashes parent := by
    intro n coin parent _ hserved
    cases hserved
    exact ⟨[8], rfl, by decide⟩
  obtain ⟨-, hbacked⟩ :=
    (resolveLineage_backed pairHash_injective revealDrivers_children hrun).2 hreveals
  exact ⟨hrun, hbacked 0 _ _ rfl rfl⟩

theorem substituted_reveal_resolved :
    letI := pairHash
    letI := revealDrivers
    ChildrenNameParent ∧
      (resolveLineage 8 [catChildOf plainParent]).run (servingParent plainParent) 0 =
        .ok [resolvedCat plainParent] ∧
      ¬ ∃ parent, servingParent plainParent 0 (.parentSpend (coinId (catChildOf plainParent))) =
          .ok (some parent) ∧
        Backed 8 (catChildOf plainParent) (resolvedCat plainParent) parent := by
  let _ := pairHash
  let _ := revealDrivers
  let _ : DecidableEq CatProof := inferInstanceAs (DecidableEq Unit)
  refine ⟨revealDrivers_children, by decide, ?_⟩
  rintro ⟨parent, hserved, hbacked⟩
  cases hserved
  obtain ⟨puzzle, hpuzzle, hhash⟩ := hbacked.reveal
  cases hpuzzle
  exact absurd hhash (by decide)

end Example

end DigAccount
