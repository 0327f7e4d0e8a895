import DigAccount.Chain.Confirm
import DigAccount.Wallet.Host

namespace DigAccount

open Fallible

variable [CoinHash] {ε : Type} {oracle : HostOracle} {i : Nat} {puzzleHash : Bytes32}
  {records : List CoinRecord} {unreachable : String → ε}
  {choose : List CoinRecord → Except ε (List Coin)}

def listThenConfirm (unreachable : String → ε) (puzzleHash : Bytes32)
    (choose : List CoinRecord → Except ε (List Coin)) : HostReads ε (List Coin) := do
  let records ← .mapError unreachable
    (Reads.query (HostCall.coinRecordsByPuzzleHash puzzleHash false))
  let selected ← .ofExcept (choose records)
  onChain (.mapError (fun e => unreachable e.display) (confirmAllSpendableByName selected))
  pure selected

def confirmChosen (unreachable : String → ε) (oracle : HostOracle) (i : Nat)
    (selected : List Coin) : Except ε (List Coin) :=
  match (confirmAllSpendableByName selected).run oracle.chainSide i with
  | .error e => .error (unreachable e.display)
  | .ok () => .ok selected

theorem run_listThenConfirm_of_error {reason : String}
    (h : oracle i (.coinRecordsByPuzzleHash puzzleHash false) = .error reason) :
    (listThenConfirm unreachable puzzleHash choose).run oracle i = .error (unreachable reason) := by
  have hread : (mapError unreachable
      (Reads.query (HostCall.coinRecordsByPuzzleHash puzzleHash false)) :
        HostReads ε (List CoinRecord)).run oracle i = .error (unreachable reason) := by
    rw [run_mapError, Reads.run_query, h]
    rfl
  rw [listThenConfirm, run_bind_of_error hread]

theorem run_listThenConfirm_of_ok
    (h : oracle i (.coinRecordsByPuzzleHash puzzleHash false) = .ok records) :
    (listThenConfirm unreachable puzzleHash choose).run oracle i =
      (choose records).bind (confirmChosen unreachable oracle (i + 1)) := by
  have hread : (mapError unreachable
      (Reads.query (HostCall.coinRecordsByPuzzleHash puzzleHash false)) :
        HostReads ε (List CoinRecord)).run oracle i = .ok records := by
    rw [run_mapError, Reads.run_query, h]
    rfl
  rw [listThenConfirm, run_bind_of_ok hread]
  cases hchoose : choose records with
  | error e => exact run_bind_of_error run_ofExcept
  | ok selected =>
      rw [run_bind_of_ok run_ofExcept]
      have hconfirm : (onChain (.mapError (fun e => unreachable e.display)
          (confirmAllSpendableByName selected))).run oracle (i + 1) =
            ((confirmAllSpendableByName selected).run oracle.chainSide (i + 1)).mapError
              fun e => unreachable e.display :=
        run_onChain.trans run_mapError
      change _ = confirmChosen unreachable oracle (i + 1) selected
      rw [confirmChosen]
      cases hresult : (confirmAllSpendableByName selected).run oracle.chainSide (i + 1) with
      | error e =>
          rw [hresult] at hconfirm
          exact run_bind_of_error hconfirm
      | ok confirmed =>
          rw [hresult] at hconfirm
          exact run_bind_of_ok hconfirm

theorem listThenConfirm_listed {result : Except ε (List Coin)}
    (hreached : ∀ reason, result ≠ .error (unreachable reason))
    (h : (listThenConfirm unreachable puzzleHash choose).run oracle i = result) :
    ∃ records, oracle i (.coinRecordsByPuzzleHash puzzleHash false) = .ok records := by
  cases hread : oracle i (.coinRecordsByPuzzleHash puzzleHash false) with
  | ok records => exact ⟨records, rfl⟩
  | error reason =>
      rw [run_listThenConfirm_of_error hread] at h
      exact absurd h.symm (hreached reason)

theorem listThenConfirm_refused {e : ε} (hreached : ∀ reason, e ≠ unreachable reason)
    (h : oracle i (.coinRecordsByPuzzleHash puzzleHash false) = .ok records) :
    (listThenConfirm unreachable puzzleHash choose).run oracle i = .error e ↔
      choose records = .error e := by
  rw [run_listThenConfirm_of_ok h]
  cases choose records with
  | error d => exact Iff.rfl
  | ok selected =>
      refine iff_of_false (fun hrun => ?_) (fun hsame => by cases hsame)
      change confirmChosen unreachable oracle (i + 1) selected = .error e at hrun
      rw [confirmChosen] at hrun
      split at hrun
      · cases hrun
        exact hreached _ rfl
      · cases hrun

theorem listThenConfirm_chosen {coins : List Coin}
    (h : (listThenConfirm unreachable puzzleHash choose).run oracle i = .ok coins) :
    ∃ records, choose records = .ok coins := by
  rw [listThenConfirm, run_bind_eq_ok] at h
  obtain ⟨records, -, h⟩ := h
  rw [run_bind_eq_ok] at h
  obtain ⟨selected, hselected, h⟩ := h
  rw [run_bind_eq_ok] at h
  obtain ⟨confirmed, -, hpure⟩ := h
  cases hpure
  exact ⟨records, hselected⟩

end DigAccount
