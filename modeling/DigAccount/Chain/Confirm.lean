import DigAccount.Chain.Query

namespace DigAccount

inductive UnconfirmedInput where
  | unreadable (coinId : Bytes32) (reason : String)
  | contradicted (coinId : Bytes32) (confirmedHeight spentHeight : Option Nat)
  | vanished (coinId : Bytes32)
  | misrouted (asked answered : Bytes32)
  deriving DecidableEq, Repr

def debugHeight : Option Nat → String
  | none => "None"
  | some height => s!"Some({height})"

def UnconfirmedInput.display : UnconfirmedInput → String
  | unreadable coinId reason => s!"could not re-read coin {hex32 coinId} by name: {reason}"
  | contradicted coinId confirmedHeight spentHeight =>
      s!"the chain listed coin {hex32 coinId} as spendable and then, read by name, called it " ++
        s!"confirmed={debugHeight confirmedHeight} spent={debugHeight spentHeight} — refusing " ++
        "to build a spend on a coin the network may already have consumed"
  | vanished coinId =>
      s!"the chain listed coin {hex32 coinId} as spendable and then could not find it by name — " ++
        "the two answers cannot both be true, so the coin's state is unknown"
  | misrouted asked answered =>
      s!"the chain source answered a request for coin {hex32 asked} with a record for " ++
        s!"{hex32 answered}"

variable [CoinHash]

def judgeByName (coin : Coin) : Option CoinRecord → Except UnconfirmedInput Unit
  | none => .error (.vanished (coinId coin))
  | some record =>
      if coinId record.coin ≠ coinId coin then
        .error (.misrouted (coinId coin) (coinId record.coin))
      else if record.confirmedHeight.isNone ∨ record.isSpent then
        .error (.contradicted (coinId coin) record.confirmedHeight record.spentHeight)
      else .ok ()

def confirmSpendableByName (coin : Coin) : ChainReads UnconfirmedInput Unit := do
  let record ← readCoinRecord (.unreadable (coinId coin)) (coinId coin)
  .ofExcept (judgeByName coin record)

def confirmAllSpendableByName : List Coin → ChainReads UnconfirmedInput Unit
  | [] => pure ()
  | coin :: rest => do
      confirmSpendableByName coin
      confirmAllSpendableByName rest

structure SpendableByName (oracle : Oracle) (i : Nat) (coin : Coin) (record : CoinRecord) :
    Prop where
  answered : oracle i (.coinRecord (coinId coin)) = .ok (some record)
  routed : coinId record.coin = coinId coin
  confirmed : record.confirmedHeight.isSome
  unspent : record.isSpent = false

theorem judgeByName_ok {coin : Coin} {found : Option CoinRecord} :
    judgeByName coin found = .ok () ↔
      ∃ record, found = some record ∧ coinId record.coin = coinId coin ∧
        record.confirmedHeight.isSome ∧ record.isSpent = false := by
  cases found with
  | none => simp [judgeByName]
  | some record =>
      by_cases hid : coinId record.coin = coinId coin <;> cases hspent : record.isSpent <;>
        cases hconfirmed : record.confirmedHeight <;>
        simp [judgeByName, hid, hspent, hconfirmed]

variable {oracle : Oracle} {i : Nat}

theorem run_confirmSpendableByName {coin : Coin} :
    (confirmSpendableByName coin).run oracle i = .ok () ↔
      ∃ record, SpendableByName oracle i coin record := by
  rw [confirmSpendableByName, Fallible.run_bind_eq_ok]
  constructor
  · rintro ⟨found, hread, hjudged⟩
    rw [run_readCoinRecord, Fallible.mapError_eq_ok] at hread
    obtain ⟨record, rfl, hrouted, hconfirmed, hunspent⟩ := judgeByName_ok.1 hjudged
    exact ⟨record, hread, hrouted, hconfirmed, hunspent⟩
  · rintro ⟨record, hread, hrouted, hconfirmed, hunspent⟩
    refine ⟨some record, ?_, judgeByName_ok.2 ⟨record, rfl, hrouted, hconfirmed, hunspent⟩⟩
    rw [run_readCoinRecord, Fallible.mapError_eq_ok]
    exact hread

theorem after_confirmSpendableByName {coin : Coin}
    (h : (confirmSpendableByName coin).run oracle i = .ok ()) :
    (confirmSpendableByName coin).after oracle i = i + 1 := by
  rw [confirmSpendableByName, Fallible.run_bind_eq_ok] at h
  obtain ⟨found, hread, -⟩ := h
  rw [confirmSpendableByName, Fallible.after_bind_of_ok hread]
  rfl

theorem run_confirmAllSpendableByName {coins : List Coin} :
    (confirmAllSpendableByName coins).run oracle i = .ok () ↔
      ∀ n (h : n < coins.length), ∃ record, SpendableByName oracle (i + n) coins[n] record := by
  induction coins generalizing i with
  | nil => exact iff_of_true rfl fun n h => absurd h (Nat.not_lt_zero n)
  | cons coin coins ih =>
      rw [confirmAllSpendableByName, Fallible.run_bind_eq_ok]
      constructor
      · rintro ⟨⟨⟩, hfirst, hrest⟩ n h
        rw [after_confirmSpendableByName hfirst] at hrest
        cases n with
        | zero => exact run_confirmSpendableByName.1 hfirst
        | succ n =>
            rw [show i + (n + 1) = i + 1 + n by omega]
            exact ih.1 hrest n (Nat.lt_of_succ_lt_succ h)
      · intro h
        have hfirst : (confirmSpendableByName coin).run oracle i = .ok () :=
          run_confirmSpendableByName.2 (h 0 (Nat.zero_lt_succ _))
        refine ⟨(), hfirst, ?_⟩
        rw [after_confirmSpendableByName hfirst, ih]
        intro n hn
        rw [show i + 1 + n = i + (n + 1) by omega]
        exact h (n + 1) (Nat.succ_lt_succ hn)

end DigAccount
