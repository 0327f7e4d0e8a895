import DigAccount.Registry.Edits

namespace DigAccount

namespace ProfileRegistry

open PartialMachine

variable [DidEncoding] {α : Type} {r next start : ProfileRegistry} {ix : ProfileIx}

def FeesCapped (r : ProfileRegistry) : Prop :=
  ∀ mint ∈ r.inProgress, mint.storeFee ≤ maxMintFeeMojos

inductive Rechecked (r : ProfileRegistry) : Mutation α → Prop
  | stayed (result : Except AccountError α) : Rechecked r (.returned result r)
  | checked (next : ProfileRegistry) (value : α) : Rechecked r (next.expectValid value)

theorem feesCapped_of_check (h : r.check = .ok ()) : r.FeesCapped :=
  fun mint hmint => ((check_ok.1 h).2.2.2.2 mint hmint).1

theorem Rechecked.feesCapped {m : Mutation α} (h : Rechecked r m) (hr : r.FeesCapped)
    (hm : m.after? = some next) : next.FeesCapped := by
  cases h with
  | stayed result =>
      cases hm
      exact hr
  | checked after value =>
      cases hvalid : after.expectValid value with
      | panicked reason =>
          rw [hvalid] at hm
          cases hm
      | returned result kept =>
          rw [hvalid] at hm
          cases hm
          obtain ⟨-, rfl, hcheck⟩ := expectValid_returned hvalid
          exact feesCapped_of_check hcheck

theorem recordMinted_rechecked (did : MintedDid) (store : ConfirmedStore)
    (label : Option String) : Rechecked r (r.recordMinted ix did store label) := by
  rw [recordMinted]
  split
  · exact .stayed _
  split
  · exact .stayed _
  split
  · exact .stayed _
  · exact .checked _ _

theorem setActive_rechecked : Rechecked r (r.setActive ix) := by
  rw [setActive]
  split
  · exact .stayed _
  split
  · exact .stayed _
  · exact .checked _ _

theorem setVisibility_rechecked (v : ProfileVisibility) :
    Rechecked r (r.setVisibility ix v) := by
  rw [setVisibility]
  split
  · exact .stayed _
  split
  · exact .stayed _
  · exact .checked _ _

theorem recordMelted_rechecked (atHeight : Nat) : Rechecked r (r.recordMelted ix atHeight) := by
  rw [recordMelted]
  split
  · exact .stayed _
  split
  · exact .stayed _
  split
  · exact .stayed _
  dsimp only
  split
  · exact .checked _ _
  split
  · exact .checked _ _
  · exact .checked _ _

theorem reserve_rechecked (mint : ProfileMintInProgress) : Rechecked r (r.reserve mint) := by
  rw [reserve]
  split
  · exact .stayed _
  split
  · exact .stayed _
  split
  · exact .stayed _
  · exact .checked _ _

theorem abandonMint_rechecked : Rechecked r (r.abandonMint ix) := by
  rw [abandonMint]
  split
  · exact .stayed _
  · exact .checked _ _

omit [DidEncoding] in
theorem setLabel_feesCapped (label : Option String) (hr : r.FeesCapped)
    (h : (r.setLabel ix label).after? = some next) : next.FeesCapped := by
  rw [setLabel] at h
  split at h
  · cases h
    exact hr
  · cases h
    exact hr

omit [DidEncoding] in
theorem advanceMint_feesCapped (stage : MintStage) (hr : r.FeesCapped)
    (h : (r.advanceMint ix stage).after? = some next) : next.FeesCapped := by
  rcases advanceMint_cases r ix stage with ⟨-, heq⟩ | ⟨position, mint, -, -, heq⟩
  · rw [heq] at h
    cases h
    exact hr
  · rw [heq] at h
    cases h
    intro moved hmoved
    obtain ⟨kept, hkept, hsame | hset⟩ := KeyedList.mem_modify hmoved
    · exact hsame ▸ hr kept hkept
    · exact hset ▸ hr kept hkept

theorem step_feesCapped {op : RegistryOp} (hr : r.FeesCapped) (h : r.step op = some next) :
    next.FeesCapped := by
  cases op with
  | recordMinted ix did store label =>
      exact (recordMinted_rechecked did store label).feesCapped hr h
  | setActive ix => exact setActive_rechecked.feesCapped hr h
  | setVisibility ix v => exact (setVisibility_rechecked v).feesCapped hr h
  | setLabel ix label => exact setLabel_feesCapped label hr h
  | recordMelted ix atHeight => exact (recordMelted_rechecked atHeight).feesCapped hr h
  | beginMint ix stage storeFee => exact (reserve_rechecked _).feesCapped hr h
  | beginSeededMint ix stage seedRoot storeFee => exact (reserve_rechecked _).feesCapped hr h
  | advanceMint ix stage => exact advanceMint_feesCapped stage hr h
  | abandonMint ix => exact abandonMint_rechecked.feesCapped hr h

def Reached [RegistryJson] (r : ProfileRegistry) : Prop :=
  ∃ start ops, start.Loadable ∧ run step start ops = some r

theorem Reached.feesCapped [RegistryJson] (h : r.Reached) : r.FeesCapped := by
  obtain ⟨start, ops, hstart, hrun⟩ := h
  have hloaded : start.FeesCapped := fun mint hmint =>
    (hstart.accepted.mints_ok mint hmint).1
  have hstep : ∀ op ∈ ops, ∀ before after : ProfileRegistry, before.FeesCapped →
      before.step op = some after → after.FeesCapped :=
    fun _ _ _ _ hbefore hstep => step_feesCapped hbefore hstep
  exact run_invariant hstep hloaded hrun

end ProfileRegistry

end DigAccount
