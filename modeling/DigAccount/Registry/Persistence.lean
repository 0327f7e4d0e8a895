import DigAccount.Registry.Soundness
import Mathlib.Data.Countable.Basic
import Mathlib.Logic.Equiv.List
import Mathlib.Tactic.DeriveCountable

namespace DigAccount

class LawfulRegistryJson [RegistryJson] : Prop where
  print_ok : ∀ raw, ∃ json, RegistryJson.print raw = .ok json
  parse_print : ∀ raw json, RegistryJson.print raw = .ok json → RegistryJson.parse json = .ok raw

namespace ProfileRegistry

open Validator KeyedList PartialMachine

def reload [DidEncoding] [RegistryJson] (r : ProfileRegistry) :
    Except AccountError ProfileRegistry := do
  let json ← r.toJson
  fromJson json

section

variable [DidEncoding] {r : ProfileRegistry}

theorem tryFrom_intoRaw (h : r.Accepted) : tryFrom r.intoRaw = .ok r := by
  have hentries : (r.entries.mergeSort fun a b => a.ix ≤ b.ix) = r.entries := by
    refine List.mergeSort_of_pairwise ?_
    simpa [List.pairwise_map] using h.entries_sorted.sortedLE.pairwise
  have hmints : (r.inProgress.mergeSort fun a b => a.ix ≤ b.ix) = r.inProgress := by
    refine List.mergeSort_of_pairwise ?_
    simpa [List.pairwise_map] using h.mints_sorted.sortedLE.pairwise
  have hcheck : (⟨r.entries, r.active, r.inProgress⟩ : ProfileRegistry).check = .ok () :=
    h.check_eq
  simp only [tryFrom, intoRaw, hentries, hmints, hcheck]

variable [RegistryJson]

theorem reload_eq [LawfulRegistryJson] (h : r.Accepted) : r.reload = .ok r := by
  obtain ⟨json, hprint⟩ := LawfulRegistryJson.print_ok r.intoRaw
  have hparse := LawfulRegistryJson.parse_print r.intoRaw json hprint
  rw [reload, toJson]
  rw [hprint]
  change fromJson json = .ok r
  rw [fromJson]
  rw [hparse]
  dsimp only
  rw [tryFrom_intoRaw h]

theorem reload_ok {next : ProfileRegistry} (h : r.reload = .ok next) :
    ∃ json, r.toJson = .ok json ∧ fromJson json = .ok next :=
  bind_ok.1 h

theorem reload_eq_iff [LawfulRegistryJson] : r.reload = .ok r ↔ r.Accepted := by
  refine ⟨fun h => ?_, reload_eq⟩
  obtain ⟨json, -, hjson⟩ := reload_ok h
  exact fromJson_accepted hjson

end

variable [DidEncoding]

def JournalsHonestly (r : ProfileRegistry) : RegistryOp → Prop
  | .advanceMint ix stage => ix ∈ r.inProgress.map ProfileMintInProgress.ix → StageOk stage
  | _ => True

theorem Accepted.modifyMint {r : ProfileRegistry} (h : r.Accepted) (position : Nat)
    {stage : MintStage} (hstage : StageOk stage) :
    Accepted { r with inProgress := r.inProgress.modify position (·.setStage stage) } := by
  have hkeys : (r.inProgress.modify position (·.setStage stage)).map ProfileMintInProgress.ix =
      r.inProgress.map ProfileMintInProgress.ix :=
    map_modify (f := (·.setStage stage)) (fun _ => rfl) r.inProgress position
  refine ⟨h.entries_sorted, ?_, ?_, h.active_ok, h.identities, h.entries_ok, ?_⟩
  · exact hkeys ▸ h.mints_sorted
  · intro entry hentry mint hmint
    obtain ⟨m, hm, hkept | hset⟩ := mem_modify hmint
    · exact hkept ▸ h.disjoint entry hentry m hm
    · exact hset ▸ h.disjoint entry hentry m hm
  · intro mint hmint
    obtain ⟨m, hm, hkept | hset⟩ := mem_modify hmint
    · exact hkept ▸ h.mints_ok m hm
    · exact hset ▸ ⟨(h.mints_ok m hm).1, hstage⟩

omit [DidEncoding] in
theorem advanceMint_cases (r : ProfileRegistry) (ix : ProfileIx) (stage : MintStage) :
    (ix ∉ r.inProgress.map ProfileMintInProgress.ix ∧
      r.advanceMint ix stage = .returned (.error (.profileNotFound ix)) r) ∨
    ∃ position mint, r.inProgress[position]? = some mint ∧ mint.ix = ix ∧
      r.advanceMint ix stage = .returned (.ok ())
        { r with inProgress := r.inProgress.modify position (·.setStage stage) } := by
  rw [advanceMint]
  cases hposition : r.mintPosition ix with
  | none =>
      refine .inl ⟨fun hmem => ?_, rfl⟩
      rw [← mintPosition_isSome, hposition] at hmem
      cases hmem
  | some position =>
      obtain ⟨hlt, hix, -⟩ := List.findIdx?_eq_some_iff_getElem.1 hposition
      exact .inr ⟨position, r.inProgress[position], by simp [hlt], by simpa using hix, rfl⟩

theorem step_accepted_of_exceptAdvance {r next : ProfileRegistry} {op : RegistryOp}
    (h : r.Accepted) (hop : ExceptAdvance op) (hstep : r.step op = some next) : next.Accepted := by
  by_cases guard : r.Guarded op
  · obtain ⟨after, hafter, haccepted⟩ := step_enabled h hop guard
    rw [hafter, Option.some.injEq] at hstep
    exact hstep ▸ haccepted
  · rw [step_stuck h guard] at hstep
    cases hstep

theorem step_accepted {r next : ProfileRegistry} {op : RegistryOp} (h : r.Accepted)
    (honest : r.JournalsHonestly op) (hstep : r.step op = some next) : next.Accepted := by
  cases op with
  | advanceMint ix stage =>
      rcases advanceMint_cases r ix stage with ⟨-, heq⟩ | ⟨position, mint, hmint, rfl, heq⟩
      · rw [step, heq] at hstep
        cases hstep
        exact h
      · rw [step, heq] at hstep
        cases hstep
        have hmem : mint ∈ r.inProgress := List.mem_of_getElem? hmint
        exact h.modifyMint position (honest (List.mem_map.2 ⟨mint, hmem, rfl⟩))
  | _ =>
      refine step_accepted_of_exceptAdvance h ?_ hstep
      trivial

theorem journalsHonestly_of_accepted {r next : ProfileRegistry} {op : RegistryOp}
    (hstep : r.step op = some next) (haccepted : next.Accepted) : r.JournalsHonestly op := by
  cases op with
  | advanceMint ix stage =>
      intro hmem
      rcases advanceMint_cases r ix stage with ⟨hnot, -⟩ | ⟨position, mint, hmint, -, heq⟩
      · exact absurd hmem hnot
      · rw [step, heq] at hstep
        cases hstep
        refine (haccepted.mints_ok (mint.setStage stage) ?_).2
        refine List.mem_iff_getElem?.2 ⟨position, ?_⟩
        simp [hmint]
  | _ => trivial

theorem step_advanceMint_isSome (r : ProfileRegistry) (ix : ProfileIx) (stage : MintStage) :
    ∃ next, r.step (.advanceMint ix stage) = some next := by
  rcases advanceMint_cases r ix stage with ⟨-, heq⟩ | ⟨position, mint, -, -, heq⟩
  · exact ⟨_, congrArg Mutation.after? heq⟩
  · exact ⟨_, congrArg Mutation.after? heq⟩

theorem run_reload_iff [RegistryJson] [LawfulRegistryJson] {start : ProfileRegistry}
    (hstart : start.Loadable) {ops : List RegistryOp} :
    (∀ done, done <+: ops → ∀ r, run step start done = some r → r.reload = .ok r) ↔
      Meets step JournalsHonestly start ops := by
  constructor
  · intro loads done op hdone r hrun
    cases op with
    | advanceMint ix stage =>
        obtain ⟨next, hnext⟩ := r.step_advanceMint_isSome ix stage
        have hreach : run step start (done ++ [.advanceMint ix stage]) = some next := by
          rw [run_snoc, hrun]
          exact hnext
        exact journalsHonestly_of_accepted hnext (reload_eq_iff.1 (loads _ hdone next hreach))
    | _ => trivial
  · intro honest done hdone r hrun
    refine reload_eq (invariant_of_meets ?_ hstart.accepted honest hdone hrun)
    exact fun s op next hs hop hstep => step_accepted hs hop hstep

end ProfileRegistry

section File

instance charCountable : Countable Char :=
  Function.Injective.countable (f := Char.toNat) fun _ _ => Char.toNat_inj.1

instance stringCountable : Countable String :=
  Function.Injective.countable (f := String.toList) fun _ _ => String.toList_inj.1

deriving instance Countable for PendingMintRecord

deriving instance Countable for MintedDidRecord

deriving instance Countable for PendingStoreLaunchRecord

deriving instance Countable for MintStage

deriving instance Countable for ProfileMintInProgress

deriving instance Countable for ProfileAnchor

deriving instance Countable for ProfileVisibility

deriving instance Countable for ProfileEnd

deriving instance Countable for ProfileEntry

deriving instance Countable for RawProfileRegistry

def emptyFile : String := "\x7b\"entries\":[],\"active\":null,\"in_progress\":[]\x7d"

noncomputable def numbered (raw : RawProfileRegistry) : String :=
  String.ofList (List.replicate ((exists_injective_nat RawProfileRegistry).choose raw) 'a')

noncomputable def fileOf (raw : RawProfileRegistry) : String :=
  if raw = ProfileRegistry.empty.intoRaw then emptyFile else numbered raw

theorem numbered_injective : Function.Injective numbered := by
  intro a b h
  have hlength := congrArg List.length (String.ofList_injective h)
  simp only [List.length_replicate] at hlength
  exact (exists_injective_nat RawProfileRegistry).choose_spec hlength

theorem numbered_ne_emptyFile (raw : RawProfileRegistry) : numbered raw ≠ emptyFile := by
  intro h
  have hbrace : '"' ∈ (numbered raw).toList := by
    rw [h]
    decide
  rw [numbered, String.toList_ofList] at hbrace
  exact absurd (List.eq_of_mem_replicate hbrace) (by decide)

theorem fileOf_injective : Function.Injective fileOf := by
  intro a b h
  simp only [fileOf] at h
  by_cases ha : a = ProfileRegistry.empty.intoRaw <;>
    by_cases hb : b = ProfileRegistry.empty.intoRaw
  · rw [ha, hb]
  · rw [if_pos ha, if_neg hb] at h
    exact absurd h.symm (numbered_ne_emptyFile b)
  · rw [if_neg ha, if_pos hb] at h
    exact absurd h (numbered_ne_emptyFile a)
  · rw [if_neg ha, if_neg hb] at h
    exact numbered_injective h

@[reducible] noncomputable def fileJson : RegistryJson where
  parse json :=
    match Function.partialInv fileOf json with
    | some raw => .ok raw
    | none => .error "not a registry"
  print raw := .ok (fileOf raw)

theorem fileJson_lawful : @LawfulRegistryJson fileJson := by
  let _ := fileJson
  refine ⟨fun raw => ⟨fileOf raw, rfl⟩, fun raw json hprint => ?_⟩
  cases hprint
  change (match Function.partialInv fileOf (fileOf raw) with
    | some raw => Except.ok raw
    | none => .error "not a registry") = .ok raw
  rw [Function.partialInv_left fileOf_injective]

end File

namespace ProfileRegistry

open PartialMachine

def unplaced : MintedDidRecord := ⟨"did:chia:1", 1, 2, 0⟩

def journalUnplaced : List (@RegistryOp decimalDid) :=
  letI := decimalDid
  [.beginMint 0 (.didPushed ⟨1, 2, 3, 4⟩) 0,
   .advanceMint 0 (.didConfirmedStoreNotLaunched unplaced)]

def placed : MintedDidRecord := ⟨"did:chia:1", 1, 2, 5⟩

def journalPlaced : List (@RegistryOp decimalDid) :=
  letI := decimalDid
  [.beginMint 0 (.didPushed ⟨1, 2, 3, 4⟩) 0,
   .advanceMint 0 (.didConfirmedStoreNotLaunched placed), .setActive 0]

theorem run_reload_iff_journalPlaced :
    letI := decimalDid
    letI := fileJson
    Meets step JournalsHonestly empty journalPlaced ∧
      ∃ r, run step empty journalPlaced = some r ∧ r.indices = [0] ∧ r.reload = .ok r := by
  let _ := decimalDid
  let _ := fileJson
  let _ := fileJson_lawful
  have honest : Meets step JournalsHonestly empty journalPlaced := by
    refine meets_cons.2 ⟨trivial, fun begun _ => meets_cons.2 ⟨fun _ => ?_, fun advanced _ => ?_⟩⟩
    · intro did hdid
      cases List.mem_singleton.1 hdid
      exact ⟨rfl, by decide⟩
    · exact meets_cons.2 ⟨trivial, fun _ _ => meets_nil _⟩
  have hrun : run step empty journalPlaced =
      some ⟨[], none, [⟨0, .didConfirmedStoreNotLaunched placed, none, 0⟩]⟩ := by decide
  exact ⟨honest, _, hrun, rfl,
    (run_reload_iff (.inl rfl)).2 honest _ (List.prefix_refl _) _ hrun⟩

theorem journalUnplaced_unloadable :
    letI := decimalDid
    letI := fileJson
    ∃ r, empty.Loadable ∧ LawfulRegistryJson ∧ run step empty journalUnplaced = some r ∧
      r.reload ≠ .ok r := by
  let _ := decimalDid
  let _ := fileJson
  let _ := fileJson_lawful
  refine ⟨⟨[], none, [⟨0, .didConfirmedStoreNotLaunched unplaced, none, 0⟩]⟩, .inl rfl,
    fileJson_lawful, by decide, fun hreload => ?_⟩
  have haccepted := reload_eq_iff.1 hreload
  have hstage := (haccepted.mints_ok _ List.mem_cons_self).2
  exact (hstage unplaced List.mem_cons_self).2 rfl

end ProfileRegistry

end DigAccount
