import DigAccount.Foundation.OrderedMap
import DigAccount.Registry.Edits

namespace DigAccount

namespace ProfileRegistry

open Validator KeyedList

variable {α : Type} {r next : ProfileRegistry} {ix : ProfileIx}

def KeepsAnchors (next r : ProfileRegistry) : Prop :=
  ∀ ix entry, r.get ix = some entry → ∃ entry', next.get ix = some entry' ∧
    entry'.anchor = entry.anchor

def Anchored (r : ProfileRegistry) (m : Mutation α) : Prop :=
  ∀ next, m.after? = some next → next.KeepsAnchors r

theorem keepsAnchors_of_entries (h : next.entries = r.entries) : next.KeepsAnchors r := by
  intro ix entry hget
  refine ⟨entry, ?_, rfl⟩
  rw [get, h]
  exact hget

theorem keepsAnchors_entryMut {f : ProfileEntry → ProfileEntry}
    (hix : ∀ entry, (f entry).ix = entry.ix) (hanchor : ∀ entry, (f entry).anchor = entry.anchor)
    (a : Option ProfileIx) : KeepsAnchors { r.entryMut ix f with active := a } r := by
  intro j entry hget
  refine ⟨if j = ix then f entry else entry, ?_, ?_⟩
  · rw [get_withActive, get_entryMut hix, hget]
    rfl
  · split
    · exact hanchor entry
    · rfl

theorem keepsAnchors_of_subset (unique : (next.entries.map ProfileEntry.ix).Nodup)
    (h : r.entries ⊆ next.entries) : next.KeepsAnchors r := by
  intro ix entry hget
  obtain ⟨hmem, hix⟩ := get_mem hget
  exact ⟨entry, (find?_eq_some_iff unique).2 ⟨h hmem, hix⟩, rfl⟩

theorem anchored_returned (result : Except AccountError α) : Anchored r (.returned result r) := by
  intro next hnext
  cases hnext
  exact keepsAnchors_of_entries rfl

variable [DidEncoding]

theorem anchored_expectValid {value : α} (h : next.check = .ok () → next.KeepsAnchors r) :
    Anchored r (next.expectValid value) := by
  intro after hafter
  obtain ⟨rfl, hcheck⟩ := after?_expectValid hafter
  exact h hcheck

theorem anchored_entryMut {value : α} {f : ProfileEntry → ProfileEntry}
    (hix : ∀ entry, (f entry).ix = entry.ix) (hanchor : ∀ entry, (f entry).anchor = entry.anchor)
    (a : Option ProfileIx) :
    Anchored r ({ r.entryMut ix f with active := a }.expectValid value) :=
  anchored_expectValid fun _ => keepsAnchors_entryMut hix hanchor a

theorem recordMinted_anchored (did : MintedDid) (store : ConfirmedStore) (label : Option String) :
    Anchored r (r.recordMinted ix did store label) := by
  rw [recordMinted]
  split
  · exact anchored_returned _
  split
  · exact anchored_returned _
  split
  · exact anchored_returned _
  rename_i anchor hanchor
  have hperm := insert_perm (fun entry : ProfileEntry => entry.ix < ix)
    (ProfileEntry.new ix anchor label) r.entries
  refine anchored_expectValid fun hcheck => ?_
  refine keepsAnchors_of_subset (unique_of_check hcheck) fun entry hentry => ?_
  exact hperm.mem_iff.2 (List.mem_cons_of_mem _ hentry)

theorem setActive_anchored : Anchored r (r.setActive ix) := by
  rw [setActive]
  split
  · exact anchored_returned _
  split
  · exact anchored_returned _
  · exact anchored_entryMut (f := (·.setVisibility .shown)) (fun _ => rfl) (fun _ => rfl) _

theorem setVisibility_anchored (v : ProfileVisibility) : Anchored r (r.setVisibility ix v) := by
  rw [setVisibility]
  split
  · exact anchored_returned _
  split
  · exact anchored_returned _
  · exact anchored_entryMut (f := (·.setVisibility v)) (fun _ => rfl) (fun _ => rfl) r.active

omit [DidEncoding] in
theorem setLabel_anchored (label : Option String) : Anchored r (r.setLabel ix label) := by
  rw [setLabel]
  split
  · exact anchored_returned _
  · intro next hnext
    cases hnext
    exact keepsAnchors_entryMut (f := (·.setLabel label)) (fun _ => rfl) (fun _ => rfl) r.active

theorem recordMelted_anchored (atHeight : Nat) : Anchored r (r.recordMelted ix atHeight) := by
  rw [recordMelted]
  split
  · exact anchored_returned _
  rename_i ended _
  split
  · exact anchored_returned _
  split
  · exact anchored_returned _
  have hended {value : ProfileEndOutcome} (a : Option ProfileIx) :
      Anchored r ({ r.entryMut ix (·.setEnd ended) with active := a }.expectValid value) :=
    anchored_entryMut (f := (·.setEnd ended)) (fun _ => rfl) (fun _ => rfl) a
  dsimp only
  split
  · exact hended r.active
  split
  · exact hended _
  · exact hended none

theorem reserve_anchored (mint : ProfileMintInProgress) : Anchored r (r.reserve mint) := by
  rw [reserve]
  split
  · exact anchored_returned _
  split
  · exact anchored_returned _
  split
  · exact anchored_returned _
  · exact anchored_expectValid fun _ => keepsAnchors_of_entries rfl

omit [DidEncoding] in
theorem advanceMint_anchored (stage : MintStage) : Anchored r (r.advanceMint ix stage) := by
  rw [advanceMint]
  split
  · exact anchored_returned _
  · intro next hnext
    cases hnext
    exact keepsAnchors_of_entries rfl

theorem abandonMint_anchored : Anchored r (r.abandonMint ix) := by
  rw [abandonMint]
  split
  · exact anchored_returned _
  · exact anchored_expectValid fun _ => keepsAnchors_of_entries rfl

theorem step_keepsAnchors {op : RegistryOp} (h : r.step op = some next) :
    next.KeepsAnchors r := by
  cases op with
  | recordMinted ix did store label => exact recordMinted_anchored did store label next h
  | setActive ix => exact setActive_anchored next h
  | setVisibility ix v => exact setVisibility_anchored v next h
  | setLabel ix label => exact setLabel_anchored label next h
  | recordMelted ix atHeight => exact recordMelted_anchored atHeight next h
  | beginMint ix stage storeFee => exact reserve_anchored _ next h
  | beginSeededMint ix stage seedRoot storeFee => exact reserve_anchored _ next h
  | advanceMint ix stage => exact advanceMint_anchored stage next h
  | abandonMint ix => exact abandonMint_anchored next h

end ProfileRegistry

structure Account.Profile where
  ix : ProfileIx
  anchor : ProfileAnchor
  deriving DecidableEq, Repr

structure Account where
  id : String
  registry : ProfileRegistry
  resolved : List (ProfileIx × Account.Profile)
  deriving DecidableEq, Repr

inductive AccountOp [DidEncoding] where
  | attachResolved (profile : Account.Profile)
  | registryMut (op : RegistryOp)
  | assignRegistry (registry : ProfileRegistry)
  | setDefaultProfile (ix : ProfileIx)

namespace Account

open PartialMachine

def new (id : String) (registry : ProfileRegistry) : Account := ⟨id, registry, []⟩

def resolvedAt (account : Account) (ix : ProfileIx) : Option Profile :=
  OrderedMap.get account.resolved ix

def attachResolved (account : Account) (profile : Profile) : Except AccountError Unit × Account :=
  if account.registry.contains profile.ix then
    (.ok (), { account with
      resolved := OrderedMap.insert Fin.val account.resolved profile.ix profile })
  else (.error (.profileNotFound profile.ix), account)

def withRegistry (account : Account) (registry : ProfileRegistry) : Account :=
  { account with registry := registry }

def SameLaunchers (anchor recorded : ProfileAnchor) : Prop :=
  anchor.launcherId = recorded.launcherId ∧ anchor.storeLauncherId = recorded.storeLauncherId

def Names (registry : ProfileRegistry) (ix : ProfileIx) (profile : Profile) : Prop :=
  ∃ entry, registry.get ix = some entry ∧ SameLaunchers profile.anchor entry.anchor

def Agrees (account : Account) : Prop :=
  ∀ ix profile, account.resolvedAt ix = some profile → Names account.registry ix profile

def Confirmed (account : Account) : Prop :=
  ∀ ix, account.registry.contains ix = false → account.resolvedAt ix = none

variable {account next : Account} {profile : Profile} {ix : ProfileIx}

theorem agrees_new (id : String) (registry : ProfileRegistry) : (new id registry).Agrees := by
  intro ix profile h
  cases h

theorem Agrees.confirmed (h : account.Agrees) : account.Confirmed := by
  intro ix hmissing
  by_contra hresolved
  obtain ⟨profile, hprofile⟩ := Option.ne_none_iff_exists'.1 hresolved
  obtain ⟨entry, hget, -⟩ := h ix profile hprofile
  rw [ProfileRegistry.contains, hget] at hmissing
  cases hmissing

theorem resolvedAt_attachResolved (hcontains : account.registry.contains profile.ix) :
    (account.attachResolved profile).2.resolvedAt ix =
      if ix = profile.ix then some profile else account.resolvedAt ix := by
  rw [attachResolved, if_pos hcontains]
  exact OrderedMap.get_insert

theorem attachResolved_registry :
    (account.attachResolved profile).2.registry = account.registry := by
  rw [attachResolved]
  split
  · rfl
  · rfl

theorem attachResolved_agrees_iff (h : account.Agrees) :
    (account.attachResolved profile).2.Agrees ↔
      ∀ entry, account.registry.get profile.ix = some entry →
        SameLaunchers profile.anchor entry.anchor := by
  constructor
  · intro hnext entry hget
    have hcontains : account.registry.contains profile.ix := by
      rw [ProfileRegistry.contains, hget]
      rfl
    have hview : (account.attachResolved profile).2.resolvedAt profile.ix = some profile := by
      rw [resolvedAt_attachResolved hcontains, if_pos rfl]
    obtain ⟨found, hfound, hsame⟩ := hnext profile.ix profile hview
    rw [attachResolved_registry, hget, Option.some.injEq] at hfound
    exact hfound ▸ hsame
  · intro hnames ix view hview
    rw [attachResolved_registry]
    by_cases hcontains : account.registry.contains profile.ix
    · rw [resolvedAt_attachResolved hcontains] at hview
      split at hview
      · rename_i hix
        cases hview
        obtain ⟨entry, hentry⟩ := Option.isSome_iff_exists.1 hcontains
        exact ⟨entry, hix ▸ hentry, hnames entry hentry⟩
      · exact h ix view hview
    · rw [attachResolved, if_neg hcontains] at hview
      exact h ix view hview

theorem Agrees.withRegistry {registry : ProfileRegistry} (h : account.Agrees)
    (hkeeps : registry.KeepsAnchors account.registry) :
    (account.withRegistry registry).Agrees := by
  intro ix profile hview
  obtain ⟨entry, hget, hsame⟩ := h ix profile hview
  obtain ⟨entry', hget', hanchor⟩ := hkeeps ix entry hget
  exact ⟨entry', hget', by rw [hanchor]; exact hsame⟩

theorem Confirmed.withRegistry {registry : ProfileRegistry} (h : account.Confirmed)
    (hkeeps : registry.KeepsAnchors account.registry) :
    (account.withRegistry registry).Confirmed := by
  intro ix hmissing
  refine h ix ?_
  by_contra hcontains
  rw [Bool.not_eq_false] at hcontains
  obtain ⟨entry, hget⟩ := Option.isSome_iff_exists.1 hcontains
  obtain ⟨entry', hget', -⟩ := hkeeps ix entry hget
  have hkept : registry.contains ix := Option.isSome_iff_exists.2 ⟨entry', hget'⟩
  exact Bool.noConfusion (hkept.symm.trans hmissing)

section Runs

variable [DidEncoding]

def setDefaultProfile (account : Account) (ix : ProfileIx) : Option Account :=
  (account.registry.setActive ix).after?.map account.withRegistry

def step (account : Account) : AccountOp → Option Account
  | .attachResolved profile => some (account.attachResolved profile).2
  | .registryMut op => (account.registry.step op).map account.withRegistry
  | .assignRegistry registry => some (account.withRegistry registry)
  | .setDefaultProfile ix => account.setDefaultProfile ix

def NamesEntry (account : Account) : AccountOp → Prop
  | .attachResolved profile => ∀ entry, account.registry.get profile.ix = some entry →
      SameLaunchers profile.anchor entry.anchor
  | .assignRegistry registry => ∀ ix profile, account.resolvedAt ix = some profile →
      Names registry ix profile
  | .registryMut _ | .setDefaultProfile _ => True

def KeepsRegistry : AccountOp → Prop
  | .assignRegistry _ => False
  | .attachResolved _ | .registryMut _ | .setDefaultProfile _ => True

theorem step_agrees_iff (h : account.Agrees) {op : AccountOp}
    (hstep : account.step op = some next) : next.Agrees ↔ account.NamesEntry op := by
  cases op with
  | attachResolved profile =>
      cases hstep
      exact attachResolved_agrees_iff h
  | registryMut op =>
      obtain ⟨registry, hregistry, rfl⟩ := Option.map_eq_some_iff.1 hstep
      exact iff_true_intro (h.withRegistry (ProfileRegistry.step_keepsAnchors hregistry))
  | assignRegistry registry =>
      cases hstep
      exact Iff.rfl
  | setDefaultProfile ix =>
      obtain ⟨registry, hregistry, rfl⟩ := Option.map_eq_some_iff.1 hstep
      exact iff_true_intro
        (h.withRegistry (ProfileRegistry.setActive_anchored registry hregistry))

theorem namesEntry_of_stuck {op : AccountOp} (h : account.step op = none) :
    account.NamesEntry op := by
  cases op with
  | attachResolved profile => cases h
  | registryMut op => exact trivial
  | assignRegistry registry => cases h
  | setDefaultProfile ix => exact trivial

theorem step_confirmed (h : account.Confirmed) {op : AccountOp} (hop : KeepsRegistry op)
    (hstep : account.step op = some next) : next.Confirmed := by
  cases op with
  | attachResolved profile =>
      cases hstep
      intro ix hmissing
      rw [attachResolved_registry] at hmissing
      by_cases hcontains : account.registry.contains profile.ix
      · rw [resolvedAt_attachResolved hcontains, if_neg, h ix hmissing]
        rintro rfl
        exact Bool.noConfusion (hcontains.symm.trans hmissing)
      · rw [attachResolved, if_neg hcontains]
        exact h ix hmissing
  | registryMut op =>
      obtain ⟨registry, hregistry, rfl⟩ := Option.map_eq_some_iff.1 hstep
      exact h.withRegistry (ProfileRegistry.step_keepsAnchors hregistry)
  | assignRegistry registry => exact hop.elim
  | setDefaultProfile ix =>
      obtain ⟨registry, hregistry, rfl⟩ := Option.map_eq_some_iff.1 hstep
      exact h.withRegistry (ProfileRegistry.setActive_anchored registry hregistry)

theorem resolved_agrees_iff (id : String) (registry : ProfileRegistry) (ops : List AccountOp) :
    ((∀ done, done <+: ops → ∀ account, run step (new id registry) done = some account →
        account.Agrees ∧ account.Confirmed) ↔ Meets step NamesEntry (new id registry) ops) ∧
      ((∀ op ∈ ops, KeepsRegistry op) → ∀ account,
        run step (new id registry) ops = some account → account.Confirmed) := by
  constructor
  · rw [← invariant_iff_meets (fun _ _ _ h => step_agrees_iff h) (fun _ _ => namesEntry_of_stuck)
      (agrees_new id registry)]
    constructor
    · intro h done hdone account hrun
      exact (h done hdone account hrun).1
    · intro h done hdone account hrun
      have hagrees := h done hdone account hrun
      exact ⟨hagrees, hagrees.confirmed⟩
  · intro hkeeps account hrun
    exact run_invariant (fun op hop _ _ hconfirmed => step_confirmed hconfirmed (hkeeps op hop))
      (agrees_new id registry).confirmed hrun

end Runs

section Example

def mintedAnchor (launcherId : Nat) : ProfileAnchor where
  did := s!"did:chia:{launcherId}"
  launcherId := launcherId
  didCoinId := 100 + launcherId
  didConfirmedHeight := 10
  storeLauncherId := 200 + launcherId
  storeConfirmedHeight := 20
  storeLaunchedFrom := some (100 + launcherId)
  storeCoinId := none

def secondProfile : ProfileRegistry :=
  ⟨[.new 1 (mintedAnchor 3) none], some 1, []⟩

def firstView : Profile := ⟨1, mintedAnchor 1⟩

def ownView : Profile := ⟨1, mintedAnchor 3⟩

theorem strangers_view_attached :
    letI := ProfileRegistry.decimalDid
    secondProfile.check = .ok () ∧
      (∃ account, run step (new "a" secondProfile) [.attachResolved firstView] = some account ∧
        account.resolvedAt 1 = some firstView ∧ ¬ account.Agrees) ∧
      ∃ account, run step (new "a" secondProfile)
          [.attachResolved ownView, .assignRegistry .empty] = some account ∧
        account.resolvedAt 1 = some ownView ∧ account.registry.contains 1 = false := by
  let _ := ProfileRegistry.decimalDid
  refine ⟨by decide, ⟨_, rfl, rfl, ?_⟩, ⟨_, rfl, rfl, rfl⟩⟩
  intro hagrees
  obtain ⟨entry, hget, hlauncher, -⟩ := hagrees 1 firstView rfl
  cases hget
  cases hlauncher

end Example

end Account

end DigAccount
