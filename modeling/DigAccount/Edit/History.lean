import DigAccount.Edit.Pinned
import DigAccount.Edit.Publish
import DigAccount.Edit.Serialised
import DigAccount.Foundation.Trail

namespace DigAccount

open Ledger

section StoreCoins

variable [CoinHash] [Clvm] {chain : Chain} {anchor : ProfileAnchor} {k m n : Nat}
  {id next : Bytes32}

def storeCoins (chain : Chain) (n : Nat) (anchor : ProfileAnchor) : List Bytes32 :=
  (Lineage.trail anchor.storeLauncherId (spends (ledgerOf (chain.take n)))).tail

theorem storeCoins_isPrefix (hle : m ≤ n) :
    storeCoins chain m anchor <+: storeCoins chain n anchor := by
  obtain ⟨later, hsplit⟩ := spends_take_split chain hle
  exact Lineage.trail_tail_isPrefix ⟨later, hsplit.symm⟩

theorem storeCoins_mono (hle : m ≤ n) (h : (storeCoins chain m anchor)[k]? = some id) :
    (storeCoins chain n anchor)[k]? = some id := by
  have hgrows : storeCoins chain m anchor <+: storeCoins chain n anchor := storeCoins_isPrefix hle
  obtain ⟨rest, hrest⟩ := hgrows
  obtain ⟨hlt, -⟩ := List.getElem?_eq_some_iff.1 h
  rw [← hrest, List.getElem?_append_left hlt, h]

theorem HonestChain.storeCoins_nodup (honest : HonestChain chain) (n : Nat) :
    (storeCoins chain n anchor).Nodup :=
  (Lineage.trail_nodup (honest.causal_take n)).tail

theorem HonestChain.storeCoins_tip (honest : HonestChain chain)
    (h : storeTipAt chain n anchor = some id) :
    (storeCoins chain n anchor).getLast? = some id :=
  Lineage.trail_tail_last (honest.causal_take n) h

theorem HonestChain.tip_not_recreated (honest : HonestChain chain)
    (h : storeTipAt chain n anchor = some id) : ¬ RecreatedBy chain n id := by
  rw [recreatedBy_iff]
  exact Lineage.not_recreated_of_tip (honest.causal_take n) h

theorem HonestChain.last_not_recreated (honest : HonestChain chain)
    (h : (storeCoins chain n anchor).getLast? = some id) : ¬ RecreatedBy chain n id := by
  cases htip : storeTipAt chain n anchor with
  | some tip =>
      have hlast := honest.storeCoins_tip htip
      rw [h, Option.some.injEq] at hlast
      subst hlast
      exact honest.tip_not_recreated htip
  | none =>
      have hunborn : lineageOf anchor.storeLauncherId (chain.take n) = .unborn := by
        rw [storeTipAt] at htip
        cases hstate : lineageOf anchor.storeLauncherId (chain.take n) with
        | unborn => rfl
        | live tip =>
            rw [hstate] at htip
            cases htip
        | melted last =>
            rw [hstate] at htip
            cases htip
      rw [storeCoins, Lineage.trail_of_unborn hunborn] at h
      cases h

theorem recreating_spend (h : Lineage.Succeeds (spends (ledgerOf (chain.take n))) id next) :
    ∃ spend ∈ coinSpendsOf (chain.take n), coinId spend.coin = id ∧
      ∃ coin, recreation spend = some coin ∧ coinId coin = next := by
  obtain ⟨s, hs, hcoin, hheir⟩ := h
  rw [spends_ledgerOf] at hs
  obtain ⟨spend, hmem, rfl⟩ := List.mem_map.1 hs
  exact ⟨spend, hmem, hcoin, Option.map_eq_some_iff.1 hheir⟩

theorem storeCoins_links : (anchor.storeLauncherId :: storeCoins chain n anchor).IsChain
    (Lineage.Succeeds (spends (ledgerOf (chain.take n)))) := by
  rw [storeCoins, ← Lineage.trail_cons]
  exact Lineage.trail_links _ _

theorem HonestChain.successor (honest : HonestChain chain) {spend : CoinSpend} {coin : Coin}
    (hmem : spend ∈ coinSpendsOf (chain.take n)) (hcoin : recreation spend = some coin)
    (hk : (storeCoins chain n anchor)[k]? = some (coinId spend.coin)) :
    (storeCoins chain n anchor)[k + 1]? = some (coinId coin) := by
  obtain ⟨hbound, hget⟩ := List.getElem?_eq_some_iff.1 hk
  by_cases hmore : k + 1 < (storeCoins chain n anchor).length
  · have hlinks : (storeCoins chain n anchor).IsChain _ := storeCoins_links.tail
    have hnext := List.isChain_iff_getElem.1 hlinks k hmore
    rw [hget] at hnext
    obtain ⟨other, hother, hsame, created, hcreated, hid⟩ := recreating_spend hnext
    obtain rfl := honest.spender_unique (mem_of_take hother) (mem_of_take hmem) hsame
    rw [hcoin, Option.some.injEq] at hcreated
    rw [List.getElem?_eq_getElem hmore, ← hid, hcreated]
  · have hlast : (storeCoins chain n anchor).getLast? = some (coinId spend.coin) := by
      rw [List.getLast?_eq_getElem?, ← hk]
      congr 1
      omega
    exact absurd ⟨spend, hmem, rfl, by rw [hcoin]; rfl⟩ (honest.last_not_recreated hlast)

end StoreCoins

structure DeviceWrite [CoinHash] [Clvm] [ProfileSchema] (chain : Chain) where
  schedule : Schedule
  source : HonestSource chain schedule
  editor : ProfileEditor
  ix : ProfileIx
  write : ProfileWrite
  network : MintNetwork
  start : Nat

section Devices

variable [CoinHash] [Clvm] [DigDrivers] [ProfileSchema] {chain : Chain} {anchor : ProfileAnchor}
  {k m n : Nat} {id next : Bytes32} {body other : VerifiedBody} {spend : CoinSpend}
  {store : Datastore}

def VersionAt (chain : Chain) (id : Bytes32) (body : VerifiedBody) : Prop :=
  ∃ creator ∈ coinSpendsOf chain, ∃ store, hydrate creator = .ok store ∧
    coinId store.coin = id ∧ root body = store.info.metadata.rootHash

theorem HonestChain.version_root (honest : HonestChain chain) (hmem : spend ∈ coinSpendsOf chain)
    (hstore : hydrate spend = .ok store) (h : VersionAt chain (coinId store.coin) body) :
    root body = store.info.metadata.rootHash := by
  obtain ⟨creator, hmem', store', hstore', hid, hroot⟩ := h
  have howns := honest.recreation_created hmem (hydrate_recreation _ _ hstore)
  have howns' := honest.recreation_created hmem' (hydrate_recreation _ _ hstore')
  rw [hid] at howns'
  obtain rfl := honest.creator_unique hmem hmem' howns howns'
  rw [hstore, Except.ok.injEq] at hstore'
  rw [hroot, hstore']

theorem HonestChain.version_unique (honest : HonestChain chain) (h : VersionAt chain id body)
    (h' : VersionAt chain id other) : body = other := by
  obtain ⟨creator, hmem, store, hstore, rfl, hroot⟩ := h
  exact root_binds _ _ (hroot.trans (honest.version_root hmem hstore h').symm)

def replay [SlotwiseSchema] [ReadableSchema] (genesis : VerifiedBody)
    (writes : List ProfileWrite) : Except EditError VerifiedBody :=
  writes.foldlM (fun body write => write.applied body) genesis

namespace DeviceWrite

variable (device : DeviceWrite chain) (anchor)

def baseTip : Option Bytes32 := storeTipAt chain (device.schedule.moment device.start) anchor

def spentTip : Option Bytes32 := storeTipAt chain
  (device.schedule.moment (device.start + device.write.readsBeforeUpdate)) anchor

def Steady : Prop := device.baseTip anchor = device.spentTip anchor

variable [SlotwiseSchema] [ReadableSchema]

def Pushes (bundle : SpendBundle) : Prop :=
  Query.push bundle ∈ (device.write.commit device.editor device.ix anchor device.network).asked
    device.source.answer device.start

structure Replaces (spend : CoinSpend) (next : VerifiedBody) : Prop where
  spends : device.spentTip anchor = some (coinId spend.coin)
  applied : ∃ tip, device.baseTip anchor = some tip ∧
    ∀ base, VersionAt chain tip base → base ≠ next ∧ device.write.applied base = .ok next
  anchors : ∃ store, hydrate spend = .ok store ∧ store.info.metadata.rootHash = root next

variable {device} {anchor} {bundle : SpendBundle}

theorem Pushes.replaces (honest : HonestChain chain) (h : device.Pushes anchor bundle) :
    ∃ spend next, bundle.coinSpends = [spend] ∧ device.Replaces anchor spend next := by
  obtain ⟨tip, next, pushes⟩ := push_mem_asked_commit h
  obtain ⟨store, hread, hcommits⟩ := buildAndSignUpdate_ok pushes.built
  obtain ⟨hbase, creator, hmem, -, hhydrated⟩ := device.source.resolved honest pushes.read
  obtain ⟨hspent, -⟩ := device.source.resolved honest hread
  obtain ⟨spend, hspends, hcoin⟩ := List.map_eq_singleton_iff.1 hcommits.spends
  refine ⟨spend, next, hspends, ?_, ⟨_, hbase, fun base hversion => ?_⟩, ?_⟩
  · rw [hcoin]
    exact hspent
  · have hroot := honest.version_root hmem hhydrated hversion
    refine ⟨?_, pushes.applied base hroot⟩
    rintro rfl
    exact pushes.moved hroot.symm
  · obtain ⟨nextStore, hnext, hmetadata⟩ := hcommits.anchors spend (by simp [hspends])
    exact ⟨nextStore, hnext, by rw [hmetadata]⟩

end DeviceWrite

variable [SlotwiseSchema] [ReadableSchema]

structure WrittenOnly (chain : Chain) (anchor : ProfileAnchor) (devices : Set (DeviceWrite chain))
    (genesis : VerifiedBody) : Prop where
  launched : ∀ launch ∈ coinSpendsOf chain, coinId launch.coin = anchor.storeLauncherId →
    ∃ store, hydrate launch = .ok store ∧ root genesis = store.info.metadata.rootHash
  written : ∀ spend ∈ coinSpendsOf chain,
    coinId spend.coin ∈ storeCoins chain chain.length anchor → (recreation spend).isSome →
      ∃ device ∈ devices, ∃ bundle, device.Pushes anchor bundle ∧ spend ∈ bundle.coinSpends

structure WriteStep (anchor : ProfileAnchor) (devices : Set (DeviceWrite chain)) (n : Nat)
    (versions : List VerifiedBody) (k : Nat) (device : DeviceWrite chain) : Prop where
  member : device ∈ devices
  spends : ∃ id, device.spentTip anchor = some id ∧ (storeCoins chain n anchor)[k]? = some id
  advances : ∃ j ≤ k, ∃ base next, versions[j]? = some base ∧ versions[k + 1]? = some next ∧
    base ≠ next ∧ device.write.applied base = .ok next ∧ (j = k ↔ device.Steady anchor)

structure WriteHistory (anchor : ProfileAnchor) (devices : Set (DeviceWrite chain))
    (genesis : VerifiedBody) (n : Nat) (versions : List VerifiedBody)
    (applied : List (DeviceWrite chain)) : Prop where
  coins : List.Forall₂ (VersionAt chain) (storeCoins chain n anchor) versions
  launched : ∀ first ∈ versions.head?, first = genesis
  length : applied.length = versions.length - 1
  steps : ∀ k device, applied[k]? = some device → WriteStep anchor devices n versions k device

variable {devices : Set (DeviceWrite chain)} {genesis : VerifiedBody} {device : DeviceWrite chain}

theorem DeviceWrite.Replaces.version (h : device.Replaces anchor spend body)
    (hmem : spend ∈ coinSpendsOf chain) {coin : Coin} (hcoin : recreation spend = some coin) :
    VersionAt chain (coinId coin) body := by
  obtain ⟨store, hstore, hroot⟩ := h.anchors
  rw [hydrate_recreation _ _ hstore, Option.some.injEq] at hcoin
  subst hcoin
  exact ⟨spend, hmem, store, hstore, rfl, hroot.symm⟩

omit [DigDrivers] [ProfileSchema] [SlotwiseSchema] [ReadableSchema] in
theorem mem_storeCoins_length (h : id ∈ storeCoins chain n anchor) :
    id ∈ storeCoins chain chain.length anchor := by
  rcases Nat.le_total n chain.length with hle | hge
  · exact (storeCoins_isPrefix hle).subset h
  · rw [storeCoins, List.take_of_length_le hge] at h
    rwa [storeCoins, List.take_length]

structure VersionLink (anchor : ProfileAnchor) (devices : Set (DeviceWrite chain)) (n : Nat)
    (id next : Bytes32) (device : DeviceWrite chain) (body : VerifiedBody) : Prop where
  member : device ∈ devices
  replaced : ∃ spend ∈ coinSpendsOf (chain.take n), coinId spend.coin = id ∧
    device.Replaces anchor spend body
  version : VersionAt chain next body

theorem WrittenOnly.link (written : WrittenOnly chain anchor devices genesis)
    (honest : HonestChain chain) (hid : id ∈ storeCoins chain n anchor)
    (h : Lineage.Succeeds (spends (ledgerOf (chain.take n))) id next) :
    ∃ device body, VersionLink anchor devices n id next device body := by
  obtain ⟨spend, hmem, rfl, coin, hcoin, rfl⟩ := recreating_spend h
  obtain ⟨device, hdevice, bundle, hpushed, hspend⟩ := written.written spend (mem_of_take hmem)
    (mem_storeCoins_length hid) (by rw [hcoin]; rfl)
  obtain ⟨only, body, hspends, hreplaces⟩ := hpushed.replaces honest
  rw [hspends, List.mem_singleton] at hspend
  subst hspend
  exact ⟨device, body, hdevice, ⟨spend, hmem, rfl, hreplaces⟩,
    hreplaces.version (mem_of_take hmem) hcoin⟩

omit [SlotwiseSchema] [ReadableSchema] in
theorem version_at_index {versions : List VerifiedBody}
    (h : List.Forall₂ (VersionAt chain) (storeCoins chain n anchor) versions)
    (hid : (storeCoins chain n anchor)[k]? = some id) :
    ∃ body, versions[k]? = some body ∧ VersionAt chain id body := by
  obtain ⟨hlt, rfl⟩ := List.getElem?_eq_some_iff.1 hid
  have hlt' : k < versions.length := h.length_eq ▸ hlt
  exact ⟨versions[k], List.getElem?_eq_getElem hlt', h.get hlt hlt'⟩

omit [DigDrivers] [ProfileSchema] [SlotwiseSchema] [ReadableSchema] in
theorem HonestChain.tip_index (honest : HonestChain chain) (hle : m ≤ n)
    (h : storeTipAt chain m anchor = some id) :
    (storeCoins chain n anchor)[(storeCoins chain m anchor).length - 1]? = some id := by
  have hlast := honest.storeCoins_tip h
  rw [List.getLast?_eq_getElem?] at hlast
  exact storeCoins_mono hle hlast

omit [DigDrivers] [SlotwiseSchema] [ReadableSchema] in
theorem DeviceWrite.base_index (honest : HonestChain chain) {tip : Bytes32}
    (hbase : device.baseTip anchor = some tip) (hspent : device.spentTip anchor = some id)
    (hid : (storeCoins chain n anchor)[k]? = some id) :
    ∃ j ≤ k, (storeCoins chain n anchor)[j]? = some tip ∧ (j = k ↔ device.Steady anchor) := by
  let reread := device.schedule.moment (device.start + device.write.readsBeforeUpdate)
  let bound := max n reread
  have hforward : device.schedule.moment device.start ≤ reread :=
    device.schedule.forward (Nat.le_add_right _ _)
  have hread := honest.tip_index (n := bound) (by omega) hbase
  have hpaid : (storeCoins chain bound anchor)[(storeCoins chain reread anchor).length - 1]? =
      some id := honest.tip_index (Nat.le_max_right ..) hspent
  have hkept : (storeCoins chain bound anchor)[k]? = some id :=
    storeCoins_mono (Nat.le_max_left ..) hid
  obtain ⟨hlt, -⟩ := List.getElem?_eq_some_iff.1 hkept
  have hunique : ∀ {j : Nat}, (storeCoins chain bound anchor)[j]? = some id → j = k :=
    fun hj => ((List.getElem?_inj hlt (honest.storeCoins_nodup bound)).1
      (hkept.trans hj.symm)).symm
  have hgrows : storeCoins chain (device.schedule.moment device.start) anchor <+:
      storeCoins chain reread anchor := storeCoins_isPrefix hforward
  have hlengths := hgrows.length_le
  have hle : (storeCoins chain (device.schedule.moment device.start) anchor).length - 1 ≤ k := by
    have hk := hunique hpaid
    omega
  obtain ⟨hshort, -⟩ := List.getElem?_eq_some_iff.1 hid
  refine ⟨_, hle, ?_, ?_⟩
  · have hfound := List.getElem?_eq_getElem (Nat.lt_of_le_of_lt hle hshort)
    rw [hfound, ← hread, storeCoins_mono (Nat.le_max_left ..) hfound]
  · rw [DeviceWrite.Steady, hbase, hspent, Option.some.injEq]
    constructor
    · intro hj
      rw [hj, hkept] at hread
      exact (Option.some.inj hread).symm
    · rintro rfl
      exact hunique hread

theorem VersionLink.step (honest : HonestChain chain) {versions : List VerifiedBody}
    (coins : List.Forall₂ (VersionAt chain) (storeCoins chain n anchor) versions)
    (link : VersionLink anchor devices n id next device body)
    (hid : (storeCoins chain n anchor)[k]? = some id)
    (hnext : (storeCoins chain n anchor)[k + 1]? = some next) :
    WriteStep anchor devices n versions k device := by
  obtain ⟨spend, hmem, rfl, hreplaces⟩ := link.replaced
  obtain ⟨tip, htip, happlied⟩ := hreplaces.applied
  obtain ⟨found, hfound, hversion⟩ := version_at_index coins hnext
  obtain rfl := honest.version_unique link.version hversion
  obtain ⟨j, hle, hj, hsteady⟩ := DeviceWrite.base_index honest htip hreplaces.spends hid
  obtain ⟨read, hread, hversion⟩ := version_at_index coins hj
  obtain ⟨hmoved, hwritten⟩ := happlied read hversion
  exact ⟨link.member, ⟨_, hreplaces.spends, hid⟩, j, hle, read, _, hread, hfound, hmoved, hwritten,
    hsteady⟩

theorem WrittenOnly.first_version (written : WrittenOnly chain anchor devices genesis)
    {first : Bytes32}
    (h : Lineage.Succeeds (spends (ledgerOf (chain.take n))) anchor.storeLauncherId first) :
    VersionAt chain first genesis := by
  obtain ⟨launch, hmem, hcoin, coin, hrecreated, rfl⟩ := recreating_spend h
  obtain ⟨store, hstore, hroot⟩ := written.launched launch (mem_of_take hmem) hcoin
  rw [hydrate_recreation _ _ hstore, Option.some.injEq] at hrecreated
  subst hrecreated
  exact ⟨launch, mem_of_take hmem, store, hstore, rfl, hroot⟩

theorem WrittenOnly.history (written : WrittenOnly chain anchor devices genesis)
    (honest : HonestChain chain) (n : Nat) :
    ∃ versions applied, WriteHistory anchor devices genesis n versions applied := by
  have hlinks : (anchor.storeLauncherId :: storeCoins chain n anchor).IsChain
      (Lineage.Succeeds (spends (ledgerOf (chain.take n)))) := storeCoins_links
  cases hcoins : storeCoins chain n anchor with
  | nil =>
      refine ⟨[], [], ?_, by simp, rfl, by simp⟩
      rw [hcoins]
      exact .nil
  | cons first coins =>
      rw [hcoins, List.isChain_cons_cons] at hlinks
      have hfirst := written.first_version hlinks.1
      have hstep : ∀ id ∈ first :: coins, ∀ next,
          Lineage.Succeeds (spends (ledgerOf (chain.take n))) id next → ∃ device body,
            VersionLink anchor devices n id next device body ∧ VersionAt chain next body := by
        intro id hid next hnext
        rw [← hcoins] at hid
        obtain ⟨device, body, link⟩ := written.link honest hid hnext
        exact ⟨device, body, link, link.version⟩
      obtain ⟨versions, applied, hversions, hlength, hsteps⟩ :=
        Lineage.exists_versions (VersionLink anchor devices n) hlinks.2 hstep
      have hall : List.Forall₂ (VersionAt chain) (storeCoins chain n anchor)
          (genesis :: versions) := by
        rw [hcoins]
        exact .cons hfirst hversions
      refine ⟨genesis :: versions, applied, hall, by simp, ?_, ?_⟩
      · rw [hlength, hversions.length_eq]
        rfl
      · intro k device hk
        obtain ⟨id, next, body, hid, hnext, -, link⟩ := hsteps k device hk
        refine link.step honest hall ?_ ?_
        · rw [hcoins, hid]
        · rw [hcoins, List.getElem?_cons_succ, hnext]

namespace WriteHistory

variable {versions : List VerifiedBody} {applied : List (DeviceWrite chain)}
  (history : WriteHistory anchor devices genesis n versions applied)
include history

theorem getElem?_zero {first : VerifiedBody} (h : versions[0]? = some first) : first = genesis :=
  history.launched first (by rw [List.head?_eq_getElem?, h]; rfl)

theorem steady_step (steady : ∀ device ∈ applied, device.Steady anchor)
    {device : DeviceWrite chain} (hk : applied[k]? = some device) :
    ∃ base next, versions[k]? = some base ∧ versions[k + 1]? = some next ∧
      device.write.applied base = .ok next := by
  obtain ⟨j, -, base, next, hbase, hnext, -, happlied, hsteady⟩ :=
    (history.steps k device hk).advances
  obtain rfl := hsteady.2 (steady device (List.mem_of_getElem? hk))
  exact ⟨base, next, hbase, hnext, happlied⟩

theorem replayed (steady : ∀ device ∈ applied, device.Steady anchor) (hle : k ≤ applied.length)
    (hk : versions[k]? = some body) :
    replay genesis ((applied.take k).map DeviceWrite.write) = .ok body := by
  induction k generalizing body with
  | zero =>
      rw [history.getElem?_zero hk]
      rfl
  | succ k ih =>
      have hlt : k < applied.length := hle
      obtain ⟨base, next, hbase, hnext, happlied⟩ :=
        history.steady_step steady (List.getElem?_eq_getElem hlt)
      rw [hnext, Option.some.injEq] at hk
      subst hk
      rw [List.take_add_one, List.getElem?_eq_getElem hlt, Option.toList_some, List.map_append,
        replay, List.foldlM_append]
      have hearlier := ih (Nat.le_of_lt hlt) hbase
      rw [replay] at hearlier
      rw [hearlier]
      exact (bind_pure _).trans happlied

theorem applied_nodup (honest : HonestChain chain) : applied.Nodup := by
  refine List.pairwise_iff_getElem.2 fun i j hi hj hlt hsame => ?_
  obtain ⟨id, hspent, hid⟩ := (history.steps i _ (List.getElem?_eq_getElem hi)).spends
  obtain ⟨id', hspent', hid'⟩ := (history.steps j _ (List.getElem?_eq_getElem hj)).spends
  rw [hsame, hspent', Option.some.injEq] at hspent
  subst hspent
  obtain ⟨hbound, -⟩ := List.getElem?_eq_some_iff.1 hid
  have hindex := (List.getElem?_inj hbound (honest.storeCoins_nodup n)).1 (hid.trans hid'.symm)
  omega

theorem tip_version (honest : HonestChain chain) (htip : storeTipAt chain n anchor = some id) :
    ∃ body, versions.getLast? = some body ∧ VersionAt chain id body := by
  have hlast := honest.storeCoins_tip htip
  rw [List.getLast?_eq_getElem?, history.coins.length_eq] at hlast
  rw [List.getLast?_eq_getElem?]
  exact version_at_index history.coins hlast

theorem latest_read (honest : HonestChain chain) {schedule : Schedule}
    (source : HonestSource chain schedule) {i : Nat} (hmoment : schedule.moment i = n)
    {snapshot : ProfileSnapshot}
    (h : (readProfile anchor).exec source.answer i = (.ok snapshot, k)) :
    versions.getLast? = some snapshot.body := by
  obtain ⟨store, slots, hread, -, -, -, hbound⟩ := exec_readProfile.1 h
  obtain ⟨htip, creator, hmem, -, hhydrated⟩ := source.resolved honest hread
  rw [hmoment] at htip
  obtain ⟨body, hlast, hversion⟩ := history.tip_version honest htip
  have hread : VersionAt chain (coinId store.coin) snapshot.body :=
    ⟨creator, hmem, store, hhydrated, rfl, (bindToChain_ok.1 hbound).1⟩
  rw [hlast, honest.version_unique hversion hread]

theorem latest_confirmed (honest : HonestChain chain) {schedule : Schedule}
    (source : HonestSource chain schedule) {i : Nat} (hmoment : schedule.moment i = n)
    {newRoot reported : Bytes32}
    (h : (ProfileEditor.editStatus anchor newRoot).exec source.answer i =
      (.ok (.confirmed reported), k)) :
    ∃ current, versions.getLast? = some current ∧ root current = reported := by
  obtain ⟨rfl, -, lineage, creatingSpend, store, answers, hroot⟩ := exec_editStatus_confirmed.1 h
  have hread := exec_resolveStoreTip_eq_ok.2 ⟨rfl, lineage, creatingSpend, answers⟩
  obtain ⟨htip, creator, hmem, -, hhydrated⟩ := source.resolved honest hread
  rw [hmoment] at htip
  obtain ⟨body, hlast, hversion⟩ := history.tip_version honest htip
  exact ⟨body, hlast, (honest.version_root hmem hhydrated hversion).trans hroot⟩

theorem included (honest : HonestChain chain) {bundle : SpendBundle} {height : Nat}
    (pushed : device.Pushes anchor bundle) (hincluded : Includes chain bundle height)
    (hlt : height < n) :
    ∃ k spend next, (storeCoins chain n anchor)[k]? = some (coinId spend.coin) ∧
      bundle.coinSpends = [spend] ∧ device.Replaces anchor spend next ∧
        versions[k + 1]? = some next := by
  obtain ⟨spend, next, hspends, hreplaces⟩ := pushed.replaces honest
  obtain ⟨store, hstore, -⟩ := hreplaces.anchors
  have hspend : spend ∈ bundle.coinSpends := by simp [hspends]
  have hrecreated := hydrate_recreation _ _ hstore
  have hearly : device.schedule.moment
      (device.start + device.write.readsBeforeUpdate) ≤ height := by
    refine Nat.le_of_not_lt fun hm => honest.tip_not_recreated hreplaces.spends ?_
    exact ⟨spend, hincluded.mem_take hspend hm, rfl, by rw [hrecreated]; rfl⟩
  have hindex := honest.tip_index (n := n) (by omega) hreplaces.spends
  have hnext := honest.successor (hincluded.mem_take hspend hlt) hrecreated hindex
  obtain ⟨found, hfound, hversion⟩ := version_at_index history.coins hnext
  have hown := hreplaces.version (hincluded.mem hspend) hrecreated
  obtain rfl := honest.version_unique hown hversion
  exact ⟨_, spend, next, hindex, hspends, hreplaces, hfound⟩

theorem kept (honest : HonestChain chain) (hle : m ≤ n) {earlier : List VerifiedBody}
    {made : List (DeviceWrite chain)}
    (past : WriteHistory anchor devices genesis m earlier made) : earlier <+: versions := by
  refine List.prefix_iff_getElem?.2 fun k hk => ?_
  have hlt : k < (storeCoins chain m anchor).length := past.coins.length_eq ▸ hk
  have hid := storeCoins_mono hle (List.getElem?_eq_getElem hlt)
  obtain ⟨body, hbody, hversion⟩ := version_at_index history.coins hid
  rw [hbody, honest.version_unique hversion (past.coins.get hlt hk)]
  rfl

theorem readable (hgenesis : Readable genesis) (hk : versions[k]? = some body) :
    Readable body := by
  induction k using Nat.strong_induction_on generalizing body with
  | _ k ih =>
      cases k with
      | zero =>
          rw [history.getElem?_zero hk]
          exact hgenesis
      | succ k =>
          obtain ⟨hlt, -⟩ := List.getElem?_eq_some_iff.1 hk
          have happlied : k < applied.length := by
            have hlength := history.length
            omega
          obtain ⟨j, hle, base, next, hbase, hnext, -, hwrite, -⟩ :=
            (history.steps k _ (List.getElem?_eq_getElem happlied)).advances
          rw [hnext, Option.some.injEq] at hk
          subst hk
          exact ProfileWrite.readable hwrite (ih j (Nat.lt_succ_of_le hle) hbase)

end WriteHistory

omit [CoinHash] [Clvm] [DigDrivers] in
theorem replay_fields {writes : List ProfileWrite} {genesis : VerifiedBody}
    (h : replay genesis writes = .ok body) :
    projectStandardSlots (profile body) =
      writes.foldl (fun fields write => write.preview fields)
        (projectStandardSlots (profile genesis)) := by
  induction writes generalizing genesis with
  | nil =>
      cases h
      rfl
  | cons write writes ih =>
      rw [replay, List.foldlM_cons] at h
      obtain ⟨middle, hmiddle, hrest⟩ := Validator.bind_ok.1 h
      rw [ih hrest, ProfileWrite.fields hmiddle, List.foldl_cons]

structure ProfileHistory (anchor : ProfileAnchor) (devices : Set (DeviceWrite chain))
    (genesis : VerifiedBody) (n : Nat) (versions : List VerifiedBody)
    (applied : List (DeviceWrite chain)) : Prop
    extends WriteHistory anchor devices genesis n versions applied where
  once : applied.Nodup
  kept : ∀ m ≤ n, ∀ earlier made, WriteHistory anchor devices genesis m earlier made →
    earlier <+: versions
  readable : Readable genesis → ∀ body ∈ versions, Readable body
  serial : (∀ device ∈ applied, device.Steady anchor) → ∀ current,
    versions.getLast? = some current →
      replay genesis (applied.map DeviceWrite.write) = .ok current ∧
        projectStandardSlots (profile current) =
          (applied.map DeviceWrite.write).foldl (fun fields write => write.preview fields)
            (projectStandardSlots (profile genesis))
  read : ∀ schedule (source : HonestSource chain schedule) i, schedule.moment i = n →
    ∀ snapshot k, (readProfile anchor).exec source.answer i = (.ok snapshot, k) →
      versions.getLast? = some snapshot.body ∧
        snapshot.fields = projectStandardSlots (profile snapshot.body)
  confirmed : ∀ schedule (source : HonestSource chain schedule) i, schedule.moment i = n →
    ∀ newRoot reported k, (ProfileEditor.editStatus anchor newRoot).exec source.answer i =
        (.ok (.confirmed reported), k) →
      ∃ current, versions.getLast? = some current ∧ root current = reported
  included : ∀ (device : DeviceWrite chain) bundle height, device.Pushes anchor bundle →
    Includes chain bundle height → height < n →
      ∃ k spend next, (storeCoins chain n anchor)[k]? = some (coinId spend.coin) ∧
        bundle.coinSpends = [spend] ∧ device.Replaces anchor spend next ∧
          versions[k + 1]? = some next

theorem profile_history_serialises (honest : HonestChain chain)
    (written : WrittenOnly chain anchor devices genesis) (n : Nat) :
    ∃ versions applied, ProfileHistory anchor devices genesis n versions applied := by
  obtain ⟨versions, applied, history⟩ := written.history honest n
  refine ⟨versions, applied, history, history.applied_nodup honest, ?_, ?_, ?_, ?_, ?_, ?_⟩
  · exact fun m hle _ _ past => history.kept honest hle past
  · intro hgenesis body hmem
    obtain ⟨k, hk⟩ := List.mem_iff_getElem?.1 hmem
    exact history.readable hgenesis hk
  · intro steady current hlast
    have hversion : versions[applied.length]? = some current := by
      rw [history.length, ← List.getLast?_eq_getElem?, hlast]
    have hreplayed := history.replayed steady (Nat.le_refl _) hversion
    rw [List.take_length] at hreplayed
    exact ⟨hreplayed, replay_fields hreplayed⟩
  · intro schedule source i hmoment snapshot k h
    refine ⟨history.latest_read honest source hmoment h, ?_⟩
    obtain ⟨store, slots, -, -, -, -, hbound⟩ := exec_readProfile.1 h
    rw [(bindToChain_ok.1 hbound).2]
  · exact fun _ source _ hmoment _ _ _ => history.latest_confirmed honest source hmoment
  · exact fun _ _ _ pushed hincluded => history.included honest pushed hincluded

end Devices

section Example

@[reducible] def slotBookReadable : letI := slotBook; letI := slotBookSlotwise; ReadableSchema :=
  letI := slotBook
  letI := slotBookSlotwise
  { asU16 := fun value => value.getRight?.map fun _ => 1
    schemaVersionOf := fun book =>
      (OrderedMap.get book.1 0).bind fun value => value.getRight?.map fun _ => 1
    schemaVersionOf_eq := fun _ => rfl
    schemaVersion_unnamed := fun slot => by cases slot <;> decide }

def versionedBook : SlotBook := ⟨[(0, .inr ()), (1, .inr ())], by decide⟩

def blankBook : SlotBook := ⟨[(0, .inr ())], by decide⟩

def bookShelf : NodeIndex := letI := slotBook
  { amountIndex with slots := fun _ _ => encodedSlots versionedBook }

def writtenBook : Chain :=
  [⟨[namedCoin 10, namedCoin 20], []⟩,
    ⟨[], [⟨namedCoin 10, [], [11]⟩, ⟨namedCoin 20, [], [171]⟩]⟩,
    ⟨[], [⟨⟨20, 0, 171⟩, [], [51]⟩]⟩,
    ⟨[], [⟨⟨171, 0, 51⟩, [], [3]⟩]⟩]

def bookDevice (write : letI := slotBook; ProfileWrite) (moment : Nat) :
    letI := amountNames; letI := singletonOutputs; letI := slotBook; DeviceWrite writtenBook :=
  letI := amountNames
  letI := singletonOutputs
  letI := slotBook
  { schedule := steadyAt moment
    source := .node bookShelf writtenBook (steadyAt moment)
    editor := ownEditor
    ix := .root
    write := write
    network := ⟨0⟩
    start := 0 }

theorem profile_history_serialises_writtenBook :
    letI := amountNames
    letI := singletonOutputs
    letI := singletonDrivers
    letI := slotBook
    letI := slotBookSlotwise
    letI := slotBookReadable
    let edited := bookDevice (.delta (ProfileEdit.build clearedName)) 2
    let republished := bookDevice (.wholesale blankBook) 3
    ∃ versions applied,
      ProfileHistory profileAnchor {edited, republished} versionedBook 4 versions applied ∧
        versions.length = 3 := by
  let _ := amountNames
  let _ := singletonOutputs
  let _ := singletonDrivers
  let _ := slotBook
  let _ := slotBookSlotwise
  let _ := slotBookReadable
  intro edited republished
  have honest : HonestChain writtenBook := FreshChain.honest (by decide)
  have hlaunch : ∀ spend ∈ coinSpendsOf writtenBook, coinId spend.coin = 20 →
      spend = ⟨namedCoin 20, [], [171]⟩ := by decide +kernel
  have hwrites : ∀ spend ∈ coinSpendsOf writtenBook,
      coinId spend.coin ∈ storeCoins writtenBook writtenBook.length profileAnchor →
        (recreation spend).isSome →
          spend = ⟨⟨20, 0, 171⟩, [], [51]⟩ ∨ spend = ⟨⟨171, 0, 51⟩, [], [3]⟩ := by
    decide +kernel
  have hedited : edited.Pushes profileAnchor ⟨[⟨⟨20, 0, 171⟩, [], [51]⟩], []⟩ := by
    rw [DeviceWrite.Pushes]
    decide +kernel
  have hpublished : republished.Pushes profileAnchor ⟨[⟨⟨171, 0, 51⟩, [], [3]⟩], []⟩ := by
    rw [DeviceWrite.Pushes]
    decide +kernel
  have written : WrittenOnly writtenBook profileAnchor {edited, republished} versionedBook := by
    constructor
    · intro launch hmem hid
      rw [hlaunch launch hmem hid]
      exact ⟨_, rfl, by decide +kernel⟩
    · intro spend hmem hcoin hsome
      rcases hwrites spend hmem hcoin hsome with rfl | rfl
      · exact ⟨edited, .inl rfl, _, hedited, List.mem_singleton.2 rfl⟩
      · exact ⟨republished, .inr rfl, _, hpublished, List.mem_singleton.2 rfl⟩
  obtain ⟨versions, applied, history⟩ := profile_history_serialises honest written 4
  refine ⟨versions, applied, history, ?_⟩
  rw [← history.coins.length_eq]
  decide +kernel

end Example

end DigAccount
