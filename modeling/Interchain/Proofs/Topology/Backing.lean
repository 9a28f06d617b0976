import Interchain.Proofs.Topology.WellFormed

/-!
# Native and stable assets are registered

A chain is backed if its native and its stable asset are registered on it.  Chains are
backed when they are registered, and every change keeps them so but one: removing an
asset drops the pairs that refer to it, yet not the chain's own reference to it.  So the
topologies of a run are backed up to the first change that removes such an asset.
-/

namespace Interchain

namespace ChainInfo

variable {c : ChainInfo} {location : Location}

/-- The native or the stable asset of the chain is at a location. -/
def Owns (c : ChainInfo) (location : Location) : Prop :=
  (∃ a ∈ c.native, a.location = location) ∨ ∃ a ∈ c.stable, a.location = location

/-- The stable asset of the chain, and its native one if that is at another location. -/
def ownAssets (c : ChainInfo) : List AssetInfo :=
  c.stable.toList ++ c.native.toList.filter fun a => !(c.stable.any fun s => s.location == a.location)

/-- A chain is registered with its own assets. -/
theorem assets_ofInfo (c : ChainInfo) : (ChainEntry.ofInfo c).assets = c.ownAssets := by
  unfold ChainEntry.ofInfo ownAssets ChainEntry.adopt ChainEntry.contains
  cases c.native with
  | none => simp
  | some native =>
    cases c.stable with
    | none => simp
    | some stable => by_cases h : stable.location = native.location <;> simp [h]

theorem contains_ofInfo : (ChainEntry.ofInfo c).contains location = true ↔ c.Owns location := by
  rw [ChainEntry.contains_iff, assets_ofInfo, ownAssets, Owns]
  cases c.native with
  | none => simp
  | some native =>
    cases c.stable with
    | none => simp
    | some stable =>
      by_cases h : stable.location = native.location
      · simp [h]
      · simp [h, or_comm]

end ChainInfo

namespace ChainEntry

variable {c : ChainEntry} {asset : AssetInfo} {location : Location}

/-- The chain's native asset, if it has one, is at a location that is registered on the
chain, and so is its stable asset. -/
structure Backed (c : ChainEntry) : Prop where
  native : ∀ a ∈ c.info.native, c.contains a.location = true
  stable : ∀ a ∈ c.info.stable, c.contains a.location = true

theorem Backed.contains (h : c.Backed) (hl : c.info.Owns location) :
    c.contains location = true := by
  rcases hl with ⟨a, ha, rfl⟩ | ⟨a, ha, rfl⟩
  · exact h.native a ha
  · exact h.stable a ha

/-- A chain stays backed where its own assets stay and no location is given up. -/
theorem Backed.mono {d : ChainEntry} (h : c.Backed) (hnative : d.info.native = c.info.native)
    (hstable : d.info.stable = c.info.stable)
    (hkeep : ∀ l, c.info.Owns l → c.contains l = true → d.contains l = true) : d.Backed where
  native a ha := hkeep _ (.inl ⟨a, hnative ▸ ha, rfl⟩) (h.native a (hnative ▸ ha))
  stable a ha := hkeep _ (.inr ⟨a, hstable ▸ ha, rfl⟩) (h.stable a (hstable ▸ ha))

theorem contains_adopt_self : (c.adopt asset).contains asset.location = true := by
  unfold adopt
  split
  · assumption
  · exact contains_iff.mpr ⟨asset, List.mem_append_right _ (List.mem_singleton_self _), rfl⟩

theorem backed_ofInfo (info : ChainInfo) : (ofInfo info).Backed where
  native a ha := by
    rw [info_ofInfo] at ha
    exact ChainInfo.contains_ofInfo.mpr (.inl ⟨a, ha, rfl⟩)
  stable a ha := by
    rw [info_ofInfo] at ha
    exact ChainInfo.contains_ofInfo.mpr (.inr ⟨a, ha, rfl⟩)

theorem Backed.setNative (h : c.Backed) : (c.setNative asset).Backed where
  native a ha := by
    obtain rfl : asset = a := Option.some.inj ha
    exact contains_adopt_self (c := c)
  stable a ha := by
    have ha' : a ∈ (c.adopt asset).info.stable := ha
    rw [info_adopt] at ha'
    exact contains_adopt (h.stable a ha')

theorem Backed.setStable (h : c.Backed) : (c.setStable asset).Backed where
  native a ha := by
    have ha' : a ∈ (c.adopt asset).info.native := ha
    rw [info_adopt] at ha'
    exact contains_adopt (h.native a ha')
  stable a ha := by
    obtain rfl : asset = a := Option.some.inj ha
    exact contains_adopt_self (c := c)

/-- A chain is still backed without an asset that is not its own. -/
theorem Backed.forget (h : c.Backed) (hl : ¬ c.info.Owns location) :
    (c.forget location).Backed := by
  refine h.mono rfl rfl ?_
  intro l howns hcontains
  refine contains_forget ?_ hcontains
  rintro rfl
  exact hl howns

theorem contains_forget_self (h : c.Distinct) : (c.forget location).contains location = false := by
  simp [contains, h.assets_forget]

end ChainEntry

namespace Topology

variable {t t' : Topology} {chain : ChainName}

/-- Every registered chain is backed. -/
def Backed (t : Topology) : Prop :=
  ∀ c ∈ t.chains, c.Backed

/-- The change removes the native or the stable asset of a chain. -/
def Strips (t : Topology) : TopologyChange → Prop
  | .removeAsset chain location => ∃ c, t.entry? chain = some c ∧ c.info.Owns location
  | _ => False

/-- None of the changes, made one after the other, removes the native or the stable asset
of a chain. -/
def NeverStrips : Topology → List TopologyChange → Prop
  | _, [] => True
  | t, change :: rest => ¬ t.Strips change ∧ NeverStrips (t.after change) rest

theorem Backed.found (h : t.Backed) {c : ChainEntry} (hc : t.entry? chain = some c) : c.Backed :=
  h c (entry?_spec hc).1

theorem Backed.putEntry {d : ChainEntry} (h : t.Backed) (hd : d.Backed) :
    (t.putEntry chain d).Backed := by
  intro e he
  rcases Keyed.mem_of_mem_update he with he | ⟨-, -, rfl⟩
  · exact h e he
  · exact hd

/-- A change that takes place leaves the chains backed, unless it removes an asset of
their own. -/
theorem Backed.change {change : TopologyChange} {removed : Removed} (h : t.Backed)
    (hspared : ¬ t.Strips change) (hch : t.change change = .ok (t', removed)) : t'.Backed := by
  cases change <;>
    simp only [Topology.change, adding, removing, Attempt.map_eq_ok, Prod.mk.injEq] at hch
  case addChain info =>
    obtain ⟨_, hch, rfl, -⟩ := hch
    obtain ⟨-, rfl⟩ := addChain_eq_ok.mp hch
    intro c hc
    rcases List.mem_append.mp hc with hc | hc
    · exact h c hc
    · exact List.mem_singleton.mp hc ▸ ChainEntry.backed_ofInfo info
  case removeChain name =>
    obtain ⟨⟨_, _⟩, hch, rfl, -⟩ := hch
    obtain ⟨c, -, -, rfl⟩ := removeChain_eq_ok.mp hch
    exact fun d hd => h d (List.eraseP_subset hd)
  case setNative chain asset =>
    obtain ⟨_, hch, rfl, -⟩ := hch
    obtain ⟨c, hc, rfl⟩ := setNative_eq_ok.mp hch
    exact h.putEntry (h.found hc).setNative
  case setStable chain asset =>
    obtain ⟨_, hch, rfl, -⟩ := hch
    obtain ⟨c, hc, rfl⟩ := setStable_eq_ok.mp hch
    exact h.putEntry (h.found hc).setStable
  case setEndpoint chain endpoint =>
    obtain ⟨_, hch, rfl, -⟩ := hch
    obtain ⟨c, hc, rfl⟩ := setEndpoint_eq_ok.mp hch
    exact h.putEntry ((h.found hc).mono rfl rfl fun _ _ hl => hl)
  case addAsset chain asset =>
    obtain ⟨_, hch, rfl, -⟩ := hch
    obtain ⟨c, hc, -, rfl⟩ := addAsset_eq_ok.mp hch
    exact h.putEntry ((h.found hc).mono rfl rfl fun _ _ hl => ChainEntry.contains_append hl)
  case removeAsset chain location =>
    obtain ⟨⟨_, _⟩, hch, rfl, -⟩ := hch
    obtain ⟨c, hc, -, rfl⟩ := removeAsset_eq_ok.mp hch
    have hc' : ¬ c.info.Owns location := fun hl => hspared ⟨c, hc, hl⟩
    exact h.putEntry ((h.found hc).forget hc')
  case addBridge name chain0 chain1 =>
    obtain ⟨_, hch, rfl, -⟩ := hch
    obtain ⟨-, -, -, rfl⟩ := addBridge_eq_ok.mp hch
    exact h
  case removeBridge name =>
    obtain ⟨⟨_, _⟩, hch, rfl, -⟩ := hch
    obtain ⟨-, rfl⟩ := removeBridge_eq_ok.mp hch
    exact h
  case addBridgePair bridge pair =>
    obtain ⟨_, hch, rfl, -⟩ := hch
    obtain ⟨b, -, -, -, -, rfl⟩ := addBridgePair_eq_ok.mp hch
    exact h
  case removeBridgePair bridge pair =>
    obtain ⟨⟨_, _⟩, hch, rfl, -⟩ := hch
    obtain ⟨b, -, -, rfl⟩ := removeBridgePair_eq_ok.mp hch
    exact h
  case addDex name id chain =>
    obtain ⟨_, hch, rfl, -⟩ := hch
    obtain ⟨-, -, rfl⟩ := addDex_eq_ok.mp hch
    exact h
  case removeDex name =>
    obtain ⟨⟨_, _⟩, hch, rfl, -⟩ := hch
    obtain ⟨-, rfl⟩ := removeDex_eq_ok.mp hch
    exact h
  case addDexPair dex pair =>
    obtain ⟨_, hch, rfl, -⟩ := hch
    obtain ⟨d, -, -, -, -, rfl⟩ := addDexPair_eq_ok.mp hch
    exact h
  case removeDexPair dex id =>
    obtain ⟨⟨_, _⟩, hch, rfl, -⟩ := hch
    obtain ⟨d, -, -, rfl⟩ := removeDexPair_eq_ok.mp hch
    exact h

/-- Removing an asset of a chain's own takes place, and leaves the chain without it. -/
theorem Backed.not_after {change : TopologyChange} (hw : t.WellFormed) (h : t.Backed)
    (hstrips : t.Strips change) : ¬ (t.after change).Backed := by
  cases change with
  | removeAsset chain location =>
    obtain ⟨c, hc, hl⟩ := hstrips
    obtain ⟨asset, hasset⟩ : ∃ a, (c.assets.find? fun a => a.location == location) = some a := by
      obtain ⟨a, ha, hal⟩ := ChainEntry.contains_iff.mp ((h.found hc).contains hl)
      exact Option.isSome_iff_exists.mp (List.find?_isSome.mpr ⟨a, ha, by simpa using hal⟩)
    have hch : t.removeAsset chain location = .ok (_, asset) :=
      removeAsset_eq_ok.mpr ⟨c, hc, hasset, rfl⟩
    rw [after, Topology.change, hch]
    intro hafter
    have hfound := entry?_putEntry hc (c.forget location) rfl chain
    rw [ChainName.same_refl, if_pos rfl] at hfound
    have hbacked : (c.forget location).Backed :=
      Backed.found (t := t.putEntry chain _) hafter hfound
    have hleft : (c.forget location).contains location = true := hbacked.contains hl
    rw [ChainEntry.contains_forget_self (hw.distinct_found hc)] at hleft
    exact Bool.false_ne_true hleft
  | _ => exact hstrips.elim

/-- What a change leaves is backed exactly if the change does not remove an asset of a
chain's own. -/
theorem backed_after_iff {change : TopologyChange} (hw : t.WellFormed) (h : t.Backed) :
    (t.after change).Backed ↔ ¬ t.Strips change := by
  constructor
  · exact fun hafter hstrips => h.not_after hw hstrips hafter
  · intro hspared
    unfold after
    split
    · exact h.change hspared ‹_›
    · exact h

theorem Backed.run_iff (changes : List TopologyChange) (hw : t.WellFormed) (h : t.Backed) :
    (∀ n, (t.afterAll (changes.take n)).Backed) ↔ t.NeverStrips changes := by
  induction changes generalizing t with
  | nil => simpa [afterAll, NeverStrips] using h
  | cons change rest ih =>
    constructor
    · intro hall
      have hafter : (t.after change).Backed := hall 1
      refine ⟨(backed_after_iff hw h).mp hafter, (ih (hw.after change) hafter).mp ?_⟩
      intro n
      exact hall (n + 1)
    · rintro ⟨hspared, hrest⟩ n
      have hafter : (t.after change).Backed := (backed_after_iff hw h).mpr hspared
      cases n with
      | zero => exact h
      | succ n => exact (ih (hw.after change) hafter).mpr hrest n

/-- Every topology on the way is backed exactly if none of the changes removes the native
or the stable asset of a chain. -/
theorem backed_iff_neverStrips (changes : List TopologyChange) :
    (∀ n, (empty.afterAll (changes.take n)).Backed) ↔ empty.NeverStrips changes :=
  Backed.run_iff changes wellFormed_empty fun _ hc => nomatch hc

/-- A chain keeps a native asset that has been removed from it. -/
theorem unbacked_after_removeAsset :
    ¬ (empty.afterAll
      [.addChain ⟨⟨"Khala"⟩, .sub, some ⟨"Phala", "PHA", 12, ⟨[1]⟩⟩, none, "wss://khala", none⟩,
       .removeAsset ⟨"khala"⟩ ⟨[1]⟩]).Backed := by
  intro h
  have hchain := h ⟨⟨⟨"Khala"⟩, .sub, some ⟨"Phala", "PHA", 12, ⟨[1]⟩⟩, none, "wss://khala", none⟩,
    []⟩ (by decide +kernel)
  exact Bool.false_ne_true (hchain.native _ rfl)

end Topology

end Interchain
