import Interchain.Proofs.Topology.WellFormed

/-!
# What goes with a chain or an asset

What a removal leaves is told here by what refers to what: everything that refers to what is
removed goes with it, and all else stays as it was and in its place
(`Topology.withoutAsset`, `Topology.withoutChain`).  A removal itself takes the first chain
of a name and the first asset at a location.  In a well-formed topology there is no second
one, so that nothing is left of what is removed.
-/

namespace Interchain

variable {chain : ChainName} {location : Location}

/-- A pair on a bridge refers to an asset of a chain if it has the asset's location on a side
that lies on this chain. -/
def Bridge.Refers (b : Bridge) (chain : ChainName) (location : Location) (p : AssetPair) : Prop :=
  b.chain0.same chain = true ∧ p.asset0.location = location ∨
    b.chain1.same chain = true ∧ p.asset1.location = location

instance (b : Bridge) : DecidablePred (b.Refers chain location) := fun _ =>
  inferInstanceAs (Decidable (_ ∨ _))

/-- A pool refers to an asset of a chain if its dex is on this chain and either side has the
asset's location. -/
def Dex.Refers (d : Dex) (chain : ChainName) (location : Location) (p : DexPair) : Prop :=
  d.chain.same chain = true ∧ (p.asset0.location = location ∨ p.asset1.location = location)

instance (d : Dex) : DecidablePred (d.Refers chain location) := fun _ =>
  inferInstanceAs (Decidable (_ ∧ _))

/-- The asset that is found at a location is the only one there. -/
theorem ChainEntry.Distinct.find?_eq_some_iff {c : ChainEntry} {asset : AssetInfo}
    (h : c.Distinct) : (c.assets.find? fun a => a.location == location) = some asset ↔
      (c.assets.filter fun a => a.location = location) = [asset] := by
  have hfound := Keyed.find?_eq_some_iff_filter (a := asset) (h.location_unique location)
  simpa only [Bool.beq_eq_decide_eq] using hfound

namespace Topology

variable {t t' : Topology} {c : ChainEntry}

/-- The topology without what is at a location of a chain and without the pairs that refer to
it. -/
def withoutAsset (t : Topology) (chain : ChainName) (location : Location) : Topology where
  chains := t.chains.map fun c =>
    if c.info.name.same chain then
      { c with assets := c.assets.filter fun a => a.location ≠ location }
    else c
  bridges := t.bridges.map fun b =>
    { b with assets := b.assets.filter fun p => ¬ b.Refers chain location p }
  dexes := t.dexes.map fun d =>
    { d with pairs := d.pairs.filter fun p => ¬ d.Refers chain location p }

/-- The topology without a chain and without the bridges and dexes that are on it. -/
def withoutChain (t : Topology) (name : ChainName) : Topology where
  chains := t.chains.filter fun c => ¬ c.info.name.same name
  bridges := t.bridges.filter fun b => ¬ (b.chain0.same name ∨ b.chain1.same name)
  dexes := t.dexes.filter fun d => ¬ d.chain.same name

/-! ## The cascades -/

theorem forgetOnBridge_eq (b : Bridge) : forgetOnBridge chain location b =
    { b with assets := b.assets.filter fun p => ¬ b.Refers chain location p } := by
  unfold forgetOnBridge
  congr 1
  refine List.filter_congr fun p _ => ?_
  rw [Bool.eq_iff_iff]
  simp [Bridge.Refers]

theorem forgetOnDex_eq (d : Dex) : forgetOnDex chain location d =
    { d with pairs := d.pairs.filter fun p => ¬ d.Refers chain location p } := by
  unfold forgetOnDex
  cases hd : d.chain.same chain with
  | true =>
    rw [if_pos rfl]
    congr 1
    refine List.filter_congr fun p _ => ?_
    rw [Bool.eq_iff_iff]
    simp [Dex.Refers, hd]
  | false =>
    have hall : (d.pairs.filter fun p => ¬ d.Refers chain location p) = d.pairs := by
      rw [List.filter_eq_self]
      intro p _
      simp [Dex.Refers, hd]
    rw [if_neg Bool.false_ne_true, hall]

namespace WellFormed

/-- The chain that a name finds is the only one of this name. -/
theorem entry?_eq_some_iff (h : t.WellFormed) : t.entry? chain = some c ↔
    (t.chains.filter fun d => d.info.name.same chain) = [c] :=
  Keyed.find?_eq_some_iff_filter (h.chain_unique chain)

/-- Forgetting an asset of the chain that a name finds is forgetting it wherever the name
fits. -/
theorem chains_forget (h : t.WellFormed) (hc : t.entry? chain = some c) :
    (t.putEntry chain (c.forget location)).chains = (t.withoutAsset chain location).chains := by
  calc (t.putEntry chain (c.forget location)).chains
      = Keyed.update (fun d => d.info.name.same chain) (·.forget location) t.chains :=
        Keyed.update_const (f := fun d : ChainEntry => d.forget location) hc
    _ = t.chains.map fun d =>
          if d.info.name.same chain then d.forget location else d :=
        Keyed.update_eq_map (h.chain_unique chain)
    _ = (t.withoutAsset chain location).chains := by
        refine List.map_congr_left fun d hd => ?_
        rw [← (h.locations d hd).assets_forget]
        rfl

/-- An asset can be removed if it is registered, and takes along what refers to it. -/
theorem removeAsset_iff (h : t.WellFormed) {removed : AssetInfo} :
    t.removeAsset chain location = .ok (t', removed) ↔
      (∃ c, (t.chains.filter fun d => d.info.name.same chain) = [c] ∧
        (c.assets.filter fun a => a.location = location) = [removed]) ∧
      t' = t.withoutAsset chain location := by
  have hbridges : t.bridges.map (forgetOnBridge chain location) =
      (t.withoutAsset chain location).bridges :=
    List.map_congr_left fun b _ => forgetOnBridge_eq b
  have hdexes : t.dexes.map (forgetOnDex chain location) =
      (t.withoutAsset chain location).dexes :=
    List.map_congr_left fun d _ => forgetOnDex_eq d
  rw [removeAsset_eq_ok, hbridges, hdexes]
  constructor
  · rintro ⟨c, hc, hfound, rfl⟩
    rw [h.chains_forget hc]
    exact ⟨⟨c, h.entry?_eq_some_iff.mp hc,
      (h.distinct_found hc).find?_eq_some_iff.mp hfound⟩, rfl⟩
  · rintro ⟨⟨c, hone, hasset⟩, rfl⟩
    have hc := h.entry?_eq_some_iff.mpr hone
    refine ⟨c, hc, (h.distinct_found hc).find?_eq_some_iff.mpr hasset, ?_⟩
    rw [h.chains_forget hc]

/-- A chain can be removed if it is registered, and takes along what is on it. -/
theorem removeChain_iff (h : t.WellFormed) {name : ChainName} {info : ChainInfo} :
    t.removeChain name = .ok (t', info) ↔
      (∃ c, (t.chains.filter fun d => d.info.name.same name) = [c] ∧ c.info = info) ∧
      t' = t.withoutChain name := by
  have hchains : (t.chains.eraseP fun d => d.info.name.same name) =
      (t.withoutChain name).chains := by
    refine (Keyed.eraseP_eq_filter (h.chain_unique name)).trans ?_
    simp [withoutChain]
  have hbridges : (t.bridges.filter fun b => !b.chain0.same name && !b.chain1.same name) =
      (t.withoutChain name).bridges := by
    simp [withoutChain]
  have hdexes : (t.dexes.filter fun d => !d.chain.same name) =
      (t.withoutChain name).dexes := by
    simp [withoutChain]
  rw [removeChain_eq_ok, hchains, hbridges, hdexes]
  constructor
  · rintro ⟨c, hc, hinfo, rfl⟩
    exact ⟨⟨c, h.entry?_eq_some_iff.mp hc, hinfo⟩, rfl⟩
  · rintro ⟨⟨c, hone, hinfo⟩, rfl⟩
    exact ⟨c, h.entry?_eq_some_iff.mpr hone, hinfo, rfl⟩

end WellFormed

/-- In every topology that changes lead to from the empty one, an asset can be removed exactly
if it is the one at its location of the one chain of that name.  What is left is the topology
without it and without the pairs that refer to it.  A chain can be removed exactly if it is the
one of its name, and what is left is the topology without it and what is on it. -/
theorem removals_exact (changes : List TopologyChange) :
    let t := empty.afterAll changes
    (∀ chain location t' removed, t.removeAsset chain location = .ok (t', removed) ↔
      (∃ c, (t.chains.filter fun d => d.info.name.same chain) = [c] ∧
        (c.assets.filter fun a => a.location = location) = [removed]) ∧
      t' = t.withoutAsset chain location) ∧
    ∀ name t' info, t.removeChain name = .ok (t', info) ↔
      (∃ c, (t.chains.filter fun d => d.info.name.same name) = [c] ∧ c.info = info) ∧
      t' = t.withoutChain name := by
  have h := wellFormed_empty.run changes
  constructor
  case left =>
    intro chain location t' removed
    exact h.removeAsset_iff
  case right =>
    intro name t' info
    exact h.removeChain_iff

end Topology

end Interchain
