import Interchain.Proofs.Topology.WellFormed

/-!
# The flat graph shows the topology

Clients see only the flat graph.  In a well-formed topology it loses nothing of the assets
and the bridges and refers to nothing that it does not show: a chain's assets stand in it
once each, under one spelling of the chain's name, and every location named by a pool or a
bridge is that of an asset which the graph finds on the chain in question.
-/

namespace Interchain

/-- A flat graph shows a topology. -/
structure Graph.Shows (g : Graph) (t : Topology) : Prop where
  /-- An asset is found at a location of a chain exactly if one is registered there. -/
  present : ∀ n l, (g.asset? n l).isSome = true ↔ t.Registered n l
  /-- What is found has the name, the symbol and the decimals that were registered. -/
  asset : ∀ n l c a, t.entry? n = some c → a ∈ c.assets → a.location = l →
    g.asset? n l = some ⟨c.info.name, l, a.name, a.symbol, a.decimals⟩
  /-- It is the only one at its location. -/
  unique : ∀ n l, t.Registered n l →
    ∃ a, (g.assets.filter fun a => a.chain.same n && a.location == l) = [a]
  /-- The assets of a chain are listed in the order of their registration. -/
  listed : ∀ n, g.assetsOn n = (t.entry? n).elim [] fun c =>
    c.assets.map fun a => ⟨c.info.name, a.location, a.name, a.symbol, a.decimals⟩
  /-- Both assets of a pool are found on its chain. -/
  pools : ∀ p ∈ g.pairs,
    (g.asset? p.chain p.asset0).isSome = true ∧ (g.asset? p.chain p.asset1).isSome = true
  /-- The two assets of each pair of a bridge are found on its two chains. -/
  crossings : ∀ b ∈ g.bridges, ∀ l ∈ b.assets,
    (g.asset? b.chain0 l.1).isSome = true ∧ (g.asset? b.chain1 l.2).isSome = true
  /-- The bridges between two chains are those registered, in that order. -/
  between : ∀ x y, g.bridgesBetween x y = (t.bridges.filter fun b => b.connects x y).map fun b =>
    ⟨b.chain0, b.chain1, b.assets.map fun p => (p.asset0.location, p.asset1.location)⟩
  /-- It does not matter which of the chains is named first. -/
  symmetric : ∀ x y, g.bridgesBetween x y = g.bridgesBetween y x

namespace Topology

variable {t : Topology} {n : ChainName} {l : Location} {c : ChainEntry}

namespace WellFormed

/-! ## The assets of a chain -/

/-- The assets that the graph lists for a chain are those registered on it. -/
theorem assetsOn_graph (h : t.WellFormed) (n : ChainName) :
    t.graph.assetsOn n = (t.entry? n).elim [] assetNodes := by
  have hnode : ∀ c ∈ t.chains, ∀ a ∈ assetNodes c, a.chain.same n = c.info.name.same n := by
    rintro c - _ ha
    obtain ⟨a, -, rfl⟩ := List.mem_map.mp ha
    rfl
  calc t.graph.assetsOn n
      = (t.chains.filter fun c => c.info.name.same n).flatMap assetNodes :=
        Keyed.filter_flatMap_uniform hnode
    _ = (t.entry? n).toList.flatMap assetNodes := by
        rw [Keyed.filter_eq_toList_find? (h.chain_unique n)]
        rfl
    _ = (t.entry? n).elim [] assetNodes := by
        cases t.entry? n <;> simp

/-- The graph finds an asset where it is listed for its chain. -/
theorem asset?_graph (h : t.WellFormed) (n : ChainName) (l : Location) :
    t.graph.asset? n l = ((t.entry? n).elim [] assetNodes).find? fun a => a.location == l := by
  rw [← h.assetsOn_graph n, Graph.assetsOn, List.find?_filter, Graph.asset?]
  simp only [Bool.decide_and, Bool.decide_eq_true]

theorem asset?_graph_of_chain (h : t.WellFormed) (hc : t.entry? n = some c) (l : Location) :
    t.graph.asset? n l = (c.assets.find? fun a => a.location == l).map fun a =>
      ⟨c.info.name, a.location, a.name, a.symbol, a.decimals⟩ := by
  rw [h.asset?_graph, hc, Option.elim_some, assetNodes, List.find?_map]
  rfl

theorem isSome_asset?_graph (h : t.WellFormed) :
    (t.graph.asset? n l).isSome = true ↔ t.Registered n l := by
  cases hc : t.entry? n with
  | none => simp [h.asset?_graph, Registered, hc]
  | some c =>
    rw [h.asset?_graph_of_chain hc, Option.isSome_map, List.find?_isSome, Registered, hc]
    simp [ChainEntry.contains]

/-- Nothing else in the graph matches the name of a chain and a location on it. -/
theorem filter_assets_graph (h : t.WellFormed) (n : ChainName) (l : Location) :
    (t.graph.assets.filter fun a => a.chain.same n && a.location == l) =
      (t.graph.asset? n l).toList := by
  have hlisted : (t.graph.assets.filter fun a => a.chain.same n && a.location == l) =
      (t.graph.assetsOn n).filter fun a => a.location == l := by
    rw [Graph.assetsOn, List.filter_filter]
    simp only [Bool.and_comm]
  rw [hlisted, h.assetsOn_graph, h.asset?_graph]
  apply Keyed.filter_eq_toList_find?
  cases hc : t.entry? n with
  | none => exact .nil
  | some c => exact List.pairwise_map.mpr ((h.distinct_found hc).location_unique l)

/-! ## The whole graph -/

/-- The graph of a well-formed topology shows it. -/
theorem shows (h : t.WellFormed) : t.graph.Shows t where
  present n l := h.isSome_asset?_graph
  asset n l c a hc ha hl := by
    have hfound : (c.assets.find? fun a => a.location == l) = some a := by
      have hmem : a ∈ (c.assets.find? fun a => a.location == l).toList := by
        rw [← Keyed.filter_eq_toList_find? ((h.distinct_found hc).location_unique l)]
        exact List.mem_filter.mpr ⟨ha, beq_iff_eq.mpr hl⟩
      exact Option.mem_toList.mp hmem
    rw [h.asset?_graph_of_chain hc, hfound, ← hl]
    rfl
  unique n l hr := by
    obtain ⟨a, ha⟩ := Option.isSome_iff_exists.mp (h.isSome_asset?_graph.mpr hr)
    refine ⟨a, ?_⟩
    rw [h.filter_assets_graph, ha]
    rfl
  listed n := h.assetsOn_graph n
  pools p hp := by
    obtain ⟨d, hd, hp⟩ := List.mem_flatMap.mp hp
    obtain ⟨q, hq, rfl⟩ := List.mem_map.mp hp
    have sound := h.dexes d hd
    exact ⟨h.isSome_asset?_graph.mpr (sound.asset0 q hq),
      h.isSome_asset?_graph.mpr (sound.asset1 q hq)⟩
  crossings e he l hl := by
    obtain ⟨b, hb, rfl⟩ := List.mem_map.mp he
    obtain ⟨p, hp, rfl⟩ := List.mem_map.mp hl
    have sound := h.bridges b hb
    exact ⟨h.isSome_asset?_graph.mpr (sound.asset0 p hp),
      h.isSome_asset?_graph.mpr (sound.asset1 p hp)⟩
  between x y := List.filter_map
  symmetric x y := by
    have hcomm : (fun b : BridgeEdge => b.connects x y) = fun b => b.connects y x :=
      funext fun b => Bool.or_comm _ _
    rw [Graph.bridgesBetween, Graph.bridgesBetween, hcomm]

end WellFormed

/-- The graph of every topology that changes lead to from the empty one shows it. -/
theorem shows_afterAll (changes : List TopologyChange) :
    (empty.afterAll changes).graph.Shows (empty.afterAll changes) :=
  (wellFormed_empty.run changes).shows

end Topology

end Interchain
