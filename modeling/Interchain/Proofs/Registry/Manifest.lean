import Interchain.Proofs.Registry.Replay
import Interchain.Proofs.Registry.Stages
import Interchain.Proofs.Topology.Backing
import Mathlib.Algebra.GroupWithZero.Nat

/-!
# Which manifests can be applied

A manifest can be applied to an empty registry exactly if it is sound: what it describes is
distinct and refers to nothing else than what it describes.  The registry then shows what the
manifest describes, in its order.
-/

namespace Interchain

open Attempt

namespace Manifest

variable {m : Manifest} {n : ChainName} {l : Location}

/-! ## Sound manifests -/

/-- A chain of this name is described. -/
def Names (m : Manifest) (n : ChainName) : Prop :=
  ∃ c ∈ m.chains, c.name.same n = true

/-- An asset at this location of a chain is described, by an entry of its own or as the
native or the stable asset of the chain. -/
def Registers (m : Manifest) (n : ChainName) (l : Location) : Prop :=
  ∃ c ∈ m.chains, c.name.same n = true ∧
    (c.Owns l ∨ ∃ a ∈ m.assets, c.name.same a.chain = true ∧ a.asset.location = l)

/-- Names do not repeat, those of chains not even in another case, no two assets are in one
place, no two pairs of a bridge or pools of a dex are the same, and all references hold. -/
structure Sound (m : Manifest) : Prop where
  chainNames : m.chains.Pairwise fun c d => c.name.same d.name = false
  assetChains : ∀ a ∈ m.assets, m.Names a.chain
  assetPlaces : m.assets.Pairwise fun a b =>
    a.chain.same b.chain = true → a.asset.location ≠ b.asset.location
  ownAssets : ∀ a ∈ m.assets, ∀ c ∈ m.chains,
    c.name.same a.chain = true → ¬ c.Owns a.asset.location
  bridgeNames : m.bridges.Pairwise fun b c => b.name ≠ c.name
  bridgeChains : ∀ b ∈ m.bridges, m.Names b.chain0 ∧ m.Names b.chain1
  bridgePairs : ∀ b ∈ m.bridges, ∀ p ∈ b.pairs,
    m.Registers b.chain0 p.asset0.location ∧ m.Registers b.chain1 p.asset1.location
  pairIds : ∀ b ∈ m.bridges, b.pairs.Pairwise fun p q => p.id ≠ q.id
  dexNames : m.dexes.Pairwise fun d e => d.name ≠ e.name
  dexChains : ∀ d ∈ m.dexes, m.Names d.chain
  dexPairs : ∀ d ∈ m.dexes, ∀ p ∈ d.pairs,
    m.Registers d.chain p.asset0.location ∧ m.Registers d.chain p.asset1.location
  poolIds : ∀ d ∈ m.dexes, d.pairs.Pairwise fun p q => p.id ≠ q.id

/-! ## What is described -/

/-- How many registrations are described. -/
def size (m : Manifest) : Nat :=
  m.chains.length + m.assets.length + (m.bridges.map fun b => 1 + b.pairs.length).sum +
    (m.dexes.map fun d => 1 + d.pairs.length).sum

/-- The assets described for a chain: its own and those of the entries, in order. -/
def assetsOf (m : Manifest) (c : ChainInfo) : List AssetInfo :=
  c.ownAssets ++ (m.assets.filter fun a => c.name.same a.chain).map ChainAsset.asset

/-- The graph that is described: assets chain by chain, pools dex by dex and bridges, all in
order. -/
def graph (m : Manifest) : Graph where
  assets := m.chains.flatMap fun c =>
    (m.assetsOf c).map fun a => ⟨c.name, a.location, a.name, a.symbol, a.decimals⟩
  pairs := m.dexes.flatMap fun d =>
    d.pairs.map fun p => ⟨p.id, p.asset0.location, p.asset1.location, d.name, d.chain⟩
  bridges := m.bridges.map fun b =>
    ⟨b.chain0, b.chain1, b.pairs.map fun p => (p.asset0.location, p.asset1.location)⟩

/-- The topology that is described. -/
def topology (m : Manifest) : Topology :=
  ⟨m.chains.map (ChainEntry.stocked m.assets), m.bridges.map BridgeEntry.bridge,
    m.dexes.map DexEntry.dex⟩

theorem length_calls (m : Manifest) : m.calls.length = m.size := by
  simp [calls, size, bridgeCalls, dexCalls, Nat.add_comm 1, Nat.add_assoc]

theorem graph_topology (m : Manifest) : m.topology.graph = m.graph := by
  simp [Topology.graph, topology, graph, assetsOf, Topology.assetNodes, Topology.poolEdges,
    Topology.bridgeEdge, ChainEntry.stocked, ChainInfo.assets_ofInfo, BridgeEntry.bridge,
    DexEntry.dex, List.flatMap_map, Function.comp_def]

/-! ## What the stages come to -/

section Stages

variable {t : Topology}

theorem knows_iff (h : ChainInfo.Distinct m.chains)
    (ht : t.chains = m.chains.map (ChainEntry.stocked m.assets)) : t.Knows n ↔ m.Names n := by
  simp only [Topology.Knows, Topology.entry?_stocked ht, Option.map_eq_some_iff, h.find?_eq_some]
  constructor
  · rintro ⟨_, c, ⟨hc, hn⟩, -⟩
    exact ⟨c, hc, hn⟩
  · rintro ⟨c, hc, hn⟩
    exact ⟨_, c, ⟨hc, hn⟩, rfl⟩

theorem registered_iff (h : ChainInfo.Distinct m.chains)
    (ht : t.chains = m.chains.map (ChainEntry.stocked m.assets)) :
    t.Registered n l ↔ m.Registers n l := by
  simp only [Topology.Registered, Topology.entry?_stocked ht, Option.map_eq_some_iff,
    h.find?_eq_some]
  constructor
  · rintro ⟨_, ⟨c, ⟨hc, hn⟩, rfl⟩, hl⟩
    rw [ChainEntry.contains_stocked, ChainInfo.contains_ofInfo] at hl
    exact ⟨c, hc, hn, hl⟩
  · rintro ⟨c, hc, hn, hl⟩
    refine ⟨_, ⟨c, ⟨hc, hn⟩, rfl⟩, ?_⟩
    rwa [ChainEntry.contains_stocked, ChainInfo.contains_ofInfo]

/-- An asset can be registered on the one chain of its name. -/
theorem free_iff (h : ChainInfo.Distinct m.chains) :
    (∃ c ∈ m.chains, c.name.same n = true ∧ (ChainEntry.ofInfo c).contains l = false) ↔
      m.Names n ∧ ∀ c ∈ m.chains, c.name.same n = true → ¬ c.Owns l := by
  simp only [← Bool.not_eq_true, ChainInfo.contains_ofInfo]
  constructor
  · rintro ⟨c, hc, hn, hfree⟩
    refine ⟨⟨c, hc, hn⟩, ?_⟩
    intro d hd hdn
    rwa [h.eq_of_same hd hc ((ChainName.same_congr hn d.name).trans hdn)]
  · rintro ⟨⟨c, hc, hn⟩, hfree⟩
    exact ⟨c, hc, hn, hfree c hc hn⟩

theorem soundBridge_iff (h : ChainInfo.Distinct m.chains)
    (ht : t.chains = m.chains.map (ChainEntry.stocked m.assets)) {b : BridgeEntry} :
    t.SoundBridge b.bridge ↔
      (m.Names b.chain0 ∧ m.Names b.chain1) ∧
        (∀ p ∈ b.pairs, m.Registers b.chain0 p.asset0.location ∧
          m.Registers b.chain1 p.asset1.location) ∧
        b.pairs.Pairwise fun p q => p.id ≠ q.id := by
  simp only [← knows_iff h ht, ← registered_iff h ht]
  constructor
  · intro hb
    exact ⟨⟨hb.chain0, hb.chain1⟩, fun p hp => ⟨hb.asset0 p hp, hb.asset1 p hp⟩, hb.distinct⟩
  · rintro ⟨⟨h0, h1⟩, hassets, hids⟩
    exact ⟨h0, h1, fun p hp => (hassets p hp).1, fun p hp => (hassets p hp).2, hids⟩

theorem soundDex_iff (h : ChainInfo.Distinct m.chains)
    (ht : t.chains = m.chains.map (ChainEntry.stocked m.assets)) {d : DexEntry} :
    t.SoundDex d.dex ↔
      m.Names d.chain ∧
        (∀ p ∈ d.pairs, m.Registers d.chain p.asset0.location ∧
          m.Registers d.chain p.asset1.location) ∧
        d.pairs.Pairwise fun p q => p.id ≠ q.id := by
  simp only [← knows_iff h ht, ← registered_iff h ht]
  constructor
  · intro hd
    exact ⟨hd.chain, fun p hp => ⟨hd.asset0 p hp, hd.asset1 p hp⟩, hd.distinct⟩
  · rintro ⟨hchain, hassets, hids⟩
    exact ⟨hchain, fun p hp => (hassets p hp).1, fun p hp => (hassets p hp).2, hids⟩

/-- The registrations of a manifest can all be made exactly if it is sound, and then register
what it describes. -/
theorem register_calls_eq_ok :
    m.calls.foldlM Registry.register .empty = .ok t ↔ m.Sound ∧ t = m.topology := by
  simp only [calls, List.foldlM_append, foldlM_flatMap, List.foldlM_map, bind_eq_ok]
  constructor
  · rintro ⟨_, ⟨_, ⟨_, hchains, hassets⟩, hbridges⟩, hdexes⟩
    obtain ⟨hnames, rfl⟩ := Registry.chains_stage.mp hchains
    obtain ⟨hplaces, hfree, rfl⟩ := (Registry.assets_stage hnames m.assets).mp hassets
    obtain ⟨hbridgeNames, hbridge, rfl⟩ := (Registry.bridges_stage rfl m.bridges).mp hbridges
    obtain ⟨hdexNames, hdex, rfl⟩ := (Registry.dexes_stage rfl m.dexes).mp hdexes
    have hfree := fun a ha => (free_iff hnames).mp (hfree a ha)
    have hbridge := fun b hb => (soundBridge_iff hnames rfl).mp (hbridge b hb)
    have hdex := fun d hd => (soundDex_iff hnames rfl).mp (hdex d hd)
    refine ⟨?_, rfl⟩
    exact {
      chainNames := hnames
      assetChains := fun a ha => (hfree a ha).1
      assetPlaces := hplaces
      ownAssets := fun a ha => (hfree a ha).2
      bridgeNames := hbridgeNames
      bridgeChains := fun b hb => (hbridge b hb).1
      bridgePairs := fun b hb => (hbridge b hb).2.1
      pairIds := fun b hb => (hbridge b hb).2.2
      dexNames := hdexNames
      dexChains := fun d hd => (hdex d hd).1
      dexPairs := fun d hd => (hdex d hd).2.1
      poolIds := fun d hd => (hdex d hd).2.2 }
  · rintro ⟨h, rfl⟩
    refine ⟨_, ⟨_, ⟨_, Registry.chains_stage.mpr ⟨h.chainNames, rfl⟩,
      (Registry.assets_stage h.chainNames m.assets).mpr ⟨h.assetPlaces, ?_, rfl⟩⟩,
      (Registry.bridges_stage rfl m.bridges).mpr ⟨h.bridgeNames, ?_, rfl⟩⟩,
      (Registry.dexes_stage rfl m.dexes).mpr ⟨h.dexNames, ?_, rfl⟩⟩
    · exact fun a ha => (free_iff h.chainNames).mpr ⟨h.assetChains a ha, h.ownAssets a ha⟩
    · exact fun b hb => (soundBridge_iff h.chainNames rfl).mpr
        ⟨h.bridgeChains b hb, h.bridgePairs b hb, h.pairIds b hb⟩
    · exact fun d hd => (soundDex_iff h.chainNames rfl).mpr
        ⟨h.dexChains d hd, h.dexPairs d hd, h.poolIds d hd⟩

end Stages

/-! ## Applying a manifest -/

/-- Make a registration on the topology at hand. -/
def onTopology (r : Registration) : StateM Topology (Except RegistryError Unit) := fun t =>
  match Registry.register t r with
  | .ok t' => (.ok (), t')
  | .error e => (.error e, t)

theorem run_onTopology (r : Registration) (t : Topology) :
    (onTopology r).run t =
      match Registry.register t r with
      | .ok t' => (.ok (), t')
      | .error e => (.error e, t) := rfl

theorem run_makeAll_cons (k : Nat) (r : Registration) (rest : List Registration) (t : Topology) :
    (makeAll onTopology k (r :: rest)).run t =
      match Registry.register t r with
      | .ok t' => (makeAll onTopology (k + 1) rest).run t'
      | .error e => (.error e, t) := by
  rw [makeAll, StateT.run_bind, run_onTopology]
  cases Registry.register t r <;> rfl

/-- Registrations that are counted are made one after the other. -/
theorem run_makeAll_eq_ok {calls : List Registration} {k k' : Nat} {t t' : Topology} :
    (makeAll onTopology k calls).run t = (.ok k', t') ↔
      calls.foldlM Registry.register t = .ok t' ∧ k' = k + calls.length := by
  induction calls generalizing k t with
  | nil =>
    have hrun : (makeAll onTopology k []).run t = (.ok k, t) := rfl
    rw [hrun, List.foldlM_nil, pure_eq_ok, Prod.mk.injEq, Except.ok.injEq, and_comm,
      eq_comm (a := k)]
    rfl
  | cons r rest ih =>
    rw [List.foldlM_cons, run_makeAll_cons, bind_eq_ok]
    cases Registry.register t r with
    | error e =>
      apply iff_of_false
      · rintro ⟨⟩
      · rintro ⟨⟨_, ⟨⟩, -⟩, -⟩
    | ok u =>
      simp only [ih, List.length_cons, Except.ok.injEq, exists_eq_left', Nat.add_assoc,
        Nat.add_comm 1]

theorem applyTo_empty_eq_ok {k : Nat} {t : Topology} :
    m.applyTo .empty = (.ok k, t) ↔ m.Sound ∧ k = m.size ∧ t = m.topology := by
  have happly : m.applyTo .empty = (makeAll onTopology 0 m.calls).run .empty :=
    congrArg (fun made => StateT.run made Topology.empty) (apply_eq_makeAll onTopology m)
  rw [happly, run_makeAll_eq_ok, register_calls_eq_ok, length_calls, Nat.zero_add, and_assoc,
    and_comm (a := t = _)]

/-- A manifest can be applied to an empty registry exactly if it is sound.  The registrations
that were made are then counted, and the registry shows the graph that is described. -/
theorem applies_iff_sound (m : Manifest) :
    ((∃ k, (m.applyTo .empty).1 = .ok k) ↔ m.Sound) ∧
      ∀ k, (m.applyTo .empty).1 = .ok k → k = m.size ∧
        (Registry.call (m.applyTo .empty).2 .getGraph).1 = .ok (.graph m.graph) := by
  have hparts : ∀ k, (m.applyTo .empty).1 = .ok k →
      m.Sound ∧ k = m.size ∧ (m.applyTo .empty).2 = m.topology := fun k h =>
    applyTo_empty_eq_ok.mp (Prod.ext h rfl)
  refine ⟨⟨?_, ?_⟩, ?_⟩
  · rintro ⟨k, h⟩
    exact (hparts k h).1
  · intro h
    exact ⟨m.size, congrArg Prod.fst (applyTo_empty_eq_ok.mpr ⟨h, rfl, rfl⟩)⟩
  · intro k h
    obtain ⟨-, hk, ht⟩ := hparts k h
    refine ⟨hk, ?_⟩
    rw [ht, Registry.call, graph_topology]

/-- Two chains that are spelled in several ways, a bridge between them and a dex. -/
def sample : Manifest :=
  let pha : AssetInfo := ⟨"Phala", "PHA", 12, ⟨[1]⟩⟩
  let wpha : AssetInfo := ⟨"Phala", "PHA", 18, ⟨[2]⟩⟩
  let weth : AssetInfo := ⟨"Ether", "WETH", 18, ⟨[3]⟩⟩
  { chains := [⟨⟨"Khala"⟩, .sub, some pha, none, "wss://khala", none⟩,
      .plain ⟨"Ethereum"⟩ .evm "https://eth"]
    assets := [⟨⟨"ethereum"⟩, wpha⟩, ⟨⟨"ETHEREUM"⟩, weth⟩]
    bridges := [⟨⟨"Khala-Ethereum"⟩, ⟨"khala"⟩, ⟨"ethereum"⟩, [⟨pha, wpha⟩]⟩]
    dexes := [⟨⟨"Uniswap"⟩, ⟨[]⟩, ⟨"Ethereum"⟩, [⟨⟨[9]⟩, weth, wpha, 0, 30⟩]⟩] }

theorem applies_sample : (sample.applyTo .empty).1 = .ok 8 ∧ sample.Sound ∧
    (Registry.call (sample.applyTo .empty).2 .getGraph).1 = .ok (.graph
      ⟨[⟨⟨"Khala"⟩, ⟨[1]⟩, "Phala", "PHA", 12⟩, ⟨⟨"Ethereum"⟩, ⟨[2]⟩, "Phala", "PHA", 18⟩,
        ⟨⟨"Ethereum"⟩, ⟨[3]⟩, "Ether", "WETH", 18⟩],
       [⟨⟨[9]⟩, ⟨[3]⟩, ⟨[2]⟩, ⟨"Uniswap"⟩, ⟨"Ethereum"⟩⟩],
       [⟨⟨"khala"⟩, ⟨"ethereum"⟩, [(⟨[1]⟩, ⟨[2]⟩)]⟩]⟩) := by
  have happly : (sample.applyTo .empty).1 = .ok 8 := by decide +kernel
  obtain ⟨hsound, hgraph⟩ := applies_iff_sound sample
  refine ⟨happly, hsound.mp ⟨8, happly⟩, (hgraph 8 happly).2.trans ?_⟩
  decide +kernel

end Manifest

end Interchain
