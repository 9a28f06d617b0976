import Interchain.Proofs.Attempt
import Interchain.Topology.Change

/-!
# When a change takes place

For each change, what must hold of the topology for it to take place and what the
topology then is.  Nothing after this looks into the changes themselves.
-/

namespace Interchain

open Attempt

namespace ChainEntry

variable {c d : ChainEntry} {asset : AssetInfo} {location : Location}

theorem register_eq_ok : c.register asset = .ok d ↔
    c.contains asset.location = false ∧ d = { c with assets := c.assets ++ [asset] } := by
  cases h : c.contains asset.location <;> simp [register, h, eq_comm]

/-- The chain without the asset at a location. -/
def forget (c : ChainEntry) (location : Location) : ChainEntry :=
  { c with assets := c.assets.eraseP fun a => a.location == location }

theorem unregister_eq_ok {removed : AssetInfo} : c.unregister location = .ok (d, removed) ↔
    (c.assets.find? fun a => a.location == location) = some removed ∧ d = c.forget location := by
  cases h : c.assets.find? fun a => a.location == location <;>
    simp [unregister, forget, h, eq_comm, and_comm]

end ChainEntry

namespace Bridge

theorem register_eq_ok {b d : Bridge} {pair : AssetPair} : b.register pair = .ok d ↔
    (b.assets.any fun p => p.id == pair.id) = false ∧
      d = { b with assets := b.assets ++ [pair] } := by
  cases h : b.assets.any fun p => p.id == pair.id <;> simp [register, h, eq_comm]

theorem unregister_eq_ok {b d : Bridge} {pair stored : AssetPair} :
    b.unregister pair = .ok (d, stored) ↔
      (b.assets.find? fun p => p.id == pair.id) = some stored ∧
        d = { b with assets := b.assets.eraseP fun p => p.id == pair.id } := by
  cases h : b.assets.find? fun p => p.id == pair.id <;> simp [unregister, h, eq_comm, and_comm]

end Bridge

namespace Dex

theorem register_eq_ok {d e : Dex} {pair : DexPair} : d.register pair = .ok e ↔
    (d.pairs.any fun p => p.id == pair.id) = false ∧
      e = { d with pairs := d.pairs ++ [pair] } := by
  cases h : d.pairs.any fun p => p.id == pair.id <;> simp [register, h, eq_comm]

theorem unregister_eq_ok {d e : Dex} {id : PoolId} {removed : DexPair} :
    d.unregister id = .ok (e, removed) ↔
      (d.pairs.find? fun p => p.id == id) = some removed ∧
        e = { d with pairs := d.pairs.eraseP fun p => p.id == id } := by
  cases h : d.pairs.find? fun p => p.id == id <;> simp [unregister, h, eq_comm, and_comm]

end Dex

namespace Topology

variable {t t' : Topology} {chain : ChainName} {asset : AssetInfo}

/-! ## Look-up -/

theorem entry_eq_ok {name : ChainName} {c : ChainEntry} :
    t.entry name = .ok c ↔ t.entry? name = some c := by
  cases h : t.entry? name <;> simp [entry, h]

theorem bridge_eq_ok {name : BridgeName} {b : Bridge} :
    t.bridge name = .ok b ↔ t.bridge? name = some b := by
  cases h : t.bridge? name <;> simp [bridge, h]

theorem dex_eq_ok {name : DexName} {d : Dex} : t.dex name = .ok d ↔ t.dex? name = some d := by
  cases h : t.dex? name <;> simp [dex, h]

/-- An asset with this location is registered on a chain of this name. -/
def Registered (t : Topology) (chain : ChainName) (location : Location) : Prop :=
  ∃ c, t.entry? chain = some c ∧ c.contains location = true

theorem ensureRegistered_eq_ok :
    t.ensureRegistered chain asset = .ok () ↔ t.Registered chain asset.location := by
  cases h : t.entry? chain with
  | none => simp [ensureRegistered, Registered, h]
  | some c =>
    cases hc : c.contains asset.location <;> simp [ensureRegistered, Registered, h, hc]

/-! ## Chains -/

theorem addChain_eq_ok {info : ChainInfo} : t.addChain info = .ok t' ↔
    t.entry? info.name = none ∧ t' = { t with chains := t.chains ++ [ChainEntry.ofInfo info] } := by
  cases h : t.entry? info.name <;> simp [addChain, h, eq_comm]

theorem removeChain_eq_ok {name : ChainName} {info : ChainInfo} :
    t.removeChain name = .ok (t', info) ↔ ∃ c, t.entry? name = some c ∧ c.info = info ∧
      t' = { chains := t.chains.eraseP fun c => c.info.name.same name
             bridges := t.bridges.filter fun b => !b.chain0.same name && !b.chain1.same name
             dexes := t.dexes.filter fun d => !d.chain.same name } := by
  simp only [removeChain, bind_eq_ok, entry_eq_ok, pure_eq_ok, Prod.mk.injEq]
  refine exists_congr fun c => and_congr_right fun _ => ?_
  rw [and_comm, eq_comm (a := t')]

theorem setNative_eq_ok : t.setNative chain asset = .ok t' ↔
    ∃ c, t.entry? chain = some c ∧ t' = t.putEntry chain (c.setNative asset) := by
  simp only [setNative, bind_eq_ok, entry_eq_ok, pure_eq_ok]
  exact exists_congr fun c => and_congr_right fun _ => eq_comm

theorem setStable_eq_ok : t.setStable chain asset = .ok t' ↔
    ∃ c, t.entry? chain = some c ∧ t' = t.putEntry chain (c.setStable asset) := by
  simp only [setStable, bind_eq_ok, entry_eq_ok, pure_eq_ok]
  exact exists_congr fun c => and_congr_right fun _ => eq_comm

theorem setEndpoint_eq_ok {endpoint : String} : t.setEndpoint chain endpoint = .ok t' ↔
    ∃ c, t.entry? chain = some c ∧ t' = t.putEntry chain (c.setEndpoint endpoint) := by
  simp only [setEndpoint, bind_eq_ok, entry_eq_ok, pure_eq_ok]
  exact exists_congr fun c => and_congr_right fun _ => eq_comm

/-! ## Assets -/

theorem validateAsset_eq_ok : t.validateAsset chain asset = .ok () ↔
    ∃ c, t.entry? chain = some c ∧ c.contains asset.location = false := by
  simp only [validateAsset, bind_eq_ok, entry_eq_ok]
  refine exists_congr fun c => and_congr_right fun _ => ?_
  cases h : c.contains asset.location <;> simp

theorem addAsset_eq_ok : t.addAsset chain asset = .ok t' ↔
    ∃ c, t.entry? chain = some c ∧ c.contains asset.location = false ∧
      t' = t.putEntry chain { c with assets := c.assets ++ [asset] } := by
  rw [addAsset, check_eq_ok, validateAsset_eq_ok]
  simp only [bind_eq_ok, entry_eq_ok, pure_eq_ok, ChainEntry.register_eq_ok]
  constructor
  · rintro ⟨-, c, hc, d, ⟨hfree, rfl⟩, rfl⟩
    exact ⟨c, hc, hfree, rfl⟩
  · rintro ⟨c, hc, hfree, rfl⟩
    exact ⟨⟨c, hc, hfree⟩, c, hc, _, ⟨hfree, rfl⟩, rfl⟩

theorem removeAsset_eq_ok {location : Location} {removed : AssetInfo} :
    t.removeAsset chain location = .ok (t', removed) ↔
      ∃ c, t.entry? chain = some c ∧
        (c.assets.find? fun a => a.location == location) = some removed ∧
        t' = { chains := (t.putEntry chain (c.forget location)).chains
               bridges := t.bridges.map (forgetOnBridge chain location)
               dexes := t.dexes.map (forgetOnDex chain location) } := by
  simp only [removeAsset, bind_eq_ok, entry_eq_ok, pure_eq_ok]
  constructor
  · rintro ⟨c, hc, ⟨d, gone⟩, hd, h⟩
    obtain ⟨hfound, rfl⟩ := ChainEntry.unregister_eq_ok.mp hd
    cases h
    exact ⟨c, hc, hfound, rfl⟩
  · rintro ⟨c, hc, hfound, rfl⟩
    exact ⟨c, hc, _, ChainEntry.unregister_eq_ok.mpr ⟨hfound, rfl⟩, rfl⟩

/-! ## Bridges -/

theorem addBridge_eq_ok {name : BridgeName} {chain0 chain1 : ChainName} :
    t.addBridge name chain0 chain1 = .ok t' ↔
      t.bridge? name = none ∧ (∃ c, t.entry? chain0 = some c) ∧ (∃ c, t.entry? chain1 = some c) ∧
        t' = { t with bridges := t.bridges ++ [Bridge.blank name chain0 chain1] } := by
  cases h : t.bridge? name with
  | some b => simp [addBridge, h]
  | none =>
    simp only [addBridge, h, bind_eq_ok, entry_eq_ok, pure_eq_ok, true_and]
    constructor
    · rintro ⟨c, hc, d, hd, rfl⟩
      exact ⟨⟨c, hc⟩, ⟨d, hd⟩, rfl⟩
    · rintro ⟨⟨c, hc⟩, ⟨d, hd⟩, rfl⟩
      exact ⟨c, hc, d, hd, rfl⟩

theorem removeBridge_eq_ok {name : BridgeName} {b : Bridge} :
    t.removeBridge name = .ok (t', b) ↔
      t.bridge? name = some b ∧
        t' = { t with bridges := t.bridges.eraseP fun b => b.name == name } := by
  simp only [removeBridge, bind_eq_ok, bridge_eq_ok, pure_eq_ok, Prod.mk.injEq]
  constructor
  · rintro ⟨c, hc, rfl, rfl⟩
    exact ⟨hc, rfl⟩
  · rintro ⟨hc, rfl⟩
    exact ⟨b, hc, rfl, rfl⟩

theorem validateBridgePair_eq_ok {bridge : BridgeName} {pair : AssetPair} :
    t.validateBridgePair bridge pair = .ok () ↔
      ∃ b, t.bridge? bridge = some b ∧ t.Registered b.chain0 pair.asset0.location ∧
        t.Registered b.chain1 pair.asset1.location := by
  simp only [validateBridgePair, bind_eq_ok, bridge_eq_ok]
  refine exists_congr fun b => and_congr_right fun _ => ?_
  rw [← bind_eq_ok, check_eq_ok, ensureRegistered_eq_ok, ensureRegistered_eq_ok]

theorem addBridgePair_eq_ok {bridge : BridgeName} {pair : AssetPair} :
    t.addBridgePair bridge pair = .ok t' ↔
      ∃ b, t.bridge? bridge = some b ∧ t.Registered b.chain0 pair.asset0.location ∧
        t.Registered b.chain1 pair.asset1.location ∧
        (b.assets.any fun p => p.id == pair.id) = false ∧
        t' = t.putBridge bridge { b with assets := b.assets ++ [pair] } := by
  rw [addBridgePair, check_eq_ok, validateBridgePair_eq_ok]
  simp only [bind_eq_ok, bridge_eq_ok, pure_eq_ok, Bridge.register_eq_ok]
  constructor
  · rintro ⟨⟨b, hb, h0, h1⟩, c, hc, d, ⟨hfresh, rfl⟩, rfl⟩
    obtain rfl : b = c := Option.some.inj (hb.symm.trans hc)
    exact ⟨b, hb, h0, h1, hfresh, rfl⟩
  · rintro ⟨b, hb, h0, h1, hfresh, rfl⟩
    exact ⟨⟨b, hb, h0, h1⟩, b, hb, _, ⟨hfresh, rfl⟩, rfl⟩

theorem removeBridgePair_eq_ok {bridge : BridgeName} {pair stored : AssetPair} :
    t.removeBridgePair bridge pair = .ok (t', stored) ↔
      ∃ b, t.bridge? bridge = some b ∧
        (b.assets.find? fun p => p.id == pair.id) = some stored ∧
        t' = t.putBridge bridge
          { b with assets := b.assets.eraseP fun p => p.id == pair.id } := by
  simp only [removeBridgePair, bind_eq_ok, bridge_eq_ok, pure_eq_ok]
  constructor
  · rintro ⟨b, hb, ⟨d, s⟩, hd, h⟩
    obtain ⟨hfound, rfl⟩ := Bridge.unregister_eq_ok.mp hd
    cases h
    exact ⟨b, hb, hfound, rfl⟩
  · rintro ⟨b, hb, hfound, rfl⟩
    exact ⟨b, hb, _, Bridge.unregister_eq_ok.mpr ⟨hfound, rfl⟩, rfl⟩

/-! ## Dexes -/

theorem addDex_eq_ok {name : DexName} {id : PoolId} :
    t.addDex name id chain = .ok t' ↔
      t.dex? name = none ∧ (∃ c, t.entry? chain = some c) ∧
        t' = { t with dexes := t.dexes ++ [Dex.blank name id chain] } := by
  cases h : t.dex? name with
  | some d => simp [addDex, h]
  | none =>
    simp only [addDex, h, bind_eq_ok, entry_eq_ok, pure_eq_ok, true_and]
    constructor
    · rintro ⟨c, hc, rfl⟩
      exact ⟨⟨c, hc⟩, rfl⟩
    · rintro ⟨⟨c, hc⟩, rfl⟩
      exact ⟨c, hc, rfl⟩

theorem removeDex_eq_ok {name : DexName} {d : Dex} : t.removeDex name = .ok (t', d) ↔
    t.dex? name = some d ∧ t' = { t with dexes := t.dexes.eraseP fun d => d.name == name } := by
  simp only [removeDex, bind_eq_ok, dex_eq_ok, pure_eq_ok, Prod.mk.injEq]
  constructor
  · rintro ⟨c, hc, rfl, rfl⟩
    exact ⟨hc, rfl⟩
  · rintro ⟨hc, rfl⟩
    exact ⟨d, hc, rfl, rfl⟩

theorem validateDexPair_eq_ok {dex : DexName} {pair : DexPair} :
    t.validateDexPair dex pair = .ok () ↔
      ∃ d, t.dex? dex = some d ∧ t.Registered d.chain pair.asset0.location ∧
        t.Registered d.chain pair.asset1.location := by
  simp only [validateDexPair, bind_eq_ok, dex_eq_ok]
  refine exists_congr fun d => and_congr_right fun _ => ?_
  rw [← bind_eq_ok, check_eq_ok, ensureRegistered_eq_ok, ensureRegistered_eq_ok]

theorem addDexPair_eq_ok {dex : DexName} {pair : DexPair} :
    t.addDexPair dex pair = .ok t' ↔
      ∃ d, t.dex? dex = some d ∧ t.Registered d.chain pair.asset0.location ∧
        t.Registered d.chain pair.asset1.location ∧
        (d.pairs.any fun p => p.id == pair.id) = false ∧
        t' = t.putDex dex { d with pairs := d.pairs ++ [pair] } := by
  rw [addDexPair, check_eq_ok, validateDexPair_eq_ok]
  simp only [bind_eq_ok, dex_eq_ok, pure_eq_ok, Dex.register_eq_ok]
  constructor
  · rintro ⟨⟨d, hd, h0, h1⟩, c, hc, e, ⟨hfresh, rfl⟩, rfl⟩
    obtain rfl : d = c := Option.some.inj (hd.symm.trans hc)
    exact ⟨d, hd, h0, h1, hfresh, rfl⟩
  · rintro ⟨d, hd, h0, h1, hfresh, rfl⟩
    exact ⟨⟨d, hd, h0, h1⟩, d, hd, _, ⟨hfresh, rfl⟩, rfl⟩

theorem removeDexPair_eq_ok {dex : DexName} {id : PoolId} {removed : DexPair} :
    t.removeDexPair dex id = .ok (t', removed) ↔
      ∃ d, t.dex? dex = some d ∧ (d.pairs.find? fun p => p.id == id) = some removed ∧
        t' = t.putDex dex { d with pairs := d.pairs.eraseP fun p => p.id == id } := by
  simp only [removeDexPair, bind_eq_ok, dex_eq_ok, pure_eq_ok]
  constructor
  · rintro ⟨d, hd, ⟨e, s⟩, he, h⟩
    obtain ⟨hfound, rfl⟩ := Dex.unregister_eq_ok.mp he
    cases h
    exact ⟨d, hd, hfound, rfl⟩
  · rintro ⟨d, hd, hfound, rfl⟩
    exact ⟨d, hd, _, Dex.unregister_eq_ok.mpr ⟨hfound, rfl⟩, rfl⟩

/-! ## All changes -/

/-- A change that takes place, with what it found and what it leaves. -/
inductive Made (t : Topology) : TopologyChange → Topology → Prop where
  | addChain (info : ChainInfo) (fresh : t.entry? info.name = none) :
    Made t (.addChain info) { t with chains := t.chains ++ [ChainEntry.ofInfo info] }
  | removeChain (name : ChainName) (c : ChainEntry) (found : t.entry? name = some c) :
    Made t (.removeChain name)
      { chains := t.chains.eraseP fun c => c.info.name.same name
        bridges := t.bridges.filter fun b => !b.chain0.same name && !b.chain1.same name
        dexes := t.dexes.filter fun d => !d.chain.same name }
  | setNative (chain : ChainName) (asset : AssetInfo) (c : ChainEntry)
      (found : t.entry? chain = some c) :
    Made t (.setNative chain asset) (t.putEntry chain (c.setNative asset))
  | setStable (chain : ChainName) (asset : AssetInfo) (c : ChainEntry)
      (found : t.entry? chain = some c) :
    Made t (.setStable chain asset) (t.putEntry chain (c.setStable asset))
  | setEndpoint (chain : ChainName) (endpoint : String) (c : ChainEntry)
      (found : t.entry? chain = some c) :
    Made t (.setEndpoint chain endpoint) (t.putEntry chain (c.setEndpoint endpoint))
  | addAsset (chain : ChainName) (asset : AssetInfo) (c : ChainEntry)
      (found : t.entry? chain = some c) (fresh : c.contains asset.location = false) :
    Made t (.addAsset chain asset) (t.putEntry chain { c with assets := c.assets ++ [asset] })
  | removeAsset (chain : ChainName) (location : Location) (c : ChainEntry) (removed : AssetInfo)
      (found : t.entry? chain = some c)
      (stored : (c.assets.find? fun a => a.location == location) = some removed) :
    Made t (.removeAsset chain location)
      { chains := (t.putEntry chain (c.forget location)).chains
        bridges := t.bridges.map (forgetOnBridge chain location)
        dexes := t.dexes.map (forgetOnDex chain location) }
  | addBridge (name : BridgeName) (chain0 chain1 : ChainName) (fresh : t.bridge? name = none)
      (found0 : ∃ c, t.entry? chain0 = some c) (found1 : ∃ c, t.entry? chain1 = some c) :
    Made t (.addBridge name chain0 chain1)
      { t with bridges := t.bridges ++ [Bridge.blank name chain0 chain1] }
  | removeBridge (name : BridgeName) (b : Bridge) (found : t.bridge? name = some b) :
    Made t (.removeBridge name)
      { t with bridges := t.bridges.eraseP fun b => b.name == name }
  | addBridgePair (bridge : BridgeName) (pair : AssetPair) (b : Bridge)
      (found : t.bridge? bridge = some b)
      (registered0 : t.Registered b.chain0 pair.asset0.location)
      (registered1 : t.Registered b.chain1 pair.asset1.location)
      (fresh : (b.assets.any fun p => p.id == pair.id) = false) :
    Made t (.addBridgePair bridge pair)
      (t.putBridge bridge { b with assets := b.assets ++ [pair] })
  | removeBridgePair (bridge : BridgeName) (pair : AssetPair) (b : Bridge) (removed : AssetPair)
      (found : t.bridge? bridge = some b)
      (stored : (b.assets.find? fun p => p.id == pair.id) = some removed) :
    Made t (.removeBridgePair bridge pair)
      (t.putBridge bridge { b with assets := b.assets.eraseP fun p => p.id == pair.id })
  | addDex (name : DexName) (id : PoolId) (chain : ChainName) (fresh : t.dex? name = none)
      (found : ∃ c, t.entry? chain = some c) :
    Made t (.addDex name id chain) { t with dexes := t.dexes ++ [Dex.blank name id chain] }
  | removeDex (name : DexName) (d : Dex) (found : t.dex? name = some d) :
    Made t (.removeDex name) { t with dexes := t.dexes.eraseP fun d => d.name == name }
  | addDexPair (dex : DexName) (pair : DexPair) (d : Dex) (found : t.dex? dex = some d)
      (registered0 : t.Registered d.chain pair.asset0.location)
      (registered1 : t.Registered d.chain pair.asset1.location)
      (fresh : (d.pairs.any fun p => p.id == pair.id) = false) :
    Made t (.addDexPair dex pair) (t.putDex dex { d with pairs := d.pairs ++ [pair] })
  | removeDexPair (dex : DexName) (id : PoolId) (d : Dex) (removed : DexPair)
      (found : t.dex? dex = some d) (stored : (d.pairs.find? fun p => p.id == id) = some removed) :
    Made t (.removeDexPair dex id)
      (t.putDex dex { d with pairs := d.pairs.eraseP fun p => p.id == id })

theorem made_of_change {change : TopologyChange} {removed : Removed}
    (h : t.change change = .ok (t', removed)) : Made t change t' := by
  cases change <;> simp only [Topology.change, adding, removing, map_eq_ok, Prod.mk.injEq] at h
  case addChain info =>
    obtain ⟨_, h, rfl, -⟩ := h
    obtain ⟨fresh, rfl⟩ := addChain_eq_ok.mp h
    exact .addChain info fresh
  case removeChain name =>
    obtain ⟨⟨_, _⟩, h, rfl, -⟩ := h
    obtain ⟨c, found, -, rfl⟩ := removeChain_eq_ok.mp h
    exact .removeChain name c found
  case setNative chain asset =>
    obtain ⟨_, h, rfl, -⟩ := h
    obtain ⟨c, found, rfl⟩ := setNative_eq_ok.mp h
    exact .setNative chain asset c found
  case setStable chain asset =>
    obtain ⟨_, h, rfl, -⟩ := h
    obtain ⟨c, found, rfl⟩ := setStable_eq_ok.mp h
    exact .setStable chain asset c found
  case setEndpoint chain endpoint =>
    obtain ⟨_, h, rfl, -⟩ := h
    obtain ⟨c, found, rfl⟩ := setEndpoint_eq_ok.mp h
    exact .setEndpoint chain endpoint c found
  case addAsset chain asset =>
    obtain ⟨_, h, rfl, -⟩ := h
    obtain ⟨c, found, fresh, rfl⟩ := addAsset_eq_ok.mp h
    exact .addAsset chain asset c found fresh
  case removeAsset chain location =>
    obtain ⟨⟨_, removed⟩, h, rfl, -⟩ := h
    obtain ⟨c, found, stored, rfl⟩ := removeAsset_eq_ok.mp h
    exact .removeAsset chain location c removed found stored
  case addBridge name chain0 chain1 =>
    obtain ⟨_, h, rfl, -⟩ := h
    obtain ⟨fresh, found0, found1, rfl⟩ := addBridge_eq_ok.mp h
    exact .addBridge name chain0 chain1 fresh found0 found1
  case removeBridge name =>
    obtain ⟨⟨_, b⟩, h, rfl, -⟩ := h
    obtain ⟨found, rfl⟩ := removeBridge_eq_ok.mp h
    exact .removeBridge name b found
  case addBridgePair bridge pair =>
    obtain ⟨_, h, rfl, -⟩ := h
    obtain ⟨b, found, registered0, registered1, fresh, rfl⟩ := addBridgePair_eq_ok.mp h
    exact .addBridgePair bridge pair b found registered0 registered1 fresh
  case removeBridgePair bridge pair =>
    obtain ⟨⟨_, removed⟩, h, rfl, -⟩ := h
    obtain ⟨b, found, stored, rfl⟩ := removeBridgePair_eq_ok.mp h
    exact .removeBridgePair bridge pair b removed found stored
  case addDex name id chain =>
    obtain ⟨_, h, rfl, -⟩ := h
    obtain ⟨fresh, found, rfl⟩ := addDex_eq_ok.mp h
    exact .addDex name id chain fresh found
  case removeDex name =>
    obtain ⟨⟨_, d⟩, h, rfl, -⟩ := h
    obtain ⟨found, rfl⟩ := removeDex_eq_ok.mp h
    exact .removeDex name d found
  case addDexPair dex pair =>
    obtain ⟨_, h, rfl, -⟩ := h
    obtain ⟨d, found, registered0, registered1, fresh, rfl⟩ := addDexPair_eq_ok.mp h
    exact .addDexPair dex pair d found registered0 registered1 fresh
  case removeDexPair dex id =>
    obtain ⟨⟨_, removed⟩, h, rfl, -⟩ := h
    obtain ⟨d, found, stored, rfl⟩ := removeDexPair_eq_ok.mp h
    exact .removeDexPair dex id d removed found stored

end Topology

end Interchain
