import Interchain.Proofs.Keyed
import Interchain.Proofs.Topology.Outcome
import Interchain.Registry.Call

/-!
# Changes made in place are made as a whole or not at all

A change in place looks things up more than once and cuts back what depends on what it took
away, so that a fault could find the topology half changed.  None does: every step that may
find a fault comes before the first that changes anything, and a part in which a fault was
found is put back as it was.  So each change in place comes to what the change at one stroke
comes to.
-/

namespace Interchain

open Attempt

namespace Edit

variable {σ τ α β : Type}

/-- A fault leaves the state as it was. -/
def settle (s : σ) : Except TopologyError (σ × α) → Except TopologyError α × σ
  | .ok (s', a) => (.ok a, s')
  | .error e => (.error e, s)

/-- An edit comes to what `f` gives: the state that `f` gives is left if it gives one, and the
state as it was if it gives a fault. -/
def Makes (x : Edit σ α) (f : σ → Except TopologyError (σ × α)) : Prop :=
  ∀ s, x.runOn s = settle s (f s)

/-- An edit that ends in a fault leaves the state as it was. -/
def Atomic (x : Edit σ α) : Prop :=
  ∀ s e, (x.runOn s).1 = .error e → (x.runOn s).2 = s

/-! ## Runs -/

@[simp] theorem runOn_get (s : σ) : runOn (get : Edit σ σ) s = (.ok s, s) := rfl

@[simp] theorem runOn_modify (f : σ → σ) (s : σ) :
    runOn (modify f : Edit σ PUnit) s = (.ok ⟨⟩, f s) := rfl

@[simp] theorem runOn_ofExcept (r : Except TopologyError α) (s : σ) :
    runOn (MonadExcept.ofExcept r) s = (r, s) := by
  cases r <;> rfl

theorem runOn_bind (x : Edit σ α) (k : α → Edit σ β) (s : σ) :
    runOn (x >>= k) s = match x.runOn s with
      | (.ok a, s') => (k a).runOn s'
      | (.error e, s') => (.error e, s') := by
  simp only [runOn, ExceptT.run_bind, StateT.run_bind]
  rcases (ExceptT.run x).run s with ⟨_ | _, _⟩ <;> rfl

-- Nothing takes back what comes before a fault.
example : (do modify (· + 1); throw (.unknownChain ⟨"Khala"⟩) : Edit Nat Unit).runOn 0 =
    (.error (.unknownChain ⟨"Khala"⟩), 1) := rfl

theorem runOn_map (g : α → β) (x : Edit σ α) (s : σ) :
    runOn (g <$> x) s = ((x.runOn s).1.map g, (x.runOn s).2) := by
  rw [map_eq_pure_bind, runOn_bind]
  rcases x.runOn s with ⟨_ | _, _⟩ <;> rfl

@[simp] theorem runOn_look (read : σ → Except TopologyError α) (s : σ) :
    runOn (look read) s = (read s, s) := by
  simp only [look, runOn_bind, runOn_get, runOn_ofExcept]

/-! ## Edits made as a whole -/

theorem Makes.atomic {x : Edit σ α} {f : σ → Except TopologyError (σ × α)} (h : Makes x f) :
    Atomic x := by
  intro s e he
  rw [h s] at he ⊢
  cases hf : f s with
  | error _ => rfl
  | ok p =>
    rw [hf] at he
    cases he

theorem Makes.succeeds_iff {x : Edit σ α} {f : σ → Except TopologyError (σ × α)} (h : Makes x f)
    {s : σ} {a : α} : (x.runOn s).1 = .ok a ↔ ∃ s', f s = .ok (s', a) := by
  rw [h s]
  rcases f s with _ | ⟨s', b⟩ <;> simp [settle]

theorem Makes.congr {x : Edit σ α} {f g : σ → Except TopologyError (σ × α)} (h : Makes x f)
    (hfg : ∀ s, f s = g s) : Makes x g :=
  fun s => (h s).trans (congrArg (settle s) (hfg s))

/-- An edit after a look-up that may fail. -/
theorem Makes.after_look {read : σ → Except TopologyError α} {k : α → Edit σ β}
    {f : α → σ → Except TopologyError (σ × β)} (hk : ∀ a, Makes (k a) (f a)) :
    Makes (look read >>= k) fun s => read s >>= fun a => f a s := by
  intro s
  change _ = settle s (read s >>= fun a => f a s)
  rw [runOn_bind, runOn_look]
  cases read s with
  | error e => rfl
  | ok a => exact hk a s

theorem Makes.map {x : Edit σ α} {f : σ → Except TopologyError (σ × α)} (h : Makes x f)
    (g : α → β) : Makes (g <$> x) fun s => (f s).map fun p => (p.1, g p.2) := by
  intro s
  change _ = settle s ((f s).map fun p => (p.1, g p.2))
  rw [runOn_map, h s]
  cases f s <;> rfl

/-- An edit of a part that is put back is made as a whole if the edit of the part is. -/
theorem Makes.part {find : σ → Except TopologyError τ} {put : τ → σ → σ} {x : Edit τ α}
    {f : τ → Except TopologyError (τ × α)} (h : Makes x f)
    (hput : ∀ s p, find s = .ok p → put p s = s) :
    Makes (part find put x) fun s => do
      let p ← find s
      let (p, a) ← f p
      return (put p s, a) := by
  intro s
  simp only [Edit.part, runOn_bind, runOn_look]
  cases hfind : find s with
  | error e => rfl
  | ok p =>
    simp only [h p, runOn_modify, runOn_ofExcept, ok_bind]
    -- After a fault the part is put back although nothing has changed in it.
    cases f p with
    | error e => simp only [settle, hput s p hfind]; rfl
    | ok q => rfl

end Edit

open Edit

namespace ChainEntry.InPlace

theorem runOn_adopt (asset : AssetInfo) (c : ChainEntry) :
    (adopt asset).runOn c = (.ok (), c.adopt asset) := by
  simp only [adopt, runOn_bind, runOn_get, ChainEntry.adopt]
  cases c.contains asset.location <;> rfl

theorem makes_setNative (asset : AssetInfo) :
    Makes (setNative asset) fun c => .ok (c.setNative asset, ()) := by
  intro c
  rw [setNative, runOn_bind, runOn_adopt]
  rfl

theorem makes_setStable (asset : AssetInfo) :
    Makes (setStable asset) fun c => .ok (c.setStable asset, ()) := by
  intro c
  rw [setStable, runOn_bind, runOn_adopt]
  rfl

theorem makes_setEndpoint (endpoint : String) :
    Makes (setEndpoint endpoint) fun c => .ok (c.setEndpoint endpoint, ()) :=
  fun _ => rfl

theorem makes_register (asset : AssetInfo) :
    Makes (register asset) fun c => (c.register asset).map (·, ()) := by
  intro c
  simp only [register, runOn_bind, runOn_get, ChainEntry.register]
  cases c.contains asset.location <;> rfl

theorem makes_unregister (location : Location) :
    Makes (unregister location) fun c => c.unregister location := by
  intro c
  simp only [unregister, runOn_bind, runOn_get, ChainEntry.unregister]
  cases c.assets.find? fun a => a.location == location <;> rfl

end ChainEntry.InPlace

namespace Bridge.InPlace

theorem makes_register (pair : AssetPair) :
    Makes (register pair) fun b => (b.register pair).map (·, ()) := by
  intro b
  simp only [register, runOn_bind, runOn_get, Bridge.register]
  cases b.assets.any fun p => p.id == pair.id <;> rfl

theorem makes_unregister (pair : AssetPair) :
    Makes (unregister pair) fun b => b.unregister pair := by
  intro b
  simp only [unregister, runOn_bind, runOn_get, Bridge.unregister]
  cases b.assets.find? fun p => p.id == pair.id <;> rfl

end Bridge.InPlace

namespace Dex.InPlace

theorem makes_register (pair : DexPair) :
    Makes (register pair) fun d => (d.register pair).map (·, ()) := by
  intro d
  simp only [register, runOn_bind, runOn_get, Dex.register]
  cases d.pairs.any fun p => p.id == pair.id <;> rfl

theorem makes_unregister (id : PoolId) :
    Makes (unregister id) fun d => d.unregister id := by
  intro d
  simp only [unregister, runOn_bind, runOn_get, Dex.unregister]
  cases d.pairs.find? fun p => p.id == id <;> rfl

end Dex.InPlace

namespace Topology

variable {t : Topology} {α : Type}

/-! ## Parts are put back -/

theorem putEntry_of_entry {name : ChainName} {c : ChainEntry} (h : t.entry name = .ok c) :
    t.putEntry name c = t := by
  rw [putEntry, Keyed.update_const_of_find? (entry_eq_ok.mp h)]

theorem putBridge_of_bridge {name : BridgeName} {b : Bridge} (h : t.bridge name = .ok b) :
    t.putBridge name b = t := by
  rw [putBridge, Keyed.update_const_of_find? (bridge_eq_ok.mp h)]

theorem putDex_of_dex {name : DexName} {d : Dex} (h : t.dex name = .ok d) :
    t.putDex name d = t := by
  rw [putDex, Keyed.update_const_of_find? (dex_eq_ok.mp h)]

namespace InPlace

theorem makes_onEntry {x : Edit ChainEntry α}
    {f : ChainEntry → Except TopologyError (ChainEntry × α)} (h : Makes x f) (name : ChainName) :
    Makes (onEntry name x) fun t => do
      let c ← t.entry name
      let (c, a) ← f c
      return (t.putEntry name c, a) :=
  h.part fun _ _ => putEntry_of_entry

theorem makes_onBridge {x : Edit Bridge α} {f : Bridge → Except TopologyError (Bridge × α)}
    (h : Makes x f) (name : BridgeName) :
    Makes (onBridge name x) fun t => do
      let b ← t.bridge name
      let (b, a) ← f b
      return (t.putBridge name b, a) :=
  h.part fun _ _ => putBridge_of_bridge

theorem makes_onDex {x : Edit Dex α} {f : Dex → Except TopologyError (Dex × α)}
    (h : Makes x f) (name : DexName) :
    Makes (onDex name x) fun t => do
      let d ← t.dex name
      let (d, a) ← f d
      return (t.putDex name d, a) :=
  h.part fun _ _ => putDex_of_dex

/-! ## The changes -/

theorem makes_addChain (info : ChainInfo) :
    Makes (addChain info) fun t => (t.addChain info).map (·, ()) := by
  intro t
  simp only [addChain, runOn_bind, runOn_get, Topology.addChain]
  cases t.entry? info.name <;> rfl

theorem makes_removeChain (name : ChainName) :
    Makes (removeChain name) fun t => t.removeChain name := by
  intro t
  simp only [removeChain, runOn_bind, runOn_look, Topology.removeChain]
  cases t.entry name <;> rfl

/-- Edits of a chain that find no fault. -/
theorem makes_editEntry {x : Edit ChainEntry Unit} {f : ChainEntry → ChainEntry}
    (h : Makes x fun c => .ok (f c, ())) (chain : ChainName) :
    Makes (onEntry chain x) fun t =>
      (t.entry chain >>= fun c => pure (t.putEntry chain (f c))).map (·, ()) := by
  refine (makes_onEntry h chain).congr fun t => ?_
  rw [map_bind]
  rfl

theorem makes_addAsset (chain : ChainName) (asset : AssetInfo) :
    Makes (addAsset chain asset) fun t => (t.addAsset chain asset).map (·, ()) := by
  have hregister := makes_onEntry (ChainEntry.InPlace.makes_register asset) chain
  refine (Makes.after_look fun _ => hregister).congr fun t => ?_
  simp only [Topology.addAsset, map_bind, bind_of_map]
  rfl

theorem makes_removeAsset (chain : ChainName) (location : Location) :
    Makes (removeAsset chain location) fun t => t.removeAsset chain location := by
  intro t
  rw [removeAsset, runOn_bind,
    makes_onEntry (ChainEntry.InPlace.makes_unregister location) chain t]
  simp only [Topology.removeAsset]
  cases t.entry chain with
  | error e => rfl
  | ok c =>
    simp only [ok_bind]
    cases c.unregister location <;> rfl

theorem makes_addBridge (name : BridgeName) (chain0 chain1 : ChainName) :
    Makes (addBridge name chain0 chain1) fun t => (t.addBridge name chain0 chain1).map (·, ()) := by
  intro t
  simp only [addBridge, runOn_bind, runOn_get, Topology.addBridge]
  cases t.bridge? name with
  | some b => rfl
  | none =>
    simp only [Option.isSome_none, Bool.false_eq_true, if_false, List.forIn_cons, List.forIn_nil,
      bind_assoc, pure_bind, runOn_bind, runOn_look]
    cases t.entry chain0 with
    | error e => rfl
    | ok c =>
      simp only
      cases t.entry chain1 <;> rfl

theorem makes_removeBridge (name : BridgeName) :
    Makes (removeBridge name) fun t => t.removeBridge name := by
  intro t
  simp only [removeBridge, runOn_bind, runOn_look, Topology.removeBridge]
  cases t.bridge name <;> rfl

theorem makes_addBridgePair (bridge : BridgeName) (pair : AssetPair) :
    Makes (addBridgePair bridge pair) fun t => (t.addBridgePair bridge pair).map (·, ()) := by
  have hregister := makes_onBridge (Bridge.InPlace.makes_register pair) bridge
  refine (Makes.after_look fun _ => hregister).congr fun t => ?_
  simp only [Topology.addBridgePair, map_bind, bind_of_map]
  rfl

theorem makes_addDex (name : DexName) (id : PoolId) (chain : ChainName) :
    Makes (addDex name id chain) fun t => (t.addDex name id chain).map (·, ()) := by
  intro t
  simp only [addDex, runOn_bind, runOn_get, Topology.addDex]
  cases t.dex? name with
  | some d => rfl
  | none =>
    simp only [Option.isSome_none, Bool.false_eq_true, if_false, runOn_bind, runOn_look]
    cases t.entry chain <;> rfl

theorem makes_removeDex (name : DexName) :
    Makes (removeDex name) fun t => t.removeDex name := by
  intro t
  simp only [removeDex, runOn_bind, runOn_look, Topology.removeDex]
  cases t.dex name <;> rfl

theorem makes_addDexPair (dex : DexName) (pair : DexPair) :
    Makes (addDexPair dex pair) fun t => (t.addDexPair dex pair).map (·, ()) := by
  have hregister := makes_onDex (Dex.InPlace.makes_register pair) dex
  refine (Makes.after_look fun _ => hregister).congr fun t => ?_
  simp only [Topology.addDexPair, map_bind, bind_of_map]
  rfl

theorem makes_adding {x : Edit Topology Unit} {f : Topology → Except TopologyError Topology}
    (h : Makes x fun t => (f t).map (·, ())) :
    Makes (adding x) fun t => Topology.adding (f t) := by
  refine (h.map _).congr fun t => ?_
  cases f t <;> rfl

/-- A change made in place comes to the change made at one stroke. -/
theorem makes_change (c : TopologyChange) : Makes (change c) fun t => t.change c := by
  cases c with
  | addChain info => exact makes_adding (makes_addChain info)
  | removeChain name => exact (makes_removeChain name).map _
  | setNative chain asset =>
    exact makes_adding (makes_editEntry (ChainEntry.InPlace.makes_setNative asset) chain)
  | setStable chain asset =>
    exact makes_adding (makes_editEntry (ChainEntry.InPlace.makes_setStable asset) chain)
  | setEndpoint chain endpoint =>
    exact makes_adding (makes_editEntry (ChainEntry.InPlace.makes_setEndpoint endpoint) chain)
  | addAsset chain asset => exact makes_adding (makes_addAsset chain asset)
  | removeAsset chain location => exact (makes_removeAsset chain location).map _
  | addBridge name chain0 chain1 => exact makes_adding (makes_addBridge name chain0 chain1)
  | removeBridge name => exact (makes_removeBridge name).map _
  | addBridgePair bridge pair => exact makes_adding (makes_addBridgePair bridge pair)
  | removeBridgePair bridge pair =>
    exact (makes_onBridge (Bridge.InPlace.makes_unregister pair) bridge).map _
  | addDex name id chain => exact makes_adding (makes_addDex name id chain)
  | removeDex name => exact (makes_removeDex name).map _
  | addDexPair dex pair => exact makes_adding (makes_addDexPair dex pair)
  | removeDexPair dex id => exact (makes_onDex (Dex.InPlace.makes_unregister id) dex).map _

/-! ## When an addition succeeds -/

variable {t : Topology}

theorem addAsset_succeeds_iff {chain : ChainName} {asset : AssetInfo} :
    ((addAsset chain asset).runOn t).1 = .ok () ↔ t.validateAsset chain asset = .ok () := by
  simp only [(makes_addAsset chain asset).succeeds_iff, map_eq_ok, addAsset_eq_ok,
    validateAsset_eq_ok]
  constructor
  · rintro ⟨_, _, ⟨c, hc, hfree, -⟩, -⟩
    exact ⟨c, hc, hfree⟩
  · rintro ⟨c, hc, hfree⟩
    exact ⟨_, _, ⟨c, hc, hfree, rfl⟩, rfl⟩

theorem addBridgePair_succeeds_iff {bridge : BridgeName} {pair : AssetPair} :
    ((addBridgePair bridge pair).runOn t).1 = .ok () ↔
      t.validateBridgePair bridge pair = .ok () ∧
        ∀ b, t.bridge? bridge = some b → ∀ p ∈ b.assets, p.id ≠ pair.id := by
  simp only [(makes_addBridgePair bridge pair).succeeds_iff, map_eq_ok, addBridgePair_eq_ok,
    validateBridgePair_eq_ok]
  constructor
  · rintro ⟨_, _, ⟨b, hb, h0, h1, hfresh, -⟩, -⟩
    refine ⟨⟨b, hb, h0, h1⟩, fun d hd p hp hid => ?_⟩
    obtain rfl : b = d := Option.some.inj (hb.symm.trans hd)
    exact List.any_eq_false.mp hfresh p hp (beq_iff_eq.mpr hid)
  · rintro ⟨⟨b, hb, h0, h1⟩, hfresh⟩
    refine ⟨_, _, ⟨b, hb, h0, h1, List.any_eq_false.mpr fun p hp hid => ?_, rfl⟩, rfl⟩
    exact hfresh b hb p hp (beq_iff_eq.mp hid)

theorem addDexPair_succeeds_iff {dex : DexName} {pair : DexPair} :
    ((addDexPair dex pair).runOn t).1 = .ok () ↔
      t.validateDexPair dex pair = .ok () ∧
        ∀ d, t.dex? dex = some d → ∀ p ∈ d.pairs, p.id ≠ pair.id := by
  simp only [(makes_addDexPair dex pair).succeeds_iff, map_eq_ok, addDexPair_eq_ok,
    validateDexPair_eq_ok]
  constructor
  · rintro ⟨_, _, ⟨d, hd, h0, h1, hfresh, -⟩, -⟩
    refine ⟨⟨d, hd, h0, h1⟩, fun e he p hp hid => ?_⟩
    obtain rfl : d = e := Option.some.inj (hd.symm.trans he)
    exact List.any_eq_false.mp hfresh p hp (beq_iff_eq.mpr hid)
  · rintro ⟨⟨d, hd, h0, h1⟩, hfresh⟩
    refine ⟨_, _, ⟨d, hd, h0, h1, List.any_eq_false.mpr fun p hp hid => ?_, rfl⟩, rfl⟩
    exact hfresh d hd p hp (beq_iff_eq.mp hid)

end InPlace

end Topology

/-! ## The registry in memory -/

namespace Registry

/-- A registration in place is answered as one at one stroke, and leaves what that leaves. -/
theorem call_register (t : Topology) (r : Registration) :
    call t (.register r) = ((write t r).1.map fun _ => .done, (write t r).2) := by
  simp only [call, register, write, Topology.InPlace.makes_change r.change t]
  cases t.change r.change <;> rfl

theorem write_refused {t : Topology} {r : Registration} {e : RegistryError}
    (h : (write t r).1 = .error e) : (write t r).2 = t := by
  simp only [write] at h ⊢
  cases hfault : ((Topology.InPlace.change r.change).runOn t).1 with
  | error e => exact (Topology.InPlace.makes_change r.change).atomic t e hfault
  | ok removed =>
    rw [hfault] at h
    cases h

/-- What is refused leaves no trace, neither a change to any topology nor a registration with
a registry.  What was validated is added, on a bridge or a dex unless a pair with the same
identity is stored there. -/
theorem refused_without_trace :
    (∀ c, (Topology.InPlace.change c).Atomic) ∧
      (∀ t r e, (write t r).1 = .error e → (write t r).2 = t) ∧
      (∀ t chain asset, ((Topology.InPlace.addAsset chain asset).runOn t).1 = .ok () ↔
        t.validateAsset chain asset = .ok ()) ∧
      (∀ t bridge pair, ((Topology.InPlace.addBridgePair bridge pair).runOn t).1 = .ok () ↔
        t.validateBridgePair bridge pair = .ok () ∧
          ∀ b, t.bridge? bridge = some b → ∀ p ∈ b.assets, p.id ≠ pair.id) ∧
      ∀ t dex pair, ((Topology.InPlace.addDexPair dex pair).runOn t).1 = .ok () ↔
        t.validateDexPair dex pair = .ok () ∧
          ∀ d, t.dex? dex = some d → ∀ p ∈ d.pairs, p.id ≠ pair.id := by
  refine ⟨?_, ?_, ?_, ?_, ?_⟩
  · exact fun c => (Topology.InPlace.makes_change c).atomic
  · exact fun _ _ _ => write_refused
  · exact fun _ _ _ => Topology.InPlace.addAsset_succeeds_iff
  · exact fun _ _ _ => Topology.InPlace.addBridgePair_succeeds_iff
  · exact fun _ _ _ => Topology.InPlace.addDexPair_succeeds_iff

end Registry

end Interchain
