import Interchain.Proofs.Registry.Agreement
import Interchain.Proofs.Topology.InPlace

/-!
# What a registry refuses calls with

Each call of a registry has a short list of codes that it is refused with.  A call is made of
steps that look something up, check it or store it, and the step that fails decides the code.
So each step has its code, and a call has those of its steps.
-/

namespace Interchain

/-! ## The codes of each registration -/

namespace Registration

/-- The codes that are documented for a registration. -/
def documented : Registration → List RegistryError
  | .registerChain _ => [.chainAlreadyRegistered]
  | .unregisterChain _ => [.chainNotFound]
  | .registerAsset _ _ => [.assetAlreadyRegistered, .chainNotFound]
  | .unregisterAsset _ _ => [.assetNotFound, .chainNotFound]
  | .setNative _ _ => [.chainNotFound]
  | .setStable _ _ => [.chainNotFound]
  | .setEndpoint _ _ => [.chainNotFound]
  | .registerBridge _ _ _ => [.bridgeAlreadyRegistered, .chainNotFound]
  | .unregisterBridge _ => [.bridgeNotFound]
  | .addBridgeAsset _ _ => [.bridgeNotFound, .assetNotFound, .assetAlreadyRegistered]
  | .removeBridgeAsset _ _ => [.bridgeNotFound, .assetNotFound, .assetAlreadyRegistered]
  | .registerDex _ _ _ => [.dexAlreadyRegistered, .chainNotFound]
  | .unregisterDex _ => [.dexNotFound]
  | .addDexPair _ _ => [.dexNotFound, .assetNotFound]
  | .removeDexPair _ _ => [.dexNotFound, .assetNotFound]

/-- The codes that a registration is refused with.  A pool whose identifier is taken is refused
like a pair that a bridge carries already, which the documentation leaves out. -/
def refusals : Registration → List RegistryError
  | .addDexPair _ _ => [.dexNotFound, .assetNotFound, .assetAlreadyRegistered]
  | r => r.documented

end Registration

/-- The codes that a call is refused with.  The graph is never refused. -/
def RegistryCall.refusals : RegistryCall → List RegistryError
  | .register r => r.refusals
  | .getGraph => []

/-! ## Steps -/

/-- If a step fails, its fault is reported under one of these codes. -/
def RefusedWith {α : Type} (codes : List RegistryError) (x : Except TopologyError α) : Prop :=
  ∀ e, x = .error e → RegistryError.ofTopology e ∈ codes

namespace RefusedWith

variable {α β : Type} {codes : List RegistryError}

theorem ok (a : α) : RefusedWith codes (.ok a) := by
  rintro e ⟨⟩

theorem error {e : TopologyError} (h : RegistryError.ofTopology e ∈ codes) :
    RefusedWith codes (.error e : Except TopologyError α) := by
  rintro _ ⟨⟩
  exact h

theorem bind {x : Except TopologyError α} {f : α → Except TopologyError β}
    (hx : RefusedWith codes x) (hf : ∀ a, RefusedWith codes (f a)) :
    RefusedWith codes (x >>= f) := by
  cases x with
  | error e => exact error (hx e rfl)
  | ok a => exact hf a

theorem map {x : Except TopologyError α} (f : α → β) (hx : RefusedWith codes x) :
    RefusedWith codes (x.map f) := fun e h => hx e (Attempt.map_eq_error.mp h)

/-! ### Looking up -/

theorem entry (t : Topology) (name : ChainName) (h : .chainNotFound ∈ codes) :
    RefusedWith codes (t.entry name) := by
  unfold Topology.entry
  split
  · exact ok _
  · exact error h

theorem bridge (t : Topology) (name : BridgeName) (h : .bridgeNotFound ∈ codes) :
    RefusedWith codes (t.bridge name) := by
  unfold Topology.bridge
  split
  · exact ok _
  · exact error h

theorem dex (t : Topology) (name : DexName) (h : .dexNotFound ∈ codes) :
    RefusedWith codes (t.dex name) := by
  unfold Topology.dex
  split
  · exact ok _
  · exact error h

/-- An asset on a chain that is not there is an unknown asset, not one on an unknown chain.  So
the chains of a bridge or a dex need not be there for its codes to hold. -/
theorem ensureRegistered (t : Topology) (chain : ChainName) (asset : AssetInfo)
    (h : .assetNotFound ∈ codes) : RefusedWith codes (t.ensureRegistered chain asset) := by
  unfold Topology.ensureRegistered
  split
  · split
    · exact ok _
    · exact error h
  · exact error h

/-! ### Storing and taking away -/

theorem register_asset (c : ChainEntry) (asset : AssetInfo)
    (h : .assetAlreadyRegistered ∈ codes) : RefusedWith codes (c.register asset) := by
  unfold ChainEntry.register
  split
  · exact error h
  · exact ok _

theorem register_pair (b : Bridge) (pair : AssetPair) (h : .assetAlreadyRegistered ∈ codes) :
    RefusedWith codes (b.register pair) := by
  unfold Bridge.register
  split
  · exact error h
  · exact ok _

theorem register_pool (d : Dex) (pair : DexPair) (h : .assetAlreadyRegistered ∈ codes) :
    RefusedWith codes (d.register pair) := by
  unfold Dex.register
  split
  · exact error h
  · exact ok _

theorem unregister_asset (c : ChainEntry) (location : Location) (h : .assetNotFound ∈ codes) :
    RefusedWith codes (c.unregister location) := by
  unfold ChainEntry.unregister
  split
  · exact error h
  · exact ok _

theorem unregister_pair (b : Bridge) (pair : AssetPair) (h : .assetNotFound ∈ codes) :
    RefusedWith codes (b.unregister pair) := by
  unfold Bridge.unregister
  split
  · exact error h
  · exact ok _

theorem unregister_pool (d : Dex) (id : PoolId) (h : .assetNotFound ∈ codes) :
    RefusedWith codes (d.unregister id) := by
  unfold Dex.unregister
  split
  · exact error h
  · exact ok _

/-! ### Changes -/

variable (t : Topology)

theorem addChain (info : ChainInfo) :
    RefusedWith [.chainAlreadyRegistered] (t.addChain info) := by
  unfold Topology.addChain
  split
  · exact error List.mem_cons_self
  · exact ok _

theorem validateAsset (chain : ChainName) (asset : AssetInfo) :
    RefusedWith [.assetAlreadyRegistered, .chainNotFound] (t.validateAsset chain asset) := by
  refine (entry t chain (by decide)).bind fun c => ?_
  split
  · exact error List.mem_cons_self
  · exact ok _

theorem addAsset (chain : ChainName) (asset : AssetInfo) :
    RefusedWith [.assetAlreadyRegistered, .chainNotFound] (t.addAsset chain asset) :=
  (validateAsset t chain asset).bind fun _ => (entry t chain (by decide)).bind fun c =>
    (register_asset c asset (by decide)).bind fun _ => ok _

theorem addBridge (name : BridgeName) (chain0 chain1 : ChainName) :
    RefusedWith [.bridgeAlreadyRegistered, .chainNotFound] (t.addBridge name chain0 chain1) := by
  unfold Topology.addBridge
  split
  · exact error List.mem_cons_self
  · exact (entry t chain0 (by decide)).bind fun _ =>
      (entry t chain1 (by decide)).bind fun _ => ok _

theorem validateBridgePair (name : BridgeName) (pair : AssetPair) :
    RefusedWith [.bridgeNotFound, .assetNotFound, .assetAlreadyRegistered]
      (t.validateBridgePair name pair) :=
  (bridge t name (by decide)).bind fun b =>
    (ensureRegistered t b.chain0 pair.asset0 (by decide)).bind fun _ =>
      ensureRegistered t b.chain1 pair.asset1 (by decide)

theorem addBridgePair (name : BridgeName) (pair : AssetPair) :
    RefusedWith [.bridgeNotFound, .assetNotFound, .assetAlreadyRegistered]
      (t.addBridgePair name pair) :=
  (validateBridgePair t name pair).bind fun _ => (bridge t name (by decide)).bind fun b =>
    (register_pair b pair (by decide)).bind fun _ => ok _

theorem addDex (name : DexName) (id : PoolId) (chain : ChainName) :
    RefusedWith [.dexAlreadyRegistered, .chainNotFound] (t.addDex name id chain) := by
  unfold Topology.addDex
  split
  · exact error List.mem_cons_self
  · exact (entry t chain (by decide)).bind fun _ => ok _

theorem validateDexPair (name : DexName) (pair : DexPair) :
    RefusedWith [.dexNotFound, .assetNotFound, .assetAlreadyRegistered]
      (t.validateDexPair name pair) :=
  (dex t name (by decide)).bind fun d =>
    (ensureRegistered t d.chain pair.asset0 (by decide)).bind fun _ =>
      ensureRegistered t d.chain pair.asset1 (by decide)

theorem addDexPair (name : DexName) (pair : DexPair) :
    RefusedWith [.dexNotFound, .assetNotFound, .assetAlreadyRegistered]
      (t.addDexPair name pair) :=
  (validateDexPair t name pair).bind fun _ => (dex t name (by decide)).bind fun d =>
    (register_pool d pair (by decide)).bind fun _ => ok _

/-- A change is refused with the codes of the registration that asks for it. -/
theorem change (r : Registration) : RefusedWith r.refusals (t.change r.change) := by
  cases r with
  | registerChain info => exact (addChain t info).map _
  | unregisterChain name =>
    exact ((entry t name List.mem_cons_self).bind fun _ => ok _).map _
  | registerAsset chain asset => exact (addAsset t chain asset).map _
  | unregisterAsset chain asset =>
    have found : RefusedWith [.assetNotFound, .chainNotFound] (t.entry chain) :=
      entry t chain (by decide)
    exact (found.bind fun c => (unregister_asset c _ (by decide)).bind fun _ => ok _).map _
  | setNative chain asset =>
    exact ((entry t chain List.mem_cons_self).bind fun _ => ok _).map _
  | setStable chain asset =>
    exact ((entry t chain List.mem_cons_self).bind fun _ => ok _).map _
  | setEndpoint chain endpoint =>
    exact ((entry t chain List.mem_cons_self).bind fun _ => ok _).map _
  | registerBridge name chain0 chain1 => exact (addBridge t name chain0 chain1).map _
  | unregisterBridge name =>
    exact ((bridge t name List.mem_cons_self).bind fun _ => ok _).map _
  | addBridgeAsset name pair => exact (addBridgePair t name pair).map _
  | removeBridgeAsset name pair =>
    have found : RefusedWith [.bridgeNotFound, .assetNotFound, .assetAlreadyRegistered]
        (t.bridge name) := bridge t name (by decide)
    exact (found.bind fun b => (unregister_pair b _ (by decide)).bind fun _ => ok _).map _
  | registerDex name id chain => exact (addDex t name id chain).map _
  | unregisterDex name =>
    exact ((dex t name List.mem_cons_self).bind fun _ => ok _).map _
  | addDexPair name pair => exact (addDexPair t name pair).map _
  | removeDexPair name pair =>
    have found : RefusedWith [.dexNotFound, .assetNotFound] (t.dex name) := dex t name (by decide)
    exact (found.bind fun d => (unregister_pool d _ (by decide)).bind fun _ => ok _).map _

end RefusedWith

/-! ## Calls -/

/-- An answer to a call that is no refusal, or one with a code of the call. -/
def RegistryCall.Admits (call : RegistryCall) (answer : Except RegistryError RegistryAnswer) :
    Prop :=
  ∀ e, answer = .error e → e ∈ call.refusals

namespace Registry

/-- One call, in whatever state the registry is. -/
theorem admits_call (t : Topology) (call : RegistryCall) :
    call.Admits (Registry.call t call).1 := by
  cases call with
  | getGraph => rintro e ⟨⟩
  | register r =>
    intro e h
    simp only [Registry.call, register] at h
    cases hr : t.change r.change with
    | ok done => simp [hr] at h
    | error fault =>
      simp only [hr, Except.error.injEq] at h
      exact h ▸ RefusedWith.change t r fault hr

/-- A registry in memory refuses a registration only with the codes of the registration, and
never refuses to show the graph.  This holds of every call of every course of calls, whatever
the registry held before. -/
theorem refusals_listed :
    (∀ t r e, (write t r).1 = .error e → e ∈ r.refusals) ∧
      ∀ t calls, List.Forall₂ RegistryCall.Admits calls (callAll t calls).1 := by
  constructor
  · intro t r e h
    apply admits_call t (.register r) e
    rw [call_register]
    exact Attempt.map_eq_error.mpr h
  · intro t calls
    induction calls generalizing t with
    | nil => exact .nil
    | cons call rest ih => exact .cons (admits_call t call) (ih (Registry.call t call).2)

/-- A pool of two assets of a chain. -/
def samplePool : DexPair :=
  ⟨⟨[9]⟩, ⟨"Phala", "PHA", 12, ⟨[1]⟩⟩, ⟨"Basilisk", "BSX", 12, ⟨[2]⟩⟩, 0, 0⟩

/-- The calls that register a dex with the pool. -/
def sampleCalls : List RegistryCall :=
  [.register (.registerChain (.plain ⟨"Khala"⟩ .sub "wss://khala")),
   .register (.registerAsset ⟨"Khala"⟩ samplePool.asset0),
   .register (.registerAsset ⟨"Khala"⟩ samplePool.asset1),
   .register (.registerDex ⟨"Dex"⟩ ⟨[3]⟩ ⟨"Khala"⟩),
   .register (.addDexPair ⟨"Dex"⟩ samplePool)]

theorem refusals_listed_sample :
    let t := (callAll .empty sampleCalls).2
    (write t (.addDexPair ⟨"Dex"⟩ samplePool)).1 = .error .assetAlreadyRegistered ∧
      .assetAlreadyRegistered ∈ (Registration.addDexPair ⟨"Dex"⟩ samplePool).refusals := by
  intro t
  have refused : (write t (.addDexPair ⟨"Dex"⟩ samplePool)).1 =
      .error .assetAlreadyRegistered := by decide +kernel
  exact ⟨refused, refusals_listed.1 t _ _ refused⟩

/-- A pool whose identifier is taken is refused with a code that is not documented for it. -/
theorem duplicate_pool_undocumented :
    let r : Registration := .addDexPair ⟨"Dex"⟩ samplePool
    (call (callAll .empty sampleCalls).2 (.register r)).1 = .error .assetAlreadyRegistered ∧
      .assetAlreadyRegistered ∉ r.documented := by
  constructor
  · decide +kernel
  · decide

end Registry

end Interchain
