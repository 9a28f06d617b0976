import Interchain.Proofs.Topology.WellFormed

/-!
# Shares of a topology

A share is a set of names of chains, bridges and dexes.  It splits a topology if every
bridge and dex lies on the same side as its chains.  Then a change that names only what lies
in the share does to the share what it does to the whole (`Topology.change_within`), and one
that names nothing of it leaves the share as it was (`Topology.within_of_change`).  The
cascades are where this has to be seen: removing a chain or an asset looks at every bridge
and dex, and finds a reference only on its own side.
-/

namespace Interchain

open Attempt

namespace TopologyChange

/-- The chains that a change names. -/
def chains : TopologyChange → List ChainName
  | .addChain info => [info.name]
  | .removeChain name => [name]
  | .setNative chain _ => [chain]
  | .setStable chain _ => [chain]
  | .setEndpoint chain _ => [chain]
  | .addAsset chain _ => [chain]
  | .removeAsset chain _ => [chain]
  | .addBridge _ chain0 chain1 => [chain0, chain1]
  | .addDex _ _ chain => [chain]
  | .removeBridge _ | .addBridgePair _ _ | .removeBridgePair _ _ => []
  | .removeDex _ | .addDexPair _ _ | .removeDexPair _ _ => []

/-- The bridges that a change names. -/
def bridges : TopologyChange → List BridgeName
  | .addBridge name _ _ => [name]
  | .removeBridge name => [name]
  | .addBridgePair bridge _ => [bridge]
  | .removeBridgePair bridge _ => [bridge]
  | _ => []

/-- The dexes that a change names. -/
def dexes : TopologyChange → List DexName
  | .addDex name _ _ => [name]
  | .removeDex name => [name]
  | .addDexPair dex _ => [dex]
  | .removeDexPair dex _ => [dex]
  | _ => []

end TopologyChange

/-- A share of the names.  The spellings of a chain's name are in it or not together. -/
structure Share where
  chain : ChainName → Bool
  bridge : BridgeName → Bool
  dex : DexName → Bool
  spelling : ∀ {m n : ChainName}, m.same n = true → chain m = chain n

/-- A change names only what is in the share, or, on the other side, nothing of it. -/
structure Share.Sides (s : Share) (side : Bool) (c : TopologyChange) : Prop where
  chains : ∀ n ∈ c.chains, s.chain n = side
  bridges : ∀ n ∈ c.bridges, s.bridge n = side
  dexes : ∀ n ∈ c.dexes, s.dex n = side

/-- What of a graph is on some of the chains: their assets, their pools, and the bridges
between two of them. -/
def Graph.restrict (g : Graph) (on : ChainName → Bool) : Graph where
  assets := g.assets.filter fun a => on a.chain
  pairs := g.pairs.filter fun p => on p.chain
  bridges := g.bridges.filter fun b => on b.chain0 && on b.chain1

namespace Topology

variable {t t' : Topology} {s : Share} {side : Bool} {chain n : ChainName} {c d : ChainEntry}

/-- What of a topology is in a share. -/
def within (t : Topology) (s : Share) : Topology where
  chains := t.chains.filter fun c => s.chain c.info.name
  bridges := t.bridges.filter fun b => s.bridge b.name
  dexes := t.dexes.filter fun d => s.dex d.name

/-- Bridges and dexes are on the same side of the share as their chains. -/
structure Splits (t : Topology) (s : Share) : Prop where
  chain0 : ∀ b ∈ t.bridges, s.chain b.chain0 = s.bridge b.name
  chain1 : ∀ b ∈ t.bridges, s.chain b.chain1 = s.bridge b.name
  chain : ∀ d ∈ t.dexes, s.chain d.chain = s.dex d.name

theorem within_empty (s : Share) : empty.within s = empty := rfl

theorem splits_empty (s : Share) : empty.Splits s where
  chain0 _ h := nomatch h
  chain1 _ h := nomatch h
  chain _ h := nomatch h

/-! ## What is on the other side is not found -/

/-- Names on different sides are different. -/
theorem same_eq_false {m : ChainName} (hm : s.chain m = true) (hn : s.chain n = false) :
    m.same n = false := by
  rw [Bool.eq_false_iff]
  intro hs
  rw [s.spelling hs, hn] at hm
  cases hm

/-- A bridge of the share joins no chain of the other side. -/
theorem Splits.bridge_apart (h : t.Splits s) {b : Bridge} (hb : b ∈ t.bridges)
    (hs : s.bridge b.name = true) (hn : s.chain n = false) :
    b.chain0.same n = false ∧ b.chain1.same n = false :=
  ⟨same_eq_false ((h.chain0 b hb).trans hs) hn, same_eq_false ((h.chain1 b hb).trans hs) hn⟩

/-- A dex of the share is on no chain of the other side. -/
theorem Splits.dex_apart (h : t.Splits s) {d : Dex} (hd : d ∈ t.dexes)
    (hs : s.dex d.name = true) (hn : s.chain n = false) : d.chain.same n = false :=
  same_eq_false ((h.chain d hd).trans hs) hn

/-- A bridge on the other side from a chain carries nothing of its assets. -/
theorem forgetOnBridge_eq_self {b : Bridge} {location : Location} (h0 : b.chain0.same chain = false)
    (h1 : b.chain1.same chain = false) : forgetOnBridge chain location b = b := by
  simp [forgetOnBridge, h0, h1]

theorem forgetOnDex_eq_self {d : Dex} {location : Location} (h : d.chain.same chain = false) :
    forgetOnDex chain location d = d := by
  simp [forgetOnDex, h]

/-! ## Look-up in a share -/

theorem entry?_within (hn : s.chain n = true) : entry? (t.within s) n = t.entry? n := by
  apply Keyed.find?_filter_of_imp
  intro c hc
  rw [s.spelling hc, hn]

theorem bridge?_within {name : BridgeName} (hn : s.bridge name = true) :
    (t.within s).bridge? name = t.bridge? name := by
  apply Keyed.find?_filter_of_imp
  intro b hb
  rw [beq_iff_eq.mp hb, hn]

theorem dex?_within {name : DexName} (hn : s.dex name = true) :
    (t.within s).dex? name = t.dex? name := by
  apply Keyed.find?_filter_of_imp
  intro d hd
  rw [beq_iff_eq.mp hd, hn]

theorem entry_within (hn : s.chain n = true) : (t.within s).entry n = t.entry n := by
  rw [entry, entry, entry?_within hn]

theorem bridge_within {name : BridgeName} (hn : s.bridge name = true) :
    (t.within s).bridge name = t.bridge name := by
  rw [bridge, bridge, bridge?_within hn]

theorem dex_within {name : DexName} (hn : s.dex name = true) :
    (t.within s).dex name = t.dex name := by
  rw [dex, dex, dex?_within hn]

theorem ensureRegistered_within {asset : AssetInfo} (hn : s.chain n = true) :
    (t.within s).ensureRegistered n asset = t.ensureRegistered n asset := by
  rw [ensureRegistered, ensureRegistered, entry?_within hn]

/-! ## Putting in place

What is put in place of something in the share is put there in the share; on the other side
that leaves no trace in it. -/

theorem within_putEntry (hn : s.chain chain = side) (hc : t.entry? chain = some c)
    (hname : d.info.name = c.info.name) :
    (t.putEntry chain d).within s =
      bif side then (t.within s).putEntry chain d else t.within s := by
  have hd : s.chain d.info.name = side := by
    rw [hname, s.spelling (entry?_spec hc).2, hn]
  have hchains := Keyed.filter_update (l := t.chains) (f := fun _ => d)
    (q := fun c => s.chain c.info.name) fun c (hc : c.info.name.same chain = true) =>
      ⟨(s.spelling hc).trans hn, hd⟩
  rw [within, putEntry, hchains]
  cases side <;> rfl

theorem within_putBridge {name : BridgeName} {b : Bridge} (hn : s.bridge name = side)
    (hb : b.name = name) :
    (t.putBridge name b).within s =
      bif side then (t.within s).putBridge name b else t.within s := by
  have hbridges := Keyed.filter_update (l := t.bridges) (f := fun _ => b)
    (q := fun c => s.bridge c.name) fun c (hc : (c.name == name) = true) =>
      ⟨beq_iff_eq.mp hc ▸ hn, hb ▸ hn⟩
  rw [within, putBridge, hbridges]
  cases side <;> rfl

theorem within_putDex {name : DexName} {d : Dex} (hn : s.dex name = side) (hd : d.name = name) :
    (t.putDex name d).within s = bif side then (t.within s).putDex name d else t.within s := by
  have hdexes := Keyed.filter_update (l := t.dexes) (f := fun _ => d)
    (q := fun e => s.dex e.name) fun e (he : (e.name == name) = true) =>
      ⟨beq_iff_eq.mp he ▸ hn, hd ▸ hn⟩
  rw [within, putDex, hdexes]
  cases side <;> rfl

/-! ## Taking away

What is in the share is taken away from it too; on the other side it is not missed. -/

theorem within_removeBridge {name : BridgeName} (hn : s.bridge name = side) :
    within { t with bridges := t.bridges.eraseP fun b => b.name == name } s =
      bif side then { t.within s with
        bridges := (t.within s).bridges.eraseP fun b => b.name == name } else t.within s := by
  have hbridges := Keyed.filter_eraseP (l := t.bridges) (q := fun b => s.bridge b.name)
    fun b (hb : (b.name == name) = true) => beq_iff_eq.mp hb ▸ hn
  rw [within, hbridges]
  cases side <;> rfl

theorem within_removeDex {name : DexName} (hn : s.dex name = side) :
    within { t with dexes := t.dexes.eraseP fun d => d.name == name } s =
      bif side then { t.within s with
        dexes := (t.within s).dexes.eraseP fun d => d.name == name } else t.within s := by
  have hdexes := Keyed.filter_eraseP (l := t.dexes) (q := fun d => s.dex d.name)
    fun d (hd : (d.name == name) = true) => beq_iff_eq.mp hd ▸ hn
  rw [within, hdexes]
  cases side <;> rfl

/-! ## A change of the share's own -/

variable {asset : AssetInfo} {location : Location}

theorem addChain_within {info : ChainInfo} (hn : s.chain info.name = true) :
    (t.within s).addChain info = (t.addChain info).map (·.within s) := by
  rw [addChain, addChain, entry?_within hn]
  cases t.entry? info.name with
  | some c => rfl
  | none =>
    have hkeep : [ChainEntry.ofInfo info].filter (fun c => s.chain c.info.name) =
        [ChainEntry.ofInfo info] := by simp [hn]
    simp only [Except.map, within, List.filter_append, hkeep]

/-- Changes of one chain that keep its name. -/
theorem edit_within {f : ChainEntry → ChainEntry} (hn : s.chain chain = true)
    (hf : ∀ c, (f c).info.name = c.info.name) :
    ((t.within s).entry chain >>= fun c => pure ((t.within s).putEntry chain (f c))) =
      (t.entry chain >>= fun c => pure (t.putEntry chain (f c))).map (·.within s) := by
  rw [entry_within hn]
  exact bind_eq_map_bind fun c hc =>
    congrArg Except.ok (within_putEntry hn (entry_eq_ok.mp hc) (hf c)).symm

theorem addAsset_within (hn : s.chain chain = true) :
    (t.within s).addAsset chain asset = (t.addAsset chain asset).map (·.within s) := by
  have hvalid : (t.within s).validateAsset chain asset = t.validateAsset chain asset := by
    rw [validateAsset, validateAsset, entry_within hn]
  rw [addAsset, addAsset, hvalid, entry_within hn]
  refine bind_eq_map_bind fun _ _ => bind_eq_map_bind fun c hc =>
    bind_eq_map_bind fun d hd => congrArg Except.ok ?_
  have hname : d.info.name = c.info.name := by rw [(ChainEntry.register_eq_ok.mp hd).2]
  exact (within_putEntry hn (entry_eq_ok.mp hc) hname).symm

theorem removeChain_within {name : ChainName} (hn : s.chain name = true) :
    (t.within s).removeChain name =
      (t.removeChain name).map fun r => (r.1.within s, r.2) := by
  rw [removeChain, removeChain, entry_within hn]
  refine bind_eq_map_bind fun c _ => congrArg Except.ok (Prod.ext ?_ rfl)
  have hchains := Keyed.filter_eraseP (l := t.chains) (q := fun c => s.chain c.info.name)
    fun c (hc : c.info.name.same name = true) => (s.spelling hc).trans hn
  simp only [within, hchains, cond_true, List.filter_filter, Bool.and_comm]

/-- What an asset drags along when it goes goes from the share as from the whole. -/
theorem within_forget :
    within { t with
      bridges := t.bridges.map (forgetOnBridge chain location)
      dexes := t.dexes.map (forgetOnDex chain location) } s =
    { t.within s with
      bridges := (t.within s).bridges.map (forgetOnBridge chain location)
      dexes := (t.within s).dexes.map (forgetOnDex chain location) } := by
  have hbridge : (fun b => s.bridge (forgetOnBridge chain location b).name) =
      fun b : Bridge => s.bridge b.name := rfl
  have hdex : (fun d => s.dex (forgetOnDex chain location d).name) =
      fun d : Dex => s.dex d.name :=
    funext fun d => congrArg s.dex (name_forgetOnDex d)
  simp only [within, List.filter_map, Function.comp_def, hbridge, hdex]

theorem removeAsset_within (hn : s.chain chain = true) :
    (t.within s).removeAsset chain location =
      (t.removeAsset chain location).map fun r => (r.1.within s, r.2) := by
  rw [removeAsset, removeAsset, entry_within hn]
  refine bind_eq_map_bind fun c hc => bind_eq_map_bind ?_
  rintro ⟨d, gone⟩ hd
  have hname : d.info.name = c.info.name := by
    rw [(ChainEntry.unregister_eq_ok.mp hd).2]
    rfl
  have hput : (t.putEntry chain d).within s = (t.within s).putEntry chain d :=
    within_putEntry hn (entry_eq_ok.mp hc) hname
  refine congrArg Except.ok (Prod.ext ?_ rfl)
  dsimp only
  rw [within_forget, hput]

theorem addBridge_within {name : BridgeName} {chain0 chain1 : ChainName}
    (hn : s.bridge name = true) (h0 : s.chain chain0 = true) (h1 : s.chain chain1 = true) :
    (t.within s).addBridge name chain0 chain1 =
      (t.addBridge name chain0 chain1).map (·.within s) := by
  rw [addBridge, addBridge, bridge?_within hn, entry_within h0, entry_within h1]
  cases t.bridge? name with
  | some b => rfl
  | none =>
    refine bind_eq_map_bind fun _ _ => bind_eq_map_bind fun _ _ => congrArg Except.ok ?_
    have hkeep : [Bridge.blank name chain0 chain1].filter (fun b => s.bridge b.name) =
        [Bridge.blank name chain0 chain1] := by simp [Bridge.blank, hn]
    simp only [within, List.filter_append, hkeep]

theorem removeBridge_within {name : BridgeName} (hn : s.bridge name = true) :
    (t.within s).removeBridge name =
      (t.removeBridge name).map fun r => (r.1.within s, r.2) := by
  rw [removeBridge, removeBridge, bridge_within hn]
  exact bind_eq_map_bind fun b _ =>
    congrArg Except.ok (Prod.ext (within_removeBridge hn).symm rfl)

theorem addBridgePair_within (h : t.Splits s) {bridge : BridgeName} {pair : AssetPair}
    (hn : s.bridge bridge = true) :
    (t.within s).addBridgePair bridge pair =
      (t.addBridgePair bridge pair).map (·.within s) := by
  have hvalid : (t.within s).validateBridgePair bridge pair = t.validateBridgePair bridge pair := by
    rw [validateBridgePair, validateBridgePair, bridge_within hn]
    refine bind_congr_ok fun b hb => ?_
    obtain ⟨hmem, rfl⟩ := bridge?_spec (bridge_eq_ok.mp hb)
    rw [ensureRegistered_within ((h.chain0 b hmem).trans hn),
      ensureRegistered_within ((h.chain1 b hmem).trans hn)]
  rw [addBridgePair, addBridgePair, hvalid, bridge_within hn]
  refine bind_eq_map_bind fun _ _ => bind_eq_map_bind fun b hb =>
    bind_eq_map_bind fun d hd => congrArg Except.ok ?_
  have hname : d.name = bridge := by
    rw [(Bridge.register_eq_ok.mp hd).2]
    exact (bridge?_spec (bridge_eq_ok.mp hb)).2
  exact (within_putBridge hn hname).symm

theorem removeBridgePair_within {bridge : BridgeName} {pair : AssetPair}
    (hn : s.bridge bridge = true) :
    (t.within s).removeBridgePair bridge pair =
      (t.removeBridgePair bridge pair).map fun r => (r.1.within s, r.2) := by
  rw [removeBridgePair, removeBridgePair, bridge_within hn]
  refine bind_eq_map_bind fun b hb => bind_eq_map_bind ?_
  rintro ⟨d, stored⟩ hd
  have hname : d.name = bridge := by
    rw [(Bridge.unregister_eq_ok.mp hd).2]
    exact (bridge?_spec (bridge_eq_ok.mp hb)).2
  exact congrArg Except.ok (Prod.ext (within_putBridge hn hname).symm rfl)

theorem addDex_within {name : DexName} {id : PoolId} (hn : s.dex name = true)
    (hc : s.chain chain = true) :
    (t.within s).addDex name id chain = (t.addDex name id chain).map (·.within s) := by
  rw [addDex, addDex, dex?_within hn, entry_within hc]
  cases t.dex? name with
  | some d => rfl
  | none =>
    refine bind_eq_map_bind fun _ _ => congrArg Except.ok ?_
    have hkeep : [Dex.blank name id chain].filter (fun d => s.dex d.name) =
        [Dex.blank name id chain] := by simp [Dex.blank, hn]
    simp only [within, List.filter_append, hkeep]

theorem removeDex_within {name : DexName} (hn : s.dex name = true) :
    (t.within s).removeDex name = (t.removeDex name).map fun r => (r.1.within s, r.2) := by
  rw [removeDex, removeDex, dex_within hn]
  exact bind_eq_map_bind fun d _ =>
    congrArg Except.ok (Prod.ext (within_removeDex hn).symm rfl)

theorem addDexPair_within (h : t.Splits s) {dex : DexName} {pair : DexPair}
    (hn : s.dex dex = true) :
    (t.within s).addDexPair dex pair = (t.addDexPair dex pair).map (·.within s) := by
  have hvalid : (t.within s).validateDexPair dex pair = t.validateDexPair dex pair := by
    rw [validateDexPair, validateDexPair, dex_within hn]
    refine bind_congr_ok fun d hd => ?_
    obtain ⟨hmem, rfl⟩ := dex?_spec (dex_eq_ok.mp hd)
    rw [ensureRegistered_within ((h.chain d hmem).trans hn),
      ensureRegistered_within ((h.chain d hmem).trans hn)]
  rw [addDexPair, addDexPair, hvalid, dex_within hn]
  refine bind_eq_map_bind fun _ _ => bind_eq_map_bind fun d hd =>
    bind_eq_map_bind fun e he => congrArg Except.ok ?_
  have hname : e.name = dex := by
    rw [(Dex.register_eq_ok.mp he).2]
    exact (dex?_spec (dex_eq_ok.mp hd)).2
  exact (within_putDex hn hname).symm

theorem removeDexPair_within {dex : DexName} {id : PoolId} (hn : s.dex dex = true) :
    (t.within s).removeDexPair dex id =
      (t.removeDexPair dex id).map fun r => (r.1.within s, r.2) := by
  rw [removeDexPair, removeDexPair, dex_within hn]
  refine bind_eq_map_bind fun d hd => bind_eq_map_bind ?_
  rintro ⟨e, removed⟩ he
  have hname : e.name = dex := by
    rw [(Dex.unregister_eq_ok.mp he).2]
    exact (dex?_spec (dex_eq_ok.mp hd)).2
  exact congrArg Except.ok (Prod.ext (within_putDex hn hname).symm rfl)

theorem adding_map {r : Except TopologyError Topology} :
    adding (r.map (·.within s)) = (adding r).map fun r => (r.1.within s, r.2) := by
  cases r <;> rfl

theorem removing_map {α : Type} {kind : α → Removed} {r : Except TopologyError (Topology × α)} :
    removing kind (r.map fun r => (r.1.within s, r.2)) =
      (removing kind r).map fun r => (r.1.within s, r.2) := by
  cases r <;> rfl

/-- A change that names only what is in the share does to the share what it does to the
whole. -/
theorem change_within {change : TopologyChange} (h : t.Splits s) (hs : s.Sides true change) :
    (t.within s).change change = (t.change change).map fun r => (r.1.within s, r.2) := by
  obtain ⟨hchains, hbridges, hdexes⟩ := hs
  cases change <;>
    simp only [TopologyChange.chains, TopologyChange.bridges, TopologyChange.dexes,
      List.forall_mem_cons, List.not_mem_nil, false_imp_iff, implies_true, and_true]
      at hchains hbridges hdexes
  case addChain => exact (congrArg adding (addChain_within hchains)).trans adding_map
  case removeChain => exact (congrArg (removing _) (removeChain_within hchains)).trans removing_map
  case setNative =>
    exact (congrArg adding (edit_within hchains fun _ => ChainEntry.name_setNative)).trans
      adding_map
  case setStable =>
    exact (congrArg adding (edit_within hchains fun _ => ChainEntry.name_setStable)).trans
      adding_map
  case setEndpoint chain endpoint =>
    have hedit := edit_within (t := t) (f := fun c => c.setEndpoint endpoint) hchains fun _ => rfl
    exact (congrArg adding hedit).trans adding_map
  case addAsset => exact (congrArg adding (addAsset_within hchains)).trans adding_map
  case removeAsset => exact (congrArg (removing _) (removeAsset_within hchains)).trans removing_map
  case addBridge =>
    exact (congrArg adding (addBridge_within hbridges hchains.1 hchains.2)).trans adding_map
  case removeBridge =>
    exact (congrArg (removing _) (removeBridge_within hbridges)).trans removing_map
  case addBridgePair => exact (congrArg adding (addBridgePair_within h hbridges)).trans adding_map
  case removeBridgePair =>
    exact (congrArg (removing _) (removeBridgePair_within hbridges)).trans removing_map
  case addDex => exact (congrArg adding (addDex_within hdexes hchains)).trans adding_map
  case removeDex => exact (congrArg (removing _) (removeDex_within hdexes)).trans removing_map
  case addDexPair => exact (congrArg adding (addDexPair_within h hdexes)).trans adding_map
  case removeDexPair =>
    exact (congrArg (removing _) (removeDexPair_within hdexes)).trans removing_map

/-! ## A change of the other side -/

/-- A chain of the other side takes no bridge or dex of the share along. -/
theorem Splits.within_removeChain {name : ChainName} (h : t.Splits s)
    (hn : s.chain name = false) :
    within { chains := t.chains.eraseP fun c => c.info.name.same name
             bridges := t.bridges.filter fun b => !b.chain0.same name && !b.chain1.same name
             dexes := t.dexes.filter fun d => !d.chain.same name } s = t.within s := by
  have hchains := Keyed.filter_eraseP (l := t.chains) (q := fun c => s.chain c.info.name)
    fun c (hc : c.info.name.same name = true) => (s.spelling hc).trans hn
  have hbridges : ∀ b ∈ t.bridges,
      (s.bridge b.name && (!b.chain0.same name && !b.chain1.same name)) = s.bridge b.name := by
    intro b hb
    cases hs : s.bridge b.name with
    | false => rfl
    | true =>
      obtain ⟨h0, h1⟩ := h.bridge_apart hb hs hn
      simp [h0, h1]
  have hdexes : ∀ d ∈ t.dexes, (s.dex d.name && !d.chain.same name) = s.dex d.name := by
    intro d hd
    cases hs : s.dex d.name with
    | false => rfl
    | true => simp [h.dex_apart hd hs hn]
  simp only [within, hchains, List.filter_filter, List.filter_congr hbridges,
    List.filter_congr hdexes, cond_false]

/-- An asset of a chain of the other side takes no pair of the share along. -/
theorem Splits.within_cascade (h : t.Splits s) (hn : s.chain chain = false) :
    within { t with
      bridges := t.bridges.map (forgetOnBridge chain location)
      dexes := t.dexes.map (forgetOnDex chain location) } s = t.within s := by
  have hbridges : ∀ b ∈ (t.within s).bridges, forgetOnBridge chain location b = b := by
    intro b hb
    obtain ⟨hb, hs⟩ := List.mem_filter.mp hb
    obtain ⟨h0, h1⟩ := h.bridge_apart hb hs hn
    exact forgetOnBridge_eq_self h0 h1
  have hdexes : ∀ d ∈ (t.within s).dexes, forgetOnDex chain location d = d := by
    intro d hd
    obtain ⟨hd, hs⟩ := List.mem_filter.mp hd
    exact forgetOnDex_eq_self (h.dex_apart hd hs hn)
  rw [within_forget, List.map_congr_left hbridges, List.map_congr_left hdexes, List.map_id',
    List.map_id']

/-- A change that names nothing of the share leaves it as it was. -/
theorem within_of_change {change : TopologyChange} {removed : Removed} (h : t.Splits s)
    (hs : s.Sides false change) (hch : t.change change = .ok (t', removed)) :
    t'.within s = t.within s := by
  obtain ⟨hchains, hbridges, hdexes⟩ := hs
  cases made_of_change hch <;>
    simp only [TopologyChange.chains, TopologyChange.bridges, TopologyChange.dexes,
      List.forall_mem_cons, List.not_mem_nil, false_imp_iff, implies_true, and_true]
      at hchains hbridges hdexes
  case addChain info _ => simp [within, hchains]
  case removeChain name c _ => exact h.within_removeChain hchains
  case setNative chain asset c hc => exact within_putEntry hchains hc ChainEntry.name_setNative
  case setStable chain asset c hc => exact within_putEntry hchains hc ChainEntry.name_setStable
  case setEndpoint chain endpoint c hc => exact within_putEntry hchains hc rfl
  case addAsset chain asset c hc _ => exact within_putEntry hchains hc rfl
  case removeAsset chain location c removed hc _ =>
    have hput : (t.putEntry chain (c.forget location)).within s = t.within s :=
      within_putEntry hchains hc rfl
    have hsplits : (t.putEntry chain (c.forget location)).Splits s :=
      ⟨h.chain0, h.chain1, h.chain⟩
    exact (hsplits.within_cascade hchains).trans hput
  case addBridge name chain0 chain1 _ _ _ => simp [within, Bridge.blank, hbridges]
  case removeBridge name b _ => exact within_removeBridge hbridges
  case addBridgePair bridge pair b hb _ _ _ => exact within_putBridge hbridges (bridge?_spec hb).2
  case removeBridgePair bridge pair b removed hb _ =>
    exact within_putBridge hbridges (bridge?_spec hb).2
  case addDex name id chain _ _ => simp [within, Dex.blank, hdexes]
  case removeDex name d _ => exact within_removeDex hdexes
  case addDexPair dex pair d hd _ _ _ => exact within_putDex hdexes (dex?_spec hd).2
  case removeDexPair dex id d removed hd _ => exact within_putDex hdexes (dex?_spec hd).2

/-! ## The topology stays split -/

namespace Splits

/-- Nothing is split that was not there before, with its name and its chains. -/
theorem of_earlier (h : t.Splits s)
    (hbridges : ∀ b ∈ t'.bridges, ∃ c ∈ t.bridges,
      c.name = b.name ∧ c.chain0 = b.chain0 ∧ c.chain1 = b.chain1)
    (hdexes : ∀ d ∈ t'.dexes, ∃ e ∈ t.dexes, e.name = d.name ∧ e.chain = d.chain) :
    t'.Splits s where
  chain0 b hb := by
    obtain ⟨c, hc, hname, h0, -⟩ := hbridges b hb
    rw [← hname, ← h0, h.chain0 c hc]
  chain1 b hb := by
    obtain ⟨c, hc, hname, -, h1⟩ := hbridges b hb
    rw [← hname, ← h1, h.chain1 c hc]
  chain d hd := by
    obtain ⟨e, he, hname, hchain⟩ := hdexes d hd
    rw [← hname, ← hchain, h.chain e he]

theorem putBridge {name : BridgeName} {b b' : Bridge} (h : t.Splits s)
    (hb : t.bridge? name = some b) (hname : b'.name = b.name) (h0 : b'.chain0 = b.chain0)
    (h1 : b'.chain1 = b.chain1) : (t.putBridge name b').Splits s := by
  apply h.of_earlier
  · intro c hc
    rcases Keyed.mem_of_mem_update hc with hc | ⟨-, -, rfl⟩
    · exact ⟨c, hc, rfl, rfl, rfl⟩
    · exact ⟨b, (bridge?_spec hb).1, hname.symm, h0.symm, h1.symm⟩
  · exact fun d hd => ⟨d, hd, rfl, rfl⟩

theorem putDex {name : DexName} {d d' : Dex} (h : t.Splits s) (hd : t.dex? name = some d)
    (hname : d'.name = d.name) (hchain : d'.chain = d.chain) : (t.putDex name d').Splits s := by
  apply h.of_earlier
  · exact fun b hb => ⟨b, hb, rfl, rfl, rfl⟩
  · intro e he
    rcases Keyed.mem_of_mem_update he with he | ⟨-, -, rfl⟩
    · exact ⟨e, he, rfl, rfl⟩
    · exact ⟨d, (dex?_spec hd).1, hname.symm, hchain.symm⟩

/-- A change that is on one side leaves the topology split. -/
theorem change {change : TopologyChange} {removed : Removed} (h : t.Splits s)
    (hs : s.Sides side change) (hch : t.change change = .ok (t', removed)) : t'.Splits s := by
  obtain ⟨hchains, hbridges, hdexes⟩ := hs
  cases made_of_change hch <;>
    simp only [TopologyChange.chains, TopologyChange.bridges, TopologyChange.dexes,
      List.forall_mem_cons, List.not_mem_nil, false_imp_iff, implies_true, and_true]
      at hchains hbridges hdexes
  case addChain info _ => exact ⟨h.chain0, h.chain1, h.chain⟩
  case removeChain name c _ =>
    exact h.of_earlier (fun b hb => ⟨b, List.mem_of_mem_filter hb, rfl, rfl, rfl⟩)
      fun d hd => ⟨d, List.mem_of_mem_filter hd, rfl, rfl⟩
  case setNative chain asset c _ => exact ⟨h.chain0, h.chain1, h.chain⟩
  case setStable chain asset c _ => exact ⟨h.chain0, h.chain1, h.chain⟩
  case setEndpoint chain endpoint c _ => exact ⟨h.chain0, h.chain1, h.chain⟩
  case addAsset chain asset c _ _ => exact ⟨h.chain0, h.chain1, h.chain⟩
  case removeAsset chain location c removed _ _ =>
    apply h.of_earlier
    · intro _ hmem
      obtain ⟨b, hb, rfl⟩ := List.mem_map.mp hmem
      exact ⟨b, hb, rfl, rfl, rfl⟩
    · intro _ hmem
      obtain ⟨d, hd, rfl⟩ := List.mem_map.mp hmem
      exact ⟨d, hd, (name_forgetOnDex d).symm, (chain_forgetOnDex d).symm⟩
  case addBridge name chain0 chain1 _ _ _ =>
    have hnew : ∀ b ∈ t.bridges ++ [Bridge.blank name chain0 chain1],
        s.chain b.chain0 = s.bridge b.name ∧ s.chain b.chain1 = s.bridge b.name := by
      intro b hb
      rcases List.mem_append.mp hb with hb | hb
      · exact ⟨h.chain0 b hb, h.chain1 b hb⟩
      · obtain rfl := List.mem_singleton.mp hb
        exact ⟨hchains.1.trans hbridges.symm, hchains.2.trans hbridges.symm⟩
    exact ⟨fun b hb => (hnew b hb).1, fun b hb => (hnew b hb).2, h.chain⟩
  case removeBridge name b _ =>
    exact h.of_earlier (fun b hb => ⟨b, List.mem_of_mem_eraseP hb, rfl, rfl, rfl⟩)
      fun d hd => ⟨d, hd, rfl, rfl⟩
  case addBridgePair bridge pair b hb _ _ _ => exact h.putBridge hb rfl rfl rfl
  case removeBridgePair bridge pair b removed hb _ => exact h.putBridge hb rfl rfl rfl
  case addDex name id chain _ _ =>
    refine ⟨h.chain0, h.chain1, ?_⟩
    intro d hd
    rcases List.mem_append.mp hd with hd | hd
    · exact h.chain d hd
    · obtain rfl := List.mem_singleton.mp hd
      exact hchains.trans hdexes.symm
  case removeDex name d _ =>
    exact h.of_earlier (fun b hb => ⟨b, hb, rfl, rfl, rfl⟩)
      fun d hd => ⟨d, List.mem_of_mem_eraseP hd, rfl, rfl⟩
  case addDexPair dex pair d hd _ _ _ => exact h.putDex hd rfl rfl
  case removeDexPair dex id d removed hd _ => exact h.putDex hd rfl rfl

end Splits

/-! ## The graph of a share -/

/-- The graph of a share is that of the whole, restricted to the chains of the share. -/
theorem Splits.graph_within (h : t.Splits s) :
    (t.within s).graph = t.graph.restrict s.chain := by
  have hassets : ∀ c ∈ t.chains, ∀ a ∈ assetNodes c, s.chain a.chain = s.chain c.info.name := by
    rintro c - _ ha
    obtain ⟨a, -, rfl⟩ := List.mem_map.mp ha
    rfl
  have hpools : ∀ d ∈ t.dexes, ∀ p ∈ poolEdges d, s.chain p.chain = s.dex d.name := by
    intro d hd _ hp
    obtain ⟨p, -, rfl⟩ := List.mem_map.mp hp
    exact h.chain d hd
  have hbridges : ∀ b ∈ t.bridges,
      s.bridge b.name = (s.chain b.chain0 && s.chain b.chain1) := by
    intro b hb
    rw [h.chain0 b hb, h.chain1 b hb, Bool.and_self]
  simp only [graph, Graph.restrict, within, Keyed.filter_flatMap_uniform hassets,
    Keyed.filter_flatMap_uniform hpools, List.filter_map, List.filter_congr hbridges]
  rfl

end Topology

end Interchain
