import Interchain.Proofs.Bridge.Identity
import Interchain.Proofs.Topology.Removal

/-!
# Registrations are undone by removals

What has just been registered is last in its list, and nothing refers to it yet: in a
well-formed topology whatever refers to something was registered after it.  So the removal of
it finds it, takes nothing else along and leaves the topology as it was before.
-/

namespace Interchain

namespace Topology

variable {t t' : Topology} {chain n : ChainName} {location : Location} {asset : AssetInfo}
  {c : ChainEntry}

/-- The removal of what a registration adds, with the record that it gives back.  A chain may
be spelled in another case, and the pair of a bridge may be given the other way round. -/
inductive Undoes : TopologyChange → TopologyChange → Removed → Prop
  | chain {info : ChainInfo} {name : ChainName} (spelled : name.same info.name = true) :
    Undoes (.addChain info) (.removeChain name) (.chain info)
  | asset {chain chain' : ChainName} {asset : AssetInfo} (spelled : chain'.same chain = true) :
    Undoes (.addAsset chain asset) (.removeAsset chain' asset.location) (.asset asset)
  | bridge {name : BridgeName} {chain0 chain1 : ChainName} :
    Undoes (.addBridge name chain0 chain1) (.removeBridge name)
      (.bridge (.blank name chain0 chain1))
  | bridgePair {bridge : BridgeName} {pair given : AssetPair}
      (turned : given = pair ∨ given = pair.swap) :
    Undoes (.addBridgePair bridge pair) (.removeBridgePair bridge given) (.bridgePair pair)
  | dex {name : DexName} {id : PoolId} {chain : ChainName} :
    Undoes (.addDex name id chain) (.removeDex name) (.dex (.blank name id chain))
  | dexPair {dex : DexName} {pair : DexPair} :
    Undoes (.addDexPair dex pair) (.removeDexPair dex pair.id) (.dexPair pair)

/-! ## Nothing refers to what is not registered -/

theorem Knows.apart {name : ChainName} (h : t.Knows n) (hnone : t.entry? name = none) :
    n.same name = false := by
  rw [Bool.eq_false_iff]
  intro hsame
  obtain ⟨c, hc⟩ := h
  rw [entry?_congr hsame, hnone] at hc
  cases hc

theorem Registered.apart {l : Location} (h : t.Registered n l)
    (hfree : ¬ t.Registered chain location) : ¬ (n.same chain = true ∧ l = location) := by
  rintro ⟨hsame, rfl⟩
  obtain ⟨c, hc, hl⟩ := h
  exact hfree ⟨c, entry?_congr hsame ▸ hc, hl⟩

theorem SoundBridge.forget_eq_self {b : Bridge} (h : t.SoundBridge b)
    (hfree : ¬ t.Registered chain location) : forgetOnBridge chain location b = b := by
  have hkeep : (b.assets.filter fun p => ¬ b.Refers chain location p) = b.assets := by
    rw [List.filter_eq_self]
    intro p hp
    rw [decide_eq_true_eq]
    rintro (h0 | h1)
    · exact (h.asset0 p hp).apart hfree h0
    · exact (h.asset1 p hp).apart hfree h1
  rw [forgetOnBridge_eq, hkeep]

theorem SoundDex.forget_eq_self {d : Dex} (h : t.SoundDex d)
    (hfree : ¬ t.Registered chain location) : forgetOnDex chain location d = d := by
  have hkeep : (d.pairs.filter fun p => ¬ d.Refers chain location p) = d.pairs := by
    rw [List.filter_eq_self]
    intro p hp
    rw [decide_eq_true_eq]
    rintro ⟨hd, h0 | h1⟩
    · exact (h.asset0 p hp).apart hfree ⟨hd, h0⟩
    · exact (h.asset1 p hp).apart hfree ⟨hd, h1⟩
  rw [forgetOnDex_eq, hkeep]

/-! ## What was put in place gives way again -/

theorem putEntry_back {d : ChainEntry} {chain' : ChainName} (hc : t.entry? chain = some c)
    (hname : d.info.name = c.info.name) (spelled : chain'.same chain = true) :
    (t.putEntry chain d).putEntry chain' c = t := by
  have hsame : (fun e : ChainEntry => e.info.name.same chain') =
      fun e => e.info.name.same chain :=
    funext fun e => ChainName.same_congr spelled _
  have hd : d.info.name.same chain = true := hname ▸ (entry?_spec hc).2
  unfold putEntry
  rw [hsame, Keyed.update_back hc hd]

theorem putBridge_back {name : BridgeName} {b d : Bridge} (hb : t.bridge? name = some b)
    (hd : d.name = b.name) : (t.putBridge name d).putBridge name b = t := by
  have hname : (d.name == name) = true := beq_iff_eq.mpr (hd.trans (bridge?_spec hb).2)
  unfold putBridge
  rw [Keyed.update_back hb hname]

theorem putDex_back {name : DexName} {d e : Dex} (hd : t.dex? name = some d)
    (he : e.name = d.name) : (t.putDex name e).putDex name d = t := by
  have hname : (e.name == name) = true := beq_iff_eq.mpr (he.trans (dex?_spec hd).2)
  unfold putDex
  rw [Keyed.update_back hd hname]

theorem bridge?_putBridge {name : BridgeName} {b d : Bridge} (hb : t.bridge? name = some b)
    (hd : d.name = b.name) : bridge? (t.putBridge name d) name = some d := by
  have hname : (d.name == name) = true := beq_iff_eq.mpr (hd.trans (bridge?_spec hb).2)
  have hfind : bridge? (t.putBridge name d) name = (t.bridge? name).map fun _ => d :=
    Keyed.find?_update_self fun _ _ => hname
  rw [hfind, hb, Option.map_some]

theorem dex?_putDex {name : DexName} {d e : Dex} (hd : t.dex? name = some d)
    (he : e.name = d.name) : dex? (t.putDex name e) name = some e := by
  have hname : (e.name == name) = true := beq_iff_eq.mpr (he.trans (dex?_spec hd).2)
  have hfind : dex? (t.putDex name e) name = (t.dex? name).map fun _ => e :=
    Keyed.find?_update_self fun _ _ => hname
  rw [hfind, hd, Option.map_some]

/-! ## Each registration undone -/

theorem removeChain_added {info : ChainInfo} {name : ChainName} (h : t.WellFormed)
    (fresh : t.entry? info.name = none) (spelled : name.same info.name = true) :
    removeChain { t with chains := t.chains ++ [ChainEntry.ofInfo info] } name =
      .ok (t, info) := by
  have hnone : t.entry? name = none := (entry?_congr spelled).trans fresh
  have hself : (ChainEntry.ofInfo info).info.name.same name = true := by
    rw [ChainEntry.info_ofInfo, ChainName.same_comm, spelled]
  have hbridges :
      (t.bridges.filter fun b => !b.chain0.same name && !b.chain1.same name) = t.bridges := by
    rw [List.filter_eq_self]
    intro b hb
    simp [(h.bridges b hb).chain0.apart hnone, (h.bridges b hb).chain1.apart hnone]
  have hdexes : (t.dexes.filter fun d => !d.chain.same name) = t.dexes := by
    rw [List.filter_eq_self]
    intro d hd
    simp [(h.dexes d hd).chain.apart hnone]
  refine removeChain_eq_ok.mpr
    ⟨_, Keyed.find?_concat hnone hself, ChainEntry.info_ofInfo info, ?_⟩
  rw [Keyed.eraseP_concat hnone hself, hbridges, hdexes]

theorem removeAsset_added {chain' : ChainName} (h : t.WellFormed) (hc : t.entry? chain = some c)
    (fresh : c.contains asset.location = false) (spelled : chain'.same chain = true) :
    (t.putEntry chain { c with assets := c.assets ++ [asset] }).removeAsset chain'
      asset.location = .ok (t, asset) := by
  have hname : ({ c with assets := c.assets ++ [asset] } : ChainEntry).info.name = c.info.name :=
    rfl
  have hnone : (c.assets.find? fun a => a.location == asset.location) = none := by
    rw [List.find?_eq_none]
    exact fun a ha => by simpa using List.any_eq_false.mp fresh a ha
  have hself : (asset.location == asset.location) = true := beq_self_eq_true _
  have hfound : entry? (t.putEntry chain { c with assets := c.assets ++ [asset] }) chain' =
      some { c with assets := c.assets ++ [asset] } := by
    rw [entry?_putEntry hc _ hname, if_pos spelled]
  have hforget : ChainEntry.forget { c with assets := c.assets ++ [asset] } asset.location = c := by
    rw [ChainEntry.forget, Keyed.eraseP_concat hnone hself]
  have hfree : ¬ t.Registered chain' asset.location := by
    rintro ⟨d, hd, hl⟩
    rw [entry?_congr spelled, hc] at hd
    cases hd
    exact Bool.false_ne_true (fresh.symm.trans hl)
  have hbridges : t.bridges.map (forgetOnBridge chain' asset.location) = t.bridges :=
    (List.map_congr_left fun b hb => (h.bridges b hb).forget_eq_self hfree).trans (List.map_id' _)
  have hdexes : t.dexes.map (forgetOnDex chain' asset.location) = t.dexes :=
    (List.map_congr_left fun d hd => (h.dexes d hd).forget_eq_self hfree).trans (List.map_id' _)
  refine removeAsset_eq_ok.mpr ⟨_, hfound, Keyed.find?_concat hnone hself, ?_⟩
  rw [hforget, putEntry_back hc hname spelled]
  exact congrArg₂ (fun bs ds => Topology.mk t.chains bs ds) hbridges.symm hdexes.symm

theorem removeBridge_added {name : BridgeName} {chain0 chain1 : ChainName}
    (fresh : t.bridge? name = none) :
    removeBridge { t with bridges := t.bridges ++ [Bridge.blank name chain0 chain1] } name =
      .ok (t, Bridge.blank name chain0 chain1) := by
  have hself : ((Bridge.blank name chain0 chain1).name == name) = true := beq_self_eq_true _
  refine removeBridge_eq_ok.mpr ⟨Keyed.find?_concat fresh hself, ?_⟩
  rw [Keyed.eraseP_concat fresh hself]

theorem removeBridgePair_added {bridge : BridgeName} {b : Bridge} {pair given : AssetPair}
    (hb : t.bridge? bridge = some b) (fresh : (b.assets.any fun p => p.id == pair.id) = false)
    (hid : given.id = pair.id) :
    (t.putBridge bridge { b with assets := b.assets ++ [pair] }).removeBridgePair bridge given =
      .ok (t, pair) := by
  have hnone : (b.assets.find? fun p => p.id == given.id) = none := by
    rw [List.find?_eq_none, hid]
    exact fun p hp => List.any_eq_false.mp fresh p hp
  have hself : (pair.id == given.id) = true := beq_iff_eq.mpr hid.symm
  have hname : ({ b with assets := b.assets ++ [pair] } : Bridge).name = b.name := rfl
  refine removeBridgePair_eq_ok.mpr
    ⟨_, bridge?_putBridge hb hname, Keyed.find?_concat hnone hself, ?_⟩
  rw [Keyed.eraseP_concat hnone hself]
  exact (putBridge_back hb hname).symm

theorem removeDex_added {name : DexName} {id : PoolId} (fresh : t.dex? name = none) :
    removeDex { t with dexes := t.dexes ++ [Dex.blank name id chain] } name =
      .ok (t, Dex.blank name id chain) := by
  have hself : ((Dex.blank name id chain).name == name) = true := beq_self_eq_true _
  refine removeDex_eq_ok.mpr ⟨Keyed.find?_concat fresh hself, ?_⟩
  rw [Keyed.eraseP_concat fresh hself]

theorem removeDexPair_added {dex : DexName} {d : Dex} {pair : DexPair}
    (hd : t.dex? dex = some d) (fresh : (d.pairs.any fun p => p.id == pair.id) = false) :
    (t.putDex dex { d with pairs := d.pairs ++ [pair] }).removeDexPair dex pair.id =
      .ok (t, pair) := by
  have hnone : (d.pairs.find? fun p => p.id == pair.id) = none := by
    rw [List.find?_eq_none]
    exact fun p hp => List.any_eq_false.mp fresh p hp
  have hself : (pair.id == pair.id) = true := beq_self_eq_true _
  have hname : ({ d with pairs := d.pairs ++ [pair] } : Dex).name = d.name := rfl
  refine removeDexPair_eq_ok.mpr
    ⟨_, dex?_putDex hd hname, Keyed.find?_concat hnone hself, ?_⟩
  rw [Keyed.eraseP_concat hnone hself]
  exact (putDex_back hd hname).symm

/-! ## All registrations -/

theorem WellFormed.undone {add removal : TopologyChange} {added removed : Removed}
    (h : t.WellFormed) (hadd : t.change add = .ok (t', added))
    (undoes : Undoes add removal removed) : t'.change removal = .ok (t, removed) := by
  cases undoes with
  | chain spelled =>
    cases made_of_change hadd with
    | addChain _ fresh => exact congrArg (removing .chain) (removeChain_added h fresh spelled)
  | asset spelled =>
    cases made_of_change hadd with
    | addAsset _ _ c found fresh =>
      exact congrArg (removing .asset) (removeAsset_added h found fresh spelled)
  | bridge =>
    cases made_of_change hadd with
    | addBridge _ _ _ fresh => exact congrArg (removing .bridge) (removeBridge_added fresh)
  | bridgePair turned =>
    cases made_of_change hadd with
    | addBridgePair _ _ b found _ _ fresh =>
      have hid := AssetPair.id_of_turned turned
      exact congrArg (removing .bridgePair) (removeBridgePair_added found fresh hid)
  | dex =>
    cases made_of_change hadd with
    | addDex _ _ _ fresh => exact congrArg (removing .dex) (removeDex_added fresh)
  | dexPair =>
    cases made_of_change hadd with
    | addDexPair _ _ d found _ _ fresh =>
      exact congrArg (removing .dexPair) (removeDexPair_added found fresh)

/-- In every topology that changes lead to from the empty one, a registration that takes place
is undone by its removal, which gives back the record that was added. -/
theorem registration_undone (changes : List TopologyChange) {add removal : TopologyChange}
    {added removed : Removed} (undoes : Undoes add removal removed)
    (hadd : (empty.afterAll changes).change add = .ok (t', added)) :
    t'.change removal = .ok (empty.afterAll changes, removed) :=
  (wellFormed_empty.run changes).undone hadd undoes

/-- The location of an asset on one side of a bridge is taken by an asset on the other side as
well.  The pair on the bridge stays when that one is removed again. -/
theorem registration_undone_mirrored :
    let khala : ChainInfo := .plain ⟨"Khala"⟩ .sub "wss://khala"
    let ethereum : ChainInfo := .plain ⟨"Ethereum"⟩ .evm "https://ethereum"
    let pha (l : UInt8) : AssetInfo := ⟨"Phala", "PHA", 12, ⟨[l]⟩⟩
    let t := empty.afterAll [.addChain khala, .addChain ethereum,
      .addAsset khala.name (pha 1), .addAsset ethereum.name (pha 2),
      .addBridge ⟨"ChainBridge"⟩ khala.name ethereum.name,
      .addBridgePair ⟨"ChainBridge"⟩ ⟨pha 1, pha 2⟩]
    ∃ t', t.change (.addAsset ethereum.name (pha 1)) = .ok (t', .nothing) ∧
      t'.change (.removeAsset ⟨"ETHEREUM"⟩ ⟨[1]⟩) = .ok (t, .asset (pha 1)) := by
  intro khala ethereum pha t
  have hplace : (t.change (.addAsset ethereum.name (pha 1))).map Prod.snd = .ok .nothing := by
    decide +kernel
  obtain ⟨⟨t', _⟩, hadd, rfl⟩ := Attempt.map_eq_ok.mp hplace
  have undoes : Undoes (.addAsset ethereum.name (pha 1)) (.removeAsset ⟨"ETHEREUM"⟩ ⟨[1]⟩)
      (.asset (pha 1)) := .asset (by decide)
  exact ⟨t', hadd, registration_undone _ undoes hadd⟩

end Topology

end Interchain
