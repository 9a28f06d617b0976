import Interchain.Proofs.Topology.WellFormed
import Interchain.Registry.Manifest
import Mathlib.Data.List.Induction

/-!
# The stages of a batch

The registrations of a manifest are made in four stages, and a registration of any of them
only adds to what its stage has registered before.  So a stage takes place exactly if each of
its entries fits what the earlier stages left and no two of its own entries clash, and it
leaves all its entries in their order.
-/

namespace Interchain

open Attempt

/-! ## Steps that append -/

namespace Attempt

variable {ε σ α : Type}

/-- Steps that add one element each to a state.  An element is refused if it does not fit or
clashes with one before it. -/
theorem foldlM_eq_ok {apart : α → α → Prop} {fits : α → Prop} (step : σ → α → Except ε σ)
    (state : List α → σ)
    (h : ∀ done a s, step (state done) a = .ok s ↔
      (∀ d ∈ done, apart d a) ∧ fits a ∧ s = state (done ++ [a])) (as : List α) {s : σ} :
    as.foldlM step (state []) = .ok s ↔
      as.Pairwise apart ∧ (∀ a ∈ as, fits a) ∧ s = state as := by
  -- From the end, since the last element is checked against the state that the others leave.
  induction as using List.reverseRecOn generalizing s with
  | nil =>
    rw [List.foldlM_nil, pure_eq_ok, eq_comm]
    simp
  | append_singleton as a ih =>
    rw [List.foldlM_append, bind_eq_ok]
    simp only [ih, List.foldlM_cons, List.foldlM_nil, bind_pure, List.pairwise_append,
      List.mem_append, List.mem_singleton]
    constructor
    · rintro ⟨_, ⟨hapart, hfits, rfl⟩, hstep⟩
      obtain ⟨hnew, ha, rfl⟩ := (h as a s).mp hstep
      refine ⟨⟨hapart, List.pairwise_singleton _ _, ?_⟩, ?_, rfl⟩
      · rintro d hd _ rfl
        exact hnew d hd
      · rintro b (hb | rfl)
        · exact hfits b hb
        · exact ha
    · rintro ⟨⟨hapart, -, hnew⟩, hfits, rfl⟩
      refine ⟨_, ⟨hapart, fun b hb => hfits b (.inl hb), rfl⟩, (h as a _).mpr ?_⟩
      exact ⟨fun d hd => hnew d hd a rfl, hfits a (.inr rfl), rfl⟩

theorem foldlM_flatMap {β : Type} (step : σ → β → Except ε σ) (f : α → List β) (as : List α)
    (s : σ) :
    (as.flatMap f).foldlM step s = as.foldlM (fun s a => (f a).foldlM step s) s := by
  induction as generalizing s with
  | nil => rfl
  | cons a as ih =>
    rw [List.flatMap_cons, List.foldlM_append, List.foldlM_cons]
    exact congrArg _ (funext ih)

end Attempt

namespace Registry

variable {t t' : Topology}

/-- A registration takes place when the change that it makes does. -/
theorem register_eq_ok {r : Registration} {x : Except TopologyError Topology}
    (h : t.change r.change = Topology.adding x) : register t r = .ok t' ↔ x = .ok t' := by
  unfold register
  rw [h]
  cases x <;> simp [Topology.adding, Except.map]

end Registry

/-! ## Chains -/

namespace ChainInfo

variable {infos : List ChainInfo} {c : ChainInfo} {n : ChainName}

/-- No two chains have one name, not even in another case. -/
def Distinct (infos : List ChainInfo) : Prop :=
  infos.Pairwise fun c d => c.name.same d.name = false

/-- A chain of a name is the only one. -/
theorem Distinct.eq_of_same {d : ChainInfo} (h : Distinct infos) (hc : c ∈ infos) (hd : d ∈ infos)
    (hs : c.name.same d.name = true) : c = d := by
  induction infos with
  | nil => cases hc
  | cons i infos ih =>
    obtain ⟨hfirst, hrest⟩ := List.pairwise_cons.mp h
    rcases List.mem_cons.mp hc with rfl | hc' <;> rcases List.mem_cons.mp hd with rfl | hd'
    · rfl
    · rw [hfirst d hd'] at hs
      cases hs
    · rw [ChainName.same_comm, hfirst c hc'] at hs
      cases hs
    · exact ih hrest hc' hd'

/-- A name finds the chain that it names. -/
theorem Distinct.find?_eq_some (h : Distinct infos) :
    infos.find? (fun i => i.name.same n) = some c ↔ c ∈ infos ∧ c.name.same n = true := by
  have hfound : ∀ d, infos.find? (fun i => i.name.same n) = some d →
      d ∈ infos ∧ d.name.same n = true := fun d hd =>
    ⟨List.mem_of_find?_eq_some hd,
      List.find?_some (p := fun i : ChainInfo => i.name.same n) hd⟩
  refine ⟨hfound c, ?_⟩
  rintro ⟨hc, hn⟩
  cases hd : infos.find? fun i => i.name.same n with
  | none => simpa [hn] using List.find?_eq_none.mp hd c hc
  | some d =>
    obtain ⟨hmem, hdn⟩ := hfound d hd
    rw [h.eq_of_same hmem hc ((ChainName.same_congr hn d.name).trans hdn)]

end ChainInfo

namespace Registry

variable {t : Topology} {infos : List ChainInfo}

/-- Chains are registered if their names are distinct. -/
theorem chains_stage :
    infos.foldlM (fun t info => register t (.registerChain info)) .empty = .ok t ↔
      ChainInfo.Distinct infos ∧ t = ⟨infos.map .ofInfo, [], []⟩ := by
  let state := fun done : List ChainInfo => (⟨done.map .ofInfo, [], []⟩ : Topology)
  have hstep : ∀ done info s, register (state done) (.registerChain info) = .ok s ↔
      (∀ d ∈ done, d.name.same info.name = false) ∧ True ∧ s = state (done ++ [info]) := by
    intro done info s
    rw [register_eq_ok rfl, Topology.addChain_eq_ok]
    simp [state, Topology.entry?]
  have hfold := foldlM_eq_ok (fun t info => register t (.registerChain info)) state hstep infos
    (s := t)
  simp only [implies_true, true_and] at hfold
  exact hfold

end Registry

/-! ## Assets -/

namespace ChainEntry

variable {as : List ChainAsset} {a : ChainAsset} {info : ChainInfo} {l : Location}

/-- A chain as it stands after its registration and that of assets. -/
def stocked (as : List ChainAsset) (info : ChainInfo) : ChainEntry :=
  ⟨info, (ofInfo info).assets ++ (as.filter fun a => info.name.same a.chain).map ChainAsset.asset⟩

theorem stocked_nil (info : ChainInfo) : stocked [] info = ofInfo info := by
  have h : info = (ofInfo info).info := (info_ofInfo info).symm
  rw [stocked, List.filter_nil, List.map_nil, List.append_nil]
  congr 1

theorem stocked_concat (as : List ChainAsset) (a : ChainAsset) (info : ChainInfo) :
    stocked (as ++ [a]) info =
      if info.name.same a.chain then
        { stocked as info with assets := (stocked as info).assets ++ [a.asset] }
      else stocked as info := by
  cases h : info.name.same a.chain <;> simp [stocked, h]

theorem contains_stocked : (stocked as info).contains l = true ↔
    (ofInfo info).contains l = true ∨
      ∃ a ∈ as, info.name.same a.chain = true ∧ a.asset.location = l := by
  simp only [contains_iff, stocked, List.mem_append, List.mem_map, List.mem_filter]
  constructor
  · rintro ⟨_, hb | ⟨a, ⟨ha, hs⟩, rfl⟩, rfl⟩
    · exact .inl ⟨_, hb, rfl⟩
    · exact .inr ⟨a, ha, hs, rfl⟩
  · rintro (⟨b, hb, rfl⟩ | ⟨a, ha, hs, rfl⟩)
    · exact ⟨b, .inl hb, rfl⟩
    · exact ⟨_, .inr ⟨a, ⟨ha, hs⟩, rfl⟩, rfl⟩

/-- A location is free if the chain does not have it by itself and no asset was registered
there. -/
theorem contains_stocked_eq_false : (stocked as info).contains l = false ↔
    (ofInfo info).contains l = false ∧
      ∀ a ∈ as, info.name.same a.chain = true → a.asset.location ≠ l := by
  simp only [← Bool.not_eq_true, contains_stocked, not_or, not_exists, not_and]

end ChainEntry

namespace Topology

variable {t : Topology} {infos : List ChainInfo} {as : List ChainAsset}

theorem entry?_stocked (ht : t.chains = infos.map (ChainEntry.stocked as)) (n : ChainName) :
    t.entry? n = (infos.find? fun i => i.name.same n).map (ChainEntry.stocked as) := by
  unfold Topology.entry?
  rw [ht, List.find?_map]
  rfl

/-- An asset that is put on the chain of its name is stocked by that chain alone. -/
theorem putEntry_stocked {a : ChainAsset} {info : ChainInfo} (h : ChainInfo.Distinct infos)
    (hinfo : info ∈ infos) (hname : info.name.same a.chain = true) :
    (⟨infos.map (ChainEntry.stocked as), [], []⟩ : Topology).putEntry a.chain
        (ChainEntry.stocked (as ++ [a]) info) =
      ⟨infos.map (ChainEntry.stocked (as ++ [a])), [], []⟩ := by
  have hone : (infos.map (ChainEntry.stocked as)).Pairwise fun c d =>
      ¬ (c.info.name.same a.chain = true ∧ d.info.name.same a.chain = true) := by
    refine List.pairwise_map.mpr (h.imp ?_)
    rintro c d hcd ⟨hc, hd⟩
    have hsame := ChainName.same_trans hc ((ChainName.same_comm _ _).trans hd)
    exact Bool.false_ne_true (hcd.symm.trans hsame)
  have hmap : ∀ i ∈ infos,
      (if i.name.same a.chain then ChainEntry.stocked (as ++ [a]) info
        else ChainEntry.stocked as i) = ChainEntry.stocked (as ++ [a]) i := by
    intro i hi
    split
    case isTrue hs =>
      rw [h.eq_of_same hi hinfo ((ChainName.same_congr hname i.name).trans hs)]
    case isFalse hs => rw [ChainEntry.stocked_concat, if_neg hs]
  rw [putEntry, Keyed.update_eq_map hone, List.map_map]
  exact congrArg (Topology.mk · [] []) (List.map_congr_left hmap)

end Topology

namespace Registry

variable {t : Topology} {infos : List ChainInfo}

/-- Assets are registered if each of them is on a chain that is registered, at a location
that the chain does not have by itself, and no two of them are in one place. -/
theorem assets_stage (h : ChainInfo.Distinct infos) (as : List ChainAsset) :
    as.foldlM (fun t a => register t (.registerAsset a.chain a.asset))
        ⟨infos.map .ofInfo, [], []⟩ = .ok t ↔
      (as.Pairwise fun a b => a.chain.same b.chain = true → a.asset.location ≠ b.asset.location) ∧
        (∀ a ∈ as, ∃ info ∈ infos, info.name.same a.chain = true ∧
          (ChainEntry.ofInfo info).contains a.asset.location = false) ∧
        t = ⟨infos.map (ChainEntry.stocked as), [], []⟩ := by
  let state := fun done : List ChainAsset =>
    (⟨infos.map (ChainEntry.stocked done), [], []⟩ : Topology)
  have hstart : state [] = ⟨infos.map .ofInfo, [], []⟩ := by
    simp [state, ChainEntry.stocked_nil]
  rw [← hstart]
  refine foldlM_eq_ok _ state ?_ as
  intro done a s
  rw [register_eq_ok rfl, Topology.addAsset_eq_ok]
  simp only [Topology.entry?_stocked (t := state done) rfl, Option.map_eq_some_iff,
    h.find?_eq_some]
  have hput : ∀ info ∈ infos, info.name.same a.chain = true →
      (state done).putEntry a.chain { ChainEntry.stocked done info with
        assets := (ChainEntry.stocked done info).assets ++ [a.asset] } = state (done ++ [a]) := by
    intro info hinfo hname
    have hconcat := (ChainEntry.stocked_concat done a info).trans (if_pos hname)
    exact (congrArg _ hconcat.symm).trans (Topology.putEntry_stocked h hinfo hname)
  have hsame : ∀ info : ChainInfo, info.name.same a.chain = true → ∀ d : ChainAsset,
      info.name.same d.chain = d.chain.same a.chain := by
    intro info hname d
    rw [ChainName.same_comm, ChainName.same_congr hname]
  constructor
  · rintro ⟨_, ⟨info, ⟨hinfo, hname⟩, rfl⟩, hfree, rfl⟩
    obtain ⟨hown, hdone⟩ := ChainEntry.contains_stocked_eq_false.mp hfree
    refine ⟨?_, ⟨info, hinfo, hname, hown⟩, hput info hinfo hname⟩
    intro d hd hda
    exact hdone d hd ((hsame info hname d).trans hda)
  · rintro ⟨hapart, ⟨info, hinfo, hname, hown⟩, rfl⟩
    refine ⟨_, ⟨info, ⟨hinfo, hname⟩, rfl⟩, ChainEntry.contains_stocked_eq_false.mpr ⟨hown, ?_⟩,
      (hput info hinfo hname).symm⟩
    intro d hd hda
    exact hapart d hd ((hsame info hname d).symm.trans hda)

end Registry

/-! ## Bridges and dexes -/

namespace Topology

variable {t : Topology} {b : Bridge} {d : Dex}

/-- A topology with one more bridge. -/
def withBridge (t : Topology) (b : Bridge) : Topology :=
  { t with bridges := t.bridges ++ [b] }

theorem bridge?_withBridge (h : t.bridge? b.name = none) :
    (t.withBridge b).bridge? b.name = some b :=
  Keyed.find?_concat h (beq_self_eq_true _)

theorem putBridge_withBridge (h : t.bridge? b.name = none) (c : Bridge) :
    (t.withBridge b).putBridge b.name c = t.withBridge c := by
  rw [putBridge, withBridge, Keyed.update_concat h (beq_self_eq_true _)]
  rfl

/-- A topology with one more dex. -/
def withDex (t : Topology) (d : Dex) : Topology :=
  { t with dexes := t.dexes ++ [d] }

theorem dex?_withDex (h : t.dex? d.name = none) : (t.withDex d).dex? d.name = some d :=
  Keyed.find?_concat h (beq_self_eq_true _)

theorem putDex_withDex (h : t.dex? d.name = none) (e : Dex) :
    (t.withDex d).putDex d.name e = t.withDex e := by
  rw [putDex, withDex, Keyed.update_concat h (beq_self_eq_true _)]
  rfl

end Topology

/-- The bridge that an entry describes. -/
def BridgeEntry.bridge (b : BridgeEntry) : Bridge :=
  ⟨b.name, b.chain0, b.chain1, b.pairs⟩

/-- The dex that an entry describes. -/
def DexEntry.dex (d : DexEntry) : Dex :=
  ⟨d.name, d.id, d.chain, d.pairs⟩

namespace Registry

variable {t t' : Topology}

/-- The pairs of a new bridge are registered if their assets are and no two pairs are the
same. -/
theorem pairs_stage {b : Bridge} (h : t.bridge? b.name = none) (pairs : List AssetPair) :
    pairs.foldlM (fun t p => register t (.addBridgeAsset b.name p))
        (t.withBridge { b with assets := [] }) = .ok t' ↔
      pairs.Pairwise (fun p q => p.id ≠ q.id) ∧
        (∀ p ∈ pairs, t.Registered b.chain0 p.asset0.location ∧
          t.Registered b.chain1 p.asset1.location) ∧
        t' = t.withBridge { b with assets := pairs } := by
  let state := fun done : List AssetPair => t.withBridge { b with assets := done }
  refine foldlM_eq_ok _ state ?_ pairs
  intro done p s
  have hfound : (state done).bridge? b.name = some { b with assets := done } :=
    Topology.bridge?_withBridge h
  have hfresh : (done.any fun q => q.id == p.id) = false ↔ ∀ q ∈ done, q.id ≠ p.id := by
    simp
  have hput := Topology.putBridge_withBridge (b := { b with assets := done }) h
    { b with assets := done ++ [p] }
  rw [register_eq_ok rfl, Topology.addBridgePair_eq_ok]
  constructor
  · rintro ⟨c, hc, h0, h1, hnew, rfl⟩
    obtain rfl : c = { b with assets := done } := Option.some.inj (hc.symm.trans hfound)
    exact ⟨hfresh.mp hnew, ⟨h0, h1⟩, hput⟩
  · rintro ⟨hnew, ⟨h0, h1⟩, rfl⟩
    exact ⟨_, hfound, h0, h1, hfresh.mpr hnew, hput.symm⟩

/-- Bridges are registered if their names are distinct and each of them is sound. -/
theorem bridges_stage (h : t.bridges = []) (bridges : List BridgeEntry) :
    bridges.foldlM (fun t b => (Manifest.bridgeCalls b).foldlM register t) t = .ok t' ↔
      bridges.Pairwise (fun b c => b.name ≠ c.name) ∧
        (∀ b ∈ bridges, t.SoundBridge b.bridge) ∧
        t' = { t with bridges := bridges.map BridgeEntry.bridge } := by
  -- Chains and their assets stay as they are, so that `t` can be asked about them throughout.
  let state := fun done : List BridgeEntry => { t with bridges := done.map BridgeEntry.bridge }
  have hstart : state [] = t := by
    simp only [state, List.map_nil, ← h]
  rw [← hstart]
  refine foldlM_eq_ok _ state ?_ bridges
  intro done b s
  have hnone : (state done).bridge? b.name = none ↔ ∀ d ∈ done, d.name ≠ b.name := by
    simp [Topology.bridge?, state, BridgeEntry.bridge]
  have hlast : (state done).withBridge b.bridge = state (done ++ [b]) := by
    simp [Topology.withBridge, state]
  rw [Manifest.bridgeCalls, List.foldlM_cons, bind_eq_ok, ← hlast]
  simp only [List.foldlM_map]
  constructor
  · rintro ⟨u, hu, hpairs⟩
    rw [register_eq_ok rfl] at hu
    obtain ⟨hnew, hknown0, hknown1, rfl⟩ := Topology.addBridge_eq_ok.mp hu
    obtain ⟨hids, hassets, rfl⟩ := (pairs_stage (b := b.bridge) hnew b.pairs).mp hpairs
    exact ⟨hnone.mp hnew, ⟨hknown0, hknown1, fun p hp => (hassets p hp).1,
      fun p hp => (hassets p hp).2, hids⟩, rfl⟩
  · rintro ⟨hnew, hsound, rfl⟩
    have hnew := hnone.mpr hnew
    refine ⟨_, (register_eq_ok rfl).mpr (Topology.addBridge_eq_ok.mpr
      ⟨hnew, hsound.chain0, hsound.chain1, rfl⟩), ?_⟩
    exact (pairs_stage (b := b.bridge) hnew b.pairs).mpr
      ⟨hsound.distinct, fun p hp => ⟨hsound.asset0 p hp, hsound.asset1 p hp⟩, rfl⟩

/-- The pools of a new dex are registered if their assets are and no two pools have one
identifier. -/
theorem pools_stage {d : Dex} (h : t.dex? d.name = none) (pairs : List DexPair) :
    pairs.foldlM (fun t p => register t (.addDexPair d.name p))
        (t.withDex { d with pairs := [] }) = .ok t' ↔
      pairs.Pairwise (fun p q => p.id ≠ q.id) ∧
        (∀ p ∈ pairs, t.Registered d.chain p.asset0.location ∧
          t.Registered d.chain p.asset1.location) ∧
        t' = t.withDex { d with pairs := pairs } := by
  let state := fun done : List DexPair => t.withDex { d with pairs := done }
  refine foldlM_eq_ok _ state ?_ pairs
  intro done p s
  have hfound : (state done).dex? d.name = some { d with pairs := done } :=
    Topology.dex?_withDex h
  have hfresh : (done.any fun q => q.id == p.id) = false ↔ ∀ q ∈ done, q.id ≠ p.id := by
    simp
  have hput := Topology.putDex_withDex (d := { d with pairs := done }) h
    { d with pairs := done ++ [p] }
  rw [register_eq_ok rfl, Topology.addDexPair_eq_ok]
  constructor
  · rintro ⟨e, he, h0, h1, hnew, rfl⟩
    obtain rfl : e = { d with pairs := done } := Option.some.inj (he.symm.trans hfound)
    exact ⟨hfresh.mp hnew, ⟨h0, h1⟩, hput⟩
  · rintro ⟨hnew, ⟨h0, h1⟩, rfl⟩
    exact ⟨_, hfound, h0, h1, hfresh.mpr hnew, hput.symm⟩

/-- Dexes are registered if their names are distinct and each of them is sound. -/
theorem dexes_stage (h : t.dexes = []) (dexes : List DexEntry) :
    dexes.foldlM (fun t d => (Manifest.dexCalls d).foldlM register t) t = .ok t' ↔
      dexes.Pairwise (fun d e => d.name ≠ e.name) ∧
        (∀ d ∈ dexes, t.SoundDex d.dex) ∧
        t' = { t with dexes := dexes.map DexEntry.dex } := by
  let state := fun done : List DexEntry => { t with dexes := done.map DexEntry.dex }
  have hstart : state [] = t := by
    simp only [state, List.map_nil, ← h]
  rw [← hstart]
  refine foldlM_eq_ok _ state ?_ dexes
  intro done d s
  have hnone : (state done).dex? d.name = none ↔ ∀ e ∈ done, e.name ≠ d.name := by
    simp [Topology.dex?, state, DexEntry.dex]
  have hlast : (state done).withDex d.dex = state (done ++ [d]) := by
    simp [Topology.withDex, state]
  rw [Manifest.dexCalls, List.foldlM_cons, bind_eq_ok, ← hlast]
  simp only [List.foldlM_map]
  constructor
  · rintro ⟨u, hu, hpairs⟩
    rw [register_eq_ok rfl] at hu
    obtain ⟨hnew, hknown, rfl⟩ := Topology.addDex_eq_ok.mp hu
    obtain ⟨hids, hassets, rfl⟩ := (pools_stage (d := d.dex) hnew d.pairs).mp hpairs
    exact ⟨hnone.mp hnew, ⟨hknown, fun p hp => (hassets p hp).1, fun p hp => (hassets p hp).2,
      hids⟩, rfl⟩
  · rintro ⟨hnew, hsound, rfl⟩
    have hnew := hnone.mpr hnew
    refine ⟨_, (register_eq_ok rfl).mpr (Topology.addDex_eq_ok.mpr ⟨hnew, hsound.chain, rfl⟩), ?_⟩
    exact (pools_stage (d := d.dex) hnew d.pairs).mpr
      ⟨hsound.distinct, fun p hp => ⟨hsound.asset0 p hp, hsound.asset1 p hp⟩, rfl⟩

end Registry

end Interchain
