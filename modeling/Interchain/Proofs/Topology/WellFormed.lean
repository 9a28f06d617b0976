import Interchain.Proofs.Keyed
import Interchain.Proofs.Topology.Outcome

/-!
# Well-formed topologies

A topology is well formed if names do not repeat and everything that refers to
something else refers to what is registered.  Every change keeps it so.

Two kinds of changes need care.  Those that only add keep every reference, because
what was registered still is (`Topology.Extends`).  Those that take a chain or an
asset away break references to it, and drop just the bridges, dexes and pairs that
hold one.
-/

namespace Interchain

open Attempt

namespace ChainName

/-- Spellings of one name are the same as the same others. -/
theorem same_congr {a b : ChainName} (h : a.same b = true) (c : ChainName) :
    c.same a = c.same b := by
  have hn : a.normalized = b.normalized := same_iff.mp h
  rw [Bool.eq_iff_iff, same_iff, same_iff, hn]

end ChainName

namespace ChainEntry

variable {c : ChainEntry} {asset : AssetInfo} {location l : Location}

/-- No two assets are registered at one location. -/
def Distinct (c : ChainEntry) : Prop :=
  c.assets.Pairwise fun a b => a.location ≠ b.location

theorem contains_iff : c.contains l = true ↔ ∃ a ∈ c.assets, a.location = l := by
  simp [contains]

@[simp] theorem info_adopt : (c.adopt asset).info = c.info := by
  unfold adopt
  split <;> rfl

theorem name_setNative : (c.setNative asset).info.name = c.info.name := by
  change (c.adopt asset).info.name = c.info.name
  rw [info_adopt]

theorem name_setStable : (c.setStable asset).info.name = c.info.name := by
  change (c.adopt asset).info.name = c.info.name
  rw [info_adopt]

theorem contains_append (h : c.contains l = true) :
    ({ c with assets := c.assets ++ [asset] } : ChainEntry).contains l = true := by
  obtain ⟨a, ha, rfl⟩ := contains_iff.mp h
  exact contains_iff.mpr ⟨a, List.mem_append_left _ ha, rfl⟩

theorem contains_adopt (h : c.contains l = true) : (c.adopt asset).contains l = true := by
  unfold adopt
  split
  · exact h
  · exact contains_append h

/-- Forgetting one location keeps the others. -/
theorem contains_forget (hl : l ≠ location) (h : c.contains l = true) :
    (c.forget location).contains l = true := by
  obtain ⟨a, ha, rfl⟩ := contains_iff.mp h
  exact contains_iff.mpr ⟨a, (List.mem_eraseP_of_neg (by simpa using hl)).mpr ha, rfl⟩

theorem Distinct.append (h : c.Distinct) (hfree : c.contains asset.location = false) :
    ({ c with assets := c.assets ++ [asset] } : ChainEntry).Distinct := by
  refine List.pairwise_append.mpr ⟨h, List.pairwise_singleton _ _, ?_⟩
  intro a ha b hb heq
  obtain rfl : b = asset := List.mem_singleton.mp hb
  have : c.contains b.location = true := contains_iff.mpr ⟨a, ha, heq⟩
  simp [hfree] at this

theorem Distinct.adopt (h : c.Distinct) : (c.adopt asset).Distinct := by
  unfold ChainEntry.adopt
  split
  · exact h
  · exact h.append (Bool.eq_false_iff.mpr ‹_›)

theorem Distinct.forget (h : c.Distinct) : (c.forget location).Distinct :=
  h.sublist List.eraseP_sublist

/-- A location matches one asset of a chain at most. -/
theorem Distinct.location_unique (h : c.Distinct) (l : Location) :
    c.assets.Pairwise fun a b => ¬ ((a.location == l) = true ∧ (b.location == l) = true) := by
  refine List.Pairwise.imp ?_ h
  rintro a b hab ⟨ha, hb⟩
  exact hab ((beq_iff_eq.mp ha).trans (beq_iff_eq.mp hb).symm)

/-- Nothing is left at a location that is forgotten. -/
theorem Distinct.assets_forget (h : c.Distinct) :
    (c.forget location).assets = c.assets.filter fun a => a.location ≠ location := by
  refine (Keyed.eraseP_eq_filter (h.location_unique location)).trans ?_
  refine List.filter_congr fun a _ => ?_
  simp [Bool.beq_eq_decide_eq]

@[simp] theorem info_ofInfo (info : ChainInfo) : (ofInfo info).info = info := by
  unfold ofInfo
  cases info.native <;> simp

theorem distinct_ofInfo (info : ChainInfo) : (ofInfo info).Distinct := by
  have base : (⟨info, info.stable.toList⟩ : ChainEntry).Distinct := by
    cases info.stable <;> simp [Distinct]
  unfold ofInfo
  cases info.native with
  | none => exact base
  | some native => exact base.adopt

end ChainEntry

namespace Topology

variable {t t' : Topology} {chain n : ChainName} {l location : Location} {c d : ChainEntry}

/-! ## The invariant -/

/-- A chain of this name is registered. -/
def Knows (t : Topology) (name : ChainName) : Prop :=
  ∃ c, t.entry? name = some c

/-- Both chains of a bridge are registered, each pair has its first asset
registered on the first and its second on the second, and no two pairs are the
same. -/
structure SoundBridge (t : Topology) (b : Bridge) : Prop where
  chain0 : t.Knows b.chain0
  chain1 : t.Knows b.chain1
  asset0 : ∀ p ∈ b.assets, t.Registered b.chain0 p.asset0.location
  asset1 : ∀ p ∈ b.assets, t.Registered b.chain1 p.asset1.location
  distinct : b.assets.Pairwise fun p q => p.id ≠ q.id

/-- The chain of a dex is registered, both assets of each pool are registered on
it, and no two pools have one identifier. -/
structure SoundDex (t : Topology) (d : Dex) : Prop where
  chain : t.Knows d.chain
  asset0 : ∀ p ∈ d.pairs, t.Registered d.chain p.asset0.location
  asset1 : ∀ p ∈ d.pairs, t.Registered d.chain p.asset1.location
  distinct : d.pairs.Pairwise fun p q => p.id ≠ q.id

/-- Names do not repeat, those of chains not even in another case, and all
references hold. -/
structure WellFormed (t : Topology) : Prop where
  chainNames : t.chains.Pairwise fun c d => c.info.name.same d.info.name = false
  bridgeNames : t.bridges.Pairwise fun b c => b.name ≠ c.name
  dexNames : t.dexes.Pairwise fun d e => d.name ≠ e.name
  locations : ∀ c ∈ t.chains, c.Distinct
  bridges : ∀ b ∈ t.bridges, t.SoundBridge b
  dexes : ∀ d ∈ t.dexes, t.SoundDex d

theorem wellFormed_empty : empty.WellFormed where
  chainNames := .nil
  bridgeNames := .nil
  dexNames := .nil
  locations _ h := nomatch h
  bridges _ h := nomatch h
  dexes _ h := nomatch h

/-! ## Look-up after a change -/

theorem entry?_spec (h : t.entry? n = some c) : c ∈ t.chains ∧ c.info.name.same n = true :=
  ⟨List.mem_of_find?_eq_some h,
    List.find?_some (p := fun e : ChainEntry => e.info.name.same n) h⟩

theorem bridge?_spec {name : BridgeName} {b : Bridge} (h : t.bridge? name = some b) :
    b ∈ t.bridges ∧ b.name = name :=
  ⟨List.mem_of_find?_eq_some h, by simpa using List.find?_some h⟩

theorem dex?_spec {name : DexName} {d : Dex} (h : t.dex? name = some d) :
    d ∈ t.dexes ∧ d.name = name :=
  ⟨List.mem_of_find?_eq_some h, by simpa using List.find?_some h⟩

/-- Spellings of one name find the same. -/
theorem entry?_congr (h : n.same chain = true) : t.entry? n = t.entry? chain := by
  have agree : (fun e : ChainEntry => e.info.name.same n) = fun e => e.info.name.same chain := by
    funext e
    exact ChainName.same_congr h _
  unfold entry?
  rw [agree]

/-- A chain put in place of the one it was made from is found under its name, and
other names find what they found. -/
theorem entry?_putEntry (hc : t.entry? chain = some c) (d : ChainEntry)
    (hname : d.info.name = c.info.name) (n : ChainName) :
    entry? (t.putEntry chain d) n = if n.same chain then some d else t.entry? n := by
  have hd : d.info.name.same chain = true := hname ▸ (entry?_spec hc).2
  cases hn : n.same chain with
  | true =>
    have found : entry? (t.putEntry chain d) chain = (t.entry? chain).map fun _ => d :=
      Keyed.find?_update_self fun _ _ => hd
    rw [entry?_congr hn, found, hc, Option.map_some, if_pos rfl]
  | false =>
    have apart : ∀ e : ChainEntry, e.info.name.same chain = true → e.info.name.same n = false := by
      intro e he
      rw [ChainName.same_comm, ChainName.same_congr he, hn]
    simp only [Bool.false_eq_true, if_false]
    exact Keyed.find?_update_other fun e he => ⟨apart e he, apart d hd⟩

/-- What is registered in one topology is registered in the other. -/
def Extends (t t' : Topology) : Prop :=
  ∀ n c, t.entry? n = some c →
    ∃ d, t'.entry? n = some d ∧ ∀ l, c.contains l = true → d.contains l = true

theorem Extends.of_chains_eq (h : t'.chains = t.chains) : t.Extends t' := by
  intro n c hc
  refine ⟨c, ?_, fun _ hl => hl⟩
  unfold entry? at hc ⊢
  rwa [h]

theorem extends_addChain (e : ChainEntry) : t.Extends { t with chains := t.chains ++ [e] } := by
  intro n c hc
  refine ⟨c, ?_, fun _ hl => hl⟩
  unfold entry? at hc ⊢
  simp [hc]

theorem extends_putEntry (hc : t.entry? chain = some c) (hname : d.info.name = c.info.name)
    (hkeep : ∀ l, c.contains l = true → d.contains l = true) :
    t.Extends (t.putEntry chain d) := by
  intro n e he
  rw [entry?_putEntry hc d hname]
  cases hn : n.same chain with
  | false => exact ⟨e, he, fun _ hl => hl⟩
  | true =>
    rw [entry?_congr hn] at he
    obtain rfl : c = e := Option.some.inj (hc.symm.trans he)
    exact ⟨d, rfl, hkeep⟩

theorem Knows.mono (h : t.Extends t') : t.Knows n → t'.Knows n := by
  rintro ⟨c, hc⟩
  obtain ⟨d, hd, -⟩ := h n c hc
  exact ⟨d, hd⟩

theorem Registered.mono (h : t.Extends t') : t.Registered n l → t'.Registered n l := by
  rintro ⟨c, hc, hl⟩
  obtain ⟨d, hd, hkeep⟩ := h n c hc
  exact ⟨d, hd, hkeep l hl⟩

theorem SoundBridge.mono (h : t.Extends t') {b : Bridge} (hb : t.SoundBridge b) :
    t'.SoundBridge b where
  chain0 := hb.chain0.mono h
  chain1 := hb.chain1.mono h
  asset0 p hp := (hb.asset0 p hp).mono h
  asset1 p hp := (hb.asset1 p hp).mono h
  distinct := hb.distinct

theorem SoundDex.mono (h : t.Extends t') {d : Dex} (hd : t.SoundDex d) : t'.SoundDex d where
  chain := hd.chain.mono h
  asset0 p hp := (hd.asset0 p hp).mono h
  asset1 p hp := (hd.asset1 p hp).mono h
  distinct := hd.distinct

/-! ## Changes of chains that keep what is registered -/

namespace WellFormed

theorem addChain {info : ChainInfo} (h : t.WellFormed) (hnew : t.entry? info.name = none) :
    WellFormed { t with chains := t.chains ++ [ChainEntry.ofInfo info] } where
  chainNames := by
    refine List.pairwise_append.mpr ⟨h.chainNames, List.pairwise_singleton _ _, ?_⟩
    intro c hc d hd
    obtain rfl : d = ChainEntry.ofInfo info := List.mem_singleton.mp hd
    rw [ChainEntry.info_ofInfo]
    simpa using List.find?_eq_none.mp hnew c hc
  bridgeNames := h.bridgeNames
  dexNames := h.dexNames
  locations c hc := by
    rcases List.mem_append.mp hc with hc | hc
    · exact h.locations c hc
    · exact List.mem_singleton.mp hc ▸ ChainEntry.distinct_ofInfo info
  bridges b hb := (h.bridges b hb).mono (extends_addChain _)
  dexes d hd := (h.dexes d hd).mono (extends_addChain _)

/-- Names and locations stay distinct when a chain is put in place of the one it
was made from. -/
theorem chains_putEntry (h : t.WellFormed) (hc : t.entry? chain = some c)
    (hd : d.Distinct) (hname : d.info.name = c.info.name) :
    ((t.putEntry chain d).chains.Pairwise fun c d => c.info.name.same d.info.name = false) ∧
      ∀ e ∈ (t.putEntry chain d).chains, e.Distinct := by
  constructor
  · refine Keyed.pairwise_update h.chainNames hc ?_ ?_ <;> simp [hname]
  · intro e he
    rcases Keyed.mem_of_mem_update he with he | ⟨-, -, rfl⟩
    · exact h.locations e he
    · exact hd

theorem putEntry (h : t.WellFormed) (hc : t.entry? chain = some c)
    (hname : d.info.name = c.info.name) (hd : d.Distinct)
    (hkeep : ∀ l, c.contains l = true → d.contains l = true) :
    (t.putEntry chain d).WellFormed where
  chainNames := (h.chains_putEntry hc hd hname).1
  bridgeNames := h.bridgeNames
  dexNames := h.dexNames
  locations := (h.chains_putEntry hc hd hname).2
  bridges b hb := (h.bridges b hb).mono (extends_putEntry hc hname hkeep)
  dexes e he := (h.dexes e he).mono (extends_putEntry hc hname hkeep)

theorem distinct_found (h : t.WellFormed) (hc : t.entry? chain = some c) : c.Distinct :=
  h.locations c (entry?_spec hc).1

/-- A name matches one registered chain at most. -/
theorem chain_unique (h : t.WellFormed) (n : ChainName) :
    t.chains.Pairwise fun c d =>
      ¬ (c.info.name.same n = true ∧ d.info.name.same n = true) := by
  refine h.chainNames.imp ?_
  rintro c d hcd ⟨hc, hd⟩
  rw [ChainName.same_comm] at hd
  rw [ChainName.same_trans hc hd] at hcd
  cases hcd

/-! ## Removals that cascade -/

end WellFormed

/-- What is found under other names stays when a chain goes. -/
theorem entry?_eraseP {name : ChainName} (hn : n.same name = false)
    (hchains : t'.chains = t.chains.eraseP fun c => c.info.name.same name) :
    t'.entry? n = t.entry? n := by
  unfold entry?
  rw [hchains]
  apply Keyed.find?_eraseP_other
  intro e he
  rw [ChainName.same_comm, ChainName.same_congr he, hn]

theorem Knows.congr (h : t'.entry? n = t.entry? n) : t.Knows n → t'.Knows n := by
  rintro ⟨c, hc⟩
  exact ⟨c, h.trans hc⟩

theorem Registered.congr (h : t'.entry? n = t.entry? n) :
    t.Registered n l → t'.Registered n l := by
  rintro ⟨c, hc, hl⟩
  exact ⟨c, h.trans hc, hl⟩

theorem Knows.putEntry (hn : t.Knows n) (hc : t.entry? chain = some c)
    (hname : d.info.name = c.info.name) : (t.putEntry chain d).Knows n := by
  obtain ⟨e, he⟩ := hn
  rw [Knows, entry?_putEntry hc d hname]
  split
  · exact ⟨d, rfl⟩
  · exact ⟨e, he⟩

/-- An asset is still registered when another one is forgotten. -/
theorem Registered.forget (hc : t.entry? chain = some c) (h : t.Registered n l)
    (hne : (n.same chain && l == location) = false) :
    (t.putEntry chain (c.forget location)).Registered n l := by
  obtain ⟨d, hd, hl⟩ := h
  have look := entry?_putEntry hc (c.forget location) rfl n
  cases hn : n.same chain with
  | false => exact ⟨d, by simp [look, hn, hd], hl⟩
  | true =>
    rw [entry?_congr hn] at hd
    obtain rfl : c = d := Option.some.inj (hc.symm.trans hd)
    rw [hn, if_pos rfl] at look
    refine ⟨_, look, ChainEntry.contains_forget ?_ hl⟩
    intro he
    simp [hn, he] at hne

/-- A bridge keeps the pairs with neither side at the location on the chain. -/
theorem mem_forgetOnBridge {b : Bridge} {p : AssetPair} :
    p ∈ (forgetOnBridge chain location b).assets ↔ p ∈ b.assets ∧
      (b.chain0.same chain && p.asset0.location == location) = false ∧
      (b.chain1.same chain && p.asset1.location == location) = false := by
  simp only [forgetOnBridge, List.mem_filter, Bool.and_eq_true, Bool.not_eq_true']

theorem mem_forgetOnDex {d : Dex} {p : DexPair} :
    p ∈ (forgetOnDex chain location d).pairs ↔ p ∈ d.pairs ∧
      (d.chain.same chain && p.asset0.location == location) = false ∧
      (d.chain.same chain && p.asset1.location == location) = false := by
  cases hn : d.chain.same chain <;> simp [forgetOnDex, hn]

theorem pairs_forgetOnDex (d : Dex) : (forgetOnDex chain location d).pairs.Sublist d.pairs := by
  unfold forgetOnDex
  split
  · exact List.filter_sublist
  · exact .refl _

@[simp] theorem name_forgetOnDex (d : Dex) : (forgetOnDex chain location d).name = d.name := by
  unfold forgetOnDex
  split <;> rfl

@[simp] theorem chain_forgetOnDex (d : Dex) : (forgetOnDex chain location d).chain = d.chain := by
  unfold forgetOnDex
  split <;> rfl

namespace WellFormed

theorem removeChain {name : ChainName} (h : t.WellFormed)
    (ht : t' = { chains := t.chains.eraseP fun c => c.info.name.same name
                 bridges := t.bridges.filter fun b => !b.chain0.same name && !b.chain1.same name
                 dexes := t.dexes.filter fun d => !d.chain.same name }) : t'.WellFormed where
  chainNames := ht ▸ h.chainNames.sublist List.eraseP_sublist
  bridgeNames := ht ▸ h.bridgeNames.sublist List.filter_sublist
  dexNames := ht ▸ h.dexNames.sublist List.filter_sublist
  locations c hc := h.locations c (List.eraseP_subset (ht ▸ hc))
  bridges b hb := by
    simp only [ht, List.mem_filter, Bool.and_eq_true, Bool.not_eq_true'] at hb
    obtain ⟨hb, h0, h1⟩ := hb
    have look0 : t'.entry? b.chain0 = t.entry? b.chain0 := entry?_eraseP h0 (by rw [ht])
    have look1 : t'.entry? b.chain1 = t.entry? b.chain1 := entry?_eraseP h1 (by rw [ht])
    have sound := h.bridges b hb
    constructor
    case chain0 => exact sound.chain0.congr look0
    case chain1 => exact sound.chain1.congr look1
    case asset0 =>
      intro p hp
      exact (sound.asset0 p hp).congr look0
    case asset1 =>
      intro p hp
      exact (sound.asset1 p hp).congr look1
    case distinct => exact sound.distinct
  dexes d hd := by
    simp only [ht, List.mem_filter, Bool.not_eq_true'] at hd
    have look : t'.entry? d.chain = t.entry? d.chain := entry?_eraseP hd.2 (by rw [ht])
    have sound := h.dexes d hd.1
    constructor
    case chain => exact sound.chain.congr look
    case asset0 =>
      intro p hp
      exact (sound.asset0 p hp).congr look
    case asset1 =>
      intro p hp
      exact (sound.asset1 p hp).congr look
    case distinct => exact sound.distinct

/-- The pairs that refer to a removed asset are those that are dropped: every
other pair has each of its sides on another chain or at another location. -/
theorem removeAsset (h : t.WellFormed) (hc : t.entry? chain = some c)
    (ht : t' = { chains := (t.putEntry chain (c.forget location)).chains
                 bridges := t.bridges.map (forgetOnBridge chain location)
                 dexes := t.dexes.map (forgetOnDex chain location) }) : t'.WellFormed := by
  have hd : (c.forget location).Distinct := (h.distinct_found hc).forget
  obtain ⟨names, locations⟩ := h.chains_putEntry hc hd rfl
  have known : ∀ {n}, t.Knows n → t'.Knows n := by
    intro n hn
    exact ht ▸ hn.putEntry hc rfl
  have keep : ∀ {n l}, t.Registered n l → (n.same chain && l == location) = false →
      t'.Registered n l := by
    intro n l hr hne
    exact ht ▸ hr.forget hc hne
  constructor
  case chainNames => exact ht ▸ names
  case bridgeNames =>
    rw [ht, List.pairwise_map]
    exact h.bridgeNames
  case dexNames =>
    rw [ht, List.pairwise_map]
    simpa only [name_forgetOnDex] using h.dexNames
  case locations => exact ht ▸ locations
  case bridges =>
    rw [ht]
    intro _ hmem
    obtain ⟨b, hb, rfl⟩ := List.mem_map.mp hmem
    have sound := h.bridges b hb
    rw [← ht]
    constructor
    case chain0 => exact known sound.chain0
    case chain1 => exact known sound.chain1
    case asset0 =>
      intro p hp
      obtain ⟨hp, h0, -⟩ := mem_forgetOnBridge.mp hp
      exact keep (sound.asset0 p hp) h0
    case asset1 =>
      intro p hp
      obtain ⟨hp, -, h1⟩ := mem_forgetOnBridge.mp hp
      exact keep (sound.asset1 p hp) h1
    case distinct => exact sound.distinct.sublist List.filter_sublist
  case dexes =>
    rw [ht]
    intro _ hmem
    obtain ⟨d, hd, rfl⟩ := List.mem_map.mp hmem
    have sound := h.dexes d hd
    rw [← ht]
    constructor
    case chain => exact (chain_forgetOnDex d).symm ▸ known sound.chain
    case asset0 =>
      intro p hp
      obtain ⟨hp, h0, -⟩ := mem_forgetOnDex.mp hp
      exact (chain_forgetOnDex d).symm ▸ keep (sound.asset0 p hp) h0
    case asset1 =>
      intro p hp
      obtain ⟨hp, -, h1⟩ := mem_forgetOnDex.mp hp
      exact (chain_forgetOnDex d).symm ▸ keep (sound.asset1 p hp) h1
    case distinct => exact sound.distinct.sublist (pairs_forgetOnDex d)

/-! ## Changes of bridges and dexes -/

/-- Bridges may be exchanged for others with sound references. -/
theorem withBridges {bs : List Bridge} (h : t.WellFormed)
    (names : bs.Pairwise fun b c => b.name ≠ c.name) (sound : ∀ b ∈ bs, t.SoundBridge b) :
    WellFormed { t with bridges := bs } :=
  have ext : t.Extends { t with bridges := bs } := .of_chains_eq rfl
  { chainNames := h.chainNames
    bridgeNames := names
    dexNames := h.dexNames
    locations := h.locations
    bridges := fun b hb => (sound b hb).mono ext
    dexes := fun d hd => (h.dexes d hd).mono ext }

theorem withDexes {ds : List Dex} (h : t.WellFormed)
    (names : ds.Pairwise fun d e => d.name ≠ e.name) (sound : ∀ d ∈ ds, t.SoundDex d) :
    WellFormed { t with dexes := ds } :=
  have ext : t.Extends { t with dexes := ds } := .of_chains_eq rfl
  { chainNames := h.chainNames
    bridgeNames := h.bridgeNames
    dexNames := names
    locations := h.locations
    bridges := fun b hb => (h.bridges b hb).mono ext
    dexes := fun d hd => (sound d hd).mono ext }

theorem addBridge {name : BridgeName} {chain0 chain1 : ChainName} (h : t.WellFormed)
    (hnew : t.bridge? name = none) (h0 : t.Knows chain0) (h1 : t.Knows chain1) :
    WellFormed { t with bridges := t.bridges ++ [Bridge.blank name chain0 chain1] } := by
  apply h.withBridges
  · refine List.pairwise_append.mpr ⟨h.bridgeNames, List.pairwise_singleton _ _, ?_⟩
    intro b hb c hc
    obtain rfl : c = Bridge.blank name chain0 chain1 := List.mem_singleton.mp hc
    simpa [Bridge.blank] using List.find?_eq_none.mp hnew b hb
  · intro b hb
    rcases List.mem_append.mp hb with hb | hb
    · exact h.bridges b hb
    · obtain rfl : b = Bridge.blank name chain0 chain1 := List.mem_singleton.mp hb
      exact ⟨h0, h1, fun p hp => absurd hp List.not_mem_nil,
        fun p hp => absurd hp List.not_mem_nil, .nil⟩

theorem removeBridge (h : t.WellFormed) (p : Bridge → Bool) :
    WellFormed { t with bridges := t.bridges.eraseP p } :=
  h.withBridges (h.bridgeNames.sublist List.eraseP_sublist) fun b hb =>
    h.bridges b (List.eraseP_subset hb)

theorem putBridge {name : BridgeName} {b b' : Bridge} (h : t.WellFormed)
    (hb : t.bridge? name = some b) (hname : b'.name = b.name) (sound : t.SoundBridge b') :
    (t.putBridge name b').WellFormed := by
  apply h.withBridges
  · apply Keyed.pairwise_update h.bridgeNames hb <;> simp [hname]
  · intro c hc
    rcases Keyed.mem_of_mem_update hc with hc | ⟨-, -, rfl⟩
    · exact h.bridges c hc
    · exact sound

theorem addDex {name : DexName} {id : PoolId} (h : t.WellFormed) (hnew : t.dex? name = none)
    (hc : t.Knows chain) : WellFormed { t with dexes := t.dexes ++ [Dex.blank name id chain] } := by
  apply h.withDexes
  · refine List.pairwise_append.mpr ⟨h.dexNames, List.pairwise_singleton _ _, ?_⟩
    intro d hd e he
    obtain rfl : e = Dex.blank name id chain := List.mem_singleton.mp he
    simpa [Dex.blank] using List.find?_eq_none.mp hnew d hd
  · intro d hd
    rcases List.mem_append.mp hd with hd | hd
    · exact h.dexes d hd
    · obtain rfl : d = Dex.blank name id chain := List.mem_singleton.mp hd
      exact ⟨hc, fun p hp => absurd hp List.not_mem_nil,
        fun p hp => absurd hp List.not_mem_nil, .nil⟩

theorem removeDex (h : t.WellFormed) (p : Dex → Bool) :
    WellFormed { t with dexes := t.dexes.eraseP p } :=
  h.withDexes (h.dexNames.sublist List.eraseP_sublist) fun d hd =>
    h.dexes d (List.eraseP_subset hd)

theorem putDex {name : DexName} {d d' : Dex} (h : t.WellFormed) (hd : t.dex? name = some d)
    (hname : d'.name = d.name) (sound : t.SoundDex d') : (t.putDex name d').WellFormed := by
  apply h.withDexes
  · apply Keyed.pairwise_update h.dexNames hd <;> simp [hname]
  · intro e he
    rcases Keyed.mem_of_mem_update he with he | ⟨-, -, rfl⟩
    · exact h.dexes e he
    · exact sound

end WellFormed

/-- A further pair, of registered assets and unlike those that are carried. -/
theorem SoundBridge.append {b : Bridge} {pair : AssetPair} (h : t.SoundBridge b)
    (h0 : t.Registered b.chain0 pair.asset0.location)
    (h1 : t.Registered b.chain1 pair.asset1.location)
    (hnew : (b.assets.any fun p => p.id == pair.id) = false) :
    t.SoundBridge { b with assets := b.assets ++ [pair] } where
  chain0 := h.chain0
  chain1 := h.chain1
  asset0 p hp := by
    rcases List.mem_append.mp hp with hp | hp
    · exact h.asset0 p hp
    · exact List.mem_singleton.mp hp ▸ h0
  asset1 p hp := by
    rcases List.mem_append.mp hp with hp | hp
    · exact h.asset1 p hp
    · exact List.mem_singleton.mp hp ▸ h1
  distinct := by
    refine List.pairwise_append.mpr ⟨h.distinct, List.pairwise_singleton _ _, ?_⟩
    intro p hp q hq
    obtain rfl : q = pair := List.mem_singleton.mp hq
    simpa using List.any_eq_false.mp hnew p hp

/-- Fewer pairs. -/
theorem SoundBridge.shrink {b : Bridge} {pairs : List AssetPair} (h : t.SoundBridge b)
    (hsub : pairs.Sublist b.assets) : t.SoundBridge { b with assets := pairs } where
  chain0 := h.chain0
  chain1 := h.chain1
  asset0 p hp := h.asset0 p (hsub.subset hp)
  asset1 p hp := h.asset1 p (hsub.subset hp)
  distinct := h.distinct.sublist hsub

theorem SoundDex.append {d : Dex} {pair : DexPair} (h : t.SoundDex d)
    (h0 : t.Registered d.chain pair.asset0.location)
    (h1 : t.Registered d.chain pair.asset1.location)
    (hnew : (d.pairs.any fun p => p.id == pair.id) = false) :
    t.SoundDex { d with pairs := d.pairs ++ [pair] } where
  chain := h.chain
  asset0 p hp := by
    rcases List.mem_append.mp hp with hp | hp
    · exact h.asset0 p hp
    · exact List.mem_singleton.mp hp ▸ h0
  asset1 p hp := by
    rcases List.mem_append.mp hp with hp | hp
    · exact h.asset1 p hp
    · exact List.mem_singleton.mp hp ▸ h1
  distinct := by
    refine List.pairwise_append.mpr ⟨h.distinct, List.pairwise_singleton _ _, ?_⟩
    intro p hp q hq
    obtain rfl : q = pair := List.mem_singleton.mp hq
    simpa using List.any_eq_false.mp hnew p hp

theorem SoundDex.shrink {d : Dex} {pairs : List DexPair} (h : t.SoundDex d)
    (hsub : pairs.Sublist d.pairs) : t.SoundDex { d with pairs := pairs } where
  chain := h.chain
  asset0 p hp := h.asset0 p (hsub.subset hp)
  asset1 p hp := h.asset1 p (hsub.subset hp)
  distinct := h.distinct.sublist hsub

/-! ## Every change -/

/-- A change that takes place leaves a well-formed topology. -/
theorem WellFormed.change {change : TopologyChange} {removed : Removed} (h : t.WellFormed)
    (hch : t.change change = .ok (t', removed)) : t'.WellFormed := by
  cases change <;> simp only [Topology.change, adding, removing, map_eq_ok, Prod.mk.injEq] at hch
  case addChain info =>
    obtain ⟨_, hch, rfl, -⟩ := hch
    obtain ⟨hnew, rfl⟩ := addChain_eq_ok.mp hch
    exact h.addChain hnew
  case removeChain name =>
    obtain ⟨⟨_, _⟩, hch, rfl, -⟩ := hch
    obtain ⟨c, -, -, ht⟩ := removeChain_eq_ok.mp hch
    exact h.removeChain ht
  case setNative chain asset =>
    obtain ⟨_, hch, rfl, -⟩ := hch
    obtain ⟨c, hc, rfl⟩ := setNative_eq_ok.mp hch
    exact h.putEntry hc ChainEntry.name_setNative (h.distinct_found hc).adopt
      fun l hl => ChainEntry.contains_adopt hl
  case setStable chain asset =>
    obtain ⟨_, hch, rfl, -⟩ := hch
    obtain ⟨c, hc, rfl⟩ := setStable_eq_ok.mp hch
    exact h.putEntry hc ChainEntry.name_setStable (h.distinct_found hc).adopt
      fun l hl => ChainEntry.contains_adopt hl
  case setEndpoint chain endpoint =>
    obtain ⟨_, hch, rfl, -⟩ := hch
    obtain ⟨c, hc, rfl⟩ := setEndpoint_eq_ok.mp hch
    have hd : (c.setEndpoint endpoint).Distinct := h.distinct_found (c := c) hc
    exact h.putEntry hc rfl hd fun l hl => hl
  case addAsset chain asset =>
    obtain ⟨_, hch, rfl, -⟩ := hch
    obtain ⟨c, hc, hfree, rfl⟩ := addAsset_eq_ok.mp hch
    exact h.putEntry hc rfl ((h.distinct_found hc).append hfree)
      fun l hl => ChainEntry.contains_append hl
  case removeAsset chain location =>
    obtain ⟨⟨_, _⟩, hch, rfl, -⟩ := hch
    obtain ⟨c, hc, -, ht⟩ := removeAsset_eq_ok.mp hch
    exact h.removeAsset hc ht
  case addBridge name chain0 chain1 =>
    obtain ⟨_, hch, rfl, -⟩ := hch
    obtain ⟨hnew, h0, h1, rfl⟩ := addBridge_eq_ok.mp hch
    exact h.addBridge hnew h0 h1
  case removeBridge name =>
    obtain ⟨⟨_, _⟩, hch, rfl, -⟩ := hch
    obtain ⟨-, rfl⟩ := removeBridge_eq_ok.mp hch
    exact h.removeBridge _
  case addBridgePair bridge pair =>
    obtain ⟨_, hch, rfl, -⟩ := hch
    obtain ⟨b, hb, h0, h1, hnew, rfl⟩ := addBridgePair_eq_ok.mp hch
    exact h.putBridge hb rfl ((h.bridges b (bridge?_spec hb).1).append h0 h1 hnew)
  case removeBridgePair bridge pair =>
    obtain ⟨⟨_, _⟩, hch, rfl, -⟩ := hch
    obtain ⟨b, hb, -, rfl⟩ := removeBridgePair_eq_ok.mp hch
    exact h.putBridge hb rfl ((h.bridges b (bridge?_spec hb).1).shrink List.eraseP_sublist)
  case addDex name id chain =>
    obtain ⟨_, hch, rfl, -⟩ := hch
    obtain ⟨hnew, hc, rfl⟩ := addDex_eq_ok.mp hch
    exact h.addDex hnew hc
  case removeDex name =>
    obtain ⟨⟨_, _⟩, hch, rfl, -⟩ := hch
    obtain ⟨-, rfl⟩ := removeDex_eq_ok.mp hch
    exact h.removeDex _
  case addDexPair dex pair =>
    obtain ⟨_, hch, rfl, -⟩ := hch
    obtain ⟨d, hd, h0, h1, hnew, rfl⟩ := addDexPair_eq_ok.mp hch
    exact h.putDex hd rfl ((h.dexes d (dex?_spec hd).1).append h0 h1 hnew)
  case removeDexPair dex id =>
    obtain ⟨⟨_, _⟩, hch, rfl, -⟩ := hch
    obtain ⟨d, hd, -, rfl⟩ := removeDexPair_eq_ok.mp hch
    exact h.putDex hd rfl ((h.dexes d (dex?_spec hd).1).shrink List.eraseP_sublist)

theorem WellFormed.after (h : t.WellFormed) (change : TopologyChange) :
    (t.after change).WellFormed := by
  unfold Topology.after
  split
  · exact h.change ‹_›
  · exact h

/-- Whatever changes are tried on a well-formed topology, it stays well formed. -/
theorem WellFormed.run (h : t.WellFormed) (changes : List TopologyChange) :
    (t.afterAll changes).WellFormed := by
  induction changes generalizing t with
  | nil => exact h
  | cons change rest ih => exact ih (h.after change)

/-- Every topology that changes lead to from the empty one is well formed. -/
theorem wellFormed_afterAll (changes : List TopologyChange) :
    (empty.afterAll changes).WellFormed :=
  wellFormed_empty.run changes

end Topology

end Interchain
