import Interchain.Proofs.Topology.Share
import Interchain.Registry.Call

/-!
# Clients that share a registry

Clients that name no chain, bridge or dex in common do not notice each other on a registry
that they share: however their registrations are interleaved, each is answered as if it were
alone, and leaves what it would have left alone.  Each client has a share of the topology,
the part under the names that it uses.  Its own registrations do to the share what they do to
the whole, and those of the others leave it as it was.
-/

namespace Interchain

/-- Two registrations name no chain, bridge or dex in common. -/
structure Registration.Apart (x y : Registration) : Prop where
  chains : ∀ m ∈ x.change.chains, ∀ n ∈ y.change.chains, m.same n = false
  bridges : ∀ m ∈ x.change.bridges, ∀ n ∈ y.change.bridges, m ≠ n
  dexes : ∀ m ∈ x.change.dexes, ∀ n ∈ y.change.dexes, m ≠ n

instance (x y : Registration) : Decidable (x.Apart y) :=
  decidable_of_iff
    ((∀ m ∈ x.change.chains, ∀ n ∈ y.change.chains, m.same n = false) ∧
      (∀ m ∈ x.change.bridges, ∀ n ∈ y.change.bridges, m ≠ n) ∧
      ∀ m ∈ x.change.dexes, ∀ n ∈ y.change.dexes, m ≠ n)
    ⟨fun ⟨hc, hb, hd⟩ => ⟨hc, hb, hd⟩, fun ⟨hc, hb, hd⟩ => ⟨hc, hb, hd⟩⟩

/-! ## The share of a client -/

/-- The names that occur in registrations, the chains in any spelling. -/
def Share.named (registrations : List Registration) : Share where
  chain n := registrations.any fun x => x.change.chains.any fun m => m.same n
  bridge n := registrations.any fun x => x.change.bridges.contains n
  dex n := registrations.any fun x => x.change.dexes.contains n
  spelling := by
    intro _ _ h
    simp only [ChainName.same_congr h]

namespace Share

variable {registrations : List Registration} {x : Registration}

/-- A registration names only what is named. -/
theorem sides_named (h : x ∈ registrations) : (named registrations).Sides true x.change where
  chains n hn := List.any_eq_true.mpr ⟨x, h, List.any_eq_true.mpr ⟨n, hn, n.same_refl⟩⟩
  bridges _ hn := List.any_eq_true.mpr ⟨x, h, List.contains_iff_mem.mpr hn⟩
  dexes _ hn := List.any_eq_true.mpr ⟨x, h, List.contains_iff_mem.mpr hn⟩

/-- A registration names nothing that is named only in others. -/
theorem sides_named_of_apart (h : ∀ y ∈ registrations, x.Apart y) :
    (named registrations).Sides false x.change where
  chains n hn := by
    simp only [named, List.any_eq_false]
    intro y hy hany
    obtain ⟨m, hm, hs⟩ := List.any_eq_true.mp hany
    rw [ChainName.same_comm, (h y hy).chains n hn m hm] at hs
    cases hs
  bridges n hn := by
    simp only [named, List.any_eq_false]
    intro y hy hmem
    exact (h y hy).bridges n hn n (List.contains_iff_mem.mp hmem) rfl
  dexes n hn := by
    simp only [named, List.any_eq_false]
    intro y hy hmem
    exact (h y hy).dexes n hn n (List.contains_iff_mem.mp hmem) rfl

end Share

namespace Registry

/-! ## One registration -/

section Call

variable {t : Topology} {s : Share} {r : Registration}

/-- A registration on the share of the client that makes it is answered as on the whole. -/
theorem call_within (h : t.Splits s) (hs : s.Sides true r.change) :
    call (t.within s) (.register r) =
      ((call t (.register r)).1, (call t (.register r)).2.within s) := by
  simp only [call, register, Topology.change_within h hs]
  cases t.change r.change <;> rfl

/-- A registration of another client leaves the share as it was. -/
theorem within_call (h : t.Splits s) (hs : s.Sides false r.change) :
    (call t (.register r)).2.within s = t.within s := by
  simp only [call, register]
  cases hch : t.change r.change with
  | error e => rfl
  | ok p => exact Topology.within_of_change h hs hch

theorem splits_call {side : Bool} (h : t.Splits s) (hs : s.Sides side r.change) :
    (call t (.register r)).2.Splits s := by
  simp only [call, register]
  cases hch : t.change r.change with
  | error e => exact h
  | ok p => exact h.change hs hch

end Call

/-! ## Registrations of several clients -/

section Serve

variable {κ : Type}

/-- Answer registrations of several clients in the order in which they come.  Each answer
goes to the client that made the registration. -/
def serve (t : Topology) : List (κ × Registration) →
    List (κ × Except RegistryError RegistryAnswer) × Topology
  | [] => ([], t)
  | (client, r) :: rest =>
    let (answer, t) := call t (.register r)
    let (answers, t) := serve t rest
    ((client, answer) :: answers, t)

variable [DecidableEq κ]

/-- What comes from a client or goes to it. -/
def concerning {α : Type} (client : κ) (xs : List (κ × α)) : List (κ × α) :=
  xs.filter fun x => x.1 = client

/-- The share of a client goes through its own registrations alone. -/
theorem serve_within {s : Share} {client : κ} {calls : List (κ × Registration)} {t : Topology}
    (h : t.Splits s) (hs : ∀ x ∈ calls, s.Sides (decide (x.1 = client)) x.2.change) :
    serve (t.within s) (concerning client calls) =
        (concerning client (serve t calls).1, (serve t calls).2.within s) ∧
      (serve t calls).2.Splits s := by
  -- That the topology stays split carries the induction: without it a removal by one client could
  -- reach what another has registered.
  induction calls generalizing t with
  | nil => exact ⟨rfl, h⟩
  | cons x rest ih =>
    obtain ⟨k, r⟩ := x
    have hr := hs (k, r) List.mem_cons_self
    obtain ⟨hserve, hsplits⟩ := ih (splits_call h hr) fun x hx => hs x (List.mem_cons_of_mem _ hx)
    refine ⟨?_, hsplits⟩
    by_cases hk : k = client
    case pos =>
      simp only [hk, decide_true] at hr
      have hown : concerning client ((k, r) :: rest) = (k, r) :: concerning client rest := by
        simp [concerning, hk]
      rw [hown]
      simp only [serve, call_within h hr, hserve]
      simp [concerning, hk]
    case neg =>
      simp only [hk, decide_false] at hr
      have hother : concerning client ((k, r) :: rest) = concerning client rest := by
        simp [concerning, hk]
      rw [within_call h hr] at hserve
      rw [hother, hserve]
      simp [serve, concerning, hk]

/-- However the registrations of clients that name nothing in common are interleaved on a
registry that is empty at first, each client has the answers that it has alone.  In the end
the graph of its chains is the graph that it leaves alone, and no bridge joins one of its
chains to one of the others'. -/
theorem independent (calls : List (κ × Registration))
    (hapart : ∀ x ∈ calls, ∀ y ∈ calls, x.1 ≠ y.1 → x.2.Apart y.2) (client : κ) :
    let shared := serve Topology.empty calls
    let alone := serve Topology.empty (concerning client calls)
    let own := (Share.named ((concerning client calls).map Prod.snd)).chain
    concerning client shared.1 = alone.1 ∧ shared.2.graph.restrict own = alone.2.graph ∧
      ∀ b ∈ shared.2.graph.bridges, own b.chain0 = own b.chain1 := by
  intro shared alone own
  let s := Share.named ((concerning client calls).map Prod.snd)
  have hsides : ∀ x ∈ calls, s.Sides (decide (x.1 = client)) x.2.change := by
    intro x hx
    by_cases hk : x.1 = client
    case pos =>
      have hown : x.2 ∈ (concerning client calls).map Prod.snd :=
        List.mem_map_of_mem (List.mem_filter.mpr ⟨hx, decide_eq_true hk⟩)
      simpa only [hk, decide_true] using Share.sides_named hown
    case neg =>
      have hothers : ∀ r ∈ (concerning client calls).map Prod.snd, x.2.Apart r := by
        intro r hr
        obtain ⟨y, hy, rfl⟩ := List.mem_map.mp hr
        obtain ⟨hy, hyk⟩ := List.mem_filter.mp hy
        exact hapart x hx y hy fun heq => hk (heq.trans (of_decide_eq_true hyk))
      simpa only [hk, decide_false] using Share.sides_named_of_apart hothers
  obtain ⟨hserve, hsplits⟩ := serve_within (Topology.splits_empty s) hsides
  rw [Topology.within_empty] at hserve
  refine ⟨(congrArg Prod.fst hserve).symm, ?_, ?_⟩
  · rw [show alone.2 = shared.2.within s from congrArg Prod.snd hserve]
    exact hsplits.graph_within.symm
  · intro e he
    obtain ⟨b, hb, rfl⟩ := List.mem_map.mp he
    exact (hsplits.chain0 b hb).trans (hsplits.chain1 b hb).symm

end Serve

/-- Two clients in turn, with the same location and the same pool identifier on either side.
The last registration takes the pool of the first client away. -/
def turns : List (Bool × Registration) :=
  let coin (symbol : String) (location : UInt8) : AssetInfo := ⟨symbol, symbol, 12, ⟨[location]⟩⟩
  let pool (symbol : String) : DexPair := ⟨⟨[7]⟩, coin symbol 1, coin "USDT" 2, 0, 0⟩
  let chain (name : String) (symbol : String) : ChainInfo :=
    ⟨⟨name⟩, .sub, some (coin symbol 1), some (coin "USDT" 2), "wss://node", none⟩
  [(true, .registerChain (chain "Khala" "PHA")),
   (false, .registerChain (chain "Astar" "ASTR")),
   (true, .registerDex ⟨"swap"⟩ ⟨[9]⟩ ⟨"KHALA"⟩),
   (false, .registerDex ⟨"trade"⟩ ⟨[9]⟩ ⟨"ASTAR"⟩),
   (false, .addDexPair ⟨"trade"⟩ (pool "ASTR")),
   (true, .addDexPair ⟨"swap"⟩ (pool "PHA")),
   (false, .addDexPair ⟨"trade"⟩ (pool "ASTR")),
   (true, .unregisterAsset ⟨"khala"⟩ (coin "PHA" 1))]

theorem independent_turns :
    (∀ x ∈ turns, ∀ y ∈ turns, x.1 ≠ y.1 → x.2.Apart y.2) ∧
      concerning false (serve Topology.empty turns).1 =
        [(false, .ok .done), (false, .ok .done), (false, .ok .done),
         (false, .error (.ofTopology (.duplicatePair "trade")))] ∧
      (serve Topology.empty turns).2.graph.restrict
          (Share.named ((concerning false turns).map Prod.snd)).chain =
        (serve Topology.empty (concerning false turns)).2.graph := by
  have hapart : ∀ x ∈ turns, ∀ y ∈ turns, x.1 ≠ y.1 → x.2.Apart y.2 := by decide +kernel
  obtain ⟨hanswers, hgraph, -⟩ := independent turns hapart false
  exact ⟨hapart, hanswers.trans (by decide +kernel), hgraph⟩

end Registry

end Interchain
