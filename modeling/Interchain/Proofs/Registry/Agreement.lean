import Interchain.Proofs.Registry.Gateway

/-!
# The client of the registry contract and the registry in memory

Whatever is asked of the registry contract through a gateway has the outcome that it has
on a registry in memory.  The arguments of a call reach the contract as they were given,
a call that is refused is not sent for good and one that is not is carried out once, and
refusals and the graph come back as they are.
-/

namespace Interchain

open Codec

namespace RegistryMethod

variable {m : RegistryMethod} {name : String} {form : Form} {o : Json.Order}

/-- Arguments that the fields of a method carry are read as they were given. -/
theorem read?_arranged {vs : Values m.fields} (hm : all.find? (fun m => m.name == name) = some m)
    (h : Values.Carried form o 2 m.fields vs) :
    read? form name ((Json.array (Values.items m.fields vs)).arranged o) = some (m.make vs) := by
  have hargs := tuple_carries "arguments" h
  have hread : m.arguments ((Json.array (Values.items m.fields vs)).arranged o) form = .ok vs := by
    cases form with
    | text => exact hargs.ofText_compact (by decide)
    | value => exact hargs.read
  rw [read?, hm]
  simp only [hread]
  rfl

/-- Every registration is a method with its arguments. -/
theorem exists_of_registration (form : Form) (x : Registration) : ∃ m,
    all.find? (fun m => m.name == x.method) = some m ∧ ∃ vs, x.args = Values.items m.fields vs ∧
      Values.Carried form .sorted 2 m.fields vs ∧ m.make vs = .register x := by
  cases x with
  | registerChain info =>
    exact ⟨_, rfl, (info, ()), rfl, ⟨ChainInfo.carries _, trivial⟩, rfl⟩
  | unregisterChain name =>
    exact ⟨_, rfl, (name, ()), rfl, ⟨ChainName.carries _, trivial⟩, rfl⟩
  | registerAsset chain asset | unregisterAsset chain asset | setNative chain asset
  | setStable chain asset =>
    exact ⟨_, rfl, (chain, asset, ()), rfl,
      ⟨ChainName.carries _, AssetInfo.carries _, trivial⟩, rfl⟩
  | setEndpoint chain endpoint =>
    exact ⟨_, rfl, (chain, endpoint, ()), rfl,
      ⟨ChainName.carries _, string_carries _, trivial⟩, rfl⟩
  | registerBridge name chain0 chain1 =>
    exact ⟨_, rfl, (name, chain0, chain1, ()), rfl,
      ⟨Name.carries _, ChainName.carries _, ChainName.carries _, trivial⟩, rfl⟩
  | unregisterBridge name | unregisterDex name =>
    exact ⟨_, rfl, (name, ()), rfl, ⟨Name.carries _, trivial⟩, rfl⟩
  | addBridgeAsset bridge pair | removeBridgeAsset bridge pair =>
    exact ⟨_, rfl, (bridge, pair, ()), rfl, ⟨Name.carries _, AssetPair.carries _, trivial⟩, rfl⟩
  | registerDex name id chain =>
    exact ⟨_, rfl, (name, id, chain, ()), rfl,
      ⟨Name.carries _, Blob.carries _, ChainName.carries _, trivial⟩, rfl⟩
  | addDexPair dex pair | removeDexPair dex pair =>
    exact ⟨_, rfl, (dex, pair, ()), rfl, ⟨Name.carries _, DexPair.carries _, trivial⟩, rfl⟩

/-- A registration is read as it was sent. -/
theorem read?_register (x : Registration) :
    read? form x.method (Json.array x.args).canonical = some (.register x) := by
  obtain ⟨m, hm, vs, hargs, hvs, hmake⟩ := exists_of_registration form x
  have hread := read?_arranged hm hvs
  rwa [← hargs, hmake] at hread

/-- The query for the graph is read as it was sent. -/
theorem read?_getGraph : read? form "get_graph" (.array []) = some .getGraph :=
  have hvs : Values.Carried form .written 2 [] () := trivial
  read?_arranged (m := ⟨"get_graph", [], fun _ => .getGraph⟩) rfl hvs

end RegistryMethod

/-- The code of a refusal by the topology stands for that refusal. -/
theorem RegistryError.ofCode_code (e : TopologyError) :
    ofCode (ofTopology e).code = ofTopology e := by
  cases e <;> rfl

theorem Registry.ofCode_code_of_register {t : Topology} {x : Registration} {e : RegistryError}
    (h : register t x = .error e) : RegistryError.ofCode e.code = e := by
  unfold register at h
  split at h
  · cases h
  · cases h
    exact RegistryError.ofCode_code _

namespace RegistryGateway

variable {g : RegistryGateway} {c : ContractClient} {x : Registration} {sent : List Request}

/-- A request that carries a registration, with or without limits. -/
def request (c : ContractClient) (url : Url) (x : Registration) (gas : Option UInt64)
    (deposit : Option (BitVec 128)) : Request :=
  ⟨url, c.origin, x.method, (Json.array x.args).canonical, gas, deposit⟩

theorem asked?_request {url : Url} {action : Action} (h : g.route url = some action)
    (gas : Option UInt64) (deposit : Option (BitVec 128)) :
    g.asked? (request c url x gas deposit) = some (action, .register x) := by
  simp [asked?, request, h, RegistryMethod.read?_register]

/-- An estimate leaves the registry as it is. -/
theorem after_estimate {url : Url} (h : g.route url = some .estimate) (t : Topology)
    (gas : Option UInt64) (deposit : Option (BitVec 128)) :
    g.after t (request c url x gas deposit) = t := by
  simp [after, asked?_request h]

/-- A registration that is sent for good is carried out, if it is not refused. -/
theorem after_tx {url : Url} (h : g.route url = some .tx) (t : Topology)
    (gas : Option UInt64) (deposit : Option (BitVec 128)) :
    g.after t (request c url x gas deposit) = (Registry.call t (.register x)).2 := by
  simp [after, asked?_request h]

/-- The client reads the outcome of the registration on a copy from an estimate. -/
theorem readReply_estimate (c : ContractClient) (x : Registration) (sent : List Request) {url : Url}
    (h : g.route url = some .estimate) :
    ContractClient.readReply (CostEstimate.codec opaqueValue) url
        (g.reply sent (request c url x none none)) =
      .ok ⟨g.gas (sent ++ [request c url x none none]),
        g.deposit (sent ++ [request c url x none none]), outcome (g.topology sent) x .null⟩ := by
  have hresult : (Codec.outcome opaqueValue opaqueValue).Carries .text .written 1
      (outcome (g.topology sent) x .null) := by
    unfold outcome
    cases Registry.register (g.topology sent) x with
    | ok t => exact outcome_carries_ok opaqueValue_carries_null
    | error e => exact outcome_carries_error (opaqueValue_carries_string _)
  simp only [reply, asked?_request h]
  exact ContractClient.readReply_success (CostEstimate.carries hresult) (by decide) url

/-- The client reads the receipt of a registration that was carried out. -/
theorem readReply_tx (c : ContractClient) (x : Registration) (sent : List Request) {url : Url}
    (h : g.route url = some .tx) (gas : Option UInt64) (deposit : Option (BitVec 128)) :
    ContractClient.readReply (Codec.outcome opaqueValue TxReceipt.codec) url
        (g.reply sent (request c url x gas deposit)) =
      .ok (outcome (g.topology sent) x (g.receipt (sent ++ [request c url x gas deposit]))) := by
  have hresult (r : TxReceipt) : (Codec.outcome opaqueValue TxReceipt.codec).Carries .text .written
      2 (outcome (g.topology sent) x r) := by
    unfold outcome
    cases Registry.register (g.topology sent) x with
    | ok t => exact outcome_carries_ok (TxReceipt.carries r)
    | error e => exact outcome_carries_error (opaqueValue_carries_string _)
  simp only [reply, asked?_request h]
  exact ContractClient.readReply_success (hresult _) (by decide) url

/-- A refused registration is not sent for good. -/
theorem run_register_of_error (hg : g.Serves c) {e : RegistryError}
    (h : Registry.register (g.topology sent) x = .error e) :
    ∃ request, (RegistryClient.register c x).run g.gateway sent = (.error e, sent ++ [request]) ∧
      g.topology (sent ++ [request]) = g.topology sent := by
  obtain ⟨url, hurl, hs, hroute⟩ := hg .estimate
  refine ⟨request c url x none none, ?_, ?_⟩
  · have hread := readReply_estimate c x sent hroute
    rw [← gateway_concat] at hread
    have hrun := ContractClient.run_transaction_of_error hurl hs hread
      (show outcome (g.topology sent) x Json.null = .error e.code by rw [outcome, h]; rfl)
    rw [RegistryClient.register, Exchange.run_bind, hrun]
    simp only [Except.mapError, RegistryError.ofCall, Registry.ofCode_code_of_register h]
    rfl
  · rw [topology_concat, after_estimate hroute]

/-- A registration that is not refused is carried out once. -/
theorem run_register_of_ok (hg : g.Serves c) {t : Topology}
    (h : Registry.register (g.topology sent) x = .ok t) :
    ∃ estimate tx,
      (RegistryClient.register c x).run g.gateway sent = (.ok (), sent ++ [estimate] ++ [tx]) ∧
      g.topology (sent ++ [estimate] ++ [tx]) = t := by
  obtain ⟨url, hurl, hs, hroute⟩ := hg .estimate
  obtain ⟨url', hurl', hs', hroute'⟩ := hg .tx
  let estimate := request c url x none none
  let gas := some (g.gas (sent ++ [estimate]))
  let deposit := g.deposit (sent ++ [estimate])
  have hsame : g.topology (sent ++ [estimate]) = g.topology sent := by
    rw [topology_concat, after_estimate hroute]
  refine ⟨estimate, request c url' x gas deposit, ?_, ?_⟩
  · have hread := readReply_estimate c x sent hroute
    rw [← gateway_concat] at hread
    have hrun := ContractClient.run_transaction_of_ok hurl hs hread
      (show outcome (g.topology sent) x Json.null = .ok .null by rw [outcome, h]; rfl) hurl' hs'
    have htx := readReply_tx c x (sent ++ [estimate]) hroute' gas deposit
    rw [← gateway_concat, hsame, outcome, h] at htx
    have hreceipt : ContractClient.verdict (ContractClient.readReply
        (Codec.outcome opaqueValue TxReceipt.codec) url'
        (g.gateway (sent ++ [estimate] ++ [request c url' x gas deposit]))) =
        .ok (g.receipt (sent ++ [estimate] ++ [request c url' x gas deposit])) := by
      rw [htx]
      rfl
    rw [RegistryClient.register, Exchange.run_bind, hrun]
    exact congrArg (fun r => ((Except.mapError RegistryError.ofCall r).map fun _ => (),
      sent ++ [estimate] ++ [request c url' x gas deposit])) hreceipt
  · rw [topology_concat, hsame, after_tx hroute', Registry.call, h]

/-- The graph is shown as it is. -/
theorem run_getGraph (hg : g.Serves c) (sent : List Request) :
    ∃ request,
      (RegistryClient.getGraph c).run g.gateway sent =
        (.ok (g.topology sent).graph, sent ++ [request]) ∧
      g.topology (sent ++ [request]) = g.topology sent := by
  obtain ⟨url, hurl, hs, hroute⟩ := hg .query
  let request : Request := ⟨url, c.unlimited "get_graph" (.array [])⟩
  have hasked : g.asked? request = some (.query, .getGraph) := by
    simp [asked?, request, ContractClient.unlimited, hroute, RegistryMethod.read?_getGraph]
  refine ⟨request, ?_, ?_⟩
  · have hread : ContractClient.readReply (Codec.outcome opaqueValue Graph.codec) url
        (g.gateway (sent ++ [request])) = .ok (.ok (g.topology sent).graph) := by
      have hgraph : (Codec.outcome opaqueValue Graph.codec).Carries .text .written 6
          (.ok (g.topology sent).graph) := outcome_carries_ok (Graph.carries _)
      rw [gateway_concat, reply, hasked]
      exact ContractClient.readReply_success hgraph (by decide) url
    simp only [RegistryClient.getGraph, ContractClient.query, Exchange.run_bind,
      ContractClient.run_post hurl hs]
    exact congrArg (fun r => (Except.mapError RegistryError.ofCall (ContractClient.verdict r),
      sent ++ [request])) hread
  · rw [topology_concat, after, hasked]

/-- A call through the gateway has the outcome that it has on the registry in memory, and
leaves the gateway's registry as it leaves that one. -/
theorem run_call (hg : g.Serves c) (call : RegistryCall) (sent : List Request) :
    ((RegistryClient.call c call).run g.gateway sent).1 =
        (Registry.call (g.topology sent) call).1 ∧
      g.topology ((RegistryClient.call c call).run g.gateway sent).2 =
        (Registry.call (g.topology sent) call).2 := by
  cases call with
  | getGraph =>
    obtain ⟨request, hrun, hsame⟩ := run_getGraph hg sent
    simp only [RegistryClient.call, Exchange.run_bind, hrun]
    exact ⟨rfl, hsame⟩
  | register x =>
    cases h : Registry.register (g.topology sent) x with
    | ok t =>
      obtain ⟨estimate, tx, hrun, ht⟩ := run_register_of_ok hg h
      simp only [RegistryClient.call, Exchange.run_bind, hrun, Registry.call, h]
      exact ⟨rfl, ht⟩
    | error e =>
      obtain ⟨request, hrun, hsame⟩ := run_register_of_error hg h
      simp only [RegistryClient.call, Exchange.run_bind, hrun, Registry.call, h]
      exact ⟨rfl, hsame⟩

end RegistryGateway

/-- Answer calls from a registry in memory, one after the other. -/
def Registry.callAll (t : Topology) :
    List RegistryCall → List (Except RegistryError RegistryAnswer) × Topology
  | [] => ([], t)
  | call :: rest =>
    let (answer, t) := Registry.call t call
    let (answers, t) := callAll t rest
    (answer :: answers, t)

/-- Make calls of the contract, one after the other. -/
def RegistryClient.callAll (c : ContractClient) :
    List RegistryCall → Exchange (List (Except RegistryError RegistryAnswer))
  | [] => return []
  | call :: rest => do
    let answer ← RegistryClient.call c call
    let answers ← callAll c rest
    return answer :: answers

/-- Calls through a gateway that serves the client have, one by one, the outcomes that
they have on the gateway's registry as one in memory, and both registries end the
same. -/
theorem RegistryGateway.agrees {g : RegistryGateway} {c : ContractClient} (hg : g.Serves c)
    (calls : List RegistryCall) (sent : List Request) :
    ((RegistryClient.callAll c calls).run g.gateway sent).1 =
        (Registry.callAll (g.topology sent) calls).1 ∧
      g.topology ((RegistryClient.callAll c calls).run g.gateway sent).2 =
        (Registry.callAll (g.topology sent) calls).2 := by
  induction calls generalizing sent with
  | nil => exact ⟨rfl, rfl⟩
  | cons call rest ih =>
    obtain ⟨hanswer, htopology⟩ := run_call hg call sent
    obtain ⟨hanswers, hend⟩ := ih ((RegistryClient.call c call).run g.gateway sent).2
    rw [htopology] at hanswers hend
    simp only [RegistryClient.callAll, Registry.callAll, Exchange.run_bind, Exchange.run_pure]
    constructor
    · rw [hanswer, hanswers]
    · exact hend

/-- A client of a gateway on this machine. -/
def RegistryClient.sample : ContractClient :=
  ⟨⟨"http", "", "", some "localhost", some 8080, .segments "/", none, none⟩,
    ⟨"registry"⟩, "//Alice"⟩

/-- The address of an action for that client. -/
def RegistryClient.sampleAddress (action : Action) : Url :=
  { sample.base with path := .segments ("/contracts/registry/" ++ action.label) }

/-- A gateway for that client, behind which nothing is registered. -/
def RegistryGateway.sample : RegistryGateway where
  start := .empty
  form := .text
  route url :=
    [Action.query, .estimate, .tx].find? fun action => RegistryClient.sampleAddress action == url
  gas sent := UInt64.ofNat (5000 * sent.length)
  deposit _ := some (BitVec.allOnes 128)
  receipt sent := ⟨"0x" ++ Decimal.naturalText sent.length, some 1⟩
  otherwise _ := .closed

/-- An asset is registered on a chain whose name is spelled another way, and then again. -/
def RegistryClient.sampleCalls : List RegistryCall :=
  [.register (.registerChain (.plain ⟨"Ethereum"⟩ .evm "https://eth.example")),
   .register (.registerAsset ⟨"ETHEREUM"⟩ ⟨"Ether \"wrapped\"", "WETH", 18, ⟨[0xc0, 0x2a]⟩⟩),
   .register (.registerAsset ⟨"ethereum"⟩ ⟨"Ether", "ETH", 18, ⟨[0xc0, 0x2a]⟩⟩), .getGraph]

theorem RegistryGateway.agrees_sample :
    sample.Serves RegistryClient.sample ∧
      ((RegistryClient.callAll RegistryClient.sample RegistryClient.sampleCalls).run
        sample.gateway []).1 =
        [.ok .done, .ok .done, .error .assetAlreadyRegistered,
         .ok (.graph
          ⟨[⟨⟨"Ethereum"⟩, ⟨[0xc0, 0x2a]⟩, "Ether \"wrapped\"", "WETH", 18⟩], [], []⟩)] := by
  have hserves : sample.Serves RegistryClient.sample := by
    intro action
    refine ⟨RegistryClient.sampleAddress action, ?_⟩
    cases action <;> decide +kernel
  refine ⟨hserves, (agrees hserves RegistryClient.sampleCalls []).1.trans ?_⟩
  rfl

end Interchain
