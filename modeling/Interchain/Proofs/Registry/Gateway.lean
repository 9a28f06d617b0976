import Interchain.Proofs.Gateway.Contract
import Interchain.Proofs.Json.Records
import Interchain.Registry.Client

/-!
# A registry behind a gateway

What stands at the other end of the client of the registry contract: a gateway that
reads the method and the arguments of a request as a call of a registry in memory.
It answers an estimate with the outcome on a copy, makes the call when it is sent
for good, and shows the graph on a query.  What such a gateway is free to choose is
left open.
-/

namespace Interchain

/-- A method of the contract: its name, its arguments, and the call that it makes of
them. -/
structure RegistryMethod where
  name : String
  fields : List Field
  make : Values fields → RegistryCall

namespace RegistryMethod

/-- A method about something with a name. -/
def onName {kind : NameKind} (name : String) (make : Name kind → Registration) :
    RegistryMethod :=
  ⟨name, [.required "name" Name.codec], fun v => .register (make v.1)⟩

/-- A method about an asset on a chain. -/
def onAsset (name : String) (make : ChainName → AssetInfo → Registration) : RegistryMethod :=
  ⟨name, [.required "chain" ChainName.codec, .required "asset" AssetInfo.codec],
    fun v => .register (make v.1 v.2.1)⟩

/-- A method about a pair that a bridge carries. -/
def onBridgePair (name : String) (make : BridgeName → AssetPair → Registration) :
    RegistryMethod :=
  ⟨name, [.required "bridge" (Name.codec : Codec BridgeName), .required "pair" AssetPair.codec],
    fun v => .register (make v.1 v.2.1)⟩

/-- A method about a pool that a dex trades. -/
def onDexPair (name : String) (make : DexName → DexPair → Registration) : RegistryMethod :=
  ⟨name, [.required "dex" (Name.codec : Codec DexName), .required "pair" DexPair.codec],
    fun v => .register (make v.1 v.2.1)⟩

/-- The methods of the contract. -/
def all : List RegistryMethod :=
  [⟨"register_chain", [.required "info" ChainInfo.codec], fun v => .register (.registerChain v.1)⟩,
   ⟨"unregister_chain", [.required "name" ChainName.codec],
     fun v => .register (.unregisterChain v.1)⟩,
   onAsset "register_asset" .registerAsset, onAsset "unregister_asset" .unregisterAsset,
   onAsset "set_chain_native" .setNative, onAsset "set_chain_stable" .setStable,
   ⟨"set_chain_endpoint", [.required "chain" ChainName.codec, .required "endpoint" .string],
     fun v => .register (.setEndpoint v.1 v.2.1)⟩,
   ⟨"register_bridge", [.required "name" (Name.codec : Codec BridgeName),
       .required "chain0" ChainName.codec, .required "chain1" ChainName.codec],
     fun v => .register (.registerBridge v.1 v.2.1 v.2.2.1)⟩,
   onName "unregister_bridge" .unregisterBridge,
   onBridgePair "add_bridge_asset" .addBridgeAsset,
   onBridgePair "remove_bridge_asset" .removeBridgeAsset,
   ⟨"register_dex", [.required "name" (Name.codec : Codec DexName),
       .required "id" (Blob.codec : Codec PoolId), .required "chain" ChainName.codec],
     fun v => .register (.registerDex v.1 v.2.1 v.2.2.1)⟩,
   onName "unregister_dex" .unregisterDex, onDexPair "add_dex_pair" .addDexPair,
   onDexPair "remove_dex_pair" .removeDexPair, ⟨"get_graph", [], fun _ => .getGraph⟩]

/-- Read the arguments of a method, from their text or as an opaque value. -/
def arguments (m : RegistryMethod) (args : Json) : Form → Except Fault (Values m.fields)
  | .text => (Codec.tuple "arguments" m.fields).ofText args.compact
  | .value => (Codec.tuple "arguments" m.fields).ofValue args

/-- Read a call from the name of its method and its arguments. -/
def read? (form : Form) (name : String) (args : Json) : Option RegistryCall :=
  match all.find? fun m => m.name == name with
  | some m => (m.arguments args form).toOption.map m.make
  | none => none

end RegistryMethod

/-- The code that stands for a refusal: its name. -/
def RegistryError.code (e : RegistryError) : Json :=
  .string (((named.find? fun n => n.2 == e).map Prod.fst).getD "")

/-- A gateway with a registry in memory behind it. -/
structure RegistryGateway where
  /-- What is registered at first. -/
  start : Topology
  /-- How the arguments of requests are read. -/
  form : Form
  /-- What is asked for at an address. -/
  route : Url → Option Action
  /-- The gas that an estimate requires, after the requests received. -/
  gas : List Request → UInt64
  /-- The deposit that an estimate names. -/
  deposit : List Request → Option (BitVec 128)
  /-- The receipt of a call that was made. -/
  receipt : List Request → TxReceipt
  /-- What is replied to a request that asks for no call. -/
  otherwise : List Request → Reply

namespace RegistryGateway

/-- What a request asks for. -/
def asked? (g : RegistryGateway) (r : Request) : Option (Action × RegistryCall) := do
  let action ← g.route r.url
  let call ← RegistryMethod.read? g.form r.call.method r.call.args
  return (action, call)

/-- The registry after a request: only a registration that is sent for good changes it. -/
def after (g : RegistryGateway) (t : Topology) (r : Request) : Topology :=
  match g.asked? r with
  | some (.tx, .register x) => (Registry.call t (.register x)).2
  | _ => t

/-- The registry after the requests that were sent. -/
def topology (g : RegistryGateway) (sent : List Request) : Topology :=
  sent.foldl g.after g.start

/-- The outcome of a registration, with `a` for one that is accepted. -/
def outcome {α : Type} (t : Topology) (x : Registration) (a : α) : Except Json α :=
  ((Registry.register t x).map fun _ => a).mapError RegistryError.code

/-- The reply to a request after those that were sent before. -/
def reply (g : RegistryGateway) (before : List Request) (r : Request) : Reply :=
  let t := g.topology before
  let sent := before ++ [r]
  match g.asked? r with
  | some (.query, .getGraph) => Reply.success (.outcome Codec.opaqueValue Graph.codec) (.ok t.graph)
  | some (.estimate, .register x) =>
    Reply.success (CostEstimate.codec Codec.opaqueValue)
      ⟨g.gas sent, g.deposit sent, outcome t x .null⟩
  | some (.tx, .register x) =>
    Reply.success (.outcome Codec.opaqueValue TxReceipt.codec) (outcome t x (g.receipt sent))
  | _ => g.otherwise sent

/-- The gateway as it replies to the last of the requests that were sent. -/
def gateway (g : RegistryGateway) : Gateway := fun sent =>
  match sent.getLast? with
  | some r => g.reply sent.dropLast r
  | none => .closed

@[simp] theorem gateway_concat (g : RegistryGateway) (sent : List Request) (r : Request) :
    g.gateway (sent ++ [r]) = g.reply sent r := by
  simp [gateway]

@[simp] theorem topology_concat (g : RegistryGateway) (sent : List Request) (r : Request) :
    g.topology (sent ++ [r]) = g.after (g.topology sent) r := by
  simp [topology]

/-- The client's addresses are those where the gateway expects its queries, estimates
and transactions, and requests can be sent to them. -/
def Serves (g : RegistryGateway) (c : ContractClient) : Prop :=
  ∀ action : Action, ∃ url,
    c.base.resolve? ("contracts/" ++ c.contract.text ++ "/" ++ action.label) = some url ∧
      url.isSendable = true ∧ g.route url = some action

end RegistryGateway

end Interchain
