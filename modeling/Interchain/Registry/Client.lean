import Interchain.Gateway.Contract
import Interchain.Registry.Call

/-!
# The registry contract

A registration is a writing call of the contract, named for what it does, with
the records it concerns as arguments.
-/

namespace Interchain

/-- The method of the contract. -/
def Registration.method : Registration → String
  | .registerChain _ => "register_chain"
  | .unregisterChain _ => "unregister_chain"
  | .registerAsset _ _ => "register_asset"
  | .unregisterAsset _ _ => "unregister_asset"
  | .setNative _ _ => "set_chain_native"
  | .setStable _ _ => "set_chain_stable"
  | .setEndpoint _ _ => "set_chain_endpoint"
  | .registerBridge _ _ _ => "register_bridge"
  | .unregisterBridge _ => "unregister_bridge"
  | .addBridgeAsset _ _ => "add_bridge_asset"
  | .removeBridgeAsset _ _ => "remove_bridge_asset"
  | .registerDex _ _ _ => "register_dex"
  | .unregisterDex _ => "unregister_dex"
  | .addDexPair _ _ => "add_dex_pair"
  | .removeDexPair _ _ => "remove_dex_pair"

/-- The arguments of the method. -/
def Registration.args : Registration → List Json
  | .registerChain info => [ChainInfo.codec.write info]
  | .unregisterChain name => [ChainName.codec.write name]
  | .registerAsset chain asset => [ChainName.codec.write chain, AssetInfo.codec.write asset]
  | .unregisterAsset chain asset => [ChainName.codec.write chain, AssetInfo.codec.write asset]
  | .setNative chain asset => [ChainName.codec.write chain, AssetInfo.codec.write asset]
  | .setStable chain asset => [ChainName.codec.write chain, AssetInfo.codec.write asset]
  | .setEndpoint chain endpoint => [ChainName.codec.write chain, .string endpoint]
  | .registerBridge name chain0 chain1 =>
    [Name.codec.write name, ChainName.codec.write chain0, ChainName.codec.write chain1]
  | .unregisterBridge name => [Name.codec.write name]
  | .addBridgeAsset bridge pair => [Name.codec.write bridge, AssetPair.codec.write pair]
  | .removeBridgeAsset bridge pair => [Name.codec.write bridge, AssetPair.codec.write pair]
  | .registerDex name id chain =>
    [Name.codec.write name, Blob.codec.write id, ChainName.codec.write chain]
  | .unregisterDex name => [Name.codec.write name]
  | .addDexPair dex pair => [Name.codec.write dex, DexPair.codec.write pair]
  | .removeDexPair dex pair => [Name.codec.write dex, DexPair.codec.write pair]

namespace RegistryClient

/-- Ask the contract to carry out a registration. -/
def register (c : ContractClient) (r : Registration) : Exchange (Except RegistryError Unit) := do
  let result ← c.transaction r.method (Json.array r.args).canonical Codec.opaqueValue
  return (result.mapError RegistryError.ofCall).map fun _ => ()

/-- The graph that the contract shows. -/
def getGraph (c : ContractClient) : Exchange (Except RegistryError Graph) := do
  let result ← c.query "get_graph" (.array []) Codec.opaqueValue Graph.codec
  return result.mapError RegistryError.ofCall

/-- Make a call of the contract. -/
def call (c : ContractClient) : RegistryCall → Exchange (Except RegistryError RegistryAnswer)
  | .register r => do
    let result ← register c r
    return result.map fun _ => .done
  | .getGraph => do
    let result ← getGraph c
    return result.map .graph

end RegistryClient

end Interchain
