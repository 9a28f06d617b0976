import Interchain.Cli.Command
import Interchain.Cli.Error
import Interchain.Executor
import Interchain.Registry.Client
import Interchain.Registry.Manifest
import Interchain.Scheduler.Invocation

/-!
# Carrying out commands

A command works on a configuration and speaks to the contracts that it names.
It stops at the first thing that fails.
-/

namespace Interchain.Cli

/-- What a command comes to. -/
inductive Outcome where
  /-- It is done and has printed this. -/
  | done (printed : String)
  | failed (error : Error)
  /-- The executor is running and the scheduler has been started, with the
  command that prints its tokens.  It prints nothing and does not end by
  itself. -/
  | scheduling (scheduler : Scheduler) (command : TokenCommand)
deriving DecidableEq, Repr

/-- A piece of work that speaks to contracts and may fail. -/
abbrev Work := ExceptT Error Exchange

namespace Work

/-- Speak to a contract. -/
def speak {ε α : Type} (onError : ε → Error) (x : Exchange (Except ε α)) : Work α :=
  ExceptT.mk do
    let r ← x
    return r.mapError onError

/-- Go on with a value that there may not be. -/
def demand {α : Type} (e : Error) (value : Option α) : Work α :=
  match value with
  | some a => pure a
  | none => throw e

end Work

/-- The configuration with the account that calls are made for. -/
structure Session where
  config : Config
  signer : String

namespace Session

/-- The account that calls are made for where none is named. -/
def defaultSigner : String := "//Alice"

def load (env : Environment) (files : Files) (common : Common) : Except Error Session := do
  let config ← (Config.load env files common.config).mapError .load
  return ⟨config, (common.signer.or config.signer).getD defaultSigner⟩

/-- A contract behind the configured gateway. -/
def contract (s : Session) (id : ContractId) : Work ContractClient :=
  ExceptT.mk (pure ((ContractClient.make s.config.nodeEndpoint id s.signer).mapError .transport))

def executor (s : Session) : Work ContractClient :=
  s.contract s.config.executorContract

/-- The handler of a chain. -/
def handler (s : Session) (chain : ChainName) : Work HandlerClient := do
  let chainType ← Work.demand (.unknownChainType chain) (s.config.chainType? chain)
  let endpoint ← Work.demand (.noEndpoint chain) (s.config.chainEndpoint? chain)
  let address ← Work.demand (.noHandler chain) (s.config.handler? chain)
  let contract ←
    ExceptT.mk (pure ((ContractClient.make endpoint ⟨address⟩ s.signer).mapError .transport))
  ExceptT.mk (pure ((HandlerClient.make chain chainType contract).mapError .handler))

end Session

/-- A document as it is printed. -/
def printed (j : Json) : String :=
  j.indented ++ "\n"

/-- Read a record of the kind named. -/
def readRecord {α : Type} (what : String) (codec : Codec α) (text : String) : Except Error α :=
  (codec.ofText text).mapError (.badRecord what)

/-- The registration that a command of the registry asks for; `none` if it asks
for something else. -/
def RegistryCommand.registration? : RegistryCommand → Except Error (Option Registration)
  | .graph => .ok none
  | .apply _ _ => .ok none
  | .registerChain info => do
    let info ← readRecord "chain" ChainInfo.codec info
    return some (.registerChain info)
  | .unregisterChain name => .ok (some (.unregisterChain name))
  | .registerAsset chain asset => do
    let asset ← readRecord "asset" AssetInfo.codec asset
    return some (.registerAsset chain asset)
  | .unregisterAsset chain asset => do
    let asset ← readRecord "asset" AssetInfo.codec asset
    return some (.unregisterAsset chain asset)
  | .setNative chain asset => do
    let asset ← readRecord "asset" AssetInfo.codec asset
    return some (.setNative chain asset)
  | .setStable chain asset => do
    let asset ← readRecord "asset" AssetInfo.codec asset
    return some (.setStable chain asset)
  | .setEndpoint chain endpoint => .ok (some (.setEndpoint chain endpoint))
  | .registerBridge name chain0 chain1 => .ok (some (.registerBridge name chain0 chain1))
  | .unregisterBridge name => .ok (some (.unregisterBridge name))
  | .addBridgeAsset bridge pair => do
    let pair ← readRecord "pair" AssetPair.codec pair
    return some (.addBridgeAsset bridge pair)
  | .removeBridgeAsset bridge pair => do
    let pair ← readRecord "pair" AssetPair.codec pair
    return some (.removeBridgeAsset bridge pair)
  | .registerDex name id chain => .ok (some (.registerDex name id chain))
  | .unregisterDex name => .ok (some (.unregisterDex name))
  | .addDexPair dex pair => do
    let pair ← readRecord "pair" DexPair.codec pair
    return some (.addDexPair dex pair)
  | .removeDexPair dex pair => do
    let pair ← readRecord "pair" DexPair.codec pair
    return some (.removeDexPair dex pair)

/-- Apply a manifest that is read from a file: to the contract, or to a registry
in memory that is empty before, whose graph is then printed. -/
def applyManifest (files : Files) (remote : ContractClient) (path : String) (dryRun : Bool) :
    Work String := do
  let text ← ExceptT.mk (pure ((files.readText path).mapError (.unreadable path)))
  let manifest ← ExceptT.mk (pure (readRecord "manifest" Manifest.codec text))
  if dryRun then
    let (result, topology) := manifest.applyTo Topology.empty
    let _ ← ExceptT.mk (pure (result.mapError .registry))
    return printed (Graph.codec.write topology.graph)
  else
    let _ ← Work.speak .registry (manifest.apply (RegistryClient.register remote))
    return ""

def runRegistry (s : Session) (files : Files) (command : RegistryCommand) : Work String := do
  let remote ← s.contract s.config.registryContract
  match command with
  | .graph =>
    let graph ← Work.speak .registry (RegistryClient.getGraph remote)
    return printed (Graph.codec.write graph)
  | .apply path dryRun => applyManifest files remote path dryRun
  | other =>
    let registration? ← ExceptT.mk (pure other.registration?)
    match registration? with
    | none => return ""
    | some registration =>
      Work.speak .registry (RegistryClient.register remote registration)
      return ""

/-- Give the executor its storage and its key store, and start it if asked to. -/
def setUpExecutor (s : Session) (common : Common) (resume : Bool) : Work String := do
  let executor ← s.executor
  match common.storageUrl.or s.config.storageUrl, common.storageKey with
  | some url, some key =>
    Work.speak .executor (Executor.configure executor url key s.config.keyStoreContract resume)
    if resume then Work.speak .executor (Executor.resume executor)
    return ""
  | _, _ => throw .noStorageAccess

/-- The accounts of all workers, or the one of a worker. -/
def listWorkers (s : Session) (worker : Option WorkerId) : Work String := do
  let executor ← s.executor
  let accounts ← Work.speak .executor (Executor.workerAccounts executor)
  match worker with
  | none => return printed ((Codec.list AccountInfo.codec).write accounts)
  | some w =>
    let account ← Work.demand (.workerNotFound w) (accounts.find? fun a => a.isOf w)
    return printed (AccountInfo.codec.write account)

/-- Start the scheduler, if the executor is running. -/
def runScheduler (s : Session) (common : Common) (fetch execute tokenUpdate : Option UInt64) :
    Work Outcome := do
  let settings := s.config.scheduler.withIntervals fetch execute tokenUpdate
  let config := { s.config with scheduler := settings }
  ExceptT.mk (pure (config.validate.mapError .config))
  let storageUrl ← Work.demand .noStorageUrl (common.storageUrl.or config.storageUrl)
  let command ← ExceptT.mk (pure ((TokenCommand.ofLine settings.tokenCommand).mapError .credential))
  let executor ← s.executor
  let running ←
    Work.speak (fun e => .scheduler (.executor e)) (Executor.isRunning executor)
  if running then return .scheduling ⟨settings, storageUrl, config.keyStoreContract⟩ command
  else throw (.scheduler .executorNotRunning)

/-- Carry out a command.  That of the scheduler is carried out as far as its start. -/
def runCommand (s : Session) (files : Files) (common : Common) : Command → Work Outcome
  | .runScheduler fetch execute tokenUpdate => runScheduler s common fetch execute tokenUpdate
  | .setUpExecutor resume => .done <$> setUpExecutor s common resume
  | .resumeExecutor => do
    let executor ← s.executor
    Work.speak .executor (Executor.resume executor)
    return .done ""
  | .executorStatus => do
    let executor ← s.executor
    let running ← Work.speak .executor (Executor.isRunning executor)
    return .done (if running then "running\n" else "paused\n")
  | .setExecutor => do
    let keyStore ← s.contract s.config.keyStoreContract
    let receipt ← Work.speak .keyStore (KeyStore.setExecutor keyStore s.config.executorContract)
    return .done (receipt.txHash ++ "\n")
  | .listWorkers worker => .done <$> listWorkers s worker
  | .approve worker chain token spender amount => do
    let executor ← s.executor
    let answer ← Work.speak .executor (Executor.approve executor worker chain token spender amount)
    return .done (printed answer)
  | .dropTask worker chain task => do
    let executor ← s.executor
    let answer ← Work.speak .executor (Executor.dropTask executor worker chain task)
    return .done (printed answer)
  | .registry command => .done <$> runRegistry s files command
  | .setWorker chain worker => do
    let handler ← s.handler chain
    let receipt ← Work.speak .handler (handler.setWorker worker)
    return .done ("Whitelist worker on " ++ chain.text ++ ": " ++ receipt.txHash ++ "\n")
  | .deposit chain asset amount recipient worker task data => do
    let handler ← s.handler chain
    let receipt ←
      Work.speak .handler (handler.deposit ⟨asset, amount, recipient, worker, task, data⟩)
    return .done ("Deposited task on " ++ chain.text ++ ": " ++ receipt.txHash ++ "\n")

/-- Carry out a request. -/
def run (env : Environment) (files : Files) (request : Request) : Exchange Outcome := do
  let work : Work Outcome := do
    let s ← ExceptT.mk (pure (Session.load env files request.common))
    runCommand s files request.common request.command
  let result ← work.run
  match result with
  | .ok outcome => return outcome
  | .error e => return .failed e

/-- What is left of a run of the tool. -/
structure Exit where
  status : Nat
  stdout : String
  stderr : String
deriving DecidableEq, Repr

/-- How a run ends whose command line is refused. -/
def Refusal.exit : Refusal → Exit
  | .usage => ⟨2, "", ""⟩
  | .help => ⟨0, "", ""⟩

/-- How a run ends whose command came to this. -/
def Outcome.exit : Outcome → Exit
  | .done text => ⟨0, text, ""⟩
  | .failed e => ⟨1, "", e.report⟩
  | .scheduling _ _ => ⟨0, "", ""⟩

/-- A run of the tool. -/
def main (env : Environment) (files : Files) (args : List String) : Exchange Exit :=
  match Request.ofArgs env args with
  | .error refusal => pure refusal.exit
  | .ok request => do
    let outcome ← run env files request
    return outcome.exit

end Interchain.Cli
