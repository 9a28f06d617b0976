import Interchain.Chain
import Interchain.Config.Expansion
import Interchain.Scheduler.Settings

/-!
# The configuration

The configuration names the gateway, the contracts behind it and what is known
about each chain.  Chains are found by name without regard to letter case.
-/

namespace Interchain

/-- What a configuration knows about chains, sorted by name. -/
abbrev ChainTable (α : Type) := List (String × α)

namespace ChainTable

/-- The entry for a chain: of several spellings the first. -/
def find? {α : Type} (table : ChainTable α) (chain : ChainName) : Option α :=
  (List.find? (fun e => Ascii.sameText e.1 chain.text) table).map Prod.snd

/-- A table of texts is written as one object, and is also read from a list of
objects, of which the later ones add to the earlier. -/
def codec : Codec (ChainTable String) where
  write := (Codec.map Codec.string).write
  read _ d :=
    match d.toJson with
    | .error why => .error (.malformed why)
    | .ok j =>
      let d := Document.ofJson j
      match (Codec.map Codec.string).read .value d with
      | .ok table => .ok table
      | .error _ =>
        match (Codec.list (Codec.map Codec.string)).read .value d with
        | .ok tables => .ok (Sorted.ofList tables.flatten)
        | .error _ => .error (.noLayout "Shape")

end ChainTable

/-- The configuration of the tool. -/
structure Config where
  /-- The address of the gateway in front of the contracts. -/
  nodeEndpoint : String
  executorContract : ContractId
  registryContract : ContractId
  keyStoreContract : ContractId
  /-- The account that calls are made for. -/
  signer : Option String
  /-- Where the executor keeps its tasks. -/
  storageUrl : Option String
  /-- The addresses of the chains. -/
  chains : ChainTable String
  /-- The handler contracts of the chains. -/
  handlers : ChainTable String
  /-- The families of chains that are not well known. -/
  chainTypes : ChainTable ChainType
  scheduler : SchedulerSettings
deriving DecidableEq, Repr

/-- Why nothing can be run with a configuration. -/
inductive ConfigFault where
  | noNodeEndpoint
  | scheduler (fault : SettingsFault)
deriving DecidableEq, Repr

def ConfigFault.message : ConfigFault → String
  | .noNodeEndpoint => "node_endpoint is empty"
  | .scheduler fault => fault.message

namespace Config

def fields : List Field :=
  [.required "node_endpoint" .string,
   .required "executor_contract_id" (Name.codec : Codec ContractId),
   .required "registry_contract_id" (Name.codec : Codec ContractId),
   .required "key_store_contract_id" (Name.codec : Codec ContractId),
   .default "signer" (.option .string) none, .default "storage_url" (.option .string) none,
   .default "chains" ChainTable.codec [], .default "handlers" ChainTable.codec [],
   .default "chain_types" (.map ChainType.codec) [],
   .default "scheduler" SchedulerSettings.codec .standard]

def toValues (c : Config) : Values fields :=
  (c.nodeEndpoint, c.executorContract, c.registryContract, c.keyStoreContract, c.signer,
   c.storageUrl, c.chains, c.handlers, c.chainTypes, c.scheduler, ())

def ofValues : Values fields → Config
  | (nodeEndpoint, executorContract, registryContract, keyStoreContract, signer, storageUrl,
     chains, handlers, chainTypes, scheduler, ()) =>
    ⟨nodeEndpoint, executorContract, registryContract, keyStoreContract, signer, storageUrl,
     chains, handlers, chainTypes, scheduler⟩

def codec : Codec Config :=
  .record "Config" fields toValues ofValues

/-- Expand the texts that may refer to variables. -/
def expand (env : Environment) (c : Config) : Config :=
  let e := Expansion.expand env
  { c with
    nodeEndpoint := e c.nodeEndpoint
    signer := c.signer.map e
    storageUrl := c.storageUrl.map e
    chains := c.chains.map fun x => (x.1, e x.2)
    handlers := c.handlers.map fun x => (x.1, e x.2)
    scheduler := { c.scheduler with tokenCommand := e c.scheduler.tokenCommand } }

/-- Read a configuration from a text. -/
def ofText (env : Environment) (text : String) : Except Fault Config :=
  (codec.ofText text).map (expand env)

/-- The first fault of a configuration, if it has one. -/
def validate (c : Config) : Except ConfigFault Unit :=
  if (Blank.trim c.nodeEndpoint).isEmpty then .error .noNodeEndpoint
  else c.scheduler.validate.mapError .scheduler

/-- The address of a chain. -/
def chainEndpoint? (c : Config) (chain : ChainName) : Option String :=
  c.chains.find? chain

/-- The handler contract of a chain. -/
def handler? (c : Config) (chain : ChainName) : Option String :=
  c.handlers.find? chain

/-- The family of a chain, which the configuration can set also for well-known
chains. -/
def chainType? (c : Config) (chain : ChainName) : Option ChainType :=
  (c.chainTypes.find? chain).or (ChainType.infer? chain)

end Config

end Interchain
