import Interchain.Cli.Words
import Interchain.Config.Load

/-!
# Commands of the tool

What the tool can be asked to do, and how that is read from a command line.
Records are given as JSON texts, which are not looked into before the command is
carried out.
-/

namespace Interchain.Cli

/-- What can be asked of the registry. -/
inductive RegistryCommand where
  | graph
  | apply (manifest : String) (dryRun : Bool)
  | registerChain (info : String)
  | unregisterChain (name : ChainName)
  | registerAsset (chain : ChainName) (asset : String)
  | unregisterAsset (chain : ChainName) (asset : String)
  | setNative (chain : ChainName) (asset : String)
  | setStable (chain : ChainName) (asset : String)
  | setEndpoint (chain : ChainName) (endpoint : String)
  | registerBridge (name : BridgeName) (chain0 chain1 : ChainName)
  | unregisterBridge (name : BridgeName)
  | addBridgeAsset (bridge : BridgeName) (pair : String)
  | removeBridgeAsset (bridge : BridgeName) (pair : String)
  | registerDex (name : DexName) (id : PoolId) (chain : ChainName)
  | unregisterDex (name : DexName)
  | addDexPair (dex : DexName) (pair : String)
  | removeDexPair (dex : DexName) (pair : String)
deriving DecidableEq, Repr

/-- What the tool can be asked to do. -/
inductive Command where
  /-- Look for tasks and advance them from time to time, with the given periods
  in place of the configured ones. -/
  | runScheduler (fetch execute tokenUpdate : Option UInt64)
  | setUpExecutor (resume : Bool)
  | resumeExecutor
  | executorStatus
  | setExecutor
  | listWorkers (worker : Option WorkerId)
  | approve (worker : WorkerId) (chain : ChainName) (token spender : Location)
      (amount : BitVec 128)
  | dropTask (worker : WorkerId) (chain : ChainName) (task : TaskId)
  | registry (command : RegistryCommand)
  | setWorker (chain : ChainName) (worker : Location)
  | deposit (chain : ChainName) (asset : Location) (amount : BitVec 128)
      (recipient worker : Location) (task : TaskId) (data : Location)
deriving DecidableEq, Repr

/-- What can be given with every command. -/
structure Common where
  config : Option String
  signer : Option String
  storageUrl : Option String
  storageKey : Option String
deriving DecidableEq, Repr

/-- A command with what is given beside it. -/
structure Request where
  common : Common
  command : Command
deriving DecidableEq, Repr

/-- An option that can stand at every level.  Where it is not given, its value is
that of a variable. -/
structure CommonOption where
  name : String
  source : String
deriving DecidableEq, Repr

namespace CommonOption

def config : CommonOption := ⟨"config", "INDEX_CONFIG"⟩

def signer : CommonOption := ⟨"signer", "INDEX_SIGNER"⟩

def storageUrl : CommonOption := ⟨"storage-url", "STORAGE_URL"⟩

def storageKey : CommonOption := ⟨"storage-key", "STORAGE_KEY"⟩

/-- All of them, with what their values must be. -/
def all : List (String × ValueKind) :=
  [(config.name, .path), (signer.name, .text), (storageUrl.name, .text), (storageKey.name, .text)]

/-- The value that is given at the innermost level, or else that of the
variable. -/
def value? (o : CommonOption) (env : Environment) (levels : List Words) : Option String :=
  (levels.reverse.findSome? fun w => w.value? o.name).or (env o.source)

end CommonOption

/-- A command as it is written. -/
structure Verb where
  name : String
  options : List (String × ValueKind)
  flags : List String
  operands : List ValueKind
  make : Words → Option Command

namespace Words

def chain? (w : Words) (option : String) : Option ChainName :=
  (w.value? option).map ChainName.mk

def name? {kind : NameKind} (w : Words) (option : String) : Option (Name kind) :=
  (w.value? option).map Name.mk

def blob? {kind : BlobKind} (w : Words) (option : String) : Option (Blob kind) :=
  w.value? option >>= fun s => (Blob.ofHex s).toOption

def amount? (w : Words) (option : String) : Option (BitVec 128) :=
  w.value? option >>= fun s => (Decimal.below? (1 <<< 128) s).map (BitVec.ofNat 128)

/-- A number that may be left out. -/
def interval? (w : Words) (option : String) : Option (Option UInt64) :=
  match w.value? option with
  | none => some none
  | some s => (Decimal.below? UInt64.size s).map fun n => some (UInt64.ofNat n)

def operand? (w : Words) : Option String := w.operands.head?

end Words

namespace Verb

/-- A command without arguments. -/
def plain (name : String) (command : Command) : Verb :=
  ⟨name, [], [], [], fun _ => some command⟩

/-- A command with options only. -/
def taking (name : String) (options : List (String × ValueKind))
    (make : Words → Option Command) : Verb :=
  ⟨name, options, [], [], make⟩

/-- A command of the registry about a thing that is named by an operand. -/
def naming (name : String) (make : String → RegistryCommand) : Verb :=
  ⟨name, [], [], [.text], fun w => w.operand?.map fun s => .registry (make s)⟩

/-- A command of the registry about a thing on a chain. -/
def onChain (name : String) (make : ChainName → String → RegistryCommand) : Verb :=
  ⟨name, [("chain", .text)], [], [.text], fun w => do
    let chain ← w.chain? "chain"
    let operand ← w.operand?
    return .registry (make chain operand)⟩

/-- A command of the registry about a pair of a bridge or dex. -/
def pairOf {kind : NameKind} (name option : String) (make : Name kind → String → RegistryCommand) :
    Verb :=
  ⟨name, [(option, .text)], [], [.text], fun w => do
    let owner ← w.name? option
    let operand ← w.operand?
    return .registry (make owner operand)⟩

def schedulerVerbs : List Verb :=
  [.taking "run" (["fetch-interval", "execute-interval", "token-update-interval"].map
    (·, .number 64)) fun w => do
    let fetch ← w.interval? "fetch-interval"
    let execute ← w.interval? "execute-interval"
    let tokenUpdate ← w.interval? "token-update-interval"
    return .runScheduler fetch execute tokenUpdate]

def executorVerbs : List Verb :=
  [⟨"setup", [], ["resume"], [], fun w => some (.setUpExecutor (w.has "resume"))⟩,
   .plain "resume" .resumeExecutor, .plain "status" .executorStatus]

def keystoreVerbs : List Verb :=
  [.plain "set-executor" .setExecutor]

def workerVerbs : List Verb :=
  [.taking "list" [("worker", .text)] fun w => some (.listWorkers (w.name? "worker")),
   .taking "approve" [("worker", .text), ("chain", .text), ("token", .bytes), ("spender", .bytes),
     ("amount", .number 128)] fun w => do
    let worker ← w.name? "worker"
    let chain ← w.chain? "chain"
    let token ← w.blob? "token"
    let spender ← w.blob? "spender"
    let amount ← w.amount? "amount"
    return .approve worker chain token spender amount,
   .taking "drop-task" [("worker", .text), ("chain", .text), ("id", .bytes)] fun w => do
    let worker ← w.name? "worker"
    let chain ← w.chain? "chain"
    let task ← w.blob? "id"
    return .dropTask worker chain task]

def registryVerbs : List Verb :=
  [.plain "graph" (.registry .graph),
   ⟨"apply", [], ["dry-run"], [.path], fun w =>
    w.operand?.map fun path => .registry (.apply path (w.has "dry-run"))⟩,
   .naming "register-chain" .registerChain,
   .naming "unregister-chain" fun s => .unregisterChain ⟨s⟩,
   .onChain "register-asset" .registerAsset,
   .onChain "unregister-asset" .unregisterAsset,
   .onChain "set-native" .setNative,
   .onChain "set-stable" .setStable,
   .onChain "set-endpoint" .setEndpoint,
   .taking "register-bridge" [("name", .text), ("chain0", .text), ("chain1", .text)] fun w => do
    let name ← w.name? "name"
    let chain0 ← w.chain? "chain0"
    let chain1 ← w.chain? "chain1"
    return .registry (.registerBridge name chain0 chain1),
   .naming "unregister-bridge" fun s => .unregisterBridge ⟨s⟩,
   .pairOf "add-bridge-asset" "bridge" .addBridgeAsset,
   .pairOf "remove-bridge-asset" "bridge" .removeBridgeAsset,
   .taking "register-dex" [("name", .text), ("id", .bytes), ("chain", .text)] fun w => do
    let name ← w.name? "name"
    let id ← w.blob? "id"
    let chain ← w.chain? "chain"
    return .registry (.registerDex name id chain),
   .naming "unregister-dex" fun s => .unregisterDex ⟨s⟩,
   .pairOf "add-dex-pair" "dex" .addDexPair,
   .pairOf "remove-dex-pair" "dex" .removeDexPair]

def handlerVerbs : List Verb :=
  [.taking "set-worker" [("chain", .text), ("worker", .bytes)] fun w => do
    let chain ← w.chain? "chain"
    let worker ← w.blob? "worker"
    return .setWorker chain worker,
   .taking "deposit" [("chain", .text), ("asset", .bytes), ("amount", .number 128),
     ("recipient", .bytes), ("worker", .bytes), ("id", .bytes), ("data", .bytes)] fun w => do
    let chain ← w.chain? "chain"
    let asset ← w.blob? "asset"
    let amount ← w.amount? "amount"
    let recipient ← w.blob? "recipient"
    let worker ← w.blob? "worker"
    let task ← w.blob? "id"
    let data ← w.blob? "data"
    return .deposit chain asset amount recipient worker task data]

/-- The commands by group. -/
def groups : List (String × List Verb) :=
  [("scheduler", schedulerVerbs), ("executor", executorVerbs), ("keystore", keystoreVerbs),
   ("worker", workerVerbs), ("registry", registryVerbs), ("handler", handlerVerbs)]

/-- What can stand at the level of a command. -/
def level (v : Verb) : Level :=
  ⟨CommonOption.all ++ v.options, v.flags, some v.operands⟩

end Verb

namespace Request

/-- What can stand at a level above that of a command. -/
def outerLevel : Level :=
  ⟨CommonOption.all, [], none⟩

/-- The word that asks for an explanation of what the words after it name. -/
def helpWord : String := "help"

/-- The refusal of a command line whose next words are asked about.  `paths` are
the sequences of names that lead on from here; the word that asks is itself a name
wherever others are. -/
def explain (paths : List (List String)) : List String → Refusal
  | [] => .help
  | word :: rest =>
    if paths.isEmpty then .usage
    else if word = helpWord then explain [] rest
    else
      let further := paths.filter fun p => p.head? == some word
      if further.isEmpty then .usage
      else explain ((further.map List.tail).filter (!·.isEmpty)) rest

/-- Take the name of what stands at the next level. -/
def select {α : Type} (nameOf : α → String) (paths : α → List (List String)) (choices : List α) :
    List String → Except Refusal (α × List String)
  | [] => .error .usage
  | word :: rest =>
    match choices.find? fun c => nameOf c == word with
    | some c => .ok (c, rest)
    | none =>
      .error
        (if word = helpWord then
          explain (choices.flatMap fun c => [nameOf c] :: (paths c).map (nameOf c :: ·)) rest
        else .usage)

/-- Whether the path of the configuration is taken from a variable that holds
none. -/
def hasEmptyConfig (env : Environment) (levels : List Words) : Bool :=
  env CommonOption.config.source == some "" &&
    levels.any fun w => (w.value? CommonOption.config.name).isNone

/-- Read a command line. -/
def ofArgs (env : Environment) (args : List String) : Except Refusal Request := do
  let (outer, rest) ← Words.read outerLevel .empty args
  let ((_, verbs), rest) ← 
    select Prod.fst (fun g => g.2.map fun v => [v.name]) Verb.groups rest
  let (middle, rest) ← Words.read outerLevel .empty rest
  let (verb, rest) ← select Verb.name (fun _ => []) verbs rest
  let (inner, _) ← Words.read verb.level .empty rest
  let levels := [outer, middle, inner]
  let value := fun (o : CommonOption) => o.value? env levels
  if hasEmptyConfig env levels then .error .usage
  else
    match verb.make inner with
    | none => .error .usage
    | some command =>
      return ⟨⟨value .config, value .signer, value .storageUrl, value .storageKey⟩, command⟩

/-- The files that carrying out a request may look at. -/
def paths (env : Environment) (r : Request) : List String :=
  (match r.common.config with
    | some path => [path]
    | none => Config.candidates env) ++
  (match r.command with
    | .registry (.apply path _) => [path]
    | _ => [])

end Request

end Interchain.Cli
