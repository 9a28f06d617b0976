import Interchain.Proofs.Cli.Plan

/-!
# The tool stops at the first failure

On every run of the tool what was sent is the beginning of what the command was to send, up to
the first request that was not served, and the run succeeds exactly if all of it was served.
What stands in the way of a command before that is known by name, and nothing is sent then.
-/

namespace Interchain.Cli

open Attempt Codec Exchange

/-! ## What stands in the way of a command -/

/-- The chain whose handler a command calls. -/
def Command.handled? : Command → Option ChainName
  | .setWorker chain _ => some chain
  | .deposit chain _ _ _ _ _ _ => some chain
  | _ => none

/-- Why a command cannot be carried out under a configuration. -/
inductive Command.Blocked (config : Config) (files : Files) (common : Common) : Command → Prop
  /-- The gateway of the node has no address. -/
  | node {command : Command} (hc : command.handled? = none)
    (h : Url.parse? config.nodeEndpoint = none) : Blocked config files common command
  /-- Something about the chain is not known, it is none of the EVM, or its gateway has no
  address. -/
  | handler {command : Command} {chain : ChainName} (hc : command.handled? = some chain)
    (h : config.chainType? chain = none ∨ config.chainEndpoint? chain = none ∨
      config.handler? chain = none ∨ config.chainType? chain = some .sub ∨
      ∃ endpoint, config.chainEndpoint? chain = some endpoint ∧ Url.parse? endpoint = none) :
    Blocked config files common command
  /-- The executor is given no storage, or no key to it. -/
  | storage {resume : Bool}
    (h : common.storageUrl.or config.storageUrl = none ∨ common.storageKey = none) :
    Blocked config files common (.setUpExecutor resume)
  /-- A record that is given is none. -/
  | record {command : RegistryCommand} {e : Error} (h : command.registration? = .error e) :
    Blocked config files common (.registry command)
  | unreadable {path : String} {dryRun : Bool} {e : FileFault}
    (h : files.readText path = .error e) :
    Blocked config files common (.registry (.apply path dryRun))
  | manifest {path text : String} {dryRun : Bool} {e : Fault}
    (htext : files.readText path = .ok text) (h : Manifest.codec.ofText text = .error e) :
    Blocked config files common (.registry (.apply path dryRun))
  /-- A registry in memory refuses a manifest that is only tried. -/
  | refused {path text : String} {manifest : Manifest} {e : RegistryError}
    (htext : files.readText path = .ok text) (hmanifest : Manifest.codec.ofText text = .ok manifest)
    (h : (manifest.applyTo Topology.empty).1 = .error e) :
    Blocked config files common (.registry (.apply path true))
  /-- The settings of the scheduler cannot be worked with. -/
  | settings {fetch execute tokenUpdate : Option UInt64} {e : ConfigFault}
    (h : ({ config with scheduler := config.scheduler.withIntervals fetch execute tokenUpdate } :
      Config).validate = .error e) :
    Blocked config files common (.runScheduler fetch execute tokenUpdate)
  | storageUrl {fetch execute tokenUpdate : Option UInt64}
    (h : common.storageUrl.or config.storageUrl = none) :
    Blocked config files common (.runScheduler fetch execute tokenUpdate)
  | tokenCommand {fetch execute tokenUpdate : Option UInt64} {e : CredentialError}
    (h : TokenCommand.ofLine
      (config.scheduler.withIntervals fetch execute tokenUpdate).tokenCommand = .error e) :
    Blocked config files common (.runScheduler fetch execute tokenUpdate)

theorem demanded_eq_error {α : Type} {e : Error} {value : Option α} :
    (∃ e', demanded e value = .error e') ↔ value = none := by
  cases value <;> simp [demanded]

theorem demanded_eq_ok {α : Type} {e : Error} {value : Option α} {a : α} :
    demanded e value = .ok a ↔ value = some a := by
  cases value <;> simp [demanded]

/-- A client cannot be made just if the endpoint is no address. -/
theorem make_eq_error {endpoint origin : String} {id : ContractId} :
    (∃ e, (ContractClient.make endpoint id origin).mapError Error.transport = .error e) ↔
      Url.parse? endpoint = none := by
  rw [exists_mapError_eq_error]
  cases h : Url.parse? endpoint <;> simp [ContractClient.make, h]

namespace Session

variable {env : Environment} {s : Session} {files : Files} {common : Common} {command : Command}

theorem load_eq_error : (∃ e, load env files common = .error e) ↔
    ∃ e, Config.load env files common.config = .error e := by
  cases h : Config.load env files common.config <;> simp [load, h, Except.mapError]

theorem config_of_load (h : load env files common = .ok s) :
    Config.load env files common.config = .ok s.config := by
  obtain ⟨config, hconfig, ⟨⟩⟩ := bind_eq_ok.mp h
  exact mapError_eq_ok.mp hconfig

theorem exists_load {config : Config} (h : Config.load env files common.config = .ok config) :
    ∃ s, load env files common = .ok s ∧ s.config = config := by
  cases hs : load env files common with
  | error e =>
    obtain ⟨e', he'⟩ := load_eq_error.mp ⟨e, hs⟩
    rw [h] at he'
    cases he'
  | ok s => exact ⟨s, rfl, Except.ok.inj ((config_of_load hs).symm.trans h)⟩

theorem client_eq_error {id : ContractId} :
    (∃ e, s.client id = .error e) ↔ Url.parse? s.config.nodeEndpoint = none :=
  make_eq_error

/-- Every chain is one of the EVM or none. -/
theorem makeHandler_eq_error {chain : ChainName} {chainType : ChainType}
    {contract : ContractClient} :
    (∃ e, (HandlerClient.make chain chainType contract).mapError Error.handler = .error e) ↔
      chainType = .sub := by
  rw [exists_mapError_eq_error]
  cases chainType <;> simp [HandlerClient.make]

theorem handlerClient_eq_error {chain : ChainName} : (∃ e, s.handlerClient chain = .error e) ↔
    s.config.chainType? chain = none ∨ s.config.chainEndpoint? chain = none ∨
      s.config.handler? chain = none ∨ s.config.chainType? chain = some .sub ∨
      ∃ endpoint, s.config.chainEndpoint? chain = some endpoint ∧
        Url.parse? endpoint = none := by
  simp only [handlerClient, exists_bind_eq_error_iff, demanded_eq_error, demanded_eq_ok,
    make_eq_error, makeHandler_eq_error, mapError_eq_ok]
  cases s.config.chainType? chain with
  | none => simp
  | some chainType =>
    cases s.config.chainEndpoint? chain with
    | none => simp
    | some endpoint =>
      cases s.config.handler? chain with
      | none => simp
      | some address =>
        cases hurl : Url.parse? endpoint with
        | none => simp [hurl]
        | some url => simp [hurl, ContractClient.make]

/-- A command about a contract behind the gateway of the node. -/
theorem client_bind_eq_error {id : ContractId} {f : ContractClient → Except Error (List Step)} :
    (∃ e, (s.client id >>= f) = .error e) ↔ Url.parse? s.config.nodeEndpoint = none ∨
      ∃ c, s.client id = .ok c ∧ ∃ e, f c = .error e := by
  rw [exists_bind_eq_error_iff, client_eq_error]

theorem blocked_of_client {id : ContractId} {f : ContractClient → Except Error (List Step)}
    (hc : command.handled? = none) (h : ∃ e, (s.client id >>= f) = .error e)
    (hrest : ∀ c, (∃ e, f c = .error e) → command.Blocked s.config files common) :
    command.Blocked s.config files common := by
  rcases client_bind_eq_error.mp h with h | ⟨c, -, h⟩
  · exact .node hc h
  · exact hrest c h

theorem blocked_of_handler {chain : ChainName} {f : HandlerClient → List Step}
    (hc : command.handled? = some chain)
    (h : ∃ e, (s.handlerClient chain >>= fun h => pure (f h)) = .error e) :
    command.Blocked s.config files common := by
  rcases exists_bind_eq_error_iff.mp h with h | ⟨_, -, e, h⟩
  · exact .handler hc (handlerClient_eq_error.mp h)
  · cases h

theorem blocked_of_applyManifest {path : String} {dryRun : Bool}
    {f : Manifest → List Step}
    (h : ∃ e, (do
        let text ← (files.readText path).mapError (.unreadable path)
        let manifest ← readRecord "manifest" Manifest.codec text
        if dryRun then
          let _ ← (manifest.applyTo Topology.empty).1.mapError .registry
          return []
        else return f manifest : Except Error (List Step)) = .error e) :
    Command.Blocked s.config files common (.registry (.apply path dryRun)) := by
  rcases exists_mapError_bind_eq_error_iff.mp h with ⟨e, he⟩ | ⟨text, htext, h⟩
  · exact .unreadable he
  rcases exists_mapError_bind_eq_error_iff.mp h with ⟨e, he⟩ | ⟨manifest, hmanifest, h⟩
  · exact .manifest htext he
  cases dryRun with
  | false =>
    obtain ⟨e, ⟨⟩⟩ := h
  | true =>
    rcases exists_mapError_bind_eq_error_iff.mp h with ⟨e, he⟩ | ⟨_, -, e, ⟨⟩⟩
    exact .refused htext hmanifest he

theorem blocked_of_registryPlan {command : RegistryCommand}
    (h : ∃ e, s.registryPlan files command = .error e) :
    Command.Blocked s.config files common (.registry command) := by
  refine blocked_of_client rfl h fun c h => ?_
  cases command
  case graph => obtain ⟨e, ⟨⟩⟩ := h
  case apply path dryRun => exact blocked_of_applyManifest h
  all_goals
    rcases exists_bind_eq_error_iff.mp h with ⟨e, h⟩ | ⟨_, -, e, ⟨⟩⟩
    exact .record h

theorem blocked_of_plan (h : ∃ e, s.plan files common command = .error e) :
    command.Blocked s.config files common := by
  cases command with
  | runScheduler fetch execute tokenUpdate =>
    rcases exists_mapError_bind_eq_error_iff.mp h with ⟨e, he⟩ | ⟨_, -, h⟩
    · exact .settings he
    rcases exists_bind_eq_error_iff.mp h with h | ⟨_, -, h⟩
    · exact .storageUrl (demanded_eq_error.mp h)
    rcases exists_mapError_bind_eq_error_iff.mp h with ⟨e, he⟩ | ⟨_, -, h⟩
    · exact .tokenCommand he
    refine blocked_of_client rfl h fun c h => ?_
    obtain ⟨e, ⟨⟩⟩ := h
  | setUpExecutor resume =>
    refine blocked_of_client rfl h fun c h => .storage ?_
    obtain ⟨e, h⟩ := h
    cases hurl : common.storageUrl.or s.config.storageUrl with
    | none => exact .inl rfl
    | some url =>
      cases hkey : common.storageKey with
      | none => exact .inr rfl
      | some key =>
        rw [hurl, hkey] at h
        cases h
  | resumeExecutor | executorStatus | setExecutor | listWorkers | approve | dropTask =>
    refine blocked_of_client rfl h fun c h => ?_
    obtain ⟨e, ⟨⟩⟩ := h
  | registry command => exact blocked_of_registryPlan h
  | setWorker | deposit => exact blocked_of_handler rfl h

/-- Nothing can be sent just if something stands in the way. -/
theorem plan_eq_error :
    (∃ e, s.plan files common command = .error e) ↔ command.Blocked s.config files common := by
  refine ⟨blocked_of_plan, fun h => ?_⟩
  cases h with
  | node hc h =>
    have hclient : ∀ id (f : ContractClient → Except Error (List Step)),
        ∃ e, (s.client id >>= f) = .error e := fun _ _ => client_bind_eq_error.mpr (.inl h)
    cases command with
    | runScheduler =>
      exact exists_bind_eq_error fun _ _ => exists_bind_eq_error fun _ _ =>
        exists_bind_eq_error fun _ _ => hclient _ _
    | setWorker | deposit => cases hc
    | _ => exact hclient _ _
  | handler hc h =>
    have hhandler := handlerClient_eq_error.mpr h
    -- Only the two commands that call a handler are left, and the handler comes first in both.
    cases command <;> cases hc <;> exact exists_bind_eq_error_iff.mpr (.inl hhandler)
  | storage h =>
    refine exists_bind_eq_error fun c _ => ?_
    split
    case h_1 hurl hkey => rcases h with h | h <;> simp [h] at hurl hkey
    case h_2 => exact ⟨_, rfl⟩
  | @record command e h =>
    refine exists_bind_eq_error fun c _ => ?_
    cases command <;> first | cases h | exact exists_bind_eq_error_iff.mpr (.inl ⟨e, h⟩)
  | unreadable h =>
    refine exists_bind_eq_error fun c _ => ?_
    exact exists_mapError_bind_eq_error_iff.mpr (.inl ⟨_, h⟩)
  | manifest htext h =>
    refine exists_bind_eq_error fun c _ => ?_
    refine exists_mapError_bind_eq_error_iff.mpr (.inr ⟨_, htext, ?_⟩)
    exact exists_mapError_bind_eq_error_iff.mpr (.inl ⟨_, h⟩)
  | refused htext hmanifest h =>
    refine exists_bind_eq_error fun c _ => ?_
    refine exists_mapError_bind_eq_error_iff.mpr (.inr ⟨_, htext, ?_⟩)
    refine exists_mapError_bind_eq_error_iff.mpr (.inr ⟨_, hmanifest, ?_⟩)
    exact exists_mapError_bind_eq_error_iff.mpr (.inl ⟨_, h⟩)
  | settings h =>
    exact exists_mapError_bind_eq_error_iff.mpr (.inl ⟨_, h⟩)
  | storageUrl h =>
    refine exists_bind_eq_error fun _ _ => ?_
    exact exists_bind_eq_error_iff.mpr (.inl (demanded_eq_error.mpr h))
  | tokenCommand h =>
    refine exists_bind_eq_error fun _ _ => exists_bind_eq_error fun _ _ => ?_
    exact exists_mapError_bind_eq_error_iff.mpr (.inl ⟨_, h⟩)

end Session

/-! ## What the work of a command comes to -/

namespace Work

variable {α β : Type} {P : α → Prop}

/-- Whatever is replied, what the work comes to has a property. -/
def Yields (P : α → Prop) (w : Work α) : Prop :=
  ∀ (g : Gateway) (sent : List Interchain.Request) (a : α), (w.run.run g sent).1 = .ok a → P a

theorem yields_pure {a : α} (h : P a) : Yields P (pure a) := by
  rintro g sent _ ⟨⟩
  exact h

theorem yields_throw (e : Error) : Yields P (throw e : Work α) := by
  rintro g sent _ ⟨⟩

theorem Yields.bind {w : Work β} {f : β → Work α} (h : ∀ b, Yields P (f b)) :
    Yields P (w >>= f) := by
  intro g sent a ha
  replace ha : ((w.run >>= ExceptT.bindCont f).run g sent).1 = .ok a := ha
  rw [run_bind] at ha
  cases hw : (w.run.run g sent).1 with
  | error e =>
    rw [hw] at ha
    cases ha
  | ok b =>
    rw [hw] at ha
    exact h b g _ a ha

theorem Yields.map {w : Work β} {f : β → α} (h : ∀ b, P (f b)) : Yields P (f <$> w) :=
  Yields.bind fun b => yields_pure (h b)

end Work

/-- Work that does not fail ends well. -/
theorem Session.yields_runCommand (s : Session) (files : Files) (common : Common)
    (command : Command) :
    Work.Yields (fun outcome => outcome.exit.status = 0) (runCommand s files common command) := by
  cases command with
  | runScheduler fetch execute tokenUpdate =>
    refine .bind fun _ => .bind fun _ => .bind fun _ => .bind fun _ => .bind fun running => ?_
    cases running with
    | true => exact Work.yields_pure rfl
    | false => exact Work.yields_throw _
  | setUpExecutor | listWorkers | registry => exact .map fun _ => rfl
  | resumeExecutor | executorStatus | setExecutor | approve | dropTask | setWorker | deposit =>
    exact .bind fun _ => .bind fun _ => Work.yields_pure rfl

/-! ## Runs of the tool -/

namespace Request

variable (env : Environment) (files : Files) (request : Request)

/-- What a request to the tool sends, or the fault for which it sends nothing. -/
def plan : Except Error (List Step) := do
  let s ← Session.load env files request.common
  s.plan files request.common request.command

/-- There is no configuration, or the command cannot be carried out under it. -/
inductive Blocked : Prop where
  | config {e : LoadError} (h : Config.load env files request.common.config = .error e)
  | command {config : Config} (hconfig : Config.load env files request.common.config = .ok config)
    (h : request.command.Blocked config files request.common)

/-- A run of the tool that carries out a request against a gateway, and stops at the first thing
that fails. -/
structure FailStop (g : Gateway) (exit : Exit) (asked : List Interchain.Request) : Prop where
  /-- Where something stands in the way, nothing is sent and the run fails. -/
  blocked : request.Blocked env files → asked = [] ∧ exit.status ≠ 0
  /-- Otherwise the requests of a plan are sent up to the first that is not served, and the run
  succeeds just if all are served. -/
  planned : ¬ request.Blocked env files → ∃ plan, request.plan env files = .ok plan ∧
    StopsAtFailure g [] plan asked (exit.status = 0)
  /-- A manifest that is only tried sends nothing. -/
  dryRun : ∀ path, request.command = .registry (.apply path true) → asked = []
  /-- The executor is started only after it has been configured. -/
  resumed : ∀ (i : Nat) (r : Interchain.Request), request.command = .setUpExecutor true →
    asked[i]? = some r → r.call.method = "resume_executor" →
    ∃ j < i, ∃ q, asked[j]? = some q ∧ q.call.method = "config_engine" ∧
      q.call.gasLimit.isSome = true ∧ ∃ receipt,
        (g (asked.take (j + 1))).Holds (.outcome opaqueValue TxReceipt.codec) (.ok receipt)
  /-- The registrations of a manifest are sent to the registry in order, each as an estimate and
  for good, up to the first that is not served, and to the last if the run does not fail. -/
  applied : ∀ path text manifest, request.command = .registry (.apply path false) →
    files.readText path = .ok text → Manifest.codec.ofText text = .ok manifest →
    (∀ s c, Session.load env files request.common = .ok s →
      s.client s.config.registryContract = .ok c →
      StopsAtFailure g [] (manifest.calls.flatMap (RegistryClient.steps c)) asked
        (exit.status = 0)) ∧
    let calls := manifest.calls.flatMap fun r =>
      List.replicate 2 (r.method, (Json.array r.args).canonical)
    (asked.map fun r => (r.call.method, r.call.args)) <+: calls ∧
      (exit.status = 0 → asked.map (fun r => (r.call.method, r.call.args)) = calls)

variable {env files request}

/-! ### Requests that have a plan -/

/-- A request has no plan just if something stands in its way. -/
theorem plan_eq_error : (∃ e, request.plan env files = .error e) ↔ request.Blocked env files := by
  rw [plan, exists_bind_eq_error_iff, Session.load_eq_error]
  constructor
  · rintro (⟨e, h⟩ | ⟨s, hs, h⟩)
    · exact .config h
    · exact .command (Session.config_of_load hs) (Session.plan_eq_error.mp h)
  · rintro (h | ⟨hconfig, h⟩)
    · exact .inl ⟨_, h⟩
    · obtain ⟨s, hs, rfl⟩ := Session.exists_load hconfig
      exact .inr ⟨s, hs, Session.plan_eq_error.mpr h⟩

theorem exists_plan (h : ¬ request.Blocked env files) :
    ∃ plan, request.plan env files = .ok plan := by
  cases hplan : request.plan env files with
  | error e => exact absurd (plan_eq_error.mp ⟨e, hplan⟩) h
  | ok plan => exact ⟨plan, rfl⟩

theorem not_blocked_of_plan {steps : List Step} (h : request.plan env files = .ok steps) :
    ¬ request.Blocked env files := by
  intro hblocked
  obtain ⟨e, he⟩ := plan_eq_error.mpr hblocked
  cases he.symm.trans h

/-! ### Requests that are carried out -/

/-- The work that a request asks for. -/
def work (env : Environment) (files : Files) (request : Request) : Work Outcome := do
  let s ← ExceptT.mk (pure (Session.load env files request.common))
  runCommand s files request.common request.command

theorem follows_work (env : Environment) (files : Files) (request : Request) :
    Work.Follows (request.plan env files) (request.work env files) :=
  Work.Follows.attempt fun _ => Session.follows_runCommand request.common request.command

/-- How a run ends whose work came to this. -/
def exitOf : Except Error Outcome → Exit
  | .ok outcome => outcome.exit
  | .error e => (Outcome.failed e).exit

/-- A run ends well just if its work does not fail. -/
theorem status_exitOf (g : Gateway) (sent : List Interchain.Request) :
    (∃ o, ((request.work env files).run.run g sent).1 = .ok o) ↔
      (exitOf ((request.work env files).run.run g sent).1).status = 0 := by
  have hyields : (request.work env files).Yields fun outcome => outcome.exit.status = 0 :=
    .bind fun s => s.yields_runCommand files request.common request.command
  constructor
  · rintro ⟨o, ho⟩
    rw [ho]
    exact hyields g sent o ho
  · intro h
    cases hr : ((request.work env files).run.run g sent).1 with
    | error e =>
      rw [hr] at h
      cases h
    | ok o => exact ⟨o, rfl⟩

theorem run_main {args : List String} (hargs : Request.ofArgs env args = .ok request)
    (g : Gateway) : (main env files args).run g [] =
      (exitOf ((request.work env files).run.run g []).1,
        ((request.work env files).run.run g []).2) := by
  simp only [main, hargs, Cli.run, run_bind, run_pure, Request.work]
  split
  case h_1 outcome hr => rw [hr]; rfl
  case h_2 e hr => rw [hr]; rfl

/-- Without a plan nothing is sent. -/
theorem run_work_of_unplanned {e : Error} (h : request.plan env files = .error e) (g : Gateway) :
    (request.work env files).run.run g [] = (.error e, []) := by
  have hwork := follows_work env files request
  rw [h] at hwork
  exact congrArg (Exchange.run g []) hwork

theorem stopsAtFailure_of_planned {steps : List Step} (h : request.plan env files = .ok steps)
    (g : Gateway) : StopsAtFailure g [] steps ((request.work env files).run.run g []).2
      ((exitOf ((request.work env files).run.run g []).1).status = 0) := by
  have hwork := follows_work env files request
  rw [h] at hwork
  obtain ⟨asked, hasked, hstops⟩ := Exchange.Follows.run hwork g []
  rw [List.nil_append] at hasked
  rw [hasked]
  exact hstops.congr (status_exitOf g [])

/-! ### The plans of some commands -/

section Plans

variable {steps : List Step} {path : String} {dryRun : Bool}

theorem plan_apply (hplan : request.plan env files = .ok steps)
    (hc : request.command = .registry (.apply path dryRun)) :
    ∃ c text manifest, files.readText path = .ok text ∧
      Manifest.codec.ofText text = .ok manifest ∧
      steps = if dryRun then [] else manifest.calls.flatMap (RegistryClient.steps c) := by
  obtain ⟨s, -, hplan⟩ := bind_eq_ok.mp hplan
  rw [hc] at hplan
  obtain ⟨c, -, hplan⟩ := bind_eq_ok.mp hplan
  obtain ⟨text, htext, hplan⟩ := bind_eq_ok.mp hplan
  obtain ⟨manifest, hmanifest, hplan⟩ := bind_eq_ok.mp hplan
  refine ⟨c, text, manifest, mapError_eq_ok.mp htext, mapError_eq_ok.mp hmanifest, ?_⟩
  cases dryRun with
  | true =>
    obtain ⟨_, -, ⟨⟩⟩ := bind_eq_ok.mp hplan
    rfl
  | false =>
    cases hplan
    rfl

/-- What is sent of a manifest to the registry that is configured. -/
theorem plan_apply_of_load {s : Session} {c : ContractClient} {text : String}
    {manifest : Manifest} (hc : request.command = .registry (.apply path false))
    (hs : Session.load env files request.common = .ok s)
    (hclient : s.client s.config.registryContract = .ok c)
    (htext : files.readText path = .ok text)
    (hmanifest : Manifest.codec.ofText text = .ok manifest) :
    request.plan env files = .ok (manifest.calls.flatMap (RegistryClient.steps c)) := by
  simp only [plan, hs, hc, ok_bind, Session.plan, Session.registryPlan, hclient, htext, readRecord,
    hmanifest, Except.mapError]
  rfl

theorem plan_setUpExecutor (hplan : request.plan env files = .ok steps)
    (hc : request.command = .setUpExecutor true) :
    ∃ c args, steps = Step.transaction c "config_engine" args opaqueValue ++
      Step.transaction c "resume_executor" (Executor.args []) opaqueValue := by
  obtain ⟨s, -, hplan⟩ := bind_eq_ok.mp hplan
  rw [hc] at hplan
  obtain ⟨c, -, hplan⟩ := bind_eq_ok.mp hplan
  split at hplan
  case h_1 => exact ⟨c, _, (pure_eq_ok.mp hplan).symm⟩
  case h_2 => cases hplan

theorem plan_setUpExecutor_of_load {s : Session} {c : ContractClient} {url key : String}
    (hc : request.command = .setUpExecutor true)
    (hs : Session.load env files request.common = .ok s)
    (hclient : s.client s.config.executorContract = .ok c)
    (hurl : request.common.storageUrl.or s.config.storageUrl = some url)
    (hkey : request.common.storageKey = some key) :
    ∃ args, request.plan env files = .ok (Step.transaction c "config_engine" args opaqueValue ++
      Step.transaction c "resume_executor" (Executor.args []) opaqueValue) := by
  simp only [plan, hs, hc, ok_bind, Session.plan, hclient, hurl, hkey]
  exact ⟨_, rfl⟩

end Plans

/-- The methods and arguments that a manifest is sent with. -/
theorem map_flatMap_steps (c : ContractClient) (rs : List Registration) :
    ((rs.flatMap (RegistryClient.steps c)).map fun step => (step.method, step.args)) =
      rs.flatMap fun r => List.replicate 2 (r.method, (Json.array r.args).canonical) := by
  rw [List.map_flatMap]
  rfl

/-- The executor is started once the receipt of its configuration has come. -/
theorem configured_before {g : Gateway} {c : ContractClient} {args args' : Json}
    {asked : List Interchain.Request} {success : Prop}
    (h : StopsAtFailure g [] (Step.transaction c "config_engine" args opaqueValue ++
      Step.transaction c "resume_executor" args' opaqueValue) asked success)
    {i : Nat} {r : Interchain.Request} (hr : asked[i]? = some r)
    (hmethod : r.call.method = "resume_executor") :
    ∃ j < i, ∃ q, asked[j]? = some q ∧ q.call.method = "config_engine" ∧
      q.call.gasLimit.isSome = true ∧ ∃ receipt,
        (g (asked.take (j + 1))).Holds (.outcome opaqueValue TxReceipt.codec) (.ok receipt) := by
  have hother : "resume_executor" ≠ "config_engine" := by decide
  have hlater : 1 < i := by
    obtain ⟨step, hstep, asks⟩ := h.planned i r hr
    have hplanned : "resume_executor" = step.method := hmethod.symm.trans asks.method
    rcases i with _ | _ | i
    · cases hstep
      exact absurd hplanned hother
    · cases hstep
      exact absurd hplanned hother
    · exact Nat.one_lt_succ_succ i
  have hlength : 2 < asked.length :=
    Nat.lt_of_le_of_lt hlater (List.getElem?_eq_some_iff.mp hr).1
  obtain ⟨q, hq, hqmethod, hlimited, hreceipt⟩ := h.receipt_of_transaction hlength
  exact ⟨1, hlater, q, hq, hqmethod, hlimited, hreceipt⟩

/-! ### Every run -/

/-- A request that is carried out stops at the first thing that fails. -/
theorem failStop_work (g : Gateway) :
    request.FailStop env files g (exitOf ((request.work env files).run.run g []).1)
      ((request.work env files).run.run g []).2 := by
  have hunplanned : ∀ e, request.plan env files = .error e →
      ((request.work env files).run.run g []).2 = [] ∧
        (exitOf ((request.work env files).run.run g []).1).status ≠ 0 := by
    intro e he
    rw [run_work_of_unplanned he]
    exact ⟨rfl, Nat.one_ne_zero⟩
  constructor
  case blocked =>
    intro h
    obtain ⟨e, he⟩ := plan_eq_error.mpr h
    exact hunplanned e he
  case planned =>
    intro h
    obtain ⟨steps, hsteps⟩ := exists_plan h
    exact ⟨steps, hsteps, stopsAtFailure_of_planned hsteps g⟩
  case dryRun =>
    intro path hc
    cases hplan : request.plan env files with
    | error e => exact (hunplanned e hplan).1
    | ok steps =>
      obtain ⟨_, _, _, -, -, rfl⟩ := plan_apply hplan hc
      exact (stopsAtFailure_of_planned hplan g).eq_nil
  case resumed =>
    intro i r hc hr hmethod
    cases hplan : request.plan env files with
    | error e =>
      rw [(hunplanned e hplan).1] at hr
      cases hr
    | ok steps =>
      obtain ⟨c, args, rfl⟩ := plan_setUpExecutor hplan hc
      exact configured_before (stopsAtFailure_of_planned hplan g) hr hmethod
  case applied =>
    intro path text manifest hc htext hmanifest
    constructor
    case left =>
      intro s c hs hclient
      exact stopsAtFailure_of_planned (plan_apply_of_load hc hs hclient htext hmanifest) g
    case right =>
      intro calls
      cases hplan : request.plan env files with
      | error e =>
        obtain ⟨hnil, hstatus⟩ := hunplanned e hplan
        rw [hnil]
        exact ⟨List.nil_prefix, fun h => absurd h hstatus⟩
      | ok steps =>
        have hstops := stopsAtFailure_of_planned hplan g
        obtain ⟨c, text', manifest', htext', hmanifest', rfl⟩ := plan_apply hplan hc
        obtain rfl : text = text' := Except.ok.inj (htext.symm.trans htext')
        obtain rfl : manifest = manifest' := Except.ok.inj (hmanifest.symm.trans hmanifest')
        have hbegun := hstops.calls_prefix
        have hall := hstops.calls_eq
        simp only [Bool.false_eq_true, if_false, map_flatMap_steps] at hbegun hall
        exact ⟨hbegun, hall⟩

end Request

/-- Whatever the tool is asked and whatever the gateways answer, a run sends nothing if the
command line is refused, and otherwise stops at the first thing that fails.  A refusal is a
failure unless it is that an explanation was asked for. -/
theorem failStop_main (env : Environment) (files : Files) (args : List String) (g : Gateway) :
    let run := (main env files args).run g []
    (∀ refusal, Request.ofArgs env args = .error refusal →
      run.2 = [] ∧ (run.1.status = 0 ↔ refusal = .help)) ∧
      ∀ request, Request.ofArgs env args = .ok request →
        request.FailStop env files g run.1 run.2 := by
  intro run
  constructor
  · intro refusal hargs
    have hrun : run = (refusal.exit, []) := by
      simp only [run, main, hargs, run_pure]
    rw [hrun]
    cases refusal <;> simp [Refusal.exit]
  · intro request hargs
    have hrun : run = _ := Request.run_main hargs g
    rw [hrun]
    exact Request.failStop_work g

/-- A configuration that names a gateway on this machine. -/
def localConfig : Json :=
  .object [("node_endpoint", .string "http://[::1]:8080"),
    ("executor_contract_id", .string "0xexec"), ("registry_contract_id", .string "0xreg"),
    ("key_store_contract_id", .string "0xkeys")]

/-- A file that holds it. -/
def localFiles : Files :=
  .ofPaths [("c.json", .ok localConfig.compact.toUTF8.data.toList)]

theorem readText_local : localFiles.readText "c.json" = .ok localConfig.compact := by
  have hpath : Octets.ofText "c.json" = "c.json".toList := by
    rw [Octets.ofText, Utf8.toList_toUTF8]
    decide
  apply Files.readText_of_read
  rw [localFiles, Files.ofPaths, Files.read, List.map_singleton, hpath]
  rfl

/-- A command line that asks for the executor to be configured and started. -/
def setUpArgs : List String :=
  ["--config", "c.json", "executor", "setup", "--resume", "--storage-url", "https://store",
   "--storage-key", "key"]

/-- The executor as it is reached there. -/
def localExecutor : ContractClient :=
  ⟨⟨"http", "", "", some "[::1]", some 8080, .segments "/", none, none⟩, ⟨"0xexec"⟩, "//Alice"⟩

/-- What it asks for. -/
def setUpRequest : Request :=
  ⟨⟨some "c.json", none, some "https://store", some "key"⟩, .setUpExecutor true⟩

theorem client_local : ∃ s, Session.load .empty localFiles setUpRequest.common = .ok s ∧
    s.client s.config.executorContract = .ok localExecutor := by
  have hfits : localConfig.Fits 1 := by
    apply Json.Fits.object
    simp only [List.forall_mem_cons]
    exact ⟨.string _, .string _, .string _, .string _, List.forall_mem_nil _⟩
  have hread : ∃ c, Config.codec.ofText localConfig.compact = .ok c ∧
      c.nodeEndpoint = "http://[::1]:8080" ∧ c.executorContract = ⟨"0xexec"⟩ ∧
      c.signer = none := by
    rw [Codec.ofText, Document.ofText_compact (hfits.mono (by decide))]
    exact ⟨_, rfl, rfl, rfl, rfl⟩
  obtain ⟨c, hc, hnode, hexecutor, hsigner⟩ := hread
  have hload : Config.load .empty localFiles (some "c.json") = .ok (c.expand .empty) := by
    rw [Config.load, pure_bind]
    simp only [readText_local, Config.ofText, hc]
    rfl
  have hnode' : (c.expand .empty).nodeEndpoint = "http://[::1]:8080" := by
    rw [Config.expand, hnode]
    show Expansion.expand .empty "http://[::1]:8080" = _
    decide
  have hsigner' : (c.expand .empty).signer = none := by
    rw [Config.expand, hsigner]
    rfl
  refine ⟨⟨c.expand .empty, Session.defaultSigner⟩, ?_, ?_⟩
  · have hcommon : setUpRequest.common = ⟨some "c.json", none, some "https://store", some "key"⟩ :=
      rfl
    rw [Session.load, hcommon, hload]
    simp only [Except.mapError, ok_bind, hsigner']
    rfl
  · simp only [Session.client, hnode']
    rw [Config.expand, hexecutor]
    decide +kernel

/-- A gateway that lets a first transaction pass and rejects every later one. -/
def passingOnce : Gateway := fun sent =>
  if sent.length = 1 then
    Reply.success (CostEstimate.codec opaqueValue) ⟨5, none, .ok .null⟩
  else if sent.length = 2 then
    Reply.success (.outcome opaqueValue TxReceipt.codec) (.ok ⟨"0x01", none⟩)
  else Reply.success (CostEstimate.codec opaqueValue) ⟨5, none, .error .null⟩

section PassingOnce

variable {sent : List Interchain.Request}

theorem accepts_passingOnce (h : sent.length = 1) :
    ∃ e, (passingOnce sent).Accepts (opaqueValue : Codec Json) e := by
  rw [passingOnce, if_pos h]
  exact ⟨_, ContractClient.accepts_success 5 none localExecutor.base⟩

theorem receipt_passingOnce (h : sent.length = 2) : ∃ outcome,
    (passingOnce sent).Holds (.outcome opaqueValue TxReceipt.codec) outcome ∧
      ∃ receipt, outcome = .ok receipt := by
  rw [passingOnce, if_neg (by omega), if_pos h]
  exact ⟨_, ContractClient.holds_success (outcome_carries_ok (TxReceipt.carries (n := 0) _))
    (by decide) localExecutor.base, _, rfl⟩

theorem rejects_passingOnce (h : sent.length = 3) :
    (passingOnce sent).Holds (CostEstimate.codec opaqueValue) ⟨5, none, .error .null⟩ := by
  rw [passingOnce, if_neg (by omega), if_neg (by omega)]
  exact ContractClient.holds_success
    (CostEstimate.carries (n := 1) (outcome_carries_error opaqueValue_carries_null)) (by decide)
    localExecutor.base

/-- Of two transactions the second is given up after its estimate there. -/
theorem length_of_passingOnce {c : ContractClient} {method method' : String} {args args' : Json}
    {asked : List Interchain.Request} {success : Prop}
    (haddress : ∀ action, c.address? action ≠ none)
    (h : StopsAtFailure passingOnce [] (Step.transaction c method args opaqueValue ++
      Step.transaction c method' args' opaqueValue) asked success) :
    asked.length = 3 ∧ ¬ success := by
  by_cases hlength : 2 < asked.length
  case pos =>
    have hrejects := rejects_passingOnce (List.length_take_of_le hlength)
    refine h.stops 2 _ hlength rfl (Step.not_serves_reading.mpr (.inr ⟨_, hrejects, ?_⟩))
    rintro ⟨j, ⟨⟩⟩
  case neg =>
    exfalso
    -- A shorter run would have stopped before a request with an address, or after one that is
    -- served.
    rcases asked with _ | ⟨a, _ | ⟨b, _ | ⟨c, rest⟩⟩⟩
    · rcases h.short _ rfl with hnone | ⟨i, last, hi, -⟩
      · exact haddress _ hnone
      · exact Nat.succ_ne_zero i hi.symm
    · rcases h.short _ rfl with hnone | ⟨i, last, hi, hlast, hunserved⟩
      · exact haddress _ hnone
      · obtain rfl : 0 = i := Nat.succ.inj hi
        cases hlast
        exact hunserved (accepts_passingOnce rfl)
    · rcases h.short _ rfl with hnone | ⟨i, last, hi, hlast, hunserved⟩
      · exact haddress _ hnone
      · obtain rfl : 1 = i := Nat.succ.inj hi
        cases hlast
        exact hunserved (receipt_passingOnce rfl)
    · simp at hlength

end PassingOnce

/-- Where the configuration of the executor passes and its start is rejected, the third request
is the last. -/
theorem failStop_rejected :
    let run := (main .empty localFiles setUpArgs).run passingOnce []
    (run.2.map fun r => (r.call.method, r.call.gasLimit.isSome)) =
        [("config_engine", false), ("config_engine", true), ("resume_executor", false)] ∧
      run.1.status ≠ 0 := by
  have hargs : Request.ofArgs .empty setUpArgs = .ok setUpRequest := by decide +kernel
  have hstop := (failStop_main .empty localFiles setUpArgs passingOnce).2 setUpRequest hargs
  generalize (main .empty localFiles setUpArgs).run passingOnce [] = run at hstop ⊢
  obtain ⟨s, hload, hclient⟩ := client_local
  obtain ⟨args, hplan⟩ : ∃ args, setUpRequest.plan .empty localFiles =
      .ok (Step.transaction localExecutor "config_engine" args opaqueValue ++
        Step.transaction localExecutor "resume_executor" (Executor.args []) opaqueValue) :=
    Request.plan_setUpExecutor_of_load rfl hload hclient rfl rfl
  obtain ⟨steps, hsteps, hstops⟩ := hstop.planned (Request.not_blocked_of_plan hplan)
  obtain rfl := Except.ok.inj (hplan.symm.trans hsteps)
  have haddress : ∀ action, localExecutor.address? action ≠ none := by
    intro action
    cases action <;> decide +kernel
  obtain ⟨hlength, hfailed⟩ := length_of_passingOnce haddress hstops
  refine ⟨?_, hfailed⟩
  obtain ⟨a, b, c, hasked⟩ := List.length_eq_three.mp hlength
  rw [hasked] at hstops ⊢
  obtain ⟨_, ⟨⟩, ha⟩ := hstops.planned 0 a rfl
  obtain ⟨_, ⟨⟩, hb⟩ := hstops.planned 1 b rfl
  obtain ⟨_, ⟨⟩, hc⟩ := hstops.planned 2 c rfl
  simp only [List.map_cons, List.map_nil, ha.method, ha.limited, hb.method, hb.limited, hc.method,
    hc.limited]
  rfl

end Interchain.Cli
