import Interchain.Cli.Run
import Interchain.Proofs.Gateway.FailStop
import Interchain.Proofs.Registry.Replay

/-!
# What the commands send

Each command has a plan: the requests it would send, in order, or the fault for which it sends
none.  The work of the command follows the plan, whatever is replied
(`Session.follows_runCommand`).
-/

namespace Interchain

open Codec Exchange

/-! ## What the clients of the contracts send -/

/-- The requests of a registration. -/
def RegistryClient.steps (c : ContractClient) (r : Registration) : List Step :=
  Step.transaction c r.method (Json.array r.args).canonical opaqueValue

namespace Executor

variable {α β ε : Type} {c : ContractClient} {method : String} {items : List Json}

theorem follows_check {value : Codec α} {accepted : α → Prop} {rest : List Step}
    {k : Except ExecutorError α → Exchange (Except ε β)}
    (hok : ∀ a, accepted a → Follows rest (k (.ok a)))
    (hbad : ∀ a, ¬ accepted a → ∃ e, k (.ok a) = .done (.error e))
    (herr : ∀ e, ∃ e', k (.error e) = .done (.error e')) :
    Follows (Step.check c method (args items) opaqueValue value accepted :: rest)
      (query c method items value >>= k) := by
  rw [query, bind_assoc]
  exact ContractClient.follows_check hok hbad fun e => herr (.ofCall method e)

theorem follows_transaction :
    Follows (Step.transaction c method (args items) opaqueValue) (transaction c method items) :=
  ContractClient.follows_transaction.mapResult (fun _ => ⟨(), rfl⟩) fun e => ⟨.ofCall method e, rfl⟩

end Executor

theorem KeyStore.follows_setExecutor {c : ContractClient} {executor : ContractId} :
    Follows (Step.transaction c "set_executor" (.array [Name.codec.write executor]) opaqueValue)
      (setExecutor c executor) := by
  refine ContractClient.follows_transaction.mapResult (fun receipt => ⟨receipt, rfl⟩) fun e => ?_
  cases e <;> exact ⟨_, rfl⟩

theorem HandlerClient.follows_submit {h : HandlerClient} {method : String} {items : List Json} :
    Follows (Step.transaction h.contract method (.array items) opaqueValue)
      (h.submit method items) := by
  refine ContractClient.follows_transaction.mapResult (fun receipt => ⟨receipt, rfl⟩) fun e => ?_
  cases e <;> exact ⟨_, rfl⟩

namespace RegistryClient

variable {c : ContractClient}

theorem follows_register (r : Registration) : Follows (steps c r) (register c r) :=
  ContractClient.follows_transaction.mapResult (fun _ => ⟨(), rfl⟩) fun e => ⟨.ofCall e, rfl⟩

theorem follows_getGraph :
    Follows [.query c "get_graph" (.array []) opaqueValue Graph.codec] (getGraph c) :=
  ContractClient.follows_query .finished fun e => ⟨.ofCall e, rfl⟩

/-- Registrations one after the other, until one of them fails. -/
theorem follows_makeAll (n : Nat) (rs : List Registration) :
    Follows (rs.flatMap (steps c)) (Manifest.makeAll (register c) n rs) := by
  induction rs generalizing n with
  | nil => exact .finished n
  | cons r rest ih =>
    rw [List.flatMap_cons]
    exact (follows_register r).andThen (fun _ => ih (n + 1)) fun e => ⟨e, rfl⟩

theorem follows_apply (manifest : Manifest) :
    Follows (manifest.calls.flatMap (steps c)) (manifest.apply (register c)) := by
  rw [Manifest.apply_eq_makeAll]
  exact follows_makeAll 0 manifest.calls

end RegistryClient

namespace Cli

/-! ## The plan of a command -/

/-- What there must be for there to be a plan. -/
def demanded {α : Type} (e : Error) : Option α → Except Error α
  | some a => .ok a
  | none => .error e

namespace Session

variable (s : Session)

def client (id : ContractId) : Except Error ContractClient :=
  (ContractClient.make s.config.nodeEndpoint id s.signer).mapError .transport

def handlerClient (chain : ChainName) : Except Error HandlerClient := do
  let chainType ← demanded (.unknownChainType chain) (s.config.chainType? chain)
  let endpoint ← demanded (.noEndpoint chain) (s.config.chainEndpoint? chain)
  let address ← demanded (.noHandler chain) (s.config.handler? chain)
  let contract ← (ContractClient.make endpoint ⟨address⟩ s.signer).mapError .transport
  (HandlerClient.make chain chainType contract).mapError .handler

/-- What a command of the registry sends. -/
def registryPlan (files : Files) (command : RegistryCommand) : Except Error (List Step) := do
  let c ← s.client s.config.registryContract
  match command with
  | .graph => return [.query c "get_graph" (.array []) opaqueValue Graph.codec]
  | .apply path dryRun =>
    let text ← (files.readText path).mapError (.unreadable path)
    let manifest ← readRecord "manifest" Manifest.codec text
    if dryRun then
      let _ ← (manifest.applyTo Topology.empty).1.mapError .registry
      return []
    else return manifest.calls.flatMap (RegistryClient.steps c)
  | other =>
    let registration? ← other.registration?
    return registration?.toList.flatMap (RegistryClient.steps c)

/-- What a command sends, or the fault for which it sends nothing.  A worker that is asked for
must be among the accounts, and the scheduler is started, which ends its plan, only if the
executor is running. -/
def plan (files : Files) (common : Common) : Command → Except Error (List Step)
  | .runScheduler fetch execute tokenUpdate => do
    let settings := s.config.scheduler.withIntervals fetch execute tokenUpdate
    ({ s.config with scheduler := settings } : Config).validate.mapError .config
    let _ ← demanded .noStorageUrl (common.storageUrl.or s.config.storageUrl)
    let _ ← (TokenCommand.ofLine settings.tokenCommand).mapError .credential
    let c ← s.client s.config.executorContract
    return [.check c "is_running" (Executor.args []) opaqueValue Codec.bool (· = true)]
  | .setUpExecutor resume => do
    let c ← s.client s.config.executorContract
    match common.storageUrl.or s.config.storageUrl, common.storageKey with
    | some url, some key =>
      let args := [.string url, .string key, Name.codec.write s.config.keyStoreContract,
        .bool resume]
      return Step.transaction c "config_engine" (Executor.args args) opaqueValue ++
        if resume then Step.transaction c "resume_executor" (Executor.args []) opaqueValue else []
    | _, _ => throw .noStorageAccess
  | .resumeExecutor => do
    let c ← s.client s.config.executorContract
    return Step.transaction c "resume_executor" (Executor.args []) opaqueValue
  | .executorStatus => do
    let c ← s.client s.config.executorContract
    return [.query c "is_running" (Executor.args []) opaqueValue Codec.bool]
  | .setExecutor => do
    let c ← s.client s.config.keyStoreContract
    return Step.transaction c "set_executor" (.array [Name.codec.write s.config.executorContract])
      opaqueValue
  | .listWorkers worker => do
    let c ← s.client s.config.executorContract
    return [.check c "get_worker_accounts" (Executor.args []) opaqueValue (.list AccountInfo.codec)
      fun accounts => ∀ w ∈ worker, ∃ a ∈ accounts, a.isOf w = true]
  | .approve worker chain token spender amount => do
    let c ← s.client s.config.executorContract
    let args := [Name.codec.write worker, .string chain.normalized, Blob.codec.write token,
      Blob.codec.write spender, .string (Executor.amountText amount)]
    return [.query c "worker_approve" (Executor.args args) opaqueValue opaqueValue]
  | .dropTask worker chain task => do
    let c ← s.client s.config.executorContract
    let args := [Name.codec.write worker, .string (Executor.queueKey chain), Blob.codec.write task]
    return [.query c "worker_drop_task" (Executor.args args) opaqueValue opaqueValue]
  | .registry command => s.registryPlan files command
  | .setWorker chain worker => do
    let h ← s.handlerClient chain
    return Step.transaction h.contract "set_worker" (.array [Blob.codec.write worker]) opaqueValue
  | .deposit chain asset amount recipient worker task data => do
    let h ← s.handlerClient chain
    let args := [Blob.codec.write asset, .string (Decimal.naturalText amount.toNat),
      Blob.codec.write recipient, Blob.codec.write worker, Blob.codec.write task,
      Blob.codec.write data]
    return Step.transaction h.contract "deposit" (.array args) opaqueValue

end Session

/-! ## Work that follows a plan -/

namespace Work

variable {α β ε : Type} {xs ys : List Step}

/-- Work follows a plan, or fails outright if there is none. -/
def Follows (plan : Except Error (List Step)) (w : Work α) : Prop :=
  match plan with
  | .error e => w.run = .done (.error e)
  | .ok steps => Exchange.Follows steps w.run

theorem demand_eq (e : Error) (value : Option β) :
    demand e value = ExceptT.mk (pure (demanded e value)) := by
  cases value <;> rfl

theorem attempt_bind (r : Except Error β) (f : β → Except Error α) :
    (ExceptT.mk (pure r) >>= fun b => ExceptT.mk (pure (f b)) : Work α) =
      ExceptT.mk (pure (r >>= f)) := by
  cases r <;> rfl

/-- What does not speak to a contract fails for the plan and for the work alike. -/
theorem Follows.attempt {r : Except Error β} {plan : β → Except Error (List Step)}
    {f : β → Work α} (h : ∀ b, Follows (plan b) (f b)) :
    Follows (r >>= plan) (ExceptT.mk (pure r) >>= f) := by
  cases r with
  | error e => rfl
  | ok b => exact h b

theorem Follows.bind {w : Work β} {f : β → Work α} (h : Follows (.ok xs) w)
    (hf : ∀ b, Follows (.ok ys) (f b)) : Follows (.ok (xs ++ ys)) (w >>= f) :=
  Exchange.Follows.andThen h hf fun e => ⟨e, rfl⟩

theorem follows_pure (a : α) : Follows (.ok []) (pure a) :=
  Exchange.Follows.finished a

theorem follows_speak {onError : ε → Error} {x : Exchange (Except ε α)}
    (h : Exchange.Follows xs x) : Follows (.ok xs) (speak onError x) :=
  h.mapResult (fun a => ⟨a, rfl⟩) fun e => ⟨onError e, rfl⟩

/-- A query of the executor whose value is looked at before the work goes on. -/
theorem follows_check {c : ContractClient} {method : String} {items : List Json}
    {value : Codec β} {accepted : β → Prop} {onError : ExecutorError → Error} {f : β → Work α}
    (hok : ∀ b, accepted b → Follows (.ok xs) (f b))
    (hbad : ∀ b, ¬ accepted b → ∃ e, f b = ExceptT.mk (pure (.error e))) :
    Follows (.ok (Step.check c method (Executor.args items) opaqueValue value accepted :: xs))
      (speak onError (Executor.query c method items value) >>= f) := by
  have hrun : (speak onError (Executor.query c method items value) >>= f).run =
      Executor.query c method items value >>= fun r => ExceptT.bindCont f (r.mapError onError) :=
    bind_assoc (Executor.query c method items value) (fun r => pure (r.mapError onError))
      (ExceptT.bindCont f)
  change Exchange.Follows _ (ExceptT.run _)
  rw [hrun]
  exact Executor.follows_check hok hbad fun e => ⟨onError e, rfl⟩

/-- A query of the executor that is the only request. -/
theorem follows_query {c : ContractClient} {method : String} {items : List Json}
    {value : Codec β} {onError : ExecutorError → Error} {f : β → Work α}
    (h : ∀ b, Follows (.ok []) (f b)) :
    Follows (.ok [Step.query c method (Executor.args items) opaqueValue value])
      (speak onError (Executor.query c method items value) >>= f) :=
  follows_check (fun b _ => h b) fun _ hno => absurd trivial hno

theorem Follows.andThen {w : Work β} {f : β → Work α} (h : Follows (.ok xs) w)
    (hf : ∀ b, Follows (.ok []) (f b)) : Follows (.ok xs) (w >>= f) := by
  simpa only [List.append_nil] using h.bind hf

theorem Follows.map {plan : Except Error (List Step)} {w : Work β} (h : Follows plan w)
    (g : β → α) : Follows plan (g <$> w) := by
  cases plan with
  | error e =>
    obtain rfl : w = ExceptT.mk (pure (.error e)) := h
    rfl
  | ok steps =>
    have hmap : Exchange.Follows (steps ++ []) (g <$> w).run :=
      Exchange.Follows.andThen h (fun b => .finished (g b)) fun e => ⟨e, rfl⟩
    rwa [List.append_nil] at hmap

end Work

/-! ## The commands -/

namespace Session

variable {s : Session} {files : Files} {α : Type}

open Work (Follows)

theorem follows_contract {id : ContractId} {plan : ContractClient → Except Error (List Step)}
    {f : ContractClient → Work α} (h : ∀ c, Follows (plan c) (f c)) :
    Follows (s.client id >>= plan) (s.contract id >>= f) :=
  Follows.attempt h

theorem handler_eq (chain : ChainName) :
    s.handler chain = ExceptT.mk (pure (s.handlerClient chain)) := by
  simp only [handler, handlerClient, Work.demand_eq, Work.attempt_bind]

theorem follows_handler {chain : ChainName} {plan : HandlerClient → Except Error (List Step)}
    {f : HandlerClient → Work α} (h : ∀ c, Follows (plan c) (f c)) :
    Follows (s.handlerClient chain >>= plan) (s.handler chain >>= f) := by
  rw [handler_eq]
  exact Follows.attempt h

theorem follows_applyManifest {c : ContractClient} (path : String) (dryRun : Bool) :
    Follows
      (do
        let text ← (files.readText path).mapError (.unreadable path)
        let manifest ← readRecord "manifest" Manifest.codec text
        if dryRun then
          let _ ← (manifest.applyTo Topology.empty).1.mapError .registry
          return []
        else return manifest.calls.flatMap (RegistryClient.steps c))
      (applyManifest files c path dryRun) := by
  refine Follows.attempt fun text => Follows.attempt fun manifest => ?_
  cases dryRun with
  | true => exact Follows.attempt fun _ => Work.follows_pure _
  | false =>
    exact (Work.follows_speak (RegistryClient.follows_apply manifest)).andThen
      fun _ => Work.follows_pure _

theorem follows_register {c : ContractClient} (r : Registration) :
    Follows (.ok (RegistryClient.steps c r))
      (do Work.speak .registry (RegistryClient.register c r); return "") :=
  (Work.follows_speak (RegistryClient.follows_register r)).andThen fun _ => Work.follows_pure _

theorem follows_runRegistry (command : RegistryCommand) :
    Follows (s.registryPlan files command) (runRegistry s files command) := by
  refine follows_contract fun c => ?_
  cases command
  case graph =>
    exact (Work.follows_speak RegistryClient.follows_getGraph).andThen fun _ => Work.follows_pure _
  case apply path dryRun => exact follows_applyManifest path dryRun
  all_goals
    refine Follows.attempt fun registration? => ?_
    cases registration? with
    | none => exact Work.follows_pure ""
    | some r =>
      change Follows (.ok (RegistryClient.steps c r ++ [])) _
      rw [List.append_nil]
      exact follows_register r

theorem follows_setUpExecutor (common : Common) (resume : Bool) :
    Follows (s.plan files common (.setUpExecutor resume)) (setUpExecutor s common resume) := by
  refine follows_contract fun c => ?_
  cases common.storageUrl.or s.config.storageUrl with
  | none => rfl
  | some url =>
    cases common.storageKey with
    | none => rfl
    | some key =>
      refine (Work.follows_speak Executor.follows_transaction).bind fun _ => ?_
      cases resume with
      | false => exact Work.follows_pure ""
      | true =>
        exact (Work.follows_speak Executor.follows_transaction).andThen fun _ =>
          Work.follows_pure ""

theorem follows_listWorkers (common : Common) (worker : Option WorkerId) :
    Follows (s.plan files common (.listWorkers worker)) (listWorkers s worker) := by
  refine follows_contract fun c => Work.follows_check ?_ ?_
  · intro accounts hfound
    cases worker with
    | none => exact Work.follows_pure _
    | some w =>
      obtain ⟨a, ha⟩ := Option.isSome_iff_exists.mp (List.find?_isSome.mpr (hfound w rfl))
      simp only [ha]
      exact Work.follows_pure _
  · intro accounts hmissing
    cases worker with
    | none => exact absurd (by simp) hmissing
    | some w =>
      have hnone : accounts.find? (fun a => a.isOf w) = none := by
        rw [List.find?_eq_none]
        intro a ha hw
        exact hmissing fun _ hw' => Option.some.inj hw' ▸ ⟨a, ha, hw⟩
      simp only [hnone]
      exact ⟨_, rfl⟩

theorem follows_runScheduler (common : Common) (fetch execute tokenUpdate : Option UInt64) :
    Follows (s.plan files common (.runScheduler fetch execute tokenUpdate))
      (runScheduler s common fetch execute tokenUpdate) := by
  refine Follows.attempt fun _ => ?_
  rw [Work.demand_eq]
  refine Follows.attempt fun _ => Follows.attempt fun _ => follows_contract fun c => ?_
  refine Work.follows_check ?_ ?_
  · rintro _ rfl
    exact Work.follows_pure _
  · intro running hpaused
    rw [if_neg hpaused]
    exact ⟨_, rfl⟩

/-- Every command follows its plan. -/
theorem follows_runCommand (common : Common) (command : Command) :
    Follows (s.plan files common command) (runCommand s files common command) := by
  cases command with
  | runScheduler fetch execute tokenUpdate =>
    exact follows_runScheduler common fetch execute tokenUpdate
  | setUpExecutor resume => exact (follows_setUpExecutor common resume).map _
  | resumeExecutor =>
    exact follows_contract fun c =>
      (Work.follows_speak Executor.follows_transaction).andThen fun _ => Work.follows_pure _
  | executorStatus =>
    exact follows_contract fun c => Work.follows_query fun _ => Work.follows_pure _
  | setExecutor =>
    exact follows_contract fun c =>
      (Work.follows_speak KeyStore.follows_setExecutor).andThen fun _ => Work.follows_pure _
  | listWorkers worker => exact (follows_listWorkers common worker).map _
  | approve worker chain token spender amount =>
    exact follows_contract fun c => Work.follows_query fun _ => Work.follows_pure _
  | dropTask worker chain task =>
    exact follows_contract fun c => Work.follows_query fun _ => Work.follows_pure _
  | registry command => exact (follows_runRegistry command).map _
  | setWorker chain worker =>
    exact follows_handler fun h =>
      (Work.follows_speak HandlerClient.follows_submit).andThen fun _ => Work.follows_pure _
  | deposit chain asset amount recipient worker task data =>
    exact follows_handler fun h =>
      (Work.follows_speak HandlerClient.follows_submit).andThen fun _ => Work.follows_pure _

end Session

end Cli

end Interchain
