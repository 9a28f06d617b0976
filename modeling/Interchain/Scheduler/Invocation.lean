import Interchain.Scheduler.Journal

/-!
# Invocations of ticks

Each time a tick fires it invokes its work anew, whether or not earlier
invocations are still under way.  Looking for tasks takes one call for each chain
and worker, all made at once; an invocation of it ends when all of them have.  A
refresh takes two calls, the second with the token that the first returned.
-/

namespace Interchain

/-- What the scheduler of an executor is made of. -/
structure Scheduler where
  settings : SchedulerSettings
  /-- Where the executor keeps its tasks. -/
  storageUrl : String
  keystore : ContractId
deriving DecidableEq, Repr

/-- A call that looks for the tasks of one worker on one chain. -/
structure FetchCall where
  chain : ChainName
  worker : WorkerId
  pending : Pending ExecutorError RunOutcome

/-- The outcome of an invocation. -/
abbrev TickResult := Except SchedulerError Unit

/-- An invocation of a tick's work. -/
inductive Invocation where
  /-- The calls that have not ended, and the first fatal error of those that
  have. -/
  | fetching (calls : List FetchCall) (fatal : Option SchedulerError)
  | executing (call : Pending ExecutorError RunOutcome)
  | requesting (call : Pending CredentialError String)
  | configuring (call : Pending ExecutorError Unit)
  /-- It has an outcome, which its tick does not know yet. -/
  | settled (tick : TickKind) (result : TickResult)

namespace Ending

variable {ε α : Type}

/-- How an ending looks from outside. -/
def kind : Ending ε α → Ended
  | .returned _ => .ok
  | .failed _ => .fault
  | .panicked _ => .panic

/-- How the ending of a cycle looks from outside. -/
def cycleKind : Ending ExecutorError RunOutcome → Ended
  | .returned (.error _) => .err
  | e => e.kind

/-- How the ending of a request for a token looks from outside. -/
def tokenKind : Ending CredentialError String → Ended
  | .failed _ => .err
  | e => e.kind

/-- The error that a call to look for tasks ends the invocation with. -/
def fatal? : Ending ExecutorError RunOutcome → Option SchedulerError
  | .returned _ => none
  | .failed e => if e.isTransient then none else some (.executor e)
  | .panicked m => some (.tickPanicked .fetch (panicMessage m))

end Ending

namespace FetchCall

/-- What is reported of a call that ended. -/
def notice? (c : FetchCall) : Option Notice :=
  match c.pending.ending with
  | .returned (.ok output) => some (.fetched c.chain c.worker output)
  | .returned (.error reason) => some (.fetchReported c.chain c.worker reason)
  | .failed e => if e.isTransient then some (.fetchFailed c.chain c.worker e) else none
  | .panicked _ => none

/-- Note the end of a call. -/
def finish (c : FetchCall) (j : Journal) : Journal :=
  let j := j.finish c.pending c.pending.ending.cycleKind
  match c.notice? with
  | some n => j.report n
  | none => j

/-- The calls that one invocation makes, by chain and then by worker. -/
def targets (s : SchedulerSettings) : List (ChainName × WorkerId) :=
  s.sourceChains.flatMap fun chain => s.workers.map fun worker => (chain, worker)

/-- Make the calls for some targets. -/
def beginAll (script : Script) : List (ChainName × WorkerId) → Journal → List FetchCall × Journal
  | [], j => ([], j)
  | (chain, worker) :: rest, j =>
    let mode := RunningMode.fetch chain worker
    let (pending, j) := j.begin (.run mode) (script.run mode)
    let (calls, j) := beginAll script rest j
    (⟨chain, worker, pending⟩ :: calls, j)

end FetchCall

namespace Invocation

/-- The tick that the work belongs to. -/
def tick : Invocation → TickKind
  | .fetching _ _ => .fetch
  | .executing _ => .execute
  | .requesting _ => .credentialRefresh
  | .configuring _ => .credentialRefresh
  | .settled tick _ => tick

/-- When the calls end that an invocation waits for. -/
def dues : Invocation → List Nat
  | .fetching calls _ => calls.map fun c => c.pending.due
  | .executing p => [p.due]
  | .requesting p => [p.due]
  | .configuring p => [p.due]
  | .settled _ _ => []

def result : Option SchedulerError → TickResult
  | none => .ok ()
  | some e => .error e

/-- Looking for tasks ends when no call is left. -/
def fetched (calls : List FetchCall) (fatal : Option SchedulerError) : Invocation :=
  if calls.isEmpty then .settled .fetch (result fatal) else .fetching calls fatal

/-- Begin the work of a tick. -/
def start (s : Scheduler) (script : Script) (tick : TickKind) (j : Journal) :
    Invocation × Journal :=
  let j := j.record (.fired tick)
  match tick with
  | .fetch =>
    let (calls, j) := FetchCall.beginAll script (FetchCall.targets s.settings) j
    (fetched calls none, j)
  | .execute =>
    let (pending, j) := j.begin (.run .execute) (script.run .execute)
    (.executing pending, j)
  | .credentialRefresh =>
    let (pending, j) := j.begin .accessToken script.accessToken
    (.requesting pending, j)

/-- A call to advance tasks ends. -/
def endExecute (p : Pending ExecutorError RunOutcome) (j : Journal) : Invocation × Journal :=
  let j := j.finish p p.ending.cycleKind
  match p.ending with
  | .returned (.ok output) => (.settled .execute (.ok ()), j.report (.executed output))
  | .returned (.error reason) => (.settled .execute (.ok ()), j.report (.executeReported reason))
  | .failed e => (.settled .execute (.error (.executor e)), j)
  | .panicked m =>
    (.settled .execute (.error (.tickPanicked .execute (Ending.panicMessage m))), j)

/-- A call that hands a token over ends. -/
def endConfigure (p : Pending ExecutorError Unit) (j : Journal) : Invocation × Journal :=
  let j := j.finish p p.ending.kind
  match p.ending with
  | .returned () => (.settled .credentialRefresh (.ok ()), j.report .tokenRefreshed)
  | .failed e => (.settled .credentialRefresh (.error (.executor e)), j)
  | .panicked m =>
    (.settled .credentialRefresh
      (.error (.tickPanicked .credentialRefresh (Ending.panicMessage m))), j)

/-- A request for a token ends. -/
def endToken (script : Script) (p : Pending CredentialError String) (j : Journal) :
    Invocation × Journal :=
  let j := j.finish p p.ending.tokenKind
  match p.ending with
  | .returned token =>
    let (q, j) := j.begin (.configure token) script.configure
    (.configuring q, j)
  | .failed e => (.settled .credentialRefresh (.error (.credential e)), j)
  | .panicked m =>
    (.settled .credentialRefresh
      (.error (.tickPanicked .credentialRefresh (Ending.panicMessage m))), j)

/-- Go on with an invocation from the end of the `n`-th call that it waits for, if
that call ends by now. -/
def settle? (script : Script) (n : Nat) (i : Invocation) (j : Journal) :
    Option (Invocation × Journal) :=
  match i with
  | .fetching calls fatal =>
    calls[n]?.bind fun c =>
      if c.pending.due ≤ j.now then
        some (fetched (calls.eraseIdx n) (fatal.or c.pending.ending.fatal?), c.finish j)
      else none
  | .executing p => if n = 0 ∧ p.due ≤ j.now then some (endExecute p j) else none
  | .requesting p => if n = 0 ∧ p.due ≤ j.now then some (endToken script p j) else none
  | .configuring p => if n = 0 ∧ p.due ≤ j.now then some (endConfigure p j) else none
  | .settled _ _ => none

/-- What it takes for an invocation to go on. -/
theorem settle?_cases {script : Script} {n : Nat} {i : Invocation} {j : Journal}
    {r : Invocation × Journal} (h : i.settle? script n j = some r) :
    (∃ calls fatal c, i = .fetching calls fatal ∧ calls[n]? = some c ∧ c.pending.due ≤ j.now ∧
      r = (fetched (calls.eraseIdx n) (fatal.or c.pending.ending.fatal?), c.finish j)) ∨
    (∃ p, i = .executing p ∧ n = 0 ∧ p.due ≤ j.now ∧ r = endExecute p j) ∨
    (∃ p, i = .requesting p ∧ n = 0 ∧ p.due ≤ j.now ∧ r = endToken script p j) ∨
    (∃ p, i = .configuring p ∧ n = 0 ∧ p.due ≤ j.now ∧ r = endConfigure p j) := by
  cases i with
  | fetching calls fatal =>
    simp only [settle?, Option.bind_eq_some_iff, Option.ite_none_right_eq_some,
      Option.some.injEq] at h
    obtain ⟨c, hc, hdue, rfl⟩ := h
    exact .inl ⟨calls, fatal, c, rfl, hc, hdue, rfl⟩
  | executing p =>
    simp only [settle?, Option.ite_none_right_eq_some, Option.some.injEq] at h
    obtain ⟨⟨hn, hdue⟩, rfl⟩ := h
    exact .inr (.inl ⟨p, rfl, hn, hdue, rfl⟩)
  | requesting p =>
    simp only [settle?, Option.ite_none_right_eq_some, Option.some.injEq] at h
    obtain ⟨⟨hn, hdue⟩, rfl⟩ := h
    exact .inr (.inr (.inl ⟨p, rfl, hn, hdue, rfl⟩))
  | configuring p =>
    simp only [settle?, Option.ite_none_right_eq_some, Option.some.injEq] at h
    obtain ⟨⟨hn, hdue⟩, rfl⟩ := h
    exact .inr (.inr (.inr ⟨p, rfl, hn, hdue, rfl⟩))
  | settled tick result => simp [settle?] at h

/-- Cut off the calls of an invocation. -/
def abort (i : Invocation) (j : Journal) : Journal :=
  match i with
  | .fetching calls _ => calls.foldl (fun j c => j.finish c.pending .aborted) j
  | .executing p => j.finish p .aborted
  | .requesting p => j.finish p .aborted
  | .configuring p => j.finish p .aborted
  | .settled _ _ => j

end Invocation

end Interchain
