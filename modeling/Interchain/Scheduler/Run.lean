import Interchain.Scheduler.Generation

/-!
# Runs of a scheduler

A scheduler first asks whether the executor is running.  If it is, the ticks are
started.  When they have been told to end and have ended, a transient error makes
the scheduler start them afresh; any other ends the run, as shutdown does.

A run is a sequence of instants, one for each millisecond.  What happens at an
instant is a sequence of moves, in any order that the moves themselves leave open
(`Run.perform?`).  The scheduler that runs here takes shutdown before all else, then
lets the ticks fire that are due, then ends the calls that are due, those of older
invocations first, and only then attends to the errors that they ended with
(`Run.candidates`).
-/

namespace Interchain

/-- How far a run has come. -/
inductive Stage where
  /-- Waiting to hear whether the executor is running. -/
  | checking (call : Pending ExecutorError Bool)
  /-- About to start the ticks. -/
  | starting
  | ticking (generation : Generation)
  | ended (result : TickResult)
  /-- The question whether the executor is running broke down, and the run with
  it. -/
  | crashed (message : String)

/-- A run at some point. -/
structure Run where
  journal : Journal
  stage : Stage

/-- What can happen next in a run. -/
inductive Move where
  | answer
  | start
  | fire (tick : TickKind)
  | settle (i n : Nat)
  | note (i : Nat)
  | heed
  | quit
  | halt (tick : TickKind)
  | conclude
deriving DecidableEq, Repr

namespace Run

variable (s : Scheduler) (script : Script) (shutdown : Option Nat)

/-- End the run. -/
def terminate (result : TickResult) (j : Journal) : Run :=
  ⟨j.enter .terminated, .ended result⟩

/-- Go on from the answer whether the executor is running. -/
def check (p : Pending ExecutorError Bool) (j : Journal) : Run :=
  let j := j.finish p p.ending.kind
  match p.ending with
  | .returned true => ⟨j.report (.starting s.settings.workers.length), .starting⟩
  | .returned false => terminate (.error .executorNotRunning) (j.report .notRunning)
  | .failed e => terminate (.error (.executor e)) (j.report (.statusUnknown e))
  | .panicked m => ⟨j, .crashed (Ending.panicMessage m)⟩

/-- Start the ticks. -/
def startTicks (j : Journal) : Run :=
  ⟨j.enter .running, .ticking (.fresh s j.now)⟩

/-- Go on when all ticks have ended. -/
def conclude (v : Verdict) (j : Journal) : Run :=
  let j := (Generation.dead s).foldl (fun j _ => j.report .tickDied) j
  match v with
  | .shutdown => terminate (.ok ()) (j.report .stopped)
  | .fault e =>
    if e.isTransient then
      let j := j.recover
      ⟨(j.report (.recovering j.recoveries e)).enter .recovering, .starting⟩
    else terminate (.error e) (j.report (.failed e))

/-- The run after something that ticks did. -/
def ofTicks (r : Generation × Journal) : Run :=
  ⟨r.2, .ticking r.1⟩

/-- Something that happens while the ticks go on. -/
def tick? (m : Move) (g : Generation) (j : Journal) : Option Run :=
  match m with
  | .fire tick => (g.fire? s script tick j).map ofTicks
  | .settle i n => (g.settle? script i n j).map ofTicks
  | .note i => (g.note? i j).map ofTicks
  | .heed => (g.heed? j).map ofTicks
  | .quit => (g.quit? shutdown j).map ofTicks
  | .halt tick => (g.halt? shutdown tick j).map ofTicks
  | .conclude => if g.live = [] then g.verdict.map fun v => conclude s v j else none
  | .answer | .start => none

/-- Something happens, if it can. -/
def perform? (m : Move) (r : Run) : Option Run :=
  match r.stage, m with
  | .checking p, .answer => if p.due ≤ r.journal.now then some (check s p r.journal) else none
  | .starting, .start => some (startTicks s r.journal)
  | .ticking g, m => tick? s script shutdown m g r.journal
  | _, _ => none

/-- The moves to try, the first that is possible to be taken. -/
def candidates (r : Run) : List Move :=
  match r.stage with
  | .checking _ => [.answer]
  | .starting => [.start]
  | .ticking g =>
    [.quit, .conclude] ++ TickKind.all.map .halt ++ TickKind.all.map .fire ++
      (g.inflight.mapIdx fun i v => (List.range v.dues.length).map (.settle i)).flatten ++
      (List.range g.inflight.length).map .note ++ [.heed]
  | .ended _ | .crashed _ => []

/-- The next move. -/
def move? (r : Run) : Option Run :=
  r.candidates.findSome? fun m => perform? s script shutdown m r

/-- Whether a run has come to its end. -/
def isOver (r : Run) : Bool :=
  match r.stage with
  | .ended _ | .crashed _ => true
  | _ => false

/-- The run some instants later, with nothing done there yet. -/
def pass (n : Nat) (r : Run) : Run where
  journal := { r.journal with now := r.journal.now + n }
  stage := match r.stage with
    | .ticking g => .ticking (g.pass s (r.journal.now + n))
    | stage => stage

/-- A run before its first move. -/
def first : Run :=
  let (p, j) := (Journal.blank.enter .awaitingExecutorReady).begin .isRunning script.isRunning
  ⟨j, .checking p⟩

/-! ## What can happen, case by case -/

/-- The moves with what each requires and does. -/
inductive Happens : Move → Run → Run → Prop
  | answer {p j} (ended : p.due ≤ j.now) : Happens .answer ⟨j, .checking p⟩ (check s p j)
  | start {j} : Happens .start ⟨j, .starting⟩ (startTicks s j)
  | fire {g j tick} (live : tick ∈ g.live) (due : tick ∈ g.due) :
      Happens (.fire tick) ⟨j, .ticking g⟩
        ⟨(Invocation.start s script tick j).2,
          .ticking { g with
            due := g.due.erase tick
            inflight := g.inflight ++ [(Invocation.start s script tick j).1] }⟩
  | settle {g j i n v w} (found : g.inflight[i]? = some v) (goes : v.settle? script n j = some w) :
      Happens (.settle i n) ⟨j, .ticking g⟩
        ⟨w.2, .ticking { g with inflight := g.inflight.set i w.1 }⟩
  | note {g j i tick result} (found : g.inflight[i]? = some (.settled tick result)) :
      Happens (.note i) ⟨j, .ticking g⟩
        (ofTicks (Generation.deliver tick result
          { g with inflight := g.inflight.eraseIdx i } j))
  | heed {g j e rest} (waits : g.verdict = none) (queued : g.faults = e :: rest) :
      Happens .heed ⟨j, .ticking g⟩
        ⟨j, .ticking { g with faults := rest, verdict := some (.fault e) }⟩
  | quit {g j} (waits : g.verdict = none)
      (ended : Generation.shutdownBy shutdown j.now = true ∨ g.live = [] ∧ g.faults = []) :
      Happens .quit ⟨j, .ticking g⟩ ⟨j, .ticking { g with verdict := some .shutdown }⟩
  | halt {g j tick} (live : tick ∈ g.live)
      (told : g.verdict.isSome = true ∨ Generation.shutdownBy shutdown j.now = true) :
      Happens (.halt tick) ⟨j, .ticking g⟩
        ⟨(g.inflight.filter fun i => i.tick = tick).foldl (fun j i => i.abort j) j,
          .ticking { g with
            live := g.live.erase tick
            inflight := g.inflight.filter fun i => i.tick ≠ tick }⟩
  | conclude {g j v} (ended : g.live = []) (told : g.verdict = some v) :
      Happens .conclude ⟨j, .ticking g⟩ (conclude s v j)

variable {s script shutdown} {m : Move} {r r' : Run}

theorem perform?_eq_some : perform? s script shutdown m r = some r' ↔
    Happens s script shutdown m r r' := by
  constructor
  · intro h
    rcases r with ⟨j, stage⟩
    cases stage with
    | checking p =>
      cases m <;> simp only [perform?, reduceCtorEq] at h
      simp only [Option.ite_none_right_eq_some, Option.some.injEq] at h
      obtain ⟨hdue, rfl⟩ := h
      exact .answer hdue
    | starting =>
      cases m <;> simp only [perform?, reduceCtorEq, Option.some.injEq] at h
      subst h
      exact .start
    | ticking g =>
      simp only [perform?] at h
      cases m with
      | answer | start => simp [tick?] at h
      | fire tick =>
        simp only [tick?, Option.map_eq_some_iff, Generation.fire?_eq_some] at h
        obtain ⟨_, ⟨⟨hlive, hdue⟩, rfl⟩, rfl⟩ := h
        exact .fire hlive hdue
      | settle i n =>
        simp only [tick?, Option.map_eq_some_iff, Generation.settle?_eq_some] at h
        obtain ⟨_, ⟨v, hv, w, hw, rfl⟩, rfl⟩ := h
        exact .settle hv hw
      | note i =>
        simp only [tick?, Option.map_eq_some_iff, Generation.note?_eq_some] at h
        obtain ⟨_, ⟨tick, result, hi, rfl⟩, rfl⟩ := h
        exact .note hi
      | heed =>
        simp only [tick?, Option.map_eq_some_iff, Generation.heed?_eq_some] at h
        obtain ⟨_, ⟨e, rest, hv, hf, rfl⟩, rfl⟩ := h
        exact .heed hv hf
      | quit =>
        simp only [tick?, Option.map_eq_some_iff, Generation.quit?_eq_some] at h
        obtain ⟨_, ⟨⟨hv, hover⟩, rfl⟩, rfl⟩ := h
        exact .quit hv hover
      | halt tick =>
        simp only [tick?, Option.map_eq_some_iff, Generation.halt?_eq_some] at h
        obtain ⟨_, ⟨⟨hlive, htold⟩, rfl⟩, rfl⟩ := h
        exact .halt hlive htold
      | conclude =>
        simp only [tick?, Option.ite_none_right_eq_some, Option.map_eq_some_iff] at h
        obtain ⟨hlive, v, hv, rfl⟩ := h
        exact .conclude hlive hv
    | ended result => simp [perform?] at h
    | crashed message => simp [perform?] at h
  · intro h
    cases h with
    | answer hdue => simp [perform?, hdue]
    | start => rfl
    | fire hlive hdue =>
      exact Option.map_eq_some_iff.mpr
        ⟨_, Generation.fire?_eq_some.mpr ⟨⟨hlive, hdue⟩, rfl⟩, rfl⟩
    | settle hv hw =>
      exact Option.map_eq_some_iff.mpr
        ⟨_, Generation.settle?_eq_some.mpr ⟨_, hv, _, hw, rfl⟩, rfl⟩
    | note hi =>
      exact Option.map_eq_some_iff.mpr ⟨_, Generation.note?_eq_some.mpr ⟨_, _, hi, rfl⟩, rfl⟩
    | heed hv hf =>
      exact Option.map_eq_some_iff.mpr ⟨_, Generation.heed?_eq_some.mpr ⟨_, _, hv, hf, rfl⟩, rfl⟩
    | quit hv hover =>
      exact Option.map_eq_some_iff.mpr ⟨_, Generation.quit?_eq_some.mpr ⟨⟨hv, hover⟩, rfl⟩, rfl⟩
    | halt hlive htold =>
      exact Option.map_eq_some_iff.mpr
        ⟨_, Generation.halt?_eq_some.mpr ⟨⟨hlive, htold⟩, rfl⟩, rfl⟩
    | conclude hlive hv => simp [perform?, tick?, hlive, hv]

end Run

end Interchain
