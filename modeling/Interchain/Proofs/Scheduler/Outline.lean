import Interchain.Proofs.Scheduler.Course
import Mathlib.Data.List.InsertIdx

/-!
# Outcomes of cycles that make no difference

A cycle that ends with an output, with a reason of the executor's own or with a
transient error is harmless: its tick reports it and that is all.  The outline of a
run does not tell these outcomes apart and leaves out reports and the ends of calls.
What can happen in a run, and the outline of what comes of it, depends on the outline
alone (`Run.outline_perform?`).  So two scripts whose cycles differ in harmless
outcomes only lead to the same outlines (`Run.Possible.alike`).
-/

namespace Interchain

namespace Ending

/-- Whether a cycle ended in a way that its tick deals with alone. -/
def isHarmless : Ending ExecutorError RunOutcome → Bool
  | .returned _ => true
  | .failed e => e.isTransient
  | .panicked _ => false

/-- The ending with harmless outcomes not told apart. -/
def outline (e : Ending ExecutorError RunOutcome) : Ending ExecutorError RunOutcome :=
  if e.isHarmless then .returned (.ok .null) else e

@[simp] theorem outline_returned (outcome : RunOutcome) :
    (Ending.returned outcome : Ending ExecutorError RunOutcome).outline = .returned (.ok .null) :=
  rfl

@[simp] theorem outline_panicked (message : Option String) :
    (Ending.panicked message : Ending ExecutorError RunOutcome).outline = .panicked message :=
  rfl

theorem outline_failed (e : ExecutorError) :
    (Ending.failed e : Ending ExecutorError RunOutcome).outline =
      if e.isTransient then .returned (.ok .null) else .failed e :=
  rfl

@[simp] theorem outline_outline (e : Ending ExecutorError RunOutcome) :
    e.outline.outline = e.outline := by
  unfold outline
  split
  · rfl
  · simp_all

end Ending

/-- Scripts that differ at most in what harmless cycles come to. -/
structure Script.Alike (script script' : Script) : Prop where
  isRunning : script.isRunning = script'.isRunning
  accessToken : script.accessToken = script'.accessToken
  configure : script.configure = script'.configure
  delay : ∀ mode n, (script.run mode n).delay = (script'.run mode n).delay
  ending : ∀ mode n, (script.run mode n).ending = (script'.run mode n).ending ∨
    (script.run mode n).ending.isHarmless = true ∧ (script'.run mode n).ending.isHarmless = true

/-- The script with harmless outcomes not told apart. -/
def Script.outline (script : Script) : Script :=
  { script with run := fun mode n =>
      ⟨(script.run mode n).delay, (script.run mode n).ending.outline⟩ }

theorem Script.Alike.outline_eq {script script' : Script} (h : script.Alike script') :
    script.outline = script'.outline := by
  have hrun : script.outline.run = script'.outline.run := by
    funext mode n
    have hending : (script.run mode n).ending.outline = (script'.run mode n).ending.outline := by
      rcases h.ending mode n with heq | ⟨hharmless, hharmless'⟩
      · rw [heq]
      · rw [Ending.outline, Ending.outline, if_pos hharmless, if_pos hharmless']
    simp only [Script.outline, h.delay, hending]
  rcases script with ⟨isRunning, run, accessToken, configure⟩
  rcases script' with ⟨isRunning', run', accessToken', configure'⟩
  obtain rfl : isRunning = isRunning' := h.isRunning
  obtain rfl : accessToken = accessToken' := h.accessToken
  obtain rfl : configure = configure' := h.configure
  exact congrArg (Script.mk isRunning · accessToken configure) hrun

/-- Neither a report nor the end of a call. -/
def Event.isOutlined : Event → Bool
  | .reported _ | .finished _ _ _ => false
  | _ => true

/-! ## Outlines -/

def Journal.outline (j : Journal) : Journal :=
  { j with history := j.history.filter fun e => e.2.isOutlined }

def Pending.outline (p : Pending ExecutorError RunOutcome) : Pending ExecutorError RunOutcome :=
  { p with ending := p.ending.outline }

def FetchCall.outline (c : FetchCall) : FetchCall :=
  { c with pending := c.pending.outline }

/-- The outcome of an invocation as the supervisor learns of it. -/
def TickKind.outline (tick : TickKind) : TickResult → TickResult
  | .ok () => .ok ()
  | .error e => if e.isTransient && tick.swallowsTransient then .ok () else .error e

def Invocation.outline : Invocation → Invocation
  | .fetching calls fatal => .fetching (calls.map FetchCall.outline) fatal
  | .executing p => .executing p.outline
  | .requesting p => .requesting p
  | .configuring p => .configuring p
  | .settled tick result => .settled tick (tick.outline result)

def Generation.outline (g : Generation) : Generation :=
  { g with inflight := g.inflight.map Invocation.outline }

def Stage.outline : Stage → Stage
  | .ticking g => .ticking g.outline
  | stage => stage

def Run.outline (r : Run) : Run :=
  ⟨r.journal.outline, r.stage.outline⟩

/-- Two conditional results agree in some respect if the conditions are the same and
the results agree. -/
theorem map_ite_congr {α β : Type} {f : α → β} {p q : Prop} [Decidable p] [Decidable q] {a b : α}
    (h : p ↔ q) (hab : f a = f b) :
    (if p then some a else none).map f = (if q then some b else none).map f := by
  by_cases hq : q
  · rw [if_pos hq, if_pos (h.mpr hq), Option.map_some, Option.map_some, hab]
  · rw [if_neg hq, if_neg fun hp => hq (h.mp hp)]

namespace Journal

variable {ε α : Type} (j : Journal)

@[simp] theorem now_outline : j.outline.now = j.now := rfl

@[simp] theorem state_outline : j.outline.state = j.state := rfl

@[simp] theorem recoveries_outline : j.outline.recoveries = j.recoveries := rfl

@[simp] theorem outline_outline : j.outline.outline = j.outline := by
  simp [outline]

@[simp] theorem outline_report (n : Notice) : (j.report n).outline = j.outline := rfl

@[simp] theorem outline_finish (p : Pending ε α) (how : Ended) :
    (j.finish p how).outline = j.outline := rfl

theorem outline_record {e : Event} (h : e.isOutlined = true) :
    (j.record e).outline = j.outline.record e := by
  simp [outline, record, h]

@[simp] theorem outline_enter (state : SchedulerState) :
    (j.enter state).outline = j.outline.enter state := rfl

@[simp] theorem outline_recover : j.recover.outline = j.outline.recover := rfl

theorem begin_outline (call : Call) (answer answer' : Nat → Answer ε α) :
    (j.outline.begin call answer).2 = (j.begin call answer').2.outline := by
  simp [outline, begin, record, Event.isOutlined]

theorem outline_foldl {β : Type} {f : Journal → β → Journal}
    (hf : ∀ (j : Journal) b, (f j b).outline = j.outline) (l : List β) :
    (l.foldl f j).outline = j.outline := by
  induction l generalizing j with
  | nil => rfl
  | cons b rest ih => rw [List.foldl_cons, ih, hf]

end Journal

/-! ## What can happen depends on the outline -/

variable {s : Scheduler} {script : Script} {shutdown : Option Nat}

namespace FetchCall

@[simp] theorem outline_outline (c : FetchCall) : c.outline.outline = c.outline := by
  simp [outline, Pending.outline]

@[simp] theorem outline_finish (c : FetchCall) (j : Journal) :
    (c.finish j).outline = j.outline := by
  unfold finish
  split <;> simp

/-- A fatal outcome is not a harmless one. -/
@[simp] theorem fatal?_outline (e : Ending ExecutorError RunOutcome) :
    e.outline.fatal? = e.fatal? := by
  cases e with
  | returned outcome => rfl
  | failed error =>
    rw [Ending.outline_failed]
    split <;> simp_all [Ending.fatal?]
  | panicked message => rfl

theorem outline_beginAll (script : Script) (targets : List (ChainName × WorkerId)) (j : Journal) :
    (beginAll script.outline targets j.outline).1.map outline =
        (beginAll script targets j).1.map outline ∧
      (beginAll script.outline targets j.outline).2 = (beginAll script targets j).2.outline := by
  induction targets generalizing j with
  | nil => exact ⟨rfl, rfl⟩
  | cons target rest ih =>
    let mode := RunningMode.fetch target.1 target.2
    have hbegin := j.begin_outline (.run mode) (script.outline.run mode) (script.run mode)
    have hrest := ih (j.begin (.run mode) (script.run mode)).2
    rw [← hbegin] at hrest
    refine ⟨?_, hrest.2⟩
    refine congrArg₂ List.cons ?_ hrest.1
    simp [outline, Pending.outline, Script.outline, Journal.outline]

end FetchCall

namespace TickKind

theorem outline_error (tick : TickKind) (e : SchedulerError) :
    tick.outline (.error e) =
      if e.isTransient && tick.swallowsTransient then .ok () else .error e :=
  rfl

@[simp] theorem outline_outline (tick : TickKind) (result : TickResult) :
    tick.outline (tick.outline result) = tick.outline result := by
  cases result with
  | ok value => rfl
  | error e =>
    cases h : e.isTransient && tick.swallowsTransient <;> simp [outline_error, h]
    rfl

end TickKind

namespace Invocation

/-- Invocation and journal with harmless outcomes not told apart. -/
def outlines (r : Invocation × Journal) : Invocation × Journal :=
  (r.1.outline, r.2.outline)

@[simp] theorem outline_outline (i : Invocation) : i.outline.outline = i.outline := by
  cases i <;> simp [outline, Pending.outline, Function.comp_def]

@[simp] theorem tick_outline (i : Invocation) : i.outline.tick = i.tick := by
  cases i <;> rfl

theorem outline_fetched (calls : List FetchCall) (fatal : Option SchedulerError) :
    (fetched (calls.map FetchCall.outline) fatal).outline = (fetched calls fatal).outline := by
  cases calls <;> simp [fetched, outline]

theorem outline_fetched_congr {calls calls' : List FetchCall}
    (h : calls.map FetchCall.outline = calls'.map FetchCall.outline)
    (fatal : Option SchedulerError) :
    (fetched calls fatal).outline = (fetched calls' fatal).outline := by
  rw [← outline_fetched calls, h, outline_fetched]

theorem outline_start (s : Scheduler) (script : Script) (tick : TickKind) (j : Journal) :
    outlines (start s script.outline tick j.outline) = outlines (start s script tick j) := by
  have hfired : j.outline.record (.fired tick) = (j.record (.fired tick)).outline :=
    (Journal.outline_record j rfl).symm
  cases tick with
  | fetch =>
    have hcalls := FetchCall.outline_beginAll script (FetchCall.targets s.settings)
      (j.record (.fired .fetch))
    simp only [start, outlines, hfired, hcalls.2, Journal.outline_outline,
      outline_fetched_congr hcalls.1]
  | execute =>
    have hbegin := (j.record (.fired .execute)).begin_outline (.run .execute)
      (script.outline.run .execute) (script.run .execute)
    simp only [start, outlines, hfired, hbegin, Journal.outline_outline]
    simp [outline, Pending.outline, Script.outline, Journal.outline, Journal.begin]
  | credentialRefresh =>
    have hbegin := (j.record (.fired .credentialRefresh)).begin_outline .accessToken
      script.outline.accessToken script.accessToken
    simp only [start, outlines, hfired, hbegin, Journal.outline_outline]
    simp [outline, Script.outline, Journal.outline, Journal.begin]

@[simp] theorem outline_abort (i : Invocation) (j : Journal) :
    (i.abort j).outline = j.outline := by
  cases i with
  | fetching calls fatal => exact Journal.outline_foldl j (fun j c => by simp) calls
  | executing p => rfl
  | requesting p => rfl
  | configuring p => rfl
  | settled tick result => rfl

theorem outline_endExecute (p : Pending ExecutorError RunOutcome) (j : Journal) :
    outlines (endExecute p.outline j.outline) = outlines (endExecute p j) := by
  rcases p with ⟨call, index, due, ending⟩
  cases ending with
  | returned outcome => cases outcome <;> simp [endExecute, Pending.outline, outlines]
  | failed error =>
    have htransient : (SchedulerError.executor error).isTransient = error.isTransient := rfl
    cases h : error.isTransient <;>
      simp [endExecute, Pending.outline, outlines, Ending.outline_failed, h, outline,
        TickKind.outline_error, htransient, TickKind.swallowsTransient]
    rfl
  | panicked message => simp [endExecute, Pending.outline, outlines]

theorem outline_endConfigure (p : Pending ExecutorError Unit) (j : Journal) :
    outlines (endConfigure p j.outline) = outlines (endConfigure p j) := by
  unfold endConfigure
  split <;> simp [outlines]

theorem outline_endToken (p : Pending CredentialError String) (j : Journal) :
    outlines (endToken script.outline p j.outline) = outlines (endToken script p j) := by
  unfold endToken
  split
  · rename_i token h
    simp [outlines, outline, Script.outline, Journal.begin, Journal.outline, Journal.finish,
      Event.isOutlined]
  · simp [outlines]
  · simp [outlines]

theorem outline_settle? (script : Script) (n : Nat) (i : Invocation) (j : Journal) :
    (settle? script.outline n i.outline j.outline).map outlines =
      (settle? script n i j).map outlines := by
  cases i with
  | fetching calls fatal =>
    simp only [settle?, outline, List.getElem?_map]
    cases calls[n]? with
    | none => rfl
    | some c =>
      refine map_ite_congr Iff.rfl ?_
      have hcalls : ((calls.map FetchCall.outline).eraseIdx n).map FetchCall.outline =
          (calls.eraseIdx n).map FetchCall.outline := by
        simp [List.eraseIdx_map, Function.comp_def]
      simp [outlines, outline_fetched_congr hcalls, FetchCall.outline, Pending.outline]
  | executing p => exact map_ite_congr Iff.rfl (outline_endExecute p j)
  | requesting p => exact map_ite_congr Iff.rfl (outline_endToken p j)
  | configuring p => exact map_ite_congr Iff.rfl (outline_endConfigure p j)
  | settled tick result => rfl

end Invocation

namespace Generation

/-- Ticks and journal with harmless outcomes not told apart. -/
def outlines (r : Generation × Journal) : Generation × Journal :=
  (r.1.outline, r.2.outline)

@[simp] theorem outline_outline (g : Generation) : g.outline.outline = g.outline := by
  simp [outline, Function.comp_def]

theorem outline_fire? (tick : TickKind) (g : Generation) (j : Journal) :
    (fire? s script.outline tick g.outline j.outline).map outlines =
      (fire? s script tick g j).map outlines := by
  have hstart := Invocation.outline_start s script tick j
  obtain ⟨hinvocation, hjournal⟩ := Prod.mk.inj hstart
  refine map_ite_congr Iff.rfl ?_
  simp [outlines, outline, hinvocation, hjournal, Function.comp_def]

theorem outline_settle? (i n : Nat) (g : Generation) (j : Journal) :
    (settle? script.outline i n g.outline j.outline).map outlines =
      (settle? script i n g j).map outlines := by
  simp only [settle?, outline, List.getElem?_map]
  cases g.inflight[i]? with
  | none => rfl
  | some v =>
    -- what comes of it depends on the outline of the invocation alone
    let put (r : Invocation × Journal) : Generation × Journal :=
      ({ g.outline with inflight := g.outline.inflight.set i r.1 }, r.2)
    have hput (r : Invocation × Journal) :
        outlines ({ g with inflight := g.inflight.set i r.1 }, r.2) =
          put (Invocation.outlines r) := by
      simp [outlines, outline, put, Invocation.outlines]
    have hputOutline (r : Invocation × Journal) :
        outlines ({ g.outline with inflight := g.outline.inflight.set i r.1 }, r.2) =
          put (Invocation.outlines r) := by
      simp [outlines, outline, put, Invocation.outlines, Function.comp_def]
    have hv := congrArg (Option.map put) (Invocation.outline_settle? script n v j)
    simp only [Option.map_map] at hv
    simp only [Option.map_some, Option.bind_some, Option.map_map]
    refine Eq.trans ?_ (hv.trans ?_)
    · exact congrArg (Option.map · _) (funext hputOutline)
    · exact congrArg (Option.map · _) (funext fun r => (hput r).symm)

theorem outline_deliver (tick : TickKind) (result : TickResult) (g : Generation) (j : Journal) :
    outlines (deliver tick (tick.outline result) g.outline j.outline) =
      outlines (deliver tick result g j) := by
  cases result with
  | ok value => simp [deliver, TickKind.outline, outlines]
  | error e =>
    cases h : e.isTransient && tick.swallowsTransient with
    | true => simp [deliver, TickKind.outline_error, h, outlines]
    | false =>
      rw [TickKind.outline_error, h]
      simp [deliver, h, outlines, outline, Journal.outline, Event.isOutlined, Function.comp_def]

theorem outline_note? (i : Nat) (g : Generation) (j : Journal) :
    (note? i g.outline j.outline).map outlines = (note? i g j).map outlines := by
  have hi : g.outline.inflight[i]? = g.inflight[i]?.map Invocation.outline := List.getElem?_map
  unfold note?
  rw [hi]
  cases g.inflight[i]? with
  | none => rfl
  | some v =>
    cases v with
    | settled tick result =>
      have hrest : ({ g.outline with inflight := g.outline.inflight.eraseIdx i } : Generation) =
          outline { g with inflight := g.inflight.eraseIdx i } := by
        simp [outline, List.eraseIdx_map]
      simp only [Option.map_some, Invocation.outline, hrest, outline_deliver]
    | fetching calls fatal => rfl
    | executing p => rfl
    | requesting p => rfl
    | configuring p => rfl

theorem outline_heed? (g : Generation) (j : Journal) :
    (heed? g.outline j.outline).map outlines = (heed? g j).map outlines := by
  rcases g with ⟨since, live, due, inflight, faults, verdict⟩
  cases verdict <;> cases faults <;> simp [heed?, outline, outlines, Function.comp_def]

theorem outline_quit? (g : Generation) (j : Journal) :
    (quit? shutdown g.outline j.outline).map outlines = (quit? shutdown g j).map outlines :=
  map_ite_congr Iff.rfl (by simp [outlines, outline, Function.comp_def])

theorem outline_halt? (tick : TickKind) (g : Generation) (j : Journal) :
    (halt? shutdown tick g.outline j.outline).map outlines =
      (halt? shutdown tick g j).map outlines := by
  refine map_ite_congr Iff.rfl (Prod.ext ?_ ?_)
  · simp [outlines, outline, List.filter_map, Function.comp_def]
  · simp only [outlines]
    rw [Journal.outline_foldl _ fun j i => i.outline_abort j,
      Journal.outline_foldl _ fun j i => i.outline_abort j, Journal.outline_outline]

end Generation

namespace Run

@[simp] theorem outline_outline (r : Run) : r.outline.outline = r.outline := by
  rcases r with ⟨j, stage⟩
  cases stage <;> simp [outline, Stage.outline]

theorem outline_check (p : Pending ExecutorError Bool) (j : Journal) :
    (check s p j.outline).outline = (check s p j).outline := by
  unfold check
  split <;> simp [outline, Stage.outline, terminate]

theorem outline_startTicks (j : Journal) :
    (startTicks s j.outline).outline = (startTicks s j).outline := by
  simp [startTicks, outline, Stage.outline, Journal.outline, Journal.enter, Event.isOutlined]

theorem outline_conclude (v : Verdict) (j : Journal) :
    (conclude s v j.outline).outline = (conclude s v j).outline := by
  have hdead (j : Journal) :
      ((Generation.dead s).foldl (fun j _ => j.report .tickDied) j).outline = j.outline :=
    j.outline_foldl (fun j _ => j.outline_report .tickDied) _
  cases v with
  | shutdown => simp [conclude, terminate, outline, Stage.outline, hdead]
  | fault e =>
    cases h : e.isTransient <;> simp [conclude, h, terminate, outline, Stage.outline, hdead]

theorem outline_tick? (m : Move) (g : Generation) (j : Journal) :
    (tick? s script.outline shutdown m g.outline j.outline).map outline =
      (tick? s script shutdown m g j).map outline := by
  have through {x y : Option (Generation × Journal)}
      (h : x.map Generation.outlines = y.map Generation.outlines) :
      (x.map ofTicks).map outline = (y.map ofTicks).map outline := by
    have hticks := congrArg (Option.map ofTicks) h
    simp only [Option.map_map] at hticks ⊢
    exact hticks
  cases m with
  | answer | start => rfl
  | fire tick => exact through (Generation.outline_fire? tick g j)
  | settle i n => exact through (Generation.outline_settle? i n g j)
  | note i => exact through (Generation.outline_note? i g j)
  | heed => exact through (Generation.outline_heed? g j)
  | quit => exact through (Generation.outline_quit? g j)
  | halt tick => exact through (Generation.outline_halt? tick g j)
  | conclude =>
    by_cases hlive : g.live = []
    · simp only [tick?, Generation.outline, hlive, if_true]
      cases g.verdict with
      | none => rfl
      | some v => exact congrArg some (outline_conclude v j)
    · simp only [tick?, Generation.outline, hlive, if_false]

/-- What can happen in a run, and the outline of what comes of it, depends on the
outline of the run and of the script. -/
theorem outline_perform? (m : Move) (r : Run) :
    (perform? s script.outline shutdown m r.outline).map outline =
      (perform? s script shutdown m r).map outline := by
  rcases r with ⟨j, stage⟩
  cases stage with
  | checking p =>
    cases m with
    | answer => exact map_ite_congr Iff.rfl (outline_check p j)
    | _ => rfl
  | starting =>
    cases m with
    | start => exact congrArg some (outline_startTicks j)
    | _ => rfl
  | ticking g => exact outline_tick? m g j
  | ended result => rfl
  | crashed message => rfl

variable {script' : Script} {r r' : Run} {m : Move}

variable (s shutdown) in
theorem perform?_congr (hscript : script.outline = script'.outline)
    (hr : r.outline = r'.outline) (m : Move) :
    (perform? s script shutdown m r).map outline =
      (perform? s script' shutdown m r').map outline := by
  rw [← outline_perform?, hscript, hr, outline_perform?]

theorem still_congr (hscript : script.outline = script'.outline) (hr : r.outline = r'.outline)
    (h : Still s script shutdown r) : Still s script' shutdown r' := by
  intro m r₁' happens
  have hmap := perform?_congr s shutdown hscript hr m
  rw [perform?_eq_some.mpr happens, Option.map_some, Option.map_eq_some_iff] at hmap
  obtain ⟨r₁, hr₁, -⟩ := hmap
  exact h m r₁ (perform?_eq_some.mp hr₁)

theorem outline_pass (n : Nat) (r : Run) : (r.pass s n).outline = r.outline.pass s n := by
  rcases r with ⟨j, stage⟩
  cases stage <;> rfl

theorem isOver_outline (r : Run) : r.outline.isOver = r.isOver := by
  rcases r with ⟨j, stage⟩
  cases stage <;> rfl

/-- Scripts that are alike lead to runs with the same outlines. -/
theorem Possible.alike (h : Possible s script shutdown r) (hscript : script.Alike script') :
    ∃ r', Possible s script' shutdown r' ∧ r.outline = r'.outline := by
  have hscript' := hscript.outline_eq
  induction h with
  | first =>
    refine ⟨Run.first script', .first, ?_⟩
    simp only [Run.first, Journal.begin, hscript.isRunning]
  | @move m _ _ _ happens ih =>
    obtain ⟨r', possible, hr⟩ := ih
    have hmap := perform?_congr s shutdown hscript' hr m
    rw [perform?_eq_some.mpr happens, Option.map_some, eq_comm, Option.map_eq_some_iff] at hmap
    obtain ⟨r₁', hr₁', houtline⟩ := hmap
    exact ⟨r₁', possible.move (perform?_eq_some.mp hr₁'), houtline.symm⟩
  | pass _ going still ih =>
    obtain ⟨r', possible, hr⟩ := ih
    refine ⟨r'.pass s 1, possible.pass ?_ (still_congr hscript' hr still), ?_⟩
    · rw [← isOver_outline, ← hr, isOver_outline, going]
    · rw [outline_pass, outline_pass, hr]

/-! ## What an outline shows -/

/-- The changes of state with their times, the latest first. -/
def changes (r : Run) : List (Nat × Event) :=
  r.journal.history.filter fun e => e.2.entered?.isSome

theorem changes_outline (r : Run) : r.outline.changes = r.changes := by
  have hshown : ∀ e : Event, (e.entered?.isSome && e.isOutlined) = e.entered?.isSome := by
    intro e
    cases e <;> rfl
  simp only [changes, outline, Journal.outline, List.filter_filter, hshown]

theorem result?_outline (r : Run) : r.outline.result? = r.result? := by
  rcases r with ⟨j, stage⟩
  cases stage <;> rfl

end Run

end Interchain
