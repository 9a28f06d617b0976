import Interchain.Proofs.Scheduler.Possible
import Mathlib.Data.List.InsertIdx

/-!
# Runs put onto a journal

A run goes on in the same way whatever its journal holds from before: calls and
recoveries are counted on from the numbers that were reached, and that is all.  What can
happen in a run that was put onto a journal is what can happen in the run itself, with
the answers to the calls beyond those of the journal (`Run.perform?_onto`).  So are the
runs that it can come to (`Run.Continues.onto`, `Run.Continues.exists_onto`).
-/

namespace Interchain

/-- The answers to the calls that come after those counted.  Whether the executor is
running is not asked again. -/
def Script.beyond (script : Script) (begun : Line → Nat) : Script where
  isRunning _ := ⟨0, .returned true⟩
  run mode n := script.run mode (begun (.run mode) + n)
  accessToken n := script.accessToken (begun .accessToken + n)
  configure n := script.configure (begun .configure + n)

/-! ## Counting on -/

/-- An event with calls and recoveries counted on from those of a journal. -/
def Event.onto (base : Journal) : Event → Event
  | .began call n state => .began call (base.begun call.line + n) state
  | .finished call n how => .finished call (base.begun call.line + n) how
  | .reported (.recovering attempt e) => .reported (.recovering (base.recoveries + attempt) e)
  | e => e

def Pending.onto {ε α : Type} (base : Journal) (p : Pending ε α) : Pending ε α :=
  { p with index := base.begun p.call.line + p.index }

def FetchCall.onto (base : Journal) (c : FetchCall) : FetchCall :=
  { c with pending := c.pending.onto base }

def Invocation.onto (base : Journal) : Invocation → Invocation
  | .fetching calls fatal => .fetching (calls.map (FetchCall.onto base)) fatal
  | .executing p => .executing (p.onto base)
  | .requesting p => .requesting (p.onto base)
  | .configuring p => .configuring (p.onto base)
  | .settled tick result => .settled tick result

def Generation.onto (base : Journal) (g : Generation) : Generation :=
  { g with inflight := g.inflight.map (Invocation.onto base) }

def Stage.onto (base : Journal) : Stage → Stage
  | .checking p => .checking (p.onto base)
  | .ticking g => .ticking (g.onto base)
  | stage => stage

/-- Events with calls and recoveries counted on from those of a journal. -/
def Journal.renumbered (base : Journal) (done : List (Nat × Event)) : List (Nat × Event) :=
  done.map fun e => (e.1, e.2.onto base)

/-- What a journal shows put onto another. -/
def Journal.onto (base j : Journal) : Journal where
  now := j.now
  state := j.state
  recoveries := base.recoveries + j.recoveries
  begun line := base.begun line + j.begun line
  history := renumbered base j.history ++ base.history

def Run.onto (base : Journal) (r : Run) : Run :=
  ⟨base.onto r.journal, r.stage.onto base⟩

/-! ## What is done depends on the calls that are still to come -/

variable {s : Scheduler} {script : Script} {shutdown : Option Nat} (base : Journal)

/-- What is done on a condition, if it is the same condition and done alike. -/
theorem ite_onto {α β : Type} {f : α → β} {p q : Prop} [Decidable p] [Decidable q] {b : β} {a : α}
    (h : p ↔ q) (hb : b = f a) :
    (if p then some b else none) = (if q then some a else none).map f := by
  by_cases hq : q
  · rw [if_pos hq, if_pos (h.mpr hq), Option.map_some, hb]
  · rw [if_neg hq, if_neg fun hp => hq (h.mp hp), Option.map_none]

namespace Journal

variable {ε α : Type} (j : Journal)

theorem recover_onto : (base.onto j).recover = base.onto j.recover := by
  simp only [onto, recover, UInt32.add_assoc]

theorem finish_onto (p : Pending ε α) (how : Ended) :
    (base.onto j).finish (p.onto base) how = base.onto (j.finish p how) :=
  rfl

theorem begin_onto (call : Call) (answer : Nat → Answer ε α) :
    (base.onto j).begin call answer =
      ((j.begin call fun n => answer (base.begun call.line + n)).1.onto base,
        base.onto (j.begin call fun n => answer (base.begun call.line + n)).2) := by
  have hbegun : (fun line => if line = call.line then base.begun call.line + j.begun call.line + 1
      else base.begun line + j.begun line) = fun line => base.begun line +
        if line = call.line then j.begun call.line + 1 else j.begun line := by
    funext line
    split
    · rename_i hline
      rw [hline, Nat.add_assoc]
    · rfl
  refine Prod.ext rfl ?_
  simp only [begin, onto, record, hbegun]
  rfl

theorem foldl_onto {β : Type} {f f' : Journal → β → Journal}
    (hf : ∀ j b, f (base.onto j) b = base.onto (f' j b)) (l : List β) :
    l.foldl f (base.onto j) = base.onto (l.foldl f' j) := by
  induction l generalizing j with
  | nil => rfl
  | cons b rest ih => rw [List.foldl_cons, List.foldl_cons, hf, ih]

end Journal

namespace FetchCall

theorem finish_onto (c : FetchCall) (j : Journal) :
    (c.onto base).finish (base.onto j) = base.onto (c.finish j) := by
  rcases c with ⟨chain, worker, call, index, due, ending⟩
  cases ending with
  | returned outcome => cases outcome <;> rfl
  | failed e =>
    cases he : e.isTransient <;> simp only [finish, notice?, onto, Pending.onto, he] <;> rfl
  | panicked message => rfl

theorem beginAll_onto (targets : List (ChainName × WorkerId)) (j : Journal) :
    beginAll script targets (base.onto j) =
      ((beginAll (script.beyond base.begun) targets j).1.map (onto base),
        base.onto (beginAll (script.beyond base.begun) targets j).2) := by
  induction targets generalizing j with
  | nil => rfl
  | cons target rest ih =>
    rcases target with ⟨chain, worker⟩
    simp only [beginAll, Journal.begin_onto, ih]
    rfl

end FetchCall

namespace Invocation

/-- Invocation and journal put onto another journal. -/
def ontos (r : Invocation × Journal) : Invocation × Journal :=
  (r.1.onto base, base.onto r.2)

@[simp] theorem tick_onto (i : Invocation) : (i.onto base).tick = i.tick := by
  cases i <;> rfl

theorem fetched_onto (calls : List FetchCall) (fatal : Option SchedulerError) :
    fetched (calls.map (FetchCall.onto base)) fatal = (fetched calls fatal).onto base := by
  cases calls <;> rfl

theorem start_onto (tick : TickKind) (j : Journal) :
    start s script tick (base.onto j) =
      ontos base (start s (script.beyond base.begun) tick j) := by
  cases tick with
  | fetch =>
    have hfired : (base.onto j).record (.fired .fetch) = base.onto (j.record (.fired .fetch)) := rfl
    simp only [start, hfired, FetchCall.beginAll_onto, fetched_onto, ontos]
  | execute =>
    have hfired : (base.onto j).record (.fired .execute) = base.onto (j.record (.fired .execute)) :=
      rfl
    simp only [start, hfired, Journal.begin_onto, ontos]
    rfl
  | credentialRefresh =>
    have hfired : (base.onto j).record (.fired .credentialRefresh) =
        base.onto (j.record (.fired .credentialRefresh)) := rfl
    simp only [start, hfired, Journal.begin_onto, ontos]
    rfl

theorem endExecute_onto (p : Pending ExecutorError RunOutcome) (j : Journal) :
    endExecute (p.onto base) (base.onto j) = ontos base (endExecute p j) := by
  rcases p with ⟨call, index, due, ending⟩
  cases ending with
  | returned outcome => cases outcome <;> rfl
  | failed e => rfl
  | panicked message => rfl

theorem endConfigure_onto (p : Pending ExecutorError Unit) (j : Journal) :
    endConfigure (p.onto base) (base.onto j) = ontos base (endConfigure p j) := by
  rcases p with ⟨call, index, due, ending⟩
  cases ending <;> rfl

theorem endToken_onto (p : Pending CredentialError String) (j : Journal) :
    endToken script (p.onto base) (base.onto j) =
      ontos base (endToken (script.beyond base.begun) p j) := by
  rcases p with ⟨call, index, due, ending⟩
  cases ending with
  | returned token =>
    let p : Pending CredentialError String := ⟨call, index, due, .returned token⟩
    have hbegin := Journal.begin_onto base (j.finish p .ok) (.configure token) script.configure
    show (Invocation.configuring
        ((base.onto (j.finish p .ok)).begin (.configure token) script.configure).1,
      ((base.onto (j.finish p .ok)).begin (.configure token) script.configure).2) = _
    rw [hbegin]
    rfl
  | failed e => rfl
  | panicked message => rfl

theorem settle?_onto (n : Nat) (i : Invocation) (j : Journal) :
    settle? script n (i.onto base) (base.onto j) =
      (settle? (script.beyond base.begun) n i j).map (ontos base) := by
  cases i with
  | fetching calls fatal =>
    simp only [settle?, onto, List.getElem?_map]
    cases calls[n]? with
    | none => rfl
    | some c =>
      refine ite_onto Iff.rfl ?_
      rw [List.eraseIdx_map, FetchCall.finish_onto, fetched_onto]
      rfl
  | executing p => exact ite_onto Iff.rfl (endExecute_onto base p j)
  | requesting p => exact ite_onto Iff.rfl (endToken_onto base p j)
  | configuring p => exact ite_onto Iff.rfl (endConfigure_onto base p j)
  | settled tick result => rfl

theorem abort_onto (i : Invocation) (j : Journal) :
    (i.onto base).abort (base.onto j) = base.onto (i.abort j) := by
  cases i with
  | fetching calls fatal =>
    simp only [abort, onto, List.foldl_map]
    exact Journal.foldl_onto base j (fun j c => Journal.finish_onto base j c.pending .aborted) calls
  | executing p => rfl
  | requesting p => rfl
  | configuring p => rfl
  | settled tick result => rfl

end Invocation

namespace Generation

/-- Ticks and journal put onto another journal. -/
def ontos (r : Generation × Journal) : Generation × Journal :=
  (r.1.onto base, base.onto r.2)

theorem fire?_onto (tick : TickKind) (g : Generation) (j : Journal) :
    fire? s script tick (g.onto base) (base.onto j) =
      (fire? s (script.beyond base.begun) tick g j).map (ontos base) := by
  refine ite_onto Iff.rfl ?_
  rw [Invocation.start_onto]
  simp only [onto, ontos, Invocation.ontos, List.map_append, List.map_cons, List.map_nil]

theorem settle?_onto (i n : Nat) (g : Generation) (j : Journal) :
    settle? script i n (g.onto base) (base.onto j) =
      (settle? (script.beyond base.begun) i n g j).map (ontos base) := by
  simp only [settle?, onto, List.getElem?_map]
  cases g.inflight[i]? with
  | none => rfl
  | some v =>
    simp only [Option.map_some, Option.bind_some, Invocation.settle?_onto, Option.map_map]
    congr 1
    funext r
    simp only [Function.comp_apply, ontos, onto, Invocation.ontos, List.map_set]

theorem deliver_onto (tick : TickKind) (result : TickResult) (g : Generation) (j : Journal) :
    deliver tick result (g.onto base) (base.onto j) = ontos base (deliver tick result g j) := by
  cases result with
  | ok value => rfl
  | error e =>
    cases he : e.isTransient && tick.swallowsTransient <;> simp only [deliver, he] <;> rfl

theorem note?_onto (i : Nat) (g : Generation) (j : Journal) :
    note? i (g.onto base) (base.onto j) = (note? i g j).map (ontos base) := by
  have hi : (g.onto base).inflight[i]? = g.inflight[i]?.map (Invocation.onto base) :=
    List.getElem?_map
  unfold note?
  rw [hi]
  cases g.inflight[i]? with
  | none => rfl
  | some v =>
    cases v with
    | settled tick result =>
      have hrest :
          ({ g.onto base with inflight := (g.onto base).inflight.eraseIdx i } : Generation) =
            onto base { g with inflight := g.inflight.eraseIdx i } := by
        simp only [onto, List.eraseIdx_map]
      simp only [Option.map_some, Invocation.onto, hrest, deliver_onto]
    | fetching calls fatal => rfl
    | executing p => rfl
    | requesting p => rfl
    | configuring p => rfl

theorem heed?_onto (g : Generation) (j : Journal) :
    heed? (g.onto base) (base.onto j) = (heed? g j).map (ontos base) := by
  rcases g with ⟨since, live, due, inflight, faults, verdict⟩
  cases verdict <;> cases faults <;> rfl

theorem quit?_onto (g : Generation) (j : Journal) :
    quit? shutdown (g.onto base) (base.onto j) = (quit? shutdown g j).map (ontos base) :=
  ite_onto Iff.rfl rfl

theorem halt?_onto (tick : TickKind) (g : Generation) (j : Journal) :
    halt? shutdown tick (g.onto base) (base.onto j) =
      (halt? shutdown tick g j).map (ontos base) := by
  have hfilter (p : TickKind → Bool) : (g.onto base).inflight.filter (fun i => p i.tick) =
      (g.inflight.filter fun i => p i.tick).map (Invocation.onto base) := by
    simp [onto, List.filter_map, Function.comp_def]
  refine ite_onto Iff.rfl (Prod.ext ?_ ?_)
  · have hothers := hfilter fun kind => kind ≠ tick
    simp only [ontos, onto] at hothers ⊢
    rw [hothers]
  · have hown := hfilter fun kind => kind = tick
    simp only [ontos]
    rw [hown, List.foldl_map]
    exact Journal.foldl_onto base j (fun j i => Invocation.abort_onto base i j) _

end Generation

namespace Run

open Journal

theorem startTicks_onto (j : Journal) :
    startTicks s (base.onto j) = (startTicks s j).onto base :=
  rfl

theorem check_onto (p : Pending ExecutorError Bool) (j : Journal) :
    check s (p.onto base) (base.onto j) = (check s p j).onto base := by
  rcases p with ⟨call, index, due, ending⟩
  cases ending with
  | returned answer => cases answer <;> rfl
  | failed e => rfl
  | panicked message => rfl

theorem conclude_onto (v : Verdict) (j : Journal) :
    conclude s v (base.onto j) = (conclude s v j).onto base := by
  have hdead : (Generation.dead s).foldl (fun j _ => j.report .tickDied) (base.onto j) =
      base.onto ((Generation.dead s).foldl (fun j _ => j.report .tickDied) j) :=
    Journal.foldl_onto base j (fun _ _ => rfl) _
  cases v with
  | shutdown =>
    simp only [conclude, hdead]
    rfl
  | fault e =>
    cases he : e.isTransient with
    | true =>
      simp only [conclude, hdead, he, if_true, Journal.recover_onto]
      rfl
    | false =>
      simp only [conclude, hdead, he]
      rfl

theorem tick?_onto (m : Move) (g : Generation) (j : Journal) :
    tick? s script shutdown m (g.onto base) (base.onto j) =
      (tick? s (script.beyond base.begun) shutdown m g j).map (onto base) := by
  have through (x : Option (Generation × Journal)) :
      (x.map (Generation.ontos base)).map ofTicks = (x.map ofTicks).map (onto base) := by
    simp only [Option.map_map]
    rfl
  cases m with
  | answer | start => rfl
  | fire tick => simp only [tick?, Generation.fire?_onto, through]
  | settle i n => simp only [tick?, Generation.settle?_onto, through]
  | note i => simp only [tick?, Generation.note?_onto, through]
  | heed => simp only [tick?, Generation.heed?_onto, through]
  | quit => simp only [tick?, Generation.quit?_onto, through]
  | halt tick => simp only [tick?, Generation.halt?_onto, through]
  | conclude =>
    by_cases hlive : g.live = []
    · simp only [tick?, Generation.onto, hlive, if_true, conclude_onto, Option.map_map]
      rfl
    · simp only [tick?, Generation.onto, hlive, if_false, Option.map_none]

/-- What can happen in a run that was put onto a journal is what can happen in the run
itself, with the answers to the calls beyond those of the journal. -/
theorem perform?_onto (m : Move) (r : Run) :
    perform? s script shutdown m (r.onto base) =
      (perform? s (script.beyond base.begun) shutdown m r).map (onto base) := by
  rcases r with ⟨j, stage⟩
  cases stage with
  | checking p =>
    cases m with
    | answer => exact ite_onto Iff.rfl (check_onto base p j)
    | _ => rfl
  | starting =>
    cases m with
    | start => exact congrArg some (startTicks_onto base j)
    | _ => rfl
  | ticking g => exact tick?_onto base m g j
  | ended result => rfl
  | crashed message => rfl

/-! ## Going on from a run -/

/-- The runs that some order of moves leads to from another. -/
inductive Continues (s : Scheduler) (script : Script) (shutdown : Option Nat) (r : Run) : Run → Prop
  | refl : Continues s script shutdown r r
  | move {m r' r''} (before : Continues s script shutdown r r')
      (happens : Happens s script shutdown m r' r'') : Continues s script shutdown r r''
  | pass {r'} (before : Continues s script shutdown r r') (going : r'.isOver = false)
      (still : Still s script shutdown r') : Continues s script shutdown r (r'.pass s 1)

variable {m : Move} {r r' : Run} {j : Journal} {t : Nat}

theorem Possible.continues (h : Possible s script shutdown r)
    (hr : Continues s script shutdown r r') : Possible s script shutdown r' := by
  induction hr with
  | refl => exact h
  | move _ happens ih => exact ih.move happens
  | pass _ going still ih => exact ih.pass going still

theorem pass_onto (r : Run) (n : Nat) : (r.onto base).pass s n = (r.pass s n).onto base := by
  rcases r with ⟨j, stage⟩
  cases stage <;> rfl

@[simp] theorem isOver_onto (r : Run) : (r.onto base).isOver = r.isOver := by
  rcases r with ⟨j, stage⟩
  cases stage <;> rfl

@[simp] theorem result?_onto (r : Run) : (r.onto base).result? = r.result? := by
  rcases r with ⟨j, stage⟩
  cases stage <;> rfl

variable {base}

theorem happens_onto (h : Happens s (script.beyond base.begun) shutdown m r r') :
    Happens s script shutdown m (r.onto base) (r'.onto base) := by
  rw [← perform?_eq_some, perform?_onto, perform?_eq_some.mpr h]
  rfl

theorem exists_of_happens_onto (h : Happens s script shutdown m (r.onto base) r') :
    ∃ r'', Happens s (script.beyond base.begun) shutdown m r r'' ∧ r''.onto base = r' := by
  rw [← perform?_eq_some, perform?_onto, Option.map_eq_some_iff] at h
  obtain ⟨r'', hr'', heq⟩ := h
  exact ⟨r'', perform?_eq_some.mp hr'', heq⟩

theorem still_onto : Still s script shutdown (r.onto base) ↔
    Still s (script.beyond base.begun) shutdown r := by
  constructor
  · intro still m r' happens
    exact still m _ (happens_onto happens)
  · intro still m r' happens
    obtain ⟨r'', happens', -⟩ := exists_of_happens_onto happens
    exact still m r'' happens'

theorem Continues.onto (h : Continues s (script.beyond base.begun) shutdown r r') :
    Continues s script shutdown (r.onto base) (r'.onto base) := by
  induction h with
  | refl => exact .refl
  | move _ happens ih => exact ih.move (happens_onto happens)
  | @pass r' _ going still ih =>
    rw [← pass_onto]
    exact ih.pass ((isOver_onto base r').trans going) (still_onto.mpr still)

theorem Continues.exists_onto (h : Continues s script shutdown (r.onto base) r') :
    ∃ r'', Continues s (script.beyond base.begun) shutdown r r'' ∧ r''.onto base = r' := by
  induction h with
  | refl => exact ⟨r, .refl, rfl⟩
  | move _ happens ih =>
    obtain ⟨r', continues, rfl⟩ := ih
    obtain ⟨r'', happens', heq⟩ := exists_of_happens_onto happens
    exact ⟨r'', continues.move happens', heq⟩
  | pass _ going still ih =>
    obtain ⟨r', continues, rfl⟩ := ih
    refine ⟨r'.pass s 1, continues.pass ?_ (still_onto.mp still), (pass_onto base r' 1).symm⟩
    rw [← isOver_onto base r']
    exact going

end Run

end Interchain
