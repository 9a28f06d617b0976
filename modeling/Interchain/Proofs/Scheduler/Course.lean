import Interchain.Proofs.Scheduler.Growth
import Interchain.Proofs.Scheduler.Possible
import Mathlib.Data.List.Basic

/-!
# The course of a run

The states of a possible run are set in a fixed order: a run opens by asking the
executor, ends if the answer is not the one hoped for, and otherwise starts the
ticks, starts them afresh after each recovery, and at last ends.  Ticks fire only
while the last state set is `running`, and the count of recoveries keeps up with the
states.  Whatever happens in a run keeps this (`Run.Lawful`), so it holds of every
possible run (`Run.lawful_of_possible`).
-/

namespace Interchain

def Event.entered? : Event → Option SchedulerState
  | .entered state => some state
  | _ => none

theorem Event.entered?_eq_some {e : Event} {state : SchedulerState} :
    e.entered? = some state ↔ e = .entered state := by
  cases e <;> simp [entered?]

def Event.fired? : Event → Option TickKind
  | .fired tick => some tick
  | _ => none

namespace Journal

/-- The states that events set, the latest first. -/
def entered (history : List (Nat × Event)) : List SchedulerState :=
  history.filterMap fun e => e.2.entered?

/-- The states that were set, in order. -/
def states (j : Journal) : List SchedulerState :=
  (entered j.history).reverse

/-- Every event stands in a relation to all that was done before it. -/
def Always (P : Event → List (Nat × Event) → Prop) : List (Nat × Event) → Prop
  | [] => True
  | e :: past => P e.2 past ∧ Always P past

theorem Always.append {P : Event → List (Nat × Event) → Prop} {new past : List (Nat × Event)}
    (hnew : ∀ e ∈ new, ∀ past, P e.2 past) (h : Always P past) : Always P (new ++ past) := by
  induction new with
  | nil => exact h
  | cons e rest ih =>
    exact ⟨hnew e List.mem_cons_self _, ih fun e he => hnew e (List.mem_cons_of_mem _ he)⟩

theorem Always.at {P : Event → List (Nat × Event) → Prop} {later past : List (Nat × Event)}
    {t : Nat} {e : Event} (h : Always P (later ++ (t, e) :: past)) : P e past := by
  induction later with
  | nil => exact h.1
  | cons d rest ih => exact ih h.2

/-- Whatever was done divides a history. -/
theorem exists_split {α : Type} {f : Event → Option α} {a : α} {history : List (Nat × Event)}
    (h : a ∈ history.filterMap fun e => f e.2) :
    ∃ later t e past, history = later ++ (t, e) :: past ∧ f e = some a := by
  obtain ⟨⟨t, e⟩, he, hf⟩ := List.mem_filterMap.mp h
  obtain ⟨later, past, hsplit⟩ := List.append_of_mem he
  exact ⟨later, t, e, past, hsplit, hf⟩

theorem entered_append (new past : List (Nat × Event)) :
    entered (new ++ past) = entered new ++ entered past :=
  List.filterMap_append ..

@[simp] theorem states_enter (j : Journal) (state : SchedulerState) :
    (j.enter state).states = j.states ++ [state] := by
  simp [states, enter, entered, Event.entered?]

@[simp] theorem state_enter (j : Journal) (state : SchedulerState) :
    (j.enter state).state = state := rfl

@[simp] theorem recoveries_enter (j : Journal) (state : SchedulerState) :
    (j.enter state).recoveries = j.recoveries := rfl

theorem entered_of_plain {new : List (Nat × Event)} (h : ∀ e ∈ new, e.2.isPlain = true) :
    entered new = [] := by
  rw [entered, List.filterMap_eq_nil_iff]
  intro e he
  have hplain := h e he
  cases hevent : e.2 <;> simp_all [Event.isPlain, Event.entered?]

variable {j j' : Journal}

theorem Grows.entered_eq (h : j.Grows j') : entered j'.history = entered j.history := by
  obtain ⟨new, hnew, hplain⟩ := h.history
  rw [hnew, entered_append, entered_of_plain fun e he => (hplain e he).2, List.nil_append]

theorem Grows.states_eq (h : j.Grows j') : j'.states = j.states := by
  rw [states, states, h.entered_eq]

/-- What relates no plain event to its past is kept while only those are added. -/
theorem Grows.always {P : Event → List (Nat × Event) → Prop} (h : j.Grows j')
    (hP : ∀ e past, e.isPlain = true → P e past) (halways : Always P j.history) :
    Always P j'.history := by
  obtain ⟨new, hnew, hplain⟩ := h.history
  exact hnew ▸ halways.append fun e he past => hP _ _ (hplain e he).2

end Journal

namespace Run

open Journal

/-- The states before the executor has answered. -/
def opening : List SchedulerState :=
  [.initializing, .awaitingExecutorReady]

/-- The states up to a start of the ticks that `n` recoveries precede. -/
def started (n : Nat) : List SchedulerState :=
  opening ++ [.running] ++ (List.replicate n [.recovering, .running]).flatten

theorem started_succ (n : Nat) : started (n + 1) = started n ++ [.recovering] ++ [.running] := by
  simp [started, List.replicate_succ']

theorem count_recovering_started (n : Nat) : (started n).count .recovering = n := by
  induction n with
  | zero => rfl
  | succ n ih => simp [started_succ, ih]

/-- The last state set is `running`, and the run has not ended. -/
theorem running_of_reverse_eq_started {states : List SchedulerState} {n : Nat}
    (h : states.reverse = started n) : states.head? = some .running ∧ .terminated ∉ states := by
  have hlast : (started n).getLast? = some .running := by
    cases n with
    | zero => rfl
    | succ n => rw [started_succ, List.getLast?_concat]
  have hmem : SchedulerState.terminated ∉ started n := by
    simp only [started, List.mem_append, List.mem_flatten, List.mem_replicate]
    rintro (h | ⟨l, ⟨-, rfl⟩, h⟩)
    · revert h
      decide
    · revert h
      decide
  rw [← h] at hlast hmem
  exact ⟨by simpa using hlast, by simpa using hmem⟩

/-- The executor has said that it is running. -/
def Answered (script : Script) (history : List (Nat × Event)) : Prop :=
  (script.isRunning 0).ending = .returned true ∧ ∃ t, (t, .finished .isRunning 0 .ok) ∈ history

/-- What precedes the firing of a tick. -/
def Fires (script : Script) : Event → List (Nat × Event) → Prop
  | .fired _, past =>
    Answered script past ∧ (entered past).head? = some .running ∧ .terminated ∉ entered past
  | _, _ => True

/-- Which states were set, by how far a run has come. -/
def Course (script : Script) (j : Journal) : Stage → Prop
  | .checking p =>
    j.states = opening ∧ p.call = .isRunning ∧ p.index = 0 ∧
      p.ending = (script.isRunning 0).ending
  | .crashed _ => j.states = opening ∧ ∃ m, (script.isRunning 0).ending = .panicked m
  | .starting =>
    Answered script j.history ∧
      (j.states = opening ∨ ∃ n, j.states = started n ++ [.recovering])
  | .ticking _ => Answered script j.history ∧ ∃ n, j.states = started n
  | .ended _ =>
    (script.isRunning 0).ending ≠ .returned true ∧ j.states = opening ++ [.terminated] ∨
      Answered script j.history ∧ ∃ n, j.states = started n ++ [.terminated]

/-- A run that goes the way runs of a scheduler go. -/
structure Lawful (script : Script) (r : Run) : Prop where
  /-- The states were set in their order. -/
  course : Course script r.journal r.stage
  /-- The state that is shown is the last one that was set. -/
  state : some r.journal.state = r.journal.states.getLast?
  /-- Each tick that fired did so while the ticks were running. -/
  fires : Always (Fires script) r.journal.history
  /-- The recoveries are counted. -/
  recoveries : r.journal.recoveries = UInt32.ofNat (r.journal.states.count .recovering)

variable {s : Scheduler} {script : Script} {shutdown : Option Nat} {m : Move} {r r' : Run}
variable {j j' : Journal} {g g' : Generation}

theorem Answered.mono (h : Answered script j.history) (hj : j.Grows j') :
    Answered script j'.history := by
  obtain ⟨hanswer, t, ht⟩ := h
  exact ⟨hanswer, t, hj.mem ht⟩

theorem fires_of_isPlain (e : Event) (past : List (Nat × Event)) (h : e.isPlain = true) :
    Fires script e past := by
  cases e <;> simp_all [Fires, Event.isPlain]

theorem Course.ticking_mono (h : Course script j (.ticking g)) (hj : j.Grows j') :
    Course script j' (.ticking g') := by
  obtain ⟨hanswer, n, hn⟩ := h
  exact ⟨hanswer.mono hj, n, hj.states_eq.trans hn⟩

/-- More is done in the same state. -/
theorem Lawful.grow {stage stage' : Stage} (h : Lawful script ⟨j, stage⟩) (hj : j.Grows j')
    (hcourse : Course script j' stage') : Lawful script ⟨j', stage'⟩ where
  course := hcourse
  state := by simpa only [hj.state, hj.states_eq] using h.state
  fires := hj.always fires_of_isPlain h.fires
  recoveries := by simpa only [hj.recoveries, hj.states_eq] using h.recoveries

/-- A state is entered that is not `recovering`. -/
theorem Lawful.enter {stage stage' : Stage} {state : SchedulerState}
    (h : Lawful script ⟨j, stage⟩) (hstate : state ≠ .recovering)
    (hcourse : Course script (j.enter state) stage') :
    Lawful script ⟨j.enter state, stage'⟩ where
  course := hcourse
  state := by simp
  fires := ⟨trivial, h.fires⟩
  recoveries := by simpa [hstate] using h.recoveries

/-- Ticks go on. -/
theorem Lawful.ticking (h : Lawful script ⟨j, .ticking g⟩) (hj : j.Grows j') :
    Lawful script ⟨j', .ticking g'⟩ :=
  h.grow hj (Course.ticking_mono (g := g) h.course hj)

theorem lawful_first : Lawful script (first script) where
  course := ⟨rfl, rfl, rfl, rfl⟩
  state := rfl
  fires := ⟨trivial, trivial, trivial, trivial⟩
  recoveries := rfl

theorem Lawful.check {p : Pending ExecutorError Bool} (h : Lawful script ⟨j, .checking p⟩) :
    Lawful script (check s p j) := by
  obtain ⟨hstates, hcall, hindex, hending⟩ := h.course
  have hfinish := grows_finish (j := j) p p.ending.kind
  have hopening : (j.finish p p.ending.kind).states = opening := hfinish.states_eq.trans hstates
  -- the run ends without ever starting the ticks
  have hend {n : Notice} {result : TickResult} (hanswer : p.ending ≠ .returned true) :
      Lawful script (terminate result ((j.finish p p.ending.kind).report n)) := by
    have hreport := hfinish.trans (grows_report n)
    have hasked : Course script ((j.finish p p.ending.kind).report n) (.checking p) :=
      ⟨hreport.states_eq.trans hstates, hcall, hindex, hending⟩
    refine (h.grow hreport hasked).enter (by decide) (.inl ⟨hending ▸ hanswer, ?_⟩)
    rw [states_enter, hasked.1]
  unfold Run.check
  split
  · rename_i hanswer
    have hdone : Answered script (j.finish p p.ending.kind).history := by
      refine ⟨hending ▸ hanswer, j.now, ?_⟩
      simp [Journal.finish, hcall, hindex, hanswer, Ending.kind]
    exact h.grow (hfinish.trans (grows_report _))
      ⟨hdone.mono (grows_report _), .inl ((grows_report _).states_eq.trans hopening)⟩
  · rename_i hanswer
    exact hend (by simp [hanswer])
  · rename_i e hanswer
    exact hend (by simp [hanswer])
  · rename_i message hanswer
    exact h.grow hfinish ⟨hopening, message, hending ▸ hanswer⟩

theorem Lawful.startTicks (h : Lawful script ⟨j, .starting⟩) : Lawful script (startTicks s j) := by
  obtain ⟨⟨hanswer, t, ht⟩, hstates⟩ := h.course
  refine h.enter (by decide) ⟨⟨hanswer, t, List.mem_cons_of_mem _ ht⟩, ?_⟩
  rcases hstates with hstates | ⟨n, hn⟩
  · exact ⟨0, by rw [states_enter, hstates]; rfl⟩
  · exact ⟨n + 1, by rw [states_enter, hn, started_succ]⟩

theorem Lawful.fire {tick : TickKind} (h : Lawful script ⟨j, .ticking g⟩) :
    Lawful script ⟨(Invocation.start s script tick j).2, .ticking g'⟩ := by
  obtain ⟨⟨hanswer, t, ht⟩, n, hn⟩ := h.course
  have hfired : Lawful script ⟨j.record (.fired tick), .ticking g⟩ := by
    refine ⟨⟨⟨hanswer, t, List.mem_cons_of_mem _ ht⟩, n, hn⟩, h.state, ⟨?_, h.fires⟩, h.recoveries⟩
    exact ⟨⟨hanswer, t, ht⟩, running_of_reverse_eq_started hn⟩
  exact hfired.ticking (Invocation.grows_start s script tick j)

/-- The ticks are to be started afresh. -/
theorem Lawful.recover {n : Notice} (h : Lawful script ⟨j, .ticking g⟩) :
    Lawful script ⟨(j.recover.report n).enter .recovering, .starting⟩ := by
  obtain ⟨⟨hanswer, t, ht⟩, k, hk⟩ := h.course
  have hstates : (j.recover.report n).states = started k :=
    (grows_report (j := j.recover) n).states_eq.trans hk
  refine ⟨⟨⟨hanswer, t, ?_⟩, .inr ⟨k, by rw [states_enter, hstates]⟩⟩, by simp,
    ⟨trivial, trivial, h.fires⟩, ?_⟩
  · exact List.mem_cons_of_mem _ (List.mem_cons_of_mem _ ht)
  · have hcount : j.recoveries = UInt32.ofNat k := by
      rw [h.recoveries]
      exact congrArg _ ((congrArg _ hk).trans (count_recovering_started k))
    have hnext : (j.recover.report n).recoveries = j.recoveries + 1 := rfl
    simp [hnext, hcount, hstates, count_recovering_started]

theorem Lawful.conclude {v : Verdict} (h : Lawful script ⟨j, .ticking g⟩) :
    Lawful script (conclude s v j) := by
  have hdead := grows_foldl (fun j (_ : TickKind) => grows_report (j := j) .tickDied)
    (Generation.dead s) j
  -- the run ends with all ticks
  have hend (n : Notice) (result : TickResult) :
      Lawful script (terminate result
        (((Generation.dead s).foldl (fun j _ => j.report .tickDied) j).report n)) := by
    have hticking : Lawful script
        ⟨((Generation.dead s).foldl (fun j _ => j.report .tickDied) j).report n, .ticking g⟩ :=
      h.ticking (hdead.trans (grows_report n))
    obtain ⟨⟨hanswer, t, ht⟩, k, hk⟩ := hticking.course
    refine hticking.enter (by decide)
      (.inr ⟨⟨hanswer, t, List.mem_cons_of_mem _ ht⟩, k, ?_⟩)
    rw [states_enter, hk]
  cases v with
  | shutdown => exact hend _ _
  | fault e =>
    simp only [Run.conclude]
    split
    · exact Lawful.recover (g := g) (h.ticking hdead)
    · exact hend _ _

/-- Whatever happens, a lawful run stays one. -/
theorem Lawful.move (h : Lawful script r) (happens : Happens s script shutdown m r r') :
    Lawful script r' := by
  cases happens with
  | answer ended => exact h.check
  | start => exact h.startTicks
  | fire live due => exact h.fire
  | settle found goes => exact h.ticking (Invocation.grows_settle? goes)
  | note found => exact h.ticking (Generation.grows_deliver _ _ _ _)
  | heed waits queued => exact h.ticking (.refl _)
  | quit waits ended => exact h.ticking (.refl _)
  | halt live told => exact h.ticking (grows_foldl (fun j i => i.grows_abort j) _ _)
  | conclude ended told => exact h.conclude

theorem Lawful.pass (h : Lawful script r) : Lawful script (r.pass s 1) := by
  rcases r with ⟨j, stage⟩
  refine ⟨?_, h.state, h.fires, h.recoveries⟩
  have hcourse := h.course
  cases stage <;> exact hcourse

/-- Every possible run is lawful. -/
theorem lawful_of_possible (h : Possible s script shutdown r) : Lawful script r := by
  induction h with
  | first => exact lawful_first
  | move _ happens ih => exact ih.move happens
  | pass _ _ _ ih => exact ih.pass

/-- A run that has returned is terminated. -/
theorem Lawful.terminated {result : TickResult} (h : Lawful script r)
    (hresult : r.result? = some result) : r.journal.state = .terminated := by
  rcases r with ⟨j, stage⟩
  cases stage <;> simp only [result?, reduceCtorEq] at hresult
  have hstate := h.state
  rcases h.course with ⟨-, hstates⟩ | ⟨-, n, hstates⟩
  · rw [hstates, List.getLast?_concat] at hstate
    exact Option.some.inj hstate
  · rw [hstates, List.getLast?_concat] at hstate
    exact Option.some.inj hstate

example : (upTo .sample .quiet (some 5) 5).journal.states = started 0 ++ [.terminated] := by
  decide +kernel

end Run

end Interchain
