import Interchain.Proofs.Scheduler.Stretch

/-!
# Where a run returns

A run returns in one of two places: when it hears whether the executor is running, and when the
supervisor has concluded (`Run.returned_of_possible`).  The supervisor returns no transient
error.  The answer of the executor is passed on as it is: a run whose question meets a fault
that would pass is over before any tick is started.
-/

namespace Interchain.Run

open Journal

variable {s : Scheduler} {script : Script} {shutdown : Option Nat} {r : Run}
variable {j : Journal} {p : Pending ExecutorError Bool} {v : Verdict} {e : SchedulerError}
variable {error : ExecutorError} {result : TickResult}

/-! ## The two places -/

/-- A run that has returned has just heard from the executor or from the supervisor. -/
theorem returned_of_possible (h : Possible s script shutdown r)
    (hresult : r.result? = some result) :
    (∃ p j, Possible s script shutdown ⟨j, .checking p⟩ ∧ r = check s p j) ∨
    ∃ g v j, Possible s script shutdown ⟨j, .ticking g⟩ ∧ r = conclude s v j := by
  cases h with
  | first => cases hresult
  | @move m before _ possible happens =>
    cases happens with
    | answer ended => exact .inl ⟨_, _, possible, rfl⟩
    | conclude ended told => exact .inr ⟨_, _, _, possible, rfl⟩
    | start | fire | settle | note | heed | quit | halt => cases hresult
  | @pass before possible going still =>
    -- Time does not pass in a run that has returned.
    rcases before with ⟨j, stage⟩
    cases stage with
    | ended result => cases going
    | checking p | starting | ticking g | crashed m => cases hresult

/-- An answer with which a run returns. -/
theorem result_of_check (h : (check s p j).result? = some result) :
    p.ending = .returned false ∧ result = .error .executorNotRunning ∨
      ∃ error, p.ending = .failed error ∧ result = .error (.executor error) := by
  unfold check at h
  split at h
  · cases h
  · next hanswer =>
    cases h
    exact .inl ⟨hanswer, rfl⟩
  · next error hanswer =>
    cases h
    exact .inr ⟨error, hanswer, rfl⟩
  · cases h

/-- A transient error makes a run recover, and so it does not return with that. -/
theorem fatal_of_conclude (h : (conclude s v j).result? = some (.error e)) :
    e.isTransient = false := by
  cases v with
  | shutdown => cases h
  | fault d =>
    cases hd : d.isTransient with
    | true => simp [conclude, hd, result?] at h
    | false =>
      obtain rfl : d = e := by simpa [conclude, hd, terminate, result?] using h
      exact hd

/-- A run returns because the executor is not running or cannot tell, and otherwise returns no
transient error. -/
theorem returns_of_possible (h : Possible s script shutdown r)
    (hresult : r.result? = some result) :
    ((script.isRunning 0).ending = .returned false ∧ result = .error .executorNotRunning ∨
      ∃ error, (script.isRunning 0).ending = .failed error ∧
        result = .error (.executor error)) ∨
    (script.isRunning 0).ending = .returned true ∧
      ∀ e, result = .error e → e.isTransient = false := by
  rcases returned_of_possible h hresult with ⟨p, j, possible, rfl⟩ | ⟨g, v, j, possible, rfl⟩
  · have hending := (lawful_of_possible possible).course.2.2.2
    exact .inl (hending ▸ result_of_check hresult)
  · refine .inr ⟨(lawful_of_possible possible).course.1.1, ?_⟩
    rintro e rfl
    exact fatal_of_conclude hresult

/-! ## A question that fails -/

/-- The question is asked only once. -/
theorem stage_ne_checking {m : Move} {r' : Run} (h : Happens s script shutdown m r r') :
    r'.stage ≠ .checking p := by
  cases h with
  | answer ended =>
    unfold check
    split <;> exact Stage.noConfusion
  | @conclude g j v ended told =>
    cases v with
    | shutdown => exact Stage.noConfusion
    | fault e => cases he : e.isTransient <;> simp [conclude, he, terminate]
  | start | fire | settle | note | heed | quit | halt => exact Stage.noConfusion

/-- The answer comes when the script says. -/
theorem due_of_possible (h : Possible s script shutdown r) (hstage : r.stage = .checking p) :
    p.due = (script.isRunning 0).delay := by
  induction h with
  | first =>
    cases hstage
    exact Nat.zero_add _
  | move _ happens _ => exact absurd hstage (stage_ne_checking happens)
  | @pass before _ _ _ ih =>
    rcases before with ⟨j, stage⟩
    cases stage with
    | checking asked => exact ih hstage
    | starting | ticking g | ended result | crashed m => cases hstage

section Failing

variable (h : Possible s script shutdown r) (hfailed : (script.isRunning 0).ending = .failed error)
include h hfailed

/-- A run whose question fails returns nothing but the fault. -/
theorem result_eq_of_failed (hresult : r.result? = some result) :
    result = .error (.executor error) := by
  have hanswer := returns_of_possible h hresult
  rw [hfailed] at hanswer
  rcases hanswer with (⟨⟨⟩, -⟩ | ⟨_, ⟨⟩, rfl⟩) | ⟨⟨⟩, -⟩
  rfl

/-- A run whose question fails does not start any tick. -/
theorem not_running_of_failed : .running ∉ r.journal.states := by
  have hunanswered : ¬ Answered script r.journal.history := by
    rintro ⟨hrunning, -⟩
    rw [hfailed] at hrunning
    cases hrunning
  have hstates : r.journal.states = opening ∨ r.journal.states = opening ++ [.terminated] := by
    have hcourse := (lawful_of_possible h).course
    rcases r with ⟨j, stage⟩
    cases stage with
    | checking p => exact .inl hcourse.1
    | starting | ticking g => exact absurd hcourse.1 hunanswered
    | ended result =>
      rcases hcourse with ⟨-, hstates⟩ | ⟨hanswered, -⟩
      · exact .inr hstates
      · exact absurd hanswered hunanswered
    | crashed m => exact .inl hcourse.1
  rcases hstates with hstates | hstates
  · rw [hstates]
    decide
  · rw [hstates]
    decide

/-- A run whose question fails returns once that is known. -/
theorem result_of_failed (still : Still s script shutdown r)
    (hdue : (script.isRunning 0).delay ≤ r.journal.now) :
    r.result? = some (.error (.executor error)) := by
  have hcourse := (lawful_of_possible h).course
  have hresult : ∀ result, r.result? = some result → result = .error (.executor error) :=
    fun _ => result_eq_of_failed h hfailed
  have hasked : ∀ p, r.stage = .checking p → p.due = (script.isRunning 0).delay :=
    fun _ => due_of_possible h
  rcases r with ⟨j, stage⟩
  cases stage with
  | checking p =>
    rw [← hasked p rfl] at hdue
    exact absurd (.answer hdue) (still _ _)
  | starting | ticking g => exact absurd (hcourse.1.1.symm.trans hfailed) nofun
  | crashed m => exact absurd (hcourse.2.choose_spec.symm.trans hfailed) nofun
  | ended result => exact congrArg some (hresult result rfl)

end Failing

/-- A run returns a transient error exactly if the question whether the executor is running
fails with one.  If that question fails no tick is ever started, and as soon as this is known
the run returns just the fault that it failed with. -/
theorem ends_transiently_iff (h : Possible s script shutdown r) :
    (∀ e, r.result? = some (.error e) → (e.isTransient = true ↔
      ∃ error, (script.isRunning 0).ending = .failed error ∧ error.isTransient = true)) ∧
    ∀ error, (script.isRunning 0).ending = .failed error →
      .running ∉ r.journal.states ∧
      (∀ result, r.result? = some result → result = .error (.executor error)) ∧
      (Still s script shutdown r → (script.isRunning 0).delay ≤ r.journal.now →
        r.result? = some (.error (.executor error))) := by
  constructor
  case left =>
    intro e he
    constructor
    · intro htransient
      rcases returns_of_possible h he with (⟨-, ⟨⟩⟩ | ⟨error, hfailed, ⟨⟩⟩) | ⟨-, hfatal⟩
      · cases htransient
      · exact ⟨error, hfailed, htransient⟩
      · rw [hfatal e rfl] at htransient
        cases htransient
    · rintro ⟨error, hfailed, htransient⟩
      cases result_eq_of_failed h hfailed he
      exact htransient
  case right =>
    intro error hfailed
    exact ⟨not_running_of_failed h hfailed, fun _ => result_eq_of_failed h hfailed,
      result_of_failed h hfailed⟩

/-- The connection breaks when the executor is asked whether it is running. -/
def cutOff : Script :=
  { Script.quiet with
    isRunning := fun _ =>
      ⟨0, .failed (.transport (.transient .connectionReset "read ECONNRESET"))⟩ }

theorem ends_transiently_cutOff :
    ∃ r error, Possible .sample cutOff none r ∧ (cutOff.isRunning 0).ending = .failed error ∧
      r.result? = some (.error (.executor error)) ∧
      (SchedulerError.executor error).isTransient = true := by
  have possible : Possible .sample cutOff none (upTo .sample cutOff none 0) := (possible_upTo 0).1
  have still : Still .sample cutOff none (upTo .sample cutOff none 0) := (possible_upTo 0).2
  obtain ⟨hiff, hfails⟩ := ends_transiently_iff possible
  have hresult := (hfails _ rfl).2.2 still (Nat.zero_le _)
  exact ⟨_, _, possible, rfl, hresult, (hiff _ hresult).mpr ⟨_, rfl, rfl⟩⟩

/-- It is not so that runs return no transient errors. -/
theorem gives_up_on_transient :
    ¬ ∀ (s : Scheduler) (script : Script) (shutdown : Option Nat) (r : Run) (e : SchedulerError),
      Possible s script shutdown r → r.result? = some (.error e) → e.isTransient = false := by
  intro h
  have hresult : (upTo .sample cutOff none 0).result? = some (.error
      (.executor (.transport (.transient .connectionReset "read ECONNRESET")))) := by
    decide +kernel
  exact absurd (h .sample cutOff none _ _ (possible_upTo 0).1 hresult) (by decide)

end Interchain.Run
