import Interchain.Scheduler.Run

/-!
# Instants of a run

At each instant moves are made until none is possible.  That comes to an end,
since every move takes away from what is still to be done (`Run.work`).
-/

namespace Interchain

/-- A list with an element at a position, split there. -/
theorem split_of_getElem? {α : Type} {l : List α} {i : Nat} {a : α} (h : l[i]? = some a) :
    ∃ before behind, l = before ++ a :: behind ∧ l.eraseIdx i = before ++ behind ∧
      ∀ b, l.set i b = before ++ b :: behind := by
  induction l generalizing i with
  | nil => simp at h
  | cons c rest ih =>
    cases i with
    | zero =>
      obtain rfl : c = a := by simpa using h
      exact ⟨[], rest, rfl, rfl, fun b => rfl⟩
    | succ i =>
      obtain ⟨before, behind, hl, he, hs⟩ := ih (i := i) (by simpa using h)
      refine ⟨c :: before, behind, by simp [hl], by simp [he], fun b => by simp [hs b]⟩

namespace Invocation

/-- How much is still to be done for an invocation. -/
def work : Invocation → Nat
  | .fetching calls _ => 8 + calls.length
  | .executing _ => 9
  | .requesting _ => 10
  | .configuring _ => 9
  | .settled _ _ => 8

/-- How much is still to be done for several invocations. -/
def workAll : List Invocation → Nat
  | [] => 0
  | i :: rest => i.work + workAll rest

theorem workAll_append (is js : List Invocation) :
    workAll (is ++ js) = workAll is + workAll js := by
  induction is with
  | nil => simp [workAll]
  | cons i rest ih =>
    rw [List.cons_append, workAll, workAll, ih]
    omega

theorem workAll_filter_le (p : Invocation → Bool) (is : List Invocation) :
    workAll (is.filter p) ≤ workAll is := by
  induction is with
  | nil => exact Nat.le_refl _
  | cons i rest ih =>
    rw [List.filter_cons]
    split <;> simp only [workAll] <;> omega

theorem work_fetched (calls : List FetchCall) (fatal : Option SchedulerError) :
    (fetched calls fatal).work = 8 + calls.length := by
  cases calls <;> rfl

@[simp] theorem work_endExecute (p : Pending ExecutorError RunOutcome) (j : Journal) :
    (endExecute p j).1.work = 8 := by
  unfold endExecute
  split <;> rfl

@[simp] theorem work_endConfigure (p : Pending ExecutorError Unit) (j : Journal) :
    (endConfigure p j).1.work = 8 := by
  unfold endConfigure
  split <;> rfl

theorem work_endToken_le (script : Script) (p : Pending CredentialError String) (j : Journal) :
    (endToken script p j).1.work ≤ 9 := by
  unfold endToken
  split <;> simp [work]

theorem length_beginAll (script : Script) (targets : List (ChainName × WorkerId)) (j : Journal) :
    (FetchCall.beginAll script targets j).1.length = targets.length := by
  induction targets generalizing j with
  | nil => rfl
  | cons t rest ih => simp [FetchCall.beginAll, ih]

theorem work_start_le (s : Scheduler) (script : Script) (tick : TickKind) (j : Journal) :
    (start s script tick j).1.work ≤ 10 + (FetchCall.targets s.settings).length := by
  cases tick with
  | fetch =>
    simp only [start, work_fetched, length_beginAll]
    omega
  | execute => simp [start, work]; omega
  | credentialRefresh => simp [start, work]

/-- The end of a call leaves less to do. -/
theorem work_settle?_lt {script : Script} {n : Nat} {i : Invocation} {j : Journal}
    {r : Invocation × Journal} (h : i.settle? script n j = some r) : r.1.work < i.work := by
  rcases settle?_cases h with ⟨calls, fatal, c, rfl, hc, -, rfl⟩ | ⟨p, rfl, -, -, rfl⟩ |
    ⟨p, rfl, -, -, rfl⟩ | ⟨p, rfl, -, -, rfl⟩
  · have hn : n < calls.length := (List.getElem?_eq_some_iff.mp hc).1
    rw [work_fetched, List.length_eraseIdx_of_lt hn]
    simp only [work]
    omega
  · rw [work_endExecute]
    exact Nat.lt_succ_self 8
  · exact Nat.lt_succ_of_le (work_endToken_le script p j)
  · rw [work_endConfigure]
    exact Nat.lt_succ_self 8

end Invocation

namespace Generation

/-- How much is still to be done after the supervisor's decision, or before it. -/
def verdictWork : Option Verdict → Nat
  | none => 2
  | some .shutdown => 1
  | some (.fault _) => 8

/-- How much is still to be done in a generation of ticks at the present instant. -/
def work (s : Scheduler) (g : Generation) : Nat :=
  g.live.length + (11 + (FetchCall.targets s.settings).length) * g.due.length +
    Invocation.workAll g.inflight + 7 * g.faults.length + verdictWork g.verdict

end Generation

namespace Run

variable (s : Scheduler) (script : Script) (shutdown : Option Nat)

/-- How much is still to be done at the present instant, at most. -/
def work (r : Run) : Nat :=
  match r.stage with
  | .checking _ => 8
  | .starting => 7
  | .ticking g => g.work s
  | .ended _ | .crashed _ => 0

variable {s script shutdown} {m : Move} {r r' : Run}

theorem work_check_lt (p : Pending ExecutorError Bool) (j : Journal) :
    (check s p j).work s < 8 := by
  unfold check
  split <;> simp [work, terminate]

theorem work_startTicks_lt (j : Journal) : (startTicks s j).work s < 7 := by
  have h : (TickKind.all.filter fun tick => s.settings.interval tick != 0).length ≤ 3 :=
    List.length_filter_le _ _
  simp only [work, startTicks, Generation.work, Generation.fresh, Generation.verdictWork,
    List.length_nil, Invocation.workAll]
  omega

theorem work_conclude_lt (v : Verdict) (j : Journal) :
    (conclude s v j).work s < Generation.verdictWork (some v) := by
  cases v with
  | shutdown => simp [conclude, terminate, work, Generation.verdictWork]
  | fault e =>
    simp only [conclude]
    split <;> simp [terminate, work, Generation.verdictWork]

/-- Every move leaves less to do at the present instant. -/
theorem work_lt_of_happens (h : Happens s script shutdown m r r') : r'.work s < r.work s := by
  cases h with
  | answer => exact work_check_lt _ _
  | start => exact work_startTicks_lt _
  | @fire g j tick live due =>
    have hi := Invocation.work_start_le s script tick j
    have hd : (g.due.erase tick).length + 1 = g.due.length := by
      rw [List.length_erase_of_mem due]
      have := List.length_pos_of_mem due
      omega
    simp only [work, Generation.work, Invocation.workAll_append, Invocation.workAll, ← hd,
      Nat.mul_add, Nat.mul_one]
    omega
  | @settle g j i n v w found goes =>
    obtain ⟨before, behind, hl, -, hset⟩ := split_of_getElem? found
    have hlt := Invocation.work_settle?_lt goes
    simp only [work, Generation.work, hset]
    simp only [hl, Invocation.workAll_append, Invocation.workAll]
    omega
  | @note g j i tick result found =>
    obtain ⟨before, behind, hl, herase, -⟩ := split_of_getElem? found
    have hsum : Invocation.workAll g.inflight =
        Invocation.workAll (g.inflight.eraseIdx i) + 8 := by
      rw [herase, hl]
      simp only [Invocation.workAll_append, Invocation.workAll, Invocation.work]
      omega
    unfold Generation.deliver
    split
    · simp only [work, ofTicks, Generation.work]
      omega
    · split
      · simp only [work, ofTicks, Generation.work]
        omega
      · simp only [work, ofTicks, Generation.work, List.length_append, List.length_singleton]
        omega
  | @heed g j e rest waits queued =>
    simp only [work, Generation.work, waits, queued, Generation.verdictWork, List.length_cons]
    omega
  | @quit g j waits ended =>
    simp only [work, Generation.work, waits, Generation.verdictWork]
    omega
  | @halt g j tick live told =>
    have hl : (g.live.erase tick).length < g.live.length := by
      rw [List.length_erase_of_mem live]
      have := List.length_pos_of_mem live
      omega
    have hs := Invocation.workAll_filter_le (fun i => i.tick ≠ tick) g.inflight
    simp only [work, Generation.work]
    omega
  | @conclude g j v ended told =>
    have := work_conclude_lt (s := s) v j
    simp only [work, Generation.work, told] at this ⊢
    omega

theorem happens_of_move? (h : move? s script shutdown r = some r') :
    ∃ m ∈ r.candidates, Happens s script shutdown m r r' := by
  obtain ⟨m, hm, h⟩ := List.exists_of_findSome?_eq_some h
  exact ⟨m, hm, perform?_eq_some.mp h⟩

variable (s script shutdown)

/-- Make moves until none is possible. -/
def settle (r : Run) : Run :=
  match _h : move? s script shutdown r with
  | some r' => settle r'
  | none => r
termination_by r.work s
decreasing_by
  obtain ⟨m, -, happens⟩ := happens_of_move? _h
  exact work_lt_of_happens happens

/-- The next instant of a run.  After its end nothing changes any more. -/
def next (r : Run) : Run :=
  if r.isOver then r else settle s script shutdown (r.pass s 1)

/-- The first instant of a run. -/
def start : Run :=
  settle s script shutdown (first script)

/-- A run some instants later. -/
def later : Nat → Run → Run
  | 0, r => r
  | n + 1, r => later n (next s script shutdown r)

/-- A run at the given instant. -/
def upTo (t : Nat) : Run :=
  later s script shutdown t (start s script shutdown)

/-- The outcome of a run that has ended. -/
def result? (r : Run) : Option TickResult :=
  match r.stage with
  | .ended result => some result
  | _ => none

/-- An instant by which a run has ended if shutdown is requested at `t`. -/
def horizon (t : Nat) : Nat :=
  max t (script.isRunning 0).delay

end Run

end Interchain
