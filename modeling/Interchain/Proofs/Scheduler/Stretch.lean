import Interchain.Proofs.Scheduler.Cause
import Interchain.Proofs.Scheduler.Rest
import Mathlib.Data.List.Induction
import Mathlib.Data.List.TakeWhile

/-!
# Stretches of a run

Ticks go on from the moment at which the state `running` is entered until the supervisor
concludes, which is the next change of state.  The history of a run falls into such
stretches (`Run.Stretch`).  At the end of each the run stood at a generation of ticks
that had come to its end or is still going on (`Run.Stretch.closes`), and whenever the
state `running` was left the supervisor concluded (`Run.concluded_of_possible`).  What
holds of generations while they go on can therefore be read off the history afterwards.
-/

namespace Interchain

/-- Any event but a change of state. -/
def Event.isSteady (e : Event) : Bool :=
  e.entered?.isNone

theorem Event.isSteady_of_isWork {e : Event} (h : e.isWork = true) : e.isSteady = true := by
  cases e <;> simp_all [isWork, isSteady, entered?]

theorem Event.isSteady_of_isEnding {e : Event} (h : e.isEnding = true) : e.isSteady = true :=
  isSteady_of_isWork (isWork_of_isEnding h)

theorem Event.isSteady_of_isPlain {e : Event} (h : e.isPlain = true) : e.isSteady = true := by
  cases e <;> simp_all [isPlain, isSteady, entered?]

namespace Journal

/-- The last change of state and when it was. -/
def lastChange (history : List (Nat × Event)) : Option (Nat × SchedulerState) :=
  history.findSome? fun e => e.2.entered?.map fun state => (e.1, state)

/-- What was done before the last change of state. -/
def earlier (history : List (Nat × Event)) : List (Nat × Event) :=
  (history.dropWhile fun e => e.2.entered?.isNone).tail

variable {new old later past span : List (Nat × Event)} {x : Nat × Event} {j j' : Journal}

theorem lastChange_of_head?_entered {state : SchedulerState}
    (h : (entered past).head? = some state) : ∃ t, lastChange past = some (t, state) := by
  induction past with
  | nil => cases h
  | cons e rest ih =>
    cases hentered : e.2.entered? with
    | none =>
      have hrest : (entered rest).head? = some state := by
        simpa [entered, hentered] using h
      obtain ⟨t, ht⟩ := ih hrest
      exact ⟨t, by simpa [lastChange, hentered] using ht⟩
    | some state' =>
      obtain rfl : state' = state := by
        simpa [entered, hentered] using h
      exact ⟨e.1, by simp [lastChange, hentered]⟩

/-- The last change of state divides a history. -/
theorem split_of_lastChange {t : Nat} {state : SchedulerState}
    (h : lastChange past = some (t, state)) :
    past = generation past ++ (t, .entered state) :: earlier past := by
  induction past with
  | nil => cases h
  | cons e rest ih =>
    rcases e with ⟨u, e⟩
    cases hentered : e.entered? with
    | none =>
      have hrest : lastChange rest = some (t, state) := by
        simpa [lastChange, hentered] using h
      have hgeneration : generation ((u, e) :: rest) = (u, e) :: generation rest := by
        simp [generation, hentered]
      have hearlier : earlier ((u, e) :: rest) = earlier rest := by
        simp [earlier, hentered]
      rw [hgeneration, hearlier, List.cons_append, ← ih hrest]
    | some state' =>
      obtain ⟨rfl, rfl⟩ : u = t ∧ state' = state := by
        simpa [lastChange, hentered] using h
      cases e <;> simp_all [Event.entered?, generation, earlier]

/-- The last two changes of state divide a history in three. -/
theorem split_of_lastChanges {t t' : Nat} {state state' : SchedulerState}
    (h : lastChange past = some (t, state)) (h' : lastChange (earlier past) = some (t', state')) :
    past = generation past ++ (t, .entered state) ::
      (generation (earlier past) ++ (t', .entered state') :: earlier (earlier past)) := by
  rw [← split_of_lastChange h']
  exact split_of_lastChange h

theorem generation_split {t : Nat} {state : SchedulerState}
    (hspan : ∀ e ∈ span, e.2.isSteady = true) :
    generation (span ++ (t, .entered state) :: past) = span := by
  rw [generation_append]
  · simp [generation, Event.entered?]
  · simpa [Event.isSteady] using hspan

/-- The last change of state divides a history in one way only. -/
theorem split_inj {span' past' : List (Nat × Event)} {t t' : Nat} {state state' : SchedulerState}
    (h : span ++ (t, .entered state) :: past = span' ++ (t', .entered state') :: past')
    (hspan : ∀ e ∈ span, e.2.isSteady = true) (hspan' : ∀ e ∈ span', e.2.isSteady = true) :
    span = span' ∧ t = t' ∧ past = past' := by
  obtain rfl : span = span' := by
    have hgeneration := congrArg generation h
    rwa [generation_split hspan, generation_split hspan'] at hgeneration
  obtain ⟨hx, hpast⟩ := List.cons.inj (List.append_cancel_left h)
  exact ⟨rfl, (Prod.mk.inj hx).1, hpast⟩

theorem isSteady_of_mem_generation {e : Nat × Event} (he : e ∈ generation past) :
    e.2.isSteady = true := by
  have hsteady := List.mem_takeWhile_imp he
  exact hsteady

/-- A change of state is not among events that are none. -/
theorem split_of_append (h : new ++ old = later ++ x :: past)
    (hnew : ∀ e ∈ new, e.2.isSteady = true) (hx : x.2.isSteady = false) :
    ∃ later', old = later' ++ x :: past := by
  rcases List.append_eq_append_iff.mp h with ⟨a, -, hold⟩ | ⟨c, hc, hold⟩
  · exact ⟨a, hold⟩
  · cases c with
    | nil => exact ⟨[], hold.symm⟩
    | cons y rest =>
      obtain rfl : x = y := (List.cons.inj hold).1
      have hmem : x ∈ new := hc ▸ List.mem_append_right _ List.mem_cons_self
      rw [hnew x hmem] at hx
      cases hx

/-- An event stands at the head of a history or below. -/
theorem split_of_cons {e : Nat × Event} (h : e :: old = later ++ x :: past) :
    (x = e ∧ past = old) ∨ ∃ later', old = later' ++ x :: past := by
  cases later with
  | nil =>
    obtain ⟨he, hpast⟩ := List.cons.inj h
    exact .inl ⟨he.symm, hpast.symm⟩
  | cons y rest => exact .inr ⟨rest, (List.cons.inj h).2⟩

theorem Adds.generation_eq {kind : Event → Bool} (h : j.Adds kind j')
    (hkind : ∀ {e : Event}, kind e = true → e.isSteady = true) :
    ∃ new, generation j'.history = new ++ generation j.history ∧ j'.history = new ++ j.history ∧
      ∀ e ∈ new, e.1 = j.now ∧ kind e.2 = true := by
  obtain ⟨new, hnew, hnewKind⟩ := h.history
  refine ⟨new, ?_, hnew, hnewKind⟩
  rw [hnew, generation_append]
  intro e he
  simpa [Event.isSteady] using hkind (hnewKind e he).2

end Journal

namespace Verdict

/-- The state that a verdict leads to. -/
def leadsTo : Verdict → SchedulerState
  | .shutdown => .terminated
  | .fault e => if e.isTransient then .recovering else .terminated

/-- What a run returns that ends with a verdict. -/
def result : Verdict → TickResult
  | .shutdown => .ok ()
  | .fault e => .error e

/-- How a verdict is reported after some recoveries. -/
def notice (recoveries : UInt32) : Verdict → Notice
  | .shutdown => .stopped
  | .fault e => if e.isTransient then .recovering (recoveries + 1) e else .failed e

end Verdict

namespace Run

open Journal

variable {s : Scheduler} {script : Script} {shutdown : Option Nat} {m : Move} {r r' : Run}
variable {g : Generation} {j : Journal} {v : Verdict} {t since till : Nat}
variable {state : SchedulerState} {later past span : List (Nat × Event)}

/-! ## What the supervisor's conclusion does -/

theorem result?_eq_none_of_happens (h : Happens s script shutdown m r r') : r.result? = none := by
  cases h <;> rfl

/-- The supervisor reports its verdict, and enters the state that it leads to at once. -/
theorem history_conclude (s : Scheduler) (v : Verdict) (j : Journal) :
    ∃ reports, (conclude s v j).journal.history =
        (j.now, .entered v.leadsTo) :: (reports ++ j.history) ∧
      reports.head? = some (j.now, .reported (v.notice j.recoveries)) ∧
      ∀ e ∈ reports, e.2.isEnding = true := by
  have hdead : j.Adds Event.isEnding
      ((Generation.dead s).foldl (fun j _ => j.report .tickDied) j) :=
    adds_foldl (fun _ _ => adds_report _) _ _
  obtain ⟨dead, hnew, hending⟩ := hdead.history
  refine ⟨(j.now, .reported (v.notice j.recoveries)) :: dead, ?_, rfl, ?_⟩
  · rw [List.cons_append, ← hnew, ← hdead.now, ← hdead.recoveries]
    cases v with
    | shutdown => rfl
    | fault e =>
      cases he : e.isTransient <;>
        simp [conclude, he, terminate, enter, report, recover, record, Verdict.leadsTo,
          Verdict.notice]
  · intro e he
    rcases List.mem_cons.mp he with rfl | he
    · rfl
    · exact (hending e he).2

theorem result?_conclude (h : v.leadsTo = .terminated) (j : Journal) :
    (conclude s v j).result? = some v.result := by
  cases v with
  | shutdown => rfl
  | fault e =>
    cases he : e.isTransient with
    | true => simp [Verdict.leadsTo, he] at h
    | false => simp [conclude, he, terminate, result?, Verdict.result]

/-! ## Ticks go on until the supervisor concludes -/

/-- Ticks go on at the same instant, or the supervisor concludes. -/
theorem Happens.ticking (h : Happens s script shutdown m ⟨j, .ticking g⟩ r') :
    (∃ j' g', r' = ⟨j', .ticking g'⟩ ∧ j.Adds Event.isSteady j' ∧ g'.since = g.since) ∨
      ∃ v, g.live = [] ∧ g.verdict = some v ∧ r' = Run.conclude s v j := by
  cases h with
  | fire live due =>
    refine .inl ⟨_, _, rfl, ?_, rfl⟩
    exact (adds_fired _ rfl).trans
      ((Invocation.works_start s script _ j).mono Event.isSteady_of_isWork)
  | settle found goes =>
    exact .inl ⟨_, _, rfl, (Invocation.works_settle? goes).mono Event.isSteady_of_isWork, rfl⟩
  | @note _ _ i tick result found =>
    obtain ⟨faults, hdeliver⟩ := Generation.deliver_eq tick result
      { g with inflight := g.inflight.eraseIdx i } j
    refine .inl ⟨_, _, rfl, ?_, by rw [hdeliver]⟩
    exact Generation.adds_deliver _ _ _ _ (fun _ => rfl) fun _ => rfl
  | heed waits queued => exact .inl ⟨_, _, rfl, .refl j, rfl⟩
  | quit waits ended => exact .inl ⟨_, _, rfl, .refl j, rfl⟩
  | halt live told =>
    refine .inl ⟨_, _, rfl, ?_, rfl⟩
    exact (Invocation.adds_abortAll _ _).mono Event.isSteady_of_isEnding
  | conclude ended told => exact .inr ⟨_, ended, told, rfl⟩

/-- The executor's answer can only end the run. -/
theorem mem_entered_check {p : Pending ExecutorError Bool}
    (h : state ∈ entered (check s p j).journal.history) :
    state = .terminated ∨ state ∈ entered j.history := by
  unfold check at h
  split at h
  · exact .inr h
  · exact List.mem_cons.mp h
  · exact List.mem_cons.mp h
  · exact .inr h

/-! ## What the history shows of a run's place -/

/-- Ticks are started at the instant at which that was last prepared, and go on since. -/
def Dated (r : Run) : Prop :=
  match r.stage with
  | .starting => ∃ e past, r.journal.history = (r.journal.now, e) :: past
  | .ticking g =>
    ∃ e past, r.journal.history =
      generation r.journal.history ++ (g.since, .entered .running) :: (g.since, e) :: past
  | _ => True

theorem dated_check (p : Pending ExecutorError Bool) (j : Journal) : Dated (check s p j) := by
  unfold check
  split
  · exact ⟨_, _, rfl⟩
  · trivial
  · trivial
  · trivial

theorem dated_conclude (v : Verdict) (j : Journal) : Dated (conclude s v j) := by
  cases v with
  | shutdown => trivial
  | fault e =>
    cases he : e.isTransient with
    | true =>
      simp only [conclude, he, if_true]
      exact ⟨_, _, rfl⟩
    | false =>
      simp only [conclude, he, Bool.false_eq_true, if_false]
      trivial

theorem dated_of_possible (h : Possible s script shutdown r) : Dated r := by
  induction h with
  | first => trivial
  | @move m r r' before happens ih =>
    rcases r with ⟨j, stage⟩
    cases stage with
    | checking p =>
      cases happens with
      | answer ended => exact dated_check p j
    | starting =>
      cases happens with
      | start =>
        obtain ⟨e, past, hpast⟩ := ih
        have hhistory : j.history = (j.now, e) :: past := hpast
        refine ⟨e, past, ?_⟩
        show (j.now, .entered .running) :: j.history = _
        rw [hhistory]
        rfl
    | ticking g =>
      rcases happens.ticking with ⟨j', g', rfl, hadds, hsince⟩ | ⟨v, -, -, rfl⟩
      · obtain ⟨new, hgeneration, hnew, -⟩ := hadds.generation_eq id
        obtain ⟨e, past, hpast⟩ := ih
        refine ⟨e, past, ?_⟩
        simp only [hgeneration, hsince, List.append_assoc]
        rw [← hpast, hnew]
      · exact dated_conclude v j
    | ended result => cases happens
    | crashed message => cases happens
  | @pass r before going still ih =>
    rcases r with ⟨j, stage⟩
    cases stage with
    | starting => exact absurd still not_still_starting
    | checking p => trivial
    | ticking g => exact ih
    | ended result => trivial
    | crashed message => trivial

/-- Ticks have been started by the time at which they are left. -/
theorem mem_of_left {history : List (Nat × Event)}
    (hsplit : history = later ++ (t, .entered state) :: past)
    (hleft : state = .recovering ∨ (entered past).head? = some .running) :
    .recovering ∈ entered history ∨ .running ∈ entered history := by
  have hentered : entered history = entered later ++ state :: entered past := by
    rw [hsplit, entered_append]
    rfl
  rw [hentered]
  refine hleft.imp ?_ ?_
  · rintro rfl
    exact List.mem_append_right _ List.mem_cons_self
  · intro hhead
    exact List.mem_append_right _ (List.mem_cons_of_mem _ (List.mem_of_head? hhead))

/-- The last state that was set, by how far a run has come. -/
def Follows : Stage → SchedulerState → Prop
  | .checking _, state | .crashed _, state => state = .awaitingExecutorReady
  | .starting, state => state = .awaitingExecutorReady ∨ state = .recovering
  | .ticking _, state => state = .running
  | .ended _, state => state = .terminated

theorem Lawful.follows (h : Lawful script r) :
    ∃ state, (entered r.journal.history).head? = some state ∧ Follows r.stage state := by
  have hlast : (entered r.journal.history).head? = r.journal.states.getLast? := by
    rw [states, List.getLast?_reverse]
  rcases r with ⟨j, stage⟩
  cases stage with
  | checking p =>
    refine ⟨_, ?_, rfl⟩
    rw [hlast, h.course.1]
    rfl
  | starting =>
    rcases h.course.2 with hstates | ⟨n, hstates⟩
    · refine ⟨_, ?_, .inl rfl⟩
      rw [hlast, hstates]
      rfl
    · refine ⟨_, ?_, .inr rfl⟩
      rw [hlast, hstates, List.getLast?_concat]
  | ticking g =>
    obtain ⟨-, n, hstates⟩ := h.course
    exact ⟨_, (running_of_reverse_eq_started hstates).1, rfl⟩
  | ended result =>
    refine ⟨_, ?_, rfl⟩
    rcases h.course with ⟨-, hstates⟩ | ⟨-, n, hstates⟩
    · rw [hlast, hstates, List.getLast?_concat]
    · rw [hlast, hstates, List.getLast?_concat]
  | crashed message =>
    refine ⟨_, ?_, rfl⟩
    rw [hlast, h.course.1]
    rfl

/-- A state that was set last is one that the stage of the run follows. -/
theorem Lawful.follows_of_head? (h : Lawful script r)
    (hhead : (entered r.journal.history).head? = some state) : Follows r.stage state := by
  obtain ⟨state', hhead', hfollows⟩ := h.follows
  obtain rfl : state' = state := Option.some.inj (hhead'.symm.trans hhead)
  exact hfollows

/-- Before ticks are started the last state set is not `running`. -/
theorem head?_entered_starting (h : Lawful script ⟨j, .starting⟩) :
    (entered j.history).head? ≠ some .running := by
  intro hhead
  have hfollows := h.follows_of_head? hhead
  simp [Follows] at hfollows

/-- The supervisor has concluded when the state `running` is left, and when the state
`recovering` is entered. -/
theorem concluded_of_possible (h : Possible s script shutdown r)
    (hsplit : r.journal.history = later ++ (t, .entered state) :: past)
    (hleft : state = .recovering ∨ (entered past).head? = some .running) :
    ∃ j g v, Possible s script shutdown ⟨j, .ticking g⟩ ∧ g.live = [] ∧ g.verdict = some v ∧
      (conclude s v j).journal.history = (t, .entered state) :: past ∧
      (state = .terminated → r.result? = some v.result) := by
  induction h generalizing later with
  | first =>
    have hmem := mem_of_left hsplit hleft
    simp [first, Journal.begin, blank, enter, entered, Event.entered?] at hmem
  | @move m r r' before happens ih =>
    have lawful := lawful_of_possible before
    -- a change of state that stood before is that of an earlier conclusion
    have older {later'} (hold : r.journal.history = later' ++ (t, .entered state) :: past) :
        ∃ j g v, Possible s script shutdown ⟨j, .ticking g⟩ ∧ g.live = [] ∧
          g.verdict = some v ∧ (conclude s v j).journal.history = (t, .entered state) :: past ∧
          (state = .terminated → r'.result? = some v.result) := by
      obtain ⟨j, g, v, possible, hlive, hverdict, hconclude, hresult⟩ := ih hold
      refine ⟨j, g, v, possible, hlive, hverdict, hconclude, ?_⟩
      intro hstate
      rw [result?_eq_none_of_happens happens] at hresult
      cases hresult hstate
    rcases r with ⟨j, stage⟩
    cases stage with
    | checking p =>
      cases happens with
      | answer ended =>
        have habsent {state : SchedulerState} (hstate : state ∉ opening ∧ state ≠ .terminated) :
            state ∉ entered (check s p j).journal.history := by
          intro hmem
          rcases mem_entered_check hmem with hterminated | hold
          · exact hstate.2 hterminated
          · rw [List.reverse_eq_iff.mp lawful.course.1, List.mem_reverse] at hold
            exact hstate.1 hold
        rcases mem_of_left hsplit hleft with hmem | hmem
        · exact absurd hmem (habsent (by decide))
        · exact absurd hmem (habsent (by decide))
    | starting =>
      cases happens with
      | start =>
        have hstart : (j.now, .entered .running) :: j.history =
            later ++ (t, .entered state) :: past := hsplit
        rcases split_of_cons hstart with ⟨hx, rfl⟩ | ⟨later', hold⟩
        · obtain ⟨rfl, hstate⟩ := Prod.mk.inj hx
          obtain rfl := Event.entered.inj hstate
          rcases hleft with hstate | hhead
          · cases hstate
          · exact absurd hhead (head?_entered_starting lawful)
        · exact older hold
    | ticking g =>
      rcases happens.ticking with ⟨j', g', rfl, hadds, -⟩ | ⟨v, hlive, hverdict, rfl⟩
      · obtain ⟨new, -, hnew, hsteady⟩ := hadds.generation_eq id
        obtain ⟨later', hold⟩ :=
          split_of_append (hnew.symm.trans hsplit) (fun e he => (hsteady e he).2) rfl
        exact older hold
      · obtain ⟨reports, hhistory, -, hending⟩ := history_conclude s v j
        rcases split_of_cons (hhistory.symm.trans hsplit) with ⟨hx, rfl⟩ | ⟨later', hrest⟩
        · obtain ⟨rfl, hstate⟩ := Prod.mk.inj hx
          obtain rfl := Event.entered.inj hstate
          exact ⟨j, g, v, before, hlive, hverdict, hhistory, fun hstate =>
            result?_conclude hstate j⟩
        · obtain ⟨later', hold⟩ :=
            split_of_append hrest (fun e he => Event.isSteady_of_isEnding (hending e he)) rfl
          exact older hold
    | ended result => cases happens
    | crashed message => cases happens
  | @pass r before going still ih =>
    obtain ⟨j, g, v, possible, hlive, hverdict, hconclude, hresult⟩ := ih hsplit
    refine ⟨j, g, v, possible, hlive, hverdict, hconclude, ?_⟩
    intro hstate
    rcases r with ⟨j, stage⟩
    cases stage <;> exact hresult hstate

/-! ## Stretches -/

/-- Ticks were started at `since` and went on until `till`, which is now or the time of
the next change of state.  Meanwhile `span` was done, the latest first, and `past`
before. -/
inductive Stretch (r : Run) (since : Nat) (span past : List (Nat × Event)) : Nat → Prop
  | going (steady : ∀ e ∈ span, e.2.isSteady = true)
      (split : r.journal.history = span ++ (since, .entered .running) :: past) :
      Stretch r since span past r.journal.now
  | closed {till : Nat} {state : SchedulerState} {later : List (Nat × Event)}
      (steady : ∀ e ∈ span, e.2.isSteady = true)
      (split : r.journal.history =
        later ++ (till, .entered state) :: (span ++ (since, .entered .running) :: past)) :
      Stretch r since span past till

theorem Stretch.steady (h : Stretch r since span past till) :
    ∀ e ∈ span, e.2.isSteady = true := by
  cases h with
  | going steady split => exact steady
  | closed steady split => exact steady

/-- What was done before a stretch stands in the history still. -/
theorem Stretch.exists_eq_append (h : Stretch r since span past till) :
    ∃ later, r.journal.history = later ++ past := by
  cases h with
  | going steady split => exact ⟨span ++ [(since, .entered .running)], by simp [split]⟩
  | @closed till state later steady split =>
    exact ⟨later ++ (till, .entered state) :: (span ++ [(since, .entered .running)]),
      by simp [split]⟩

theorem head?_entered_split (steady : ∀ e ∈ span, e.2.isSteady = true) :
    (entered (span ++ (t, .entered state) :: past)).head? = some state := by
  have hspan : entered span = [] := by
    rw [entered, List.filterMap_eq_nil_iff]
    intro e he
    simpa [Event.isSteady] using steady e he
  rw [entered_append, hspan]
  rfl

/-- Between the last two changes of state ticks went on, if the first of the two was the
start of them. -/
theorem stretch_of_lastChange (htill : lastChange r.journal.history = some (till, state))
    (hsince : lastChange (earlier r.journal.history) = some (since, .running)) :
    Stretch r since (generation (earlier r.journal.history))
      (earlier (earlier r.journal.history)) till :=
  .closed (fun _ => isSteady_of_mem_generation) (split_of_lastChanges htill hsince)

/-- Whatever was done after a start of the ticks and before the next change of state was
done in a stretch. -/
theorem exists_stretch (steady : ∀ e ∈ span, e.2.isSteady = true)
    (split : r.journal.history = later ++ (span ++ (since, .entered .running) :: past)) :
    ∃ done till, Stretch r since done past till ∧ span ⊆ done := by
  induction later using List.reverseRecOn generalizing span with
  | nil => exact ⟨span, _, .going steady split, List.Subset.refl _⟩
  | append_singleton later x ih =>
    rcases x with ⟨t, e⟩
    rw [List.append_assoc, List.singleton_append] at split
    cases hentered : e.entered? with
    | none =>
      have hmore : ∀ d ∈ (t, e) :: span, d.2.isSteady = true := by
        intro d hd
        rcases List.mem_cons.mp hd with rfl | hd
        · simp [Event.isSteady, hentered]
        · exact steady d hd
      obtain ⟨done, till, stretch, hsubset⟩ := ih hmore split
      exact ⟨done, till, stretch, List.Subset.trans (List.subset_cons_self _ _) hsubset⟩
    | some state =>
      cases e with
      | entered state => exact ⟨span, t, .closed steady split, List.Subset.refl _⟩
      | _ => cases hentered

/-- When the last state set is `running`, ticks go on. -/
theorem ticking_of_split (h : Possible s script shutdown r)
    (steady : ∀ e ∈ span, e.2.isSteady = true)
    (split : r.journal.history = span ++ (since, .entered .running) :: past) :
    ∃ g, r.stage = .ticking g := by
  have hhead : (entered r.journal.history).head? = some .running := by
    rw [split]
    exact head?_entered_split steady
  have hfollows := (lawful_of_possible h).follows_of_head? hhead
  rcases r with ⟨j, stage⟩
  cases stage with
  | ticking g => exact ⟨g, rfl⟩
  | _ => simp [Follows] at hfollows

/-- A generation of ticks as it stands at the end of a stretch, whose history is that of
the stretch but for what the supervisor then reported. -/
structure Closes (since till : Nat) (span past : List (Nat × Event)) (g : Generation)
    (j : Journal) : Prop where
  ends : j.now = till
  starts : g.since = since
  done : ∃ reports, span = reports ++ generation j.history ∧
    ∀ e ∈ reports, e.2.isEnding = true
  split : j.history = generation j.history ++ (since, .entered .running) :: past
  /-- The start had been prepared at the same instant. -/
  prepared : ∃ e before, past = (since, e) :: before

/-- A stretch that is over ended with the supervisor's conclusion. -/
theorem concluded_of_closed (h : Possible s script shutdown r)
    (steady : ∀ e ∈ span, e.2.isSteady = true)
    (split : r.journal.history =
      later ++ (till, .entered state) :: (span ++ (since, .entered .running) :: past)) :
    ∃ j g v, Possible s script shutdown ⟨j, .ticking g⟩ ∧ Closes since till span past g j ∧
      g.verdict = some v ∧ v.leadsTo = state ∧
      span.head? = some (till, .reported (v.notice j.recoveries)) ∧
      (state = .terminated → r.result? = some v.result) := by
  obtain ⟨j, g, v, possible, -, hverdict, hconclude, hresult⟩ :=
    concluded_of_possible h split (.inr (head?_entered_split steady))
  obtain ⟨reports, hhistory, hhead, hending⟩ := history_conclude s v j
  obtain ⟨e, before, hpast⟩ := dated_of_possible possible
  obtain ⟨hx, hsplit⟩ := List.cons.inj (hhistory.symm.trans hconclude)
  obtain ⟨hnow, hstate⟩ := Prod.mk.inj hx
  rw [hpast, ← List.append_assoc] at hsplit
  have hreports : ∀ e ∈ reports ++ generation j.history, e.2.isSteady = true := by
    intro e he
    rcases List.mem_append.mp he with he | he
    · exact Event.isSteady_of_isEnding (hending e he)
    · exact isSteady_of_mem_generation he
  obtain ⟨hspan, rfl, rfl⟩ := split_inj hsplit hreports steady
  have hreported : span.head? = some (till, .reported (v.notice j.recoveries)) := by
    rw [← hspan, List.head?_append, hhead, hnow]
    rfl
  have closes : Closes g.since till span ((g.since, e) :: before) g j :=
    ⟨hnow, rfl, ⟨reports, hspan.symm, hending⟩, hpast, e, before, rfl⟩
  exact ⟨j, g, v, possible, closes, hverdict, Event.entered.inj hstate, hreported, hresult⟩

/-- At the end of a stretch there was a generation of ticks. -/
theorem Stretch.closes (hr : Possible s script shutdown r) (h : Stretch r since span past till) :
    ∃ j g, Possible s script shutdown ⟨j, .ticking g⟩ ∧ Closes since till span past g j := by
  cases h with
  | going steady split =>
    rcases r with ⟨j, stage⟩
    obtain ⟨g, rfl⟩ := ticking_of_split hr steady split
    obtain ⟨e, before, hpast⟩ := dated_of_possible hr
    obtain ⟨hspan, rfl, rfl⟩ := split_inj (split.symm.trans hpast) steady
      fun _ => isSteady_of_mem_generation
    exact ⟨j, g, hr, rfl, rfl, ⟨[], hspan, by simp⟩, hpast, e, before, rfl⟩
  | closed steady split =>
    obtain ⟨j, g, v, possible, closes, -⟩ := concluded_of_closed hr steady split
    exact ⟨j, g, possible, closes⟩

end Run

end Interchain
