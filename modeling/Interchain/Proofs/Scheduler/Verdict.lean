import Interchain.Proofs.Scheduler.Faults
import Interchain.Proofs.Scheduler.Stretch

/-!
# Which error decides

The supervisor receives one error of a generation of ticks, the first that was handed
over, and tells the ticks to end at the same instant (`Generation.Heard`).  What is handed
over behind that error at this instant is never looked at: a transient error makes the
run recover although an error that is not transient waits.
-/

namespace Interchain

namespace Event

/-- The error that a tick hands to the supervisor. -/
def faulted? : Event → Option (TickKind × SchedulerError)
  | .faulted tick e => some (tick, e)
  | _ => none

/-- Neither a change of state nor an error that is handed over. -/
def isSilent (e : Event) : Bool :=
  e.isSteady && e.faulted?.isNone

theorem isSilent_of_isWork {e : Event} (h : e.isWork = true) : e.isSilent = true := by
  cases e <;> simp_all [isWork, isSilent, isSteady, entered?, faulted?]

theorem isSilent_of_isEnding {e : Event} (h : e.isEnding = true) : e.isSilent = true :=
  isSilent_of_isWork (isWork_of_isEnding h)

theorem isSteady_of_isSilent {e : Event} (h : e.isSilent = true) : e.isSteady = true :=
  (Bool.and_eq_true_iff.mp h).1

theorem faulted?_of_isSilent {e : Event} (h : e.isSilent = true) : e.faulted? = none :=
  Option.isNone_iff_eq_none.mp (Bool.and_eq_true_iff.mp h).2

end Event

namespace Journal

/-- The errors that ticks handed to the supervisor, the latest first. -/
def handed (history : List (Nat × Event)) : List (TickKind × SchedulerError) :=
  history.filterMap fun e => e.2.faulted?

variable {new past : List (Nat × Event)}

theorem handed_append (new past : List (Nat × Event)) :
    handed (new ++ past) = handed new ++ handed past :=
  List.filterMap_append ..

theorem handed_eq_nil_iff : handed past = [] ↔ ∀ e ∈ past, e.2.faulted? = none :=
  List.filterMap_eq_nil_iff

theorem handed_of_isSilent (h : ∀ e ∈ new, e.2.isSilent = true) : handed new = [] :=
  handed_eq_nil_iff.mpr fun e he => Event.faulted?_of_isSilent (h e he)

end Journal

open Journal

/-- What the supervisor has heard of the errors that ticks handed over. -/
structure Generation.Heard (g : Generation) (j : Journal) : Prop where
  /-- No error was handed over before the present instant. -/
  prompt : ∀ e ∈ generation j.history, e.2.faulted?.isSome = true → e.1 = j.now
  /-- Until it receives one, all of them wait. -/
  waiting : g.verdict = none → g.faults.reverse = (handed (generation j.history)).map Prod.snd
  /-- It receives the first. -/
  received : ∀ e, g.verdict = some (.fault e) →
    ∃ tick, (handed (generation j.history)).getLast? = some (tick, e)

namespace Generation

variable {s : Scheduler} {script : Script} {shutdown : Option Nat} {g g' : Generation}
variable {j j' : Journal} {tick : TickKind} {result : TickResult} {e : SchedulerError}

/-- Nothing that the supervisor hears of is done. -/
theorem Heard.keep (h : g.Heard j) (hj : j.Adds Event.isSilent j') (hfaults : g'.faults = g.faults)
    (hverdict : g'.verdict = g.verdict) : g'.Heard j' := by
  obtain ⟨new, hgeneration, -, hsilent⟩ := hj.generation_eq Event.isSteady_of_isSilent
  have hhanded : handed (generation j'.history) = handed (generation j.history) := by
    rw [hgeneration, handed_append, handed_of_isSilent fun e he => (hsilent e he).2,
      List.nil_append]
  constructor
  · intro e he hfaulted
    rw [hj.now]
    rw [hgeneration] at he
    rcases List.mem_append.mp he with he | he
    · rw [Event.faulted?_of_isSilent (hsilent e he).2] at hfaulted
      cases hfaulted
    · exact h.prompt e he hfaulted
  · rw [hhanded, hfaults, hverdict]
    exact h.waiting
  · rw [hhanded, hverdict]
    exact h.received

theorem Heard.deliver (h : g.Heard j) :
    (deliver tick result g j).1.Heard (deliver tick result g j).2 := by
  unfold Generation.deliver
  split
  · exact h
  · rename_i e
    split
    · exact h.keep ((adds_report _).mono Event.isSilent_of_isEnding) rfl rfl
    · have hgeneration : generation (j.record (.faulted tick e)).history =
          (j.now, .faulted tick e) :: generation j.history := by
        simp [generation, Event.entered?]
      have hhanded : handed (generation (j.record (.faulted tick e)).history) =
          (tick, e) :: handed (generation j.history) := by
        rw [hgeneration]
        rfl
      constructor
      · intro d hd hfaulted
        rw [hgeneration] at hd
        rcases List.mem_cons.mp hd with rfl | hd
        · rfl
        · exact h.prompt d hd hfaulted
      · intro hverdict
        rw [hhanded, List.map_cons, List.reverse_concat, h.waiting hverdict]
      · intro d hverdict
        rw [hhanded]
        obtain ⟨first, hlast⟩ := h.received d hverdict
        refine ⟨first, ?_⟩
        rw [List.getLast?_cons, hlast]
        rfl

theorem Heard.heed {rest : List SchedulerError} (h : g.Heard j) (waits : g.verdict = none)
    (queued : g.faults = e :: rest) :
    Heard { g with faults := rest, verdict := some (.fault e) } j where
  prompt := h.prompt
  waiting hverdict := by cases hverdict
  received d hverdict := by
    obtain rfl : e = d := Verdict.fault.inj (Option.some.inj hverdict)
    have hlast : (handed (generation j.history)).getLast?.map Prod.snd = some e := by
      rw [← List.getLast?_map, ← h.waiting waits, queued, List.getLast?_reverse]
      rfl
    obtain ⟨⟨tick, e⟩, hfirst, rfl⟩ := Option.map_eq_some_iff.mp hlast
    exact ⟨tick, hfirst⟩

/-- Ticks at rest have handed no error over. -/
theorem Heard.silent (h : g.Heard j) (rest : g.AtRest shutdown j) :
    handed (generation j.history) = [] := by
  have hwaiting := h.waiting rest.verdict
  rw [rest.faults] at hwaiting
  exact List.map_eq_nil_iff.mp hwaiting.symm

theorem Heard.pass (h : g.Heard j) (rest : g.AtRest shutdown j) (now : Nat) :
    (g.pass s now).Heard { j with now } := by
  constructor
  · intro e he hfaulted
    rw [handed_eq_nil_iff.mp (h.silent rest) e he] at hfaulted
    cases hfaulted
  · exact h.waiting
  · exact h.received

theorem heard (s : Scheduler) (script : Script) (shutdown : Option Nat) :
    Invariant s script shutdown Heard where
  fresh j := by
    have hnone : generation (j.enter .running).history = [] := rfl
    constructor
    · rw [hnone]
      intro e he
      cases he
    · intro _
      rw [hnone]
      rfl
    · intro e he
      cases he
  fire h _ _ :=
    h.keep ((adds_fired _ rfl).trans
      ((Invocation.works_start s script _ _).mono Event.isSilent_of_isWork)) rfl rfl
  settle h _ goes :=
    h.keep ((Invocation.works_settle? goes).mono Event.isSilent_of_isWork) rfl rfl
  note {g j i tick result} h _ := by
    have hrest : Heard { g with inflight := g.inflight.eraseIdx i } j := h.keep (.refl j) rfl rfl
    exact hrest.deliver
  heed h waits queued := h.heed waits queued
  quit h waits ended := ⟨h.prompt, nofun, nofun⟩
  halt h _ _ :=
    h.keep ((Invocation.adds_abortAll _ _).mono Event.isSilent_of_isEnding) rfl rfl
  pass h rest := h.pass rest _

end Generation

namespace Run

variable {s : Scheduler} {script : Script} {shutdown : Option Nat} {r : Run} {g : Generation}
variable {j : Journal} {since till : Nat} {state : SchedulerState} {e : SchedulerError}
variable {tick : TickKind} {span past : List (Nat × Event)}

/-- What was handed over in a stretch had been when the supervisor concluded. -/
theorem Closes.handed_eq (h : Closes since till span past g j) :
    handed span = handed (generation j.history) := by
  obtain ⟨reports, hspan, hending⟩ := h.done
  rw [hspan, handed_append,
    handed_of_isSilent fun e he => Event.isSilent_of_isEnding (hending e he), List.nil_append]

/-- Errors are handed over at the end of a stretch only. -/
theorem Stretch.prompt (hr : Possible s script shutdown r) (h : Stretch r since span past till) :
    ∀ e ∈ span, e.2.faulted?.isSome = true → e.1 = till := by
  obtain ⟨j, g, possible, closes⟩ := h.closes hr
  obtain ⟨reports, hspan, hending⟩ := closes.done
  intro e he hfaulted
  rw [hspan] at he
  rcases List.mem_append.mp he with he | he
  · rw [Event.faulted?_of_isSilent (Event.isSilent_of_isEnding (hending e he))] at hfaulted
    cases hfaulted
  · rw [← closes.ends]
    exact ((Generation.heard s script shutdown).holds possible g rfl).prompt e he hfaulted

theorem mem_of_mem_handed (h : (tick, e) ∈ handed past) : ∃ t, (t, .faulted tick e) ∈ past := by
  obtain ⟨⟨t, d⟩, hd, hfaulted⟩ := List.mem_filterMap.mp h
  cases d with
  | faulted tick' e' =>
    obtain ⟨rfl, rfl⟩ := Prod.mk.inj (Option.some.inj hfaulted)
    exact ⟨t, hd⟩
  | _ => cases hfaulted

/-- A run recovers at the instant at which the error that it reports was handed over. -/
theorem received_of_recovering {later : List (Nat × Event)} {t : Nat}
    (h : Possible s script shutdown r)
    (split : r.journal.history = later ++ (t, .entered .recovering) :: past) :
    ∃ attempt e past' tick, past = (t, .reported (.recovering attempt e)) :: past' ∧
      e.isTransient = true ∧ (t, .faulted tick e) ∈ generation past' := by
  obtain ⟨j, g, v, possible, -, hverdict, hconclude, -⟩ := concluded_of_possible h split (.inl rfl)
  obtain ⟨reports, hhistory, hhead, hending⟩ := history_conclude s v j
  obtain ⟨hx, rfl⟩ := List.cons.inj (hhistory.symm.trans hconclude)
  obtain ⟨rfl, hstate⟩ := Prod.mk.inj hx
  have heard := (Generation.heard s script shutdown).holds possible g rfl
  cases v with
  | shutdown => cases hstate
  | fault e =>
    cases he : e.isTransient with
    | false =>
      simp [Verdict.leadsTo, he] at hstate
    | true =>
      simp only [Verdict.notice, he, if_true] at hhead
      obtain ⟨rest, rfl⟩ := List.head?_eq_some_iff.mp hhead
      obtain ⟨tick, hfirst⟩ := heard.received e hverdict
      obtain ⟨t, hmem⟩ := mem_of_mem_handed (List.mem_of_getLast? hfirst)
      have hnow : t = j.now := heard.prompt _ hmem rfl
      have hrest : generation (rest ++ j.history) = rest ++ generation j.history := by
        apply generation_append
        intro d hd
        have hsteady := Event.isSteady_of_isEnding (hending d (List.mem_cons_of_mem _ hd))
        exact Option.isNone_iff_eq_none.mp hsteady
      refine ⟨_, e, rest ++ j.history, tick, rfl, he, ?_⟩
      rw [hrest, ← hnow]
      exact List.mem_append_right _ hmem

/-- Unless shutdown was requested, the first error that ticks hand over ends them at the
same instant, and it alone decides whether the run recovers or returns: errors that were
handed over behind it are not looked at, whatever they are. -/
theorem decided_by_first (positive : ∀ tick, s.settings.interval tick ≠ 0)
    (h : Possible s script shutdown r) (stretch : Stretch r since span past till)
    (first : (handed span).getLast? = some (tick, e))
    (going : Generation.shutdownBy shutdown till = false) :
    (∀ d ∈ span, d.2.faulted?.isSome = true → d.1 = till) ∧
    (Still s script shutdown r → ∃ later state, r.journal.history =
      later ++ (till, .entered state) :: (span ++ (since, .entered .running) :: past)) ∧
    (∀ later state, r.journal.history =
        later ++ (till, .entered state) :: (span ++ (since, .entered .running) :: past) →
      (e.isTransient = true → state = .recovering ∧
        ∃ attempt, span.head? = some (till, .reported (.recovering attempt e))) ∧
      (e.isTransient = false → state = .terminated ∧
        span.head? = some (till, .reported (.failed e)) ∧ r.result? = some (.error e))) := by
  have steady := stretch.steady
  refine ⟨stretch.prompt h, ?_, ?_⟩
  · intro still
    cases stretch with
    | closed _ split => exact ⟨_, _, split⟩
    | going _ split =>
      rcases r with ⟨j, stage⟩
      obtain ⟨g, rfl⟩ := ticking_of_split h steady split
      have heard := (Generation.heard s script shutdown).holds h g rfl
      have hsilent := heard.silent (atRest_of_still still)
      rw [split, generation_split steady] at hsilent
      rw [hsilent] at first
      cases first
  · intro later state split
    obtain ⟨j, g, v, possible, closes, hverdict, hstate, hreported, hresult⟩ :=
      concluded_of_closed h steady split
    cases v with
    | shutdown =>
      have running := (lawful_of_possible possible).course.1.1
      have founded := (founded_of_possible positive running possible).ticking g rfl
      have hquits := founded.quits hverdict
      rw [closes.ends, going] at hquits
      cases hquits
    | fault d =>
      have heard := (Generation.heard s script shutdown).holds possible g rfl
      obtain ⟨tick', hfirst⟩ := heard.received d hverdict
      rw [closes.handed_eq, hfirst] at first
      obtain rfl : d = e := (Prod.mk.inj (Option.some.inj first)).2
      constructor
      · intro htransient
        simp only [Verdict.leadsTo, Verdict.notice, htransient, if_true] at hstate hreported
        exact ⟨hstate.symm, _, hreported⟩
      · intro hfatal
        simp only [Verdict.leadsTo, Verdict.notice, hfatal, Bool.false_eq_true, if_false]
          at hstate hreported
        exact ⟨hstate.symm, hreported, hresult hstate.symm⟩

/-- Cycles are rejected. -/
def rejecting : Script :=
  { Script.quiet with run := fun _ _ => ⟨0, .failed (.rejected "run" "paused")⟩ }

/-- Cycles are rejected, and tokens are refused for a passing reason after a while. -/
def colliding : Script :=
  { rejecting with
    configure := fun _ => ⟨4, .failed (.transport (.transient .connectionReset ""))⟩ }

theorem decided_by_rejection :
    ∃ r, Possible (.paced 1000 10 6) rejecting none r ∧
      r.result? = some (.error (.executor (.rejected "run" "paused"))) := by
  let r := upTo (.paced 1000 10 6) rejecting none 10
  have possible : Possible (.paced 1000 10 6) rejecting none r := (possible_upTo 10).1
  have htill : lastChange r.journal.history = some (10, .terminated) := by decide +kernel
  have hsince : lastChange (earlier r.journal.history) = some (0, .running) := by decide +kernel
  have positive : ∀ tick, (Scheduler.paced 1000 10 6).settings.interval tick ≠ 0 :=
    Scheduler.interval_paced_ne_zero (by decide) (by decide) (by decide)
  have first : (handed (generation (earlier r.journal.history))).getLast? =
      some (.execute, .executor (.rejected "run" "paused")) := by decide +kernel
  obtain ⟨-, -, decided⟩ :=
    decided_by_first positive possible (stretch_of_lastChange htill hsince) first rfl
  exact ⟨r, possible, ((decided _ _ (split_of_lastChanges htill hsince)).2 rfl).2.2⟩

/-- A cycle that is rejected and a token that is refused for a passing reason reach the
supervisor at the same instant, and the run goes on. -/
theorem recovers_despite_fatal :
    ∃ r, Possible (.paced 1000 10 6) colliding none r ∧
      handed (generation (earlier (earlier r.journal.history))) =
        [(.execute, .executor (.rejected "run" "paused")),
          (.credentialRefresh, .executor (.transport (.transient .connectionReset "")))] ∧
      lastChange (earlier r.journal.history) = some (10, .recovering) ∧
      r.journal.now = 10 ∧ r.result? = none ∧ r.journal.state = .running ∧
      r.journal.recoveries = 1 :=
  ⟨upTo (.paced 1000 10 6) colliding none 10, (possible_upTo 10).1, by decide +kernel⟩

end Run

end Interchain
