import Interchain.Proofs.Scheduler.Cadence
import Interchain.Proofs.Scheduler.Renewal

/-!
# A recovery forgets

What a run does after it has entered the state `recovering` does not depend on what it
did before.  Nothing but the journal is carried over, so the run goes on as one does that
has nothing behind it (`Run.continues_afresh`).  Two runs that recover at the same
instant go on alike if the calls that they make from then on are answered alike.
-/

namespace Interchain

open Journal

theorem Event.le_of_onto_eq_finished {base : Journal} {e : Event} {call : Call} {n : Nat}
    {how : Ended} (h : e.onto base = .finished call n how) : base.begun call.line ≤ n := by
  cases e with
  | finished call' m how' =>
    obtain ⟨rfl, rfl, -⟩ := Event.finished.inj h
    exact Nat.le_add_right _ _
  | reported notice => cases notice <;> cases h
  | _ => cases h

@[simp] theorem Event.entered?_onto (base : Journal) (e : Event) :
    (e.onto base).entered? = e.entered? := by
  cases e with
  | reported notice => cases notice <;> rfl
  | _ => rfl

@[simp] theorem Event.fired?_onto (base : Journal) (e : Event) :
    (e.onto base).fired? = e.fired? := by
  cases e with
  | reported notice => cases notice <;> rfl
  | _ => rfl

@[simp] theorem Journal.entered_renumbered (base : Journal) (done : List (Nat × Event)) :
    entered (renumbered base done) = entered done := by
  simp [entered, renumbered, List.filterMap_map]

@[simp] theorem Journal.firings_renumbered (base : Journal) (tick : TickKind)
    (done : List (Nat × Event)) : firings tick (renumbered base done) = firings tick done := by
  simp [firings, renumbered, List.filter_map, Function.comp_def]

theorem Journal.Numbered.enter {j : Journal} (h : j.Numbered) (state : SchedulerState) :
    (j.enter state).Numbered := by
  intro t call n state' hmem
  rcases List.mem_cons.mp hmem with heq | hmem
  · cases (Prod.mk.inj heq).2
  · exact h t call n state' hmem

namespace Run

variable {s : Scheduler} {script script₁ script₂ : Script} {shutdown : Option Nat} {base : Journal}
variable {r r' r₁ r₂ : Run} {j : Journal} {t : Nat}

/-- A run that has just recovered and has nothing behind it. -/
def afresh (t : Nat) : Run :=
  ⟨⟨t, .recovering, 0, fun _ => 0, []⟩, .starting⟩

/-- A run that has just recovered carries nothing but its journal. -/
theorem afresh_onto (h : Possible s script shutdown r)
    (recovers : r.journal.history.head? = some (t, .entered .recovering)) :
    (afresh t).onto r.journal = r := by
  obtain ⟨past, hpast⟩ := List.head?_eq_some_iff.mp recovers
  have hhead : (entered r.journal.history).head? = some .recovering := by
    rw [hpast]
    rfl
  have lawful := lawful_of_possible h
  have hfollows := lawful.follows_of_head? hhead
  have hstate : r.journal.state = .recovering := by
    have hlast := lawful.state
    rw [states, List.getLast?_reverse, hhead] at hlast
    exact Option.some.inj hlast
  rcases r with ⟨j, stage⟩
  obtain rfl : stage = .starting := by
    cases stage with
    | starting => rfl
    | _ => simp [Follows] at hfollows
  obtain ⟨e, before, hdated⟩ := dated_of_possible h
  have hnow : t = j.now := (Prod.mk.inj (List.cons.inj (hpast.symm.trans hdated)).1).1
  rcases j with ⟨now, state, recoveries, begun, history⟩
  obtain rfl : state = .recovering := hstate
  obtain rfl : t = now := hnow
  simp [afresh, onto, Journal.onto, renumbered, Stage.onto]

theorem numbered_conclude (v : Verdict) (h : j.Numbered) : (conclude s v j).journal.Numbered := by
  have hdead : ((Generation.dead s).foldl (fun j _ => j.report .tickDied) j).Numbered :=
    (adds_foldl (fun _ _ => adds_report _) _ _).numbered h
  cases v with
  | shutdown => exact ((adds_report _).numbered hdead).enter _
  | fault e =>
    cases he : e.isTransient with
    | true =>
      simp only [conclude, he, if_true]
      refine ((adds_report _).numbered ?_).enter _
      exact hdead
    | false =>
      simp only [conclude, he]
      exact ((adds_report _).numbered hdead).enter _

theorem numbered_check (p : Pending ExecutorError Bool) (h : j.Numbered) :
    (check s p j).journal.Numbered := by
  have hfinish := (adds_finish p p.ending.kind).numbered h
  unfold check
  split
  · exact (adds_report _).numbered hfinish
  · exact ((adds_report _).numbered hfinish).enter _
  · exact ((adds_report _).numbered hfinish).enter _
  · exact hfinish

/-- Every call that a run has made has been counted. -/
theorem numbered_of_possible (h : Possible s script shutdown r) : r.journal.Numbered := by
  induction h with
  | first =>
    have hbegin :
        (blank.enter .awaitingExecutorReady).Adds Event.isWork (Run.first script).journal :=
      adds_begin .isRunning script.isRunning rfl
    refine hbegin.numbered ?_
    intro t call n state hmem
    simp [blank, Journal.enter, Journal.record] at hmem
  | @move m r r' before happens ih =>
    rcases r with ⟨j, stage⟩
    cases stage with
    | checking p =>
      cases happens with
      | answer ended => exact numbered_check p ih
    | starting =>
      cases happens with
      | start => exact ih.enter _
    | ticking g =>
      rcases happens.ticking with ⟨j', g', rfl, hadds, -⟩ | ⟨v, -, -, rfl⟩
      · exact hadds.numbered ih
      · exact numbered_conclude v ih
    | ended result => cases happens
    | crashed message => cases happens
  | pass _ _ _ ih => exact ih

/-- Two runs went on alike, each from another. -/
structure AlikeSince (r₁ r₂ r₁' r₂' : Run) : Prop where
  now : r₁'.journal.now = r₂'.journal.now
  state : r₁'.journal.state = r₂'.journal.state
  result : r₁'.result? = r₂'.result?
  recoveries : r₁'.journal.recoveries - r₁.journal.recoveries =
    r₂'.journal.recoveries - r₂.journal.recoveries
  fired : ∀ tick, ∃ times,
    firings tick r₁'.journal.history = times ++ firings tick r₁.journal.history ∧
    firings tick r₂'.journal.history = times ++ firings tick r₂.journal.history
  entered : ∃ states,
    entered r₁'.journal.history = states ++ entered r₁.journal.history ∧
    entered r₂'.journal.history = states ++ entered r₂.journal.history
  /-- All that was done is the same, with calls and recoveries counted on. -/
  done : ∃ done,
    r₁'.journal.history = renumbered r₁.journal done ++ r₁.journal.history ∧
    r₂'.journal.history = renumbered r₂.journal done ++ r₂.journal.history

/-- What is put onto two journals is alike. -/
theorem alikeSince_onto {r₁ r₂ : Run} (r : Run) :
    AlikeSince r₁ r₂ (r.onto r₁.journal) (r.onto r₂.journal) where
  now := rfl
  state := rfl
  result := by simp
  recoveries := by
    have hcount (base : Journal) :
        (r.onto base).journal.recoveries - base.recoveries = r.journal.recoveries := by
      show base.recoveries + r.journal.recoveries - base.recoveries = _
      rw [UInt32.add_comm, UInt32.add_sub_cancel]
    rw [hcount, hcount]
  fired tick := by
    refine ⟨firings tick r.journal.history, ?_, ?_⟩
    · simp [onto, Journal.onto, firings_append]
    · simp [onto, Journal.onto, firings_append]
  entered := by
    refine ⟨Journal.entered r.journal.history, ?_, ?_⟩
    · simp [onto, Journal.onto, entered_append]
    · simp [onto, Journal.onto, entered_append]
  done := ⟨r.journal.history, rfl, rfl⟩

/-- A run that has recovered goes on like one with nothing behind it. -/
theorem continues_afresh (h : Possible s script shutdown r)
    (recovers : r.journal.history.head? = some (t, .entered .recovering)) :
    Continues s script shutdown r r' ↔
      ∃ r'', Continues s (script.beyond r.journal.begun) shutdown (afresh t) r'' ∧
        r''.onto r.journal = r' := by
  have hafresh := afresh_onto h recovers
  constructor
  · intro continues
    rw [← hafresh] at continues
    exact continues.exists_onto
  · rintro ⟨r'', continues, rfl⟩
    have honto := continues.onto
    rwa [hafresh] at honto

/-- No call that was made before a recovery ends after it. -/
theorem ends_before_recovering {new : List (Nat × Event)} {t' t'' n : Nat} {call : Call}
    {state : SchedulerState} {how : Ended} (h : Possible s script shutdown r)
    (recovers : r.journal.history.head? = some (t, .entered .recovering))
    (continues : Continues s script shutdown r r')
    (hnew : r'.journal.history = new ++ r.journal.history)
    (began : (t', .began call n state) ∈ r.journal.history) :
    (t'', .finished call n how) ∉ new := by
  obtain ⟨r'', -, rfl⟩ := (continues_afresh h recovers).mp continues
  obtain rfl : new = renumbered r.journal r''.journal.history :=
    (List.append_cancel_right hnew).symm
  intro hfinished
  have hlt := numbered_of_possible h t' call n state began
  obtain ⟨⟨u, e⟩, -, he⟩ := List.mem_map.mp hfinished
  exact Nat.not_le_of_lt hlt (Event.le_of_onto_eq_finished (Prod.mk.inj he).2)

/-- What a run does after it has entered the state `recovering` is independent of what it
did before.  If two runs enter it at the same instant, and the calls that they make from
then on are answered alike, each way in which the one can go on is a way in which the
other can, with the same firings, states, recoveries and result.  No call that was made
before ends afterwards. -/
theorem recovery_forgets (h₁ : Possible s script₁ shutdown r₁) (h₂ : Possible s script₂ shutdown r₂)
    (recovers₁ : r₁.journal.history.head? = some (t, .entered .recovering))
    (recovers₂ : r₂.journal.history.head? = some (t, .entered .recovering))
    (cycles : ∀ mode n, script₁.run mode (r₁.journal.begun (.run mode) + n) =
      script₂.run mode (r₂.journal.begun (.run mode) + n))
    (tokens : ∀ n, script₁.accessToken (r₁.journal.begun .accessToken + n) =
      script₂.accessToken (r₂.journal.begun .accessToken + n))
    (handovers : ∀ n, script₁.configure (r₁.journal.begun .configure + n) =
      script₂.configure (r₂.journal.begun .configure + n)) :
    (∀ r₁', Continues s script₁ shutdown r₁ r₁' →
      ∃ r₂', Continues s script₂ shutdown r₂ r₂' ∧ AlikeSince r₁ r₂ r₁' r₂') ∧
    (∀ r₂', Continues s script₂ shutdown r₂ r₂' →
      ∃ r₁', Continues s script₁ shutdown r₁ r₁' ∧ AlikeSince r₁ r₂ r₁' r₂') ∧
    (∀ r₁' new, Continues s script₁ shutdown r₁ r₁' →
      r₁'.journal.history = new ++ r₁.journal.history →
      ∀ t call n state, (t, .began call n state) ∈ r₁.journal.history →
        ∀ t' how, (t', .finished call n how) ∉ new) := by
  have hscript : script₁.beyond r₁.journal.begun = script₂.beyond r₂.journal.begun := by
    simp only [Script.beyond, cycles, tokens, handovers]
  refine ⟨?_, ?_, ?_⟩
  · intro r₁' continues
    obtain ⟨r, hr, rfl⟩ := (continues_afresh h₁ recovers₁).mp continues
    rw [hscript] at hr
    exact ⟨_, (continues_afresh h₂ recovers₂).mpr ⟨r, hr, rfl⟩, alikeSince_onto r⟩
  · intro r₂' continues
    obtain ⟨r, hr, rfl⟩ := (continues_afresh h₂ recovers₂).mp continues
    rw [← hscript] at hr
    exact ⟨_, (continues_afresh h₁ recovers₁).mpr ⟨r, hr, rfl⟩, alikeSince_onto r⟩
  · intro r₁' new continues hnew t' call n state began t'' how
    exact ends_before_recovering h₁ recovers₁ continues hnew began

/-! ## Two runs that recover at the same instant -/

/-- Moves made one after the other, if each is possible. -/
def performAll (s : Scheduler) (script : Script) (shutdown : Option Nat) :
    List Move → Run → Option Run
  | [], r => some r
  | m :: ms, r => (perform? s script shutdown m r).bind (performAll s script shutdown ms)

theorem possible_performAll {ms : List Move} (h : Possible s script shutdown r)
    (hr : performAll s script shutdown ms r = some r') : Possible s script shutdown r' := by
  induction ms generalizing r with
  | nil =>
    obtain rfl := Option.some.inj hr
    exact h
  | cons m ms ih =>
    obtain ⟨r'', hm, hms⟩ := Option.bind_eq_some_iff.mp hr
    exact ih (h.move (perform?_eq_some.mp hm)) hms

theorem head?_of_entered? {history : List (Nat × Event)} {state : SchedulerState}
    (h : (history.head?.bind fun e => e.2.entered?.map fun state => (e.1, state)) =
      some (t, state)) :
    history.head? = some (t, .entered state) := by
  obtain ⟨⟨u, e⟩, hhead, he⟩ := Option.bind_eq_some_iff.mp h
  cases e with
  | entered state' =>
    obtain ⟨rfl, rfl⟩ := Prod.mk.inj (Option.some.inj he)
    exact hhead
  | _ => cases he

/-- The moves by which ticks come to their end when their oldest call fails. -/
def stopping : List Move :=
  [.settle 0 0, .note 0, .heed, .halt .fetch, .halt .execute, .halt .credentialRefresh, .conclude]

/-- The state that a run has just entered and when, and how many cycles, requests for
tokens and handovers it has begun. -/
def glimpse (r : Run) : Option (Nat × SchedulerState) × List Nat :=
  (r.journal.history.head?.bind fun e => e.2.entered?.map fun state => (e.1, state),
    [.run .execute, .accessToken, .configure].map r.journal.begun)

/-- As `colliding`, but the first token is answered later and refused sooner. -/
def detouring : Script :=
  { colliding with
    accessToken := fun n => if n = 0 then ⟨2, .returned "slow"⟩ else colliding.accessToken n
    configure := fun n =>
      if n = 0 then ⟨2, .failed (.transport (.transient .undecodedBody ""))⟩
      else colliding.configure n }

theorem forgets_detour :
    ∃ r₁ r₂, Possible (.paced 1000 10 6) colliding none r₁ ∧
      Possible (.paced 1000 10 6) detouring none r₂ ∧
      r₁.journal.begun (.run .execute) = 0 ∧ r₂.journal.begun (.run .execute) = 1 ∧
      ∀ r₁', Continues (.paced 1000 10 6) colliding none r₁ r₁' →
        ∃ r₂', Continues (.paced 1000 10 6) detouring none r₂ r₂' ∧ AlikeSince r₁ r₂ r₁' r₂' := by
  -- the second run also fires a cycle, which is cut off
  have hleft : (performAll (.paced 1000 10 6) colliding none stopping
      ((upTo (.paced 1000 10 6) colliding none 9).pass (.paced 1000 10 6) 1)).map glimpse =
        some (some (10, .recovering), [0, 1, 1]) := by decide +kernel
  have hright : (performAll (.paced 1000 10 6) detouring none (.fire .execute :: stopping)
      ((upTo (.paced 1000 10 6) detouring none 9).pass (.paced 1000 10 6) 1)).map glimpse =
        some (some (10, .recovering), [1, 1, 1]) := by decide +kernel
  obtain ⟨r₁, hr₁, hseen₁⟩ := Option.map_eq_some_iff.mp hleft
  obtain ⟨r₂, hr₂, hseen₂⟩ := Option.map_eq_some_iff.mp hright
  have h₁ : Possible (.paced 1000 10 6) colliding none r₁ :=
    possible_performAll ((possible_upTo 9).1.pass (by decide +kernel) (possible_upTo 9).2) hr₁
  have h₂ : Possible (.paced 1000 10 6) detouring none r₂ :=
    possible_performAll ((possible_upTo 9).1.pass (by decide +kernel) (possible_upTo 9).2) hr₂
  simp only [glimpse, Prod.mk.injEq, List.map_cons, List.map_nil, List.cons.injEq, and_true]
    at hseen₁ hseen₂
  obtain ⟨hhead₁, hcycles₁, htokens₁, hhandovers₁⟩ := hseen₁
  obtain ⟨hhead₂, hcycles₂, htokens₂, hhandovers₂⟩ := hseen₂
  have hforgets := recovery_forgets h₁ h₂ (head?_of_entered? hhead₁) (head?_of_entered? hhead₂)
    (fun _ _ => rfl) (fun n => by simp [htokens₂, detouring, colliding, rejecting, Script.quiet])
    (fun n => by simp [hhandovers₂, detouring, colliding])
  exact ⟨r₁, r₂, h₁, h₂, hcycles₁, hcycles₂, hforgets.1⟩

end Run

end Interchain
