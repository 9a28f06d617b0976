import Interchain.Proofs.Scheduler.Cause
import Interchain.Proofs.Scheduler.Outline

/-!
# What becomes of errors

While ticks go on, each error that waits for the supervisor or has reached it comes
from an invocation of the present generation (`Generation.Founded`).  From this it
follows why a run recovers and why it returns what it returns.
-/

namespace Interchain

open Journal

/-- The errors that ticks have handed over come from their invocations; the supervisor
stops waiting without one only if shutdown was requested. -/
structure Generation.Founded (script : Script) (shutdown : Option Nat) (g : Generation)
    (j : Journal) : Prop where
  inflight : ∀ i ∈ g.inflight, i.Rooted script (generation j.history)
  faults : ∀ e ∈ g.faults, Delivered script (generation j.history) e
  verdict : ∀ e, g.verdict = some (.fault e) → Delivered script (generation j.history) e
  quits : g.verdict = some .shutdown → shutdownBy shutdown j.now = true
  live : g.live = [] → g.verdict.isSome = true ∨ shutdownBy shutdown j.now = true

namespace Run

/-- A refresh of the storage token failed at its second call, with a transient
error. -/
def Refused (script : Script) (done : List (Nat × Event)) (error : ExecutorError) : Prop :=
  ∃ token n, Finished script done .credentialRefresh (.configure token) n .fault ∧
    (script.configure n).ending = .failed error ∧ error.isTransient = true

/-- What precedes a recovery. -/
def Recovers (script : Script) : Event → List (Nat × Event) → Prop
  | .entered .recovering, past =>
    ∃ error attempt t past',
      past = (t, .reported (.recovering attempt (.executor error))) :: past' ∧
      Refused script (generation past') error
  | _, _ => True

/-- What a run has come to when it returns. -/
def Returns (script : Script) (shutdown : Option Nat) (j : Journal) : TickResult → Prop
  | .ok () => Generation.shutdownBy shutdown j.now = true
  | .error e =>
    e.isTransient = false ∧
      ∃ t past, j.history = (t, .entered .terminated) :: past ∧
        ∃ tick, Cause script (generation past) tick e

/-- Whatever a run does about errors has its reason. -/
structure Founded (script : Script) (shutdown : Option Nat) (r : Run) : Prop where
  ticking : ∀ g, r.stage = .ticking g → g.Founded script shutdown r.journal
  ended : ∀ result, r.stage = .ended result → Returns script shutdown r.journal result
  recovers : Always (Recovers script) r.journal.history

variable {s : Scheduler} {script : Script} {shutdown : Option Nat} {m : Move} {r r' : Run}
variable {g g' : Generation} {j j' : Journal} {e : SchedulerError}

/-- A transient error that is handed over is that of a refused token. -/
theorem refused_of_delivered {done : List (Nat × Event)} (h : Delivered script done e)
    (he : e.isTransient = true) : ∃ error, e = .executor error ∧ Refused script done error := by
  obtain ⟨tick, cause, hswallows⟩ := h
  have hswallows := hswallows he
  cases cause with
  | cycle ended failed =>
    -- the ticks that run cycles absorb transient errors
    obtain ⟨made, -⟩ := ended
    cases made with
    | opening opens fired began =>
      cases tick <;> simp_all [TickKind.Opens, TickKind.swallowsTransient]
  | configure ended failed => exact ⟨_, rfl, _, _, ended, failed, he⟩
  | cyclePanic | token | tokenPanic | configurePanic => exact absurd he Bool.false_ne_true

theorem recovers_of_isPlain (e : Event) (past : List (Nat × Event)) (h : e.isPlain = true) :
    Recovers script e past := by
  cases e <;> simp_all [Recovers, Event.isPlain]

/-- More is done at the same instant, and ticks go on. -/
theorem Founded.grow {stage stage' : Stage} (h : Founded script shutdown ⟨j, stage⟩)
    (hj : j.Grows j') (hticking : ∀ g, stage' = .ticking g → g.Founded script shutdown j')
    (hended : ∀ result, stage' = .ended result → Returns script shutdown j' result) :
    Founded script shutdown ⟨j', stage'⟩ :=
  ⟨hticking, hended, hj.always recovers_of_isPlain h.recovers⟩

theorem Founded.tick (h : Founded script shutdown ⟨j, .ticking g⟩) (hj : j.Grows j')
    (hg : g'.Founded script shutdown j') : Founded script shutdown ⟨j', .ticking g'⟩ :=
  h.grow hj (fun _ hstage => Stage.ticking.inj hstage ▸ hg) fun _ hstage => nomatch hstage

end Run

namespace Generation

variable {s : Scheduler} {script : Script} {shutdown : Option Nat} {g : Generation}
variable {j j' : Journal} {tick : TickKind} {i n : Nat}

theorem shutdownBy_mono {t t' : Nat} (h : shutdownBy shutdown t = true) (ht : t ≤ t') :
    shutdownBy shutdown t' = true := by
  cases shutdown with
  | none => exact h
  | some u =>
    simp only [shutdownBy, decide_eq_true_eq] at h ⊢
    exact Nat.le_trans h ht

/-- What is known of ticks is kept when more is done, now or later. -/
theorem Founded.mono (h : g.Founded script shutdown j) (hnow : j.now ≤ j'.now)
    (hdone : generation j.history ⊆ generation j'.history) : g.Founded script shutdown j' where
  inflight i hi := (h.inflight i hi).mono hdone
  faults e he := (h.faults e he).mono hdone
  verdict e he := (h.verdict e he).mono hdone
  quits hv := shutdownBy_mono (h.quits hv) hnow
  live hl := (h.live hl).imp_right fun hs => shutdownBy_mono hs hnow

theorem Founded.grow (h : g.Founded script shutdown j) (hj : j.Grows j') :
    g.Founded script shutdown j' :=
  h.mono (Nat.le_of_eq hj.now.symm) hj.generation_subset

theorem founded_fresh (positive : ∀ tick, s.settings.interval tick ≠ 0) (now : Nat) (j : Journal) :
    (fresh s now).Founded script shutdown j where
  inflight i hi := nomatch hi
  faults e he := nomatch he
  verdict e he := nomatch he
  quits hv := nomatch hv
  live hl := by
    have hfetch : TickKind.fetch ∈ (fresh s now).live :=
      List.mem_filter.mpr ⟨by decide, by simpa using positive .fetch⟩
    rw [hl] at hfetch
    cases hfetch

theorem Founded.fire (h : g.Founded script shutdown j) :
    Founded script shutdown
      { g with
        due := g.due.erase tick
        inflight := g.inflight ++ [(Invocation.start s script tick j).1] }
      (Invocation.start s script tick j).2 := by
  have hstart := Invocation.grows_start s script tick j
  have hmono := h.mono (Nat.le_of_eq hstart.now.symm)
    (List.Subset.trans (generation_record_subset rfl) hstart.generation_subset)
  refine { hmono with inflight := ?_ }
  intro i hi
  rcases List.mem_append.mp hi with hi | hi
  · exact hmono.inflight i hi
  · rw [List.mem_singleton.mp hi]
    exact Invocation.rooted_start s script tick j

theorem Founded.settle {v : Invocation} {w : Invocation × Journal}
    (h : g.Founded script shutdown j) (found : g.inflight[i]? = some v)
    (goes : v.settle? script n j = some w) :
    Founded script shutdown { g with inflight := g.inflight.set i w.1 } w.2 := by
  have hmono := h.grow (Invocation.grows_settle? goes)
  refine { hmono with inflight := ?_ }
  intro u hu
  rcases List.mem_or_eq_of_mem_set hu with hu | rfl
  · exact hmono.inflight u hu
  · exact (h.inflight v (List.mem_of_getElem? found)).settle? goes

theorem Founded.note {result : TickResult} (h : g.Founded script shutdown j)
    (found : g.inflight[i]? = some (.settled tick result)) :
    (deliver tick result { g with inflight := g.inflight.eraseIdx i } j).1.Founded script shutdown
      (deliver tick result { g with inflight := g.inflight.eraseIdx i } j).2 := by
  have hrest : Founded script shutdown { g with inflight := g.inflight.eraseIdx i } j :=
    { h with inflight := fun v hv => h.inflight v (List.mem_of_mem_eraseIdx hv) }
  have hroot := h.inflight _ (List.mem_of_getElem? found)
  unfold deliver
  split
  · exact hrest
  · rename_i e
    split
    · exact hrest.grow (grows_report _)
    · rename_i habsorbs
      have hgrow : j.Grows (j.record (.faulted tick e)) := grows_record rfl
      have hmono := hrest.grow hgrow
      refine { hmono with faults := ?_ }
      intro e' he'
      rcases List.mem_append.mp he' with he' | he'
      · exact hmono.faults e' he'
      · rw [List.mem_singleton.mp he']
        refine ⟨tick, (hroot e rfl).mono hgrow.generation_subset, ?_⟩
        intro htransient
        simpa [htransient] using habsorbs

theorem Founded.heed {e : SchedulerError} {rest : List SchedulerError}
    (h : g.Founded script shutdown j) (queued : g.faults = e :: rest) :
    Founded script shutdown { g with faults := rest, verdict := some (.fault e) } j where
  inflight := h.inflight
  faults e' he' := h.faults e' (queued ▸ List.mem_cons_of_mem _ he')
  verdict e' he' := by
    obtain rfl : e = e' := Verdict.fault.inj (Option.some.inj he')
    exact h.faults e (queued ▸ List.mem_cons_self)
  quits hv := nomatch hv
  live _ := .inl rfl

theorem Founded.quit (h : g.Founded script shutdown j) (waits : g.verdict = none)
    (ended : shutdownBy shutdown j.now = true ∨ g.live = [] ∧ g.faults = []) :
    Founded script shutdown { g with verdict := some .shutdown } j where
  inflight := h.inflight
  faults := h.faults
  verdict e he := nomatch he
  quits _ := by
    rcases ended with ended | ⟨hlive, -⟩
    · exact ended
    · simpa [waits] using h.live hlive
  live _ := .inl rfl

theorem Founded.halt (h : g.Founded script shutdown j)
    (told : g.verdict.isSome = true ∨ shutdownBy shutdown j.now = true) :
    Founded script shutdown
      { g with
        live := g.live.erase tick
        inflight := g.inflight.filter fun i => i.tick ≠ tick }
      ((g.inflight.filter fun i => i.tick = tick).foldl (fun j i => i.abort j) j) := by
  have hgrow := grows_foldl (fun j i => Invocation.grows_abort i j)
    (g.inflight.filter fun i => i.tick = tick) j
  have hmono := h.grow hgrow
  exact { hmono with
    inflight := fun i hi => hmono.inflight i (List.mem_filter.mp hi).1
    live := fun _ => hgrow.now ▸ told }

end Generation

namespace Run

variable {s : Scheduler} {script : Script} {shutdown : Option Nat} {m : Move} {r r' : Run}
variable {g g' : Generation} {j j' : Journal} {e : SchedulerError}

theorem founded_first : Founded script shutdown (first script) where
  ticking _ hstage := nomatch hstage
  ended _ hstage := nomatch hstage
  recovers := ⟨trivial, trivial, trivial, trivial⟩

/-- A run whose question is answered with yes goes on to start the ticks. -/
theorem Founded.check {p : Pending ExecutorError Bool}
    (h : Founded script shutdown ⟨j, .checking p⟩) (hanswer : p.ending = .returned true) :
    Founded script shutdown (check s p j) := by
  simp only [Run.check, hanswer]
  exact h.grow ((grows_finish _ _).trans (grows_report _)) (fun _ hstage => by cases hstage)
    fun _ hstage => by cases hstage

theorem Founded.startTicks (positive : ∀ tick, s.settings.interval tick ≠ 0)
    (h : Founded script shutdown ⟨j, .starting⟩) : Founded script shutdown (startTicks s j) where
  ticking _ hstage := Stage.ticking.inj hstage ▸ Generation.founded_fresh positive _ _
  ended _ hstage := nomatch hstage
  recovers := ⟨trivial, h.recovers⟩

theorem Founded.fire {tick : TickKind} (h : Founded script shutdown ⟨j, .ticking g⟩) :
    Founded script shutdown
      ⟨(Invocation.start s script tick j).2,
        .ticking { g with
          due := g.due.erase tick
          inflight := g.inflight ++ [(Invocation.start s script tick j).1] }⟩ where
  ticking _ hstage := Stage.ticking.inj hstage ▸ (h.ticking g rfl).fire
  ended _ hstage := nomatch hstage
  recovers := (Invocation.grows_start s script tick j).always recovers_of_isPlain
    ⟨trivial, h.recovers⟩

theorem Founded.conclude {v : Verdict} (h : Founded script shutdown ⟨j, .ticking g⟩)
    (told : g.verdict = some v) : Founded script shutdown (conclude s v j) := by
  have hdead := grows_foldl (fun j (_ : TickKind) => grows_report (j := j) .tickDied)
    (Generation.dead s) j
  have hticks := h.ticking g rfl
  have hrecovers := hdead.always recovers_of_isPlain h.recovers
  cases v with
  | shutdown =>
    refine ⟨(fun _ hstage => by cases hstage), ?_, trivial, trivial, hrecovers⟩
    rintro _ ⟨⟩
    have hquits := hticks.quits told
    rw [← hdead.now] at hquits
    exact hquits
  | fault e =>
    have hdelivered := (hticks.verdict e told).mono hdead.generation_subset
    cases he : e.isTransient with
    | true =>
      obtain ⟨error, rfl, hrefused⟩ := refused_of_delivered hdelivered he
      simp only [Run.conclude, he, if_true]
      refine ⟨(fun _ hstage => by cases hstage), (fun _ hstage => by cases hstage), ?_, trivial,
        hrecovers⟩
      exact ⟨error, _, _, _, rfl, hrefused⟩
    | false =>
      obtain ⟨tick, cause, -⟩ := hdelivered
      simp only [Run.conclude, he, Bool.false_eq_true, if_false]
      refine ⟨(fun _ hstage => by cases hstage), ?_, trivial, trivial, hrecovers⟩
      rintro _ ⟨⟩
      exact ⟨he, _, _, rfl, tick, cause.mono (generation_record_subset rfl)⟩

/-- Whatever happens has its reason, if what happened before has. -/
theorem Founded.move (positive : ∀ tick, s.settings.interval tick ≠ 0)
    (running : (script.isRunning 0).ending = .returned true) (lawful : Lawful script r)
    (h : Founded script shutdown r) (happens : Happens s script shutdown m r r') :
    Founded script shutdown r' := by
  cases happens with
  | answer ended => exact h.check (lawful.course.2.2.2.trans running)
  | start => exact h.startTicks positive
  | fire live due => exact h.fire
  | settle found goes =>
    exact h.tick (Invocation.grows_settle? goes) ((h.ticking _ rfl).settle found goes)
  | note found =>
    exact h.tick (Generation.grows_deliver _ _ _ _) ((h.ticking _ rfl).note found)
  | heed waits queued => exact h.tick (.refl _) ((h.ticking _ rfl).heed queued)
  | quit waits ended => exact h.tick (.refl _) ((h.ticking _ rfl).quit waits ended)
  | halt live told =>
    exact h.tick (grows_foldl (fun j i => i.grows_abort j) _ _) ((h.ticking _ rfl).halt told)
  | conclude ended told => exact h.conclude told

theorem Founded.pass (h : Founded script shutdown r) (going : r.isOver = false) :
    Founded script shutdown (r.pass s 1) := by
  rcases r with ⟨j, stage⟩
  cases stage with
  | ticking g =>
    refine ⟨?_, (fun _ hstage => nomatch hstage), h.recovers⟩
    rintro _ ⟨⟩
    have hmono : g.Founded script shutdown { j with now := j.now + 1 } :=
      (h.ticking g rfl).mono (Nat.le_succ _) (List.Subset.refl _)
    exact ⟨hmono.inflight, hmono.faults, hmono.verdict, hmono.quits, hmono.live⟩
  | checking p =>
    exact ⟨(fun _ hstage => nomatch hstage), (fun _ hstage => nomatch hstage), h.recovers⟩
  | starting =>
    exact ⟨(fun _ hstage => nomatch hstage), (fun _ hstage => nomatch hstage), h.recovers⟩
  | ended result => cases going
  | crashed message => cases going

theorem founded_of_possible (positive : ∀ tick, s.settings.interval tick ≠ 0)
    (running : (script.isRunning 0).ending = .returned true)
    (h : Possible s script shutdown r) : Founded script shutdown r := by
  induction h with
  | first => exact founded_first
  | move before happens ih => exact ih.move positive running (lawful_of_possible before) happens
  | pass _ going _ ih => exact ih.pass going

/-- What becomes of errors if the executor says that it is running.  Whether cycles
end well, with a reason of the executor's own or with a transient error makes no
difference to the states, the recoveries and the result.  A run recovers only from a
transient refusal of a fresh token.  It returns an error only if that is not transient
and an invocation of the last generation came to it, and it returns without one only
if shutdown was requested. -/
theorem faults_of_run (positive : ∀ tick, s.settings.interval tick ≠ 0)
    (running : (script.isRunning 0).ending = .returned true)
    (h : Possible s script shutdown r) :
    (∀ script', script.Alike script' → ∃ r', Possible s script' shutdown r' ∧
      r'.journal.now = r.journal.now ∧ r'.journal.state = r.journal.state ∧
      r'.journal.recoveries = r.journal.recoveries ∧ r'.result? = r.result? ∧
      r'.changes = r.changes) ∧
    (∀ later t past, r.journal.history = later ++ (t, .entered .recovering) :: past →
      ∃ error attempt t' past',
        past = (t', .reported (.recovering attempt (.executor error))) :: past' ∧
          Refused script (generation past') error) ∧
    (∀ e, r.result? = some (.error e) → e.isTransient = false ∧
      ∃ t past, r.journal.history = (t, .entered .terminated) :: past ∧
        ∃ tick, Cause script (generation past) tick e) ∧
    (r.result? = some (.ok ()) → Generation.shutdownBy shutdown r.journal.now = true) := by
  have founded := founded_of_possible positive running h
  have returns (result : TickResult) (hresult : r.result? = some result) :
      Returns script shutdown r.journal result := by
    refine founded.ended result ?_
    rcases r with ⟨j, stage⟩
    cases stage <;> simp_all [result?]
  refine ⟨?_, ?_, fun e => returns (.error e), returns (.ok ())⟩
  · intro script' alike
    obtain ⟨r', possible, houtline⟩ := h.alike alike
    have hjournal : r.journal.outline = r'.journal.outline := congrArg Run.journal houtline
    refine ⟨r', possible, ?_, ?_, ?_, ?_, ?_⟩
    · simpa using congrArg Journal.now hjournal.symm
    · simpa using congrArg Journal.state hjournal.symm
    · simpa using congrArg Journal.recoveries hjournal.symm
    · rw [← result?_outline r', ← houtline, result?_outline]
    · rw [← changes_outline r', ← houtline, changes_outline]
  · intro later t past hsplit
    have hrecovers := founded.recovers
    rw [hsplit] at hrecovers
    obtain ⟨error, attempt, t', past', hpast, hrefused⟩ := hrecovers.at
    exact ⟨error, attempt, t', past', hpast, hrefused⟩

/-- Cycles that fail for passing reasons might as well go well. -/
theorem alike_stumbling :
    Script.stumbling.Alike { Script.stumbling with run := Script.quiet.run } where
  isRunning := rfl
  accessToken := rfl
  configure := rfl
  delay mode n := by
    simp only [Script.stumbling]
    split <;> rfl
  ending mode n := by
    simp only [Script.stumbling]
    split
    · exact .inr ⟨rfl, rfl⟩
    · exact .inl rfl

/-- A run in which a cycle and the handover of a token fail for passing reasons recovers
from the latter and goes on until it is shut down.  It takes no other course if the cycle
goes well. -/
theorem faults_of_stumbling_run :
    ∃ r r', Possible (.paced 1000 3 5) .stumbling (some 12) r ∧
      Possible (.paced 1000 3 5) { Script.stumbling with run := Script.quiet.run } (some 12) r' ∧
      0 < r.journal.begun (.run .execute) ∧
      r'.changes = r.changes ∧ r'.result? = some (.ok ()) ∧ r.journal.recoveries = 1 ∧
      (∃ later t t' notice past error, r.journal.history =
          later ++ (t, .entered .recovering) :: (t', .reported notice) :: past ∧
        Refused .stumbling (generation past) error) ∧
      Generation.shutdownBy (some 12) r.journal.now = true := by
  let r := upTo (.paced 1000 3 5) .stumbling (some 12) 12
  have possible : Possible (.paced 1000 3 5) .stumbling (some 12) r := (possible_upTo 12).1
  have returned : r.result? = some (.ok ()) := by decide +kernel
  have recovered : SchedulerState.recovering ∈ entered r.journal.history := by decide +kernel
  have positive : ∀ tick, (Scheduler.paced 1000 3 5).settings.interval tick ≠ 0 :=
    Scheduler.interval_paced_ne_zero (by decide) (by decide) (by decide)
  obtain ⟨alike, recovers, -, quits⟩ := faults_of_run positive rfl possible
  obtain ⟨r', possible', -, -, -, hresult, hchanges⟩ := alike _ alike_stumbling
  obtain ⟨later, t, e, past, split, he⟩ := exists_split recovered
  obtain rfl := Event.entered?_eq_some.mp he
  obtain ⟨error, attempt, t', past', rfl, refused⟩ := recovers _ _ _ split
  exact ⟨r, r', possible, possible', by decide +kernel, hchanges, hresult.trans returned,
    by decide +kernel, ⟨later, t, t', _, past', error, split, refused⟩, quits returned⟩

end Run

end Interchain
