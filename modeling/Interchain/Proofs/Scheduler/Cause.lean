import Interchain.Proofs.Scheduler.Course

/-!
# Where errors come from

An error that reaches the supervisor is the outcome of an invocation, and that is
the outcome of a call that the invocation made after the ticks were last started.
The journal has all of this: that the tick fired, that the call began and how it
ended (`Cause`).  An invocation under way carries the same facts about the calls
that it waits for (`Invocation.Rooted`), and going on with it keeps them.
-/

namespace Interchain

open Journal

/-- What was done since the last change of state. -/
def Journal.generation (history : List (Nat × Event)) : List (Nat × Event) :=
  history.takeWhile fun e => e.2.entered?.isNone

/-- Whether it is with this call that a tick begins its work. -/
def TickKind.Opens : TickKind → Call → Prop
  | .fetch, .run (.fetch _ _) => True
  | .execute, .run .execute => True
  | .credentialRefresh, .accessToken => True
  | _, _ => False

section

variable (script : Script) (done : List (Nat × Event))

/-- An invocation of a tick made a call: the tick fired and began its work with the
call, or the call hands over the token that an earlier one of the invocation
returned. -/
inductive Made : TickKind → Call → Nat → Prop
  | opening {tick call n t state} (opens : tick.Opens call) (fired : (t, .fired tick) ∈ done)
      (began : (t, .began call n state) ∈ done) : Made tick call n
  | configure {token k n t state} (asked : Made .credentialRefresh .accessToken k)
      (answered : (script.accessToken k).ending = .returned token)
      (received : (t, .finished .accessToken k .ok) ∈ done)
      (began : (t, .began (.configure token) n state) ∈ done) :
      Made .credentialRefresh (.configure token) n

/-- An invocation of a tick made a call that ended as noted. -/
def Finished (tick : TickKind) (call : Call) (n : Nat) (how : Ended) : Prop :=
  Made script done tick call n ∧ ∃ t, (t, .finished call n how) ∈ done

/-- How an invocation of a tick comes to fail: one of its calls failed or broke
down. -/
inductive Cause : TickKind → SchedulerError → Prop
  | cycle {tick mode n e} (ended : Finished script done tick (.run mode) n .fault)
      (failed : (script.run mode n).ending = .failed e) : Cause tick (.executor e)
  | cyclePanic {tick mode n m} (ended : Finished script done tick (.run mode) n .panic)
      (panicked : (script.run mode n).ending = .panicked m) :
      Cause tick (.tickPanicked tick (Ending.panicMessage m))
  | token {n e} (ended : Finished script done .credentialRefresh .accessToken n .err)
      (failed : (script.accessToken n).ending = .failed e) :
      Cause .credentialRefresh (.credential e)
  | tokenPanic {n m} (ended : Finished script done .credentialRefresh .accessToken n .panic)
      (panicked : (script.accessToken n).ending = .panicked m) :
      Cause .credentialRefresh (.tickPanicked .credentialRefresh (Ending.panicMessage m))
  | configure {token n e}
      (ended : Finished script done .credentialRefresh (.configure token) n .fault)
      (failed : (script.configure n).ending = .failed e) :
      Cause .credentialRefresh (.executor e)
  | configurePanic {token n m}
      (ended : Finished script done .credentialRefresh (.configure token) n .panic)
      (panicked : (script.configure n).ending = .panicked m) :
      Cause .credentialRefresh (.tickPanicked .credentialRefresh (Ending.panicMessage m))

/-- An error that a tick hands to the supervisor: one that it has come to and does
not absorb. -/
def Delivered (e : SchedulerError) : Prop :=
  ∃ tick, Cause script done tick e ∧ (e.isTransient = true → tick.swallowsTransient = false)

/-- A call to look for tasks was made, and ends as the script says. -/
def FetchCall.Rooted (c : FetchCall) : Prop :=
  c.pending.call = .run (.fetch c.chain c.worker) ∧
    Made script done .fetch (.run (.fetch c.chain c.worker)) c.pending.index ∧
    c.pending.ending = (script.run (.fetch c.chain c.worker) c.pending.index).ending

/-- The calls that an invocation waits for were made and end as the script says; the
error that it has come to has a cause. -/
def Invocation.Rooted : Invocation → Prop
  | .fetching calls fatal =>
    (∀ c ∈ calls, c.Rooted script done) ∧ ∀ e, fatal = some e → Cause script done .fetch e
  | .executing p =>
    p.call = .run .execute ∧ Made script done .execute (.run .execute) p.index ∧
      p.ending = (script.run .execute p.index).ending
  | .requesting p =>
    p.call = .accessToken ∧ Made script done .credentialRefresh .accessToken p.index ∧
      p.ending = (script.accessToken p.index).ending
  | .configuring p =>
    (∃ token, p.call = .configure token ∧
      Made script done .credentialRefresh (.configure token) p.index) ∧
      p.ending = (script.configure p.index).ending
  | .settled tick result => ∀ e, result = .error e → Cause script done tick e

end

variable {script : Script} {done done' : List (Nat × Event)} {tick : TickKind} {call : Call}
variable {n : Nat} {how : Ended} {e : SchedulerError} {j j' : Journal}

/-! ## What was done stays done -/

theorem Made.mono (h : Made script done tick call n) (hdone : done ⊆ done') :
    Made script done' tick call n := by
  induction h with
  | opening opens fired began => exact .opening opens (hdone fired) (hdone began)
  | configure _ answered received began ih =>
    exact .configure ih answered (hdone received) (hdone began)

theorem Finished.mono (h : Finished script done tick call n how) (hdone : done ⊆ done') :
    Finished script done' tick call n how :=
  ⟨h.1.mono hdone, h.2.imp fun _ ht => hdone ht⟩

theorem Cause.mono (h : Cause script done tick e) (hdone : done ⊆ done') :
    Cause script done' tick e := by
  cases h with
  | cycle ended failed => exact .cycle (ended.mono hdone) failed
  | cyclePanic ended panicked => exact .cyclePanic (ended.mono hdone) panicked
  | token ended failed => exact .token (ended.mono hdone) failed
  | tokenPanic ended panicked => exact .tokenPanic (ended.mono hdone) panicked
  | configure ended failed => exact .configure (ended.mono hdone) failed
  | configurePanic ended panicked => exact .configurePanic (ended.mono hdone) panicked

theorem Delivered.mono (h : Delivered script done e) (hdone : done ⊆ done') :
    Delivered script done' e :=
  h.imp fun _ h => ⟨h.1.mono hdone, h.2⟩

theorem FetchCall.Rooted.mono {c : FetchCall} (h : c.Rooted script done) (hdone : done ⊆ done') :
    c.Rooted script done' :=
  ⟨h.1, h.2.1.mono hdone, h.2.2⟩

theorem Invocation.Rooted.mono {i : Invocation} (h : i.Rooted script done)
    (hdone : done ⊆ done') : i.Rooted script done' := by
  cases i with
  | fetching calls fatal =>
    constructor
    · intro c hc
      exact (h.1 c hc).mono hdone
    · intro e he
      exact (h.2 e he).mono hdone
  | executing p => exact ⟨h.1, h.2.1.mono hdone, h.2.2⟩
  | requesting p => exact ⟨h.1, h.2.1.mono hdone, h.2.2⟩
  | configuring p =>
    obtain ⟨⟨token, hcall, hmade⟩, hending⟩ := h
    exact ⟨⟨token, hcall, hmade.mono hdone⟩, hending⟩
  | settled tick result =>
    intro e he
    exact (h e he).mono hdone

theorem Journal.generation_append {new past : List (Nat × Event)}
    (h : ∀ e ∈ new, e.2.entered? = none) : generation (new ++ past) = new ++ generation past := by
  apply List.takeWhile_append_of_pos
  intro e he
  simp [h e he]

theorem Event.entered?_of_isPlain {e : Event} (h : e.isPlain = true) : e.entered? = none := by
  cases e <;> simp_all [Event.isPlain, Event.entered?]

theorem Journal.Grows.generation_eq (h : j.Grows j') :
    ∃ new, generation j'.history = new ++ generation j.history := by
  obtain ⟨new, hnew, hplain⟩ := h.history
  refine ⟨new, ?_⟩
  rw [hnew, generation_append]
  intro e he
  exact Event.entered?_of_isPlain (hplain e he).2

theorem Journal.Grows.generation_subset (h : j.Grows j') :
    generation j.history ⊆ generation j'.history := by
  obtain ⟨new, hnew⟩ := h.generation_eq
  rw [hnew]
  exact List.subset_append_right _ _

theorem Journal.mem_generation_record {e : Event} (h : e.entered? = none) :
    (j.now, e) ∈ generation (j.record e).history := by
  rw [history_record, ← List.singleton_append, generation_append]
  · exact List.mem_cons_self
  · simpa using h

theorem Journal.generation_record_subset {e : Event} (h : e.entered? = none) :
    generation j.history ⊆ generation (j.record e).history := by
  rw [history_record, ← List.singleton_append, generation_append]
  · exact List.subset_append_right _ _
  · simpa using h

/-! ## Invocations go on from what was done -/

/-- The event of a call that was just begun. -/
theorem Journal.mem_generation_begin {ε α : Type} (call : Call) (answer : Nat → Answer ε α) :
    (j.now, .began call (j.begun call.line) j.state) ∈
      generation (j.begin call answer).2.history := by
  simp [generation, begin, Event.entered?]

/-- The event of a call that has just ended. -/
theorem Journal.mem_generation_finish {ε α : Type} (p : Pending ε α) (how : Ended) :
    (j.now, .finished p.call p.index how) ∈ generation (j.finish p how).history :=
  mem_generation_record rfl

namespace FetchCall

theorem rooted_beginAll (targets : List (ChainName × WorkerId)) (j : Journal)
    (hfired : (j.now, .fired .fetch) ∈ generation j.history) :
    ∀ c ∈ (beginAll script targets j).1,
      c.Rooted script (generation (beginAll script targets j).2.history) := by
  induction targets generalizing j with
  | nil => simp [beginAll]
  | cons target rest ih =>
    let mode := RunningMode.fetch target.1 target.2
    have hbegin : j.Grows (j.begin (.run mode) (script.run mode)).2 := grows_begin _ _
    have hrest := grows_beginAll script rest (j.begin (.run mode) (script.run mode)).2
    intro c hc
    rcases List.mem_cons.mp hc with rfl | hc
    · refine Rooted.mono ⟨rfl, ?_, rfl⟩ hrest.generation_subset
      exact .opening trivial (hbegin.generation_subset hfired) (mem_generation_begin _ _)
    · exact ih _ (hbegin.generation_subset hfired) c hc

/-- The error that a call to look for tasks ends with has a cause. -/
theorem Rooted.cause {c : FetchCall} (h : c.Rooted script (generation j.history))
    (he : c.pending.ending.fatal? = some e) :
    Cause script (generation (c.finish j).history) .fetch e := by
  obtain ⟨hcall, hmade, hending⟩ := h
  have hfinish := Journal.grows_finish (j := j) c.pending c.pending.ending.cycleKind
  have hmore : (j.finish c.pending c.pending.ending.cycleKind).Grows (c.finish j) := by
    unfold finish
    split
    · exact grows_report _
    · exact .refl _
  have hended := mem_generation_finish (j := j) c.pending c.pending.ending.cycleKind
  rw [hcall] at hended
  have hfinished : Finished script (generation (c.finish j).history) .fetch
      (.run (.fetch c.chain c.worker)) c.pending.index c.pending.ending.cycleKind :=
    ⟨hmade.mono (hfinish.trans hmore).generation_subset, _, hmore.generation_subset hended⟩
  cases hkind : c.pending.ending with
  | returned outcome => simp [hkind, Ending.fatal?] at he
  | failed error =>
    rw [hkind] at he hending hfinished
    simp only [Ending.fatal?, Option.ite_none_left_eq_some, Option.some.injEq] at he
    obtain ⟨-, rfl⟩ := he
    exact .cycle hfinished hending.symm
  | panicked message =>
    rw [hkind] at he hending hfinished
    obtain rfl : _ = e := Option.some.inj he
    exact .cyclePanic hfinished hending.symm

end FetchCall

namespace Invocation

theorem rooted_fetched {calls : List FetchCall} {fatal : Option SchedulerError}
    (h : (fetching calls fatal).Rooted script done) : (fetched calls fatal).Rooted script done := by
  unfold fetched
  split
  · intro e he
    refine h.2 e ?_
    cases fatal with
    | none => simp [result] at he
    | some e' => simpa [result] using he
  · exact h

/-- An invocation begins with its tick firing. -/
theorem rooted_start (s : Scheduler) (script : Script) (tick : TickKind) (j : Journal) :
    (start s script tick j).1.Rooted script
      (generation (start s script tick j).2.history) := by
  have hfired : (j.now, .fired tick) ∈ generation (j.record (.fired tick)).history :=
    mem_generation_record rfl
  cases tick with
  | fetch =>
    refine rooted_fetched ⟨FetchCall.rooted_beginAll _ (j.record (.fired .fetch)) hfired, ?_⟩
    simp
  | execute =>
    have hbegin := grows_begin (j := j.record (.fired .execute)) (.run .execute)
      (script.run .execute)
    exact ⟨rfl, .opening trivial (hbegin.generation_subset hfired)
      (mem_generation_begin _ (script.run .execute)), rfl⟩
  | credentialRefresh =>
    have hbegin := grows_begin (j := j.record (.fired .credentialRefresh)) .accessToken
      script.accessToken
    exact ⟨rfl, .opening trivial (hbegin.generation_subset hfired)
      (mem_generation_begin _ script.accessToken), rfl⟩

theorem rooted_endExecute {p : Pending ExecutorError RunOutcome}
    (h : (executing p).Rooted script (generation j.history)) :
    (endExecute p j).1.Rooted script (generation (endExecute p j).2.history) := by
  obtain ⟨hcall, hmade, hending⟩ := h
  have hmade := hmade.mono (grows_finish (j := j) p p.ending.cycleKind).generation_subset
  have hended := mem_generation_finish (j := j) p p.ending.cycleKind
  rw [hcall] at hended
  unfold endExecute
  split
  · intro e he
    cases he
  · intro e he
    cases he
  · rename_i error hkind
    rw [hkind] at hending hended hmade
    rintro _ ⟨⟩
    rw [hkind]
    exact .cycle ⟨hmade, _, hended⟩ hending.symm
  · rename_i message hkind
    rw [hkind] at hending hended hmade
    rintro _ ⟨⟩
    rw [hkind]
    exact .cyclePanic ⟨hmade, _, hended⟩ hending.symm

theorem rooted_endConfigure {p : Pending ExecutorError Unit}
    (h : (configuring p).Rooted script (generation j.history)) :
    (endConfigure p j).1.Rooted script (generation (endConfigure p j).2.history) := by
  obtain ⟨⟨token, hcall, hmade⟩, hending⟩ := h
  have hmade := hmade.mono (grows_finish (j := j) p p.ending.kind).generation_subset
  have hended := mem_generation_finish (j := j) p p.ending.kind
  rw [hcall] at hended
  unfold endConfigure
  split
  · intro e he
    cases he
  · rename_i error hkind
    rw [hkind] at hending hended hmade
    rintro _ ⟨⟩
    rw [hkind]
    exact .configure ⟨hmade, _, hended⟩ hending.symm
  · rename_i message hkind
    rw [hkind] at hending hended hmade
    rintro _ ⟨⟩
    rw [hkind]
    exact .configurePanic ⟨hmade, _, hended⟩ hending.symm

theorem rooted_endToken {p : Pending CredentialError String}
    (h : (requesting p).Rooted script (generation j.history)) :
    (endToken script p j).1.Rooted script (generation (endToken script p j).2.history) := by
  obtain ⟨hcall, hmade, hending⟩ := h
  have hmade := hmade.mono (grows_finish (j := j) p p.ending.tokenKind).generation_subset
  have hended := mem_generation_finish (j := j) p p.ending.tokenKind
  rw [hcall] at hended
  unfold endToken
  split
  · rename_i token hkind
    have hbegin := grows_begin (j := j.finish p p.ending.tokenKind) (.configure token)
      script.configure
    have hreceived := hbegin.generation_subset hended
    rw [hkind] at hreceived hending
    refine ⟨⟨token, rfl, .configure (hmade.mono hbegin.generation_subset) hending.symm ?_
      (mem_generation_begin _ script.configure)⟩, rfl⟩
    rw [hkind]
    exact hreceived
  · rename_i error hkind
    rw [hkind] at hending hended hmade
    rintro _ ⟨⟩
    rw [hkind]
    exact .token ⟨hmade, _, hended⟩ hending.symm
  · rename_i message hkind
    rw [hkind] at hending hended hmade
    rintro _ ⟨⟩
    rw [hkind]
    exact .tokenPanic ⟨hmade, _, hended⟩ hending.symm

/-- Going on with an invocation keeps what is known of its calls, and gives its error
a cause when it comes to one. -/
theorem Rooted.settle? {i : Invocation} {r : Invocation × Journal}
    (h : i.Rooted script (generation j.history)) (hr : i.settle? script n j = some r) :
    r.1.Rooted script (generation r.2.history) := by
  rcases settle?_cases hr with ⟨calls, fatal, c, rfl, hc, -, rfl⟩ | ⟨p, rfl, -, -, rfl⟩ |
    ⟨p, rfl, -, -, rfl⟩ | ⟨p, rfl, -, -, rfl⟩
  · have hmore := (FetchCall.grows_finish c j).generation_subset
    apply rooted_fetched
    constructor
    · intro d hd
      exact (h.1 d (List.mem_of_mem_eraseIdx hd)).mono hmore
    · intro e he
      rcases Option.or_eq_some_iff.mp he with he | ⟨-, he⟩
      · exact (h.2 e he).mono hmore
      · exact (h.1 c (List.mem_of_getElem? hc)).cause he
  · exact rooted_endExecute h
  · exact rooted_endToken h
  · exact rooted_endConfigure h

end Invocation

end Interchain
