import Interchain.Scheduler.Run

/-!
# What is done only adds to the journal

All that invocations, ticks and the supervisor do between two changes of state adds
events to a journal, all at the present instant, and leaves the rest of it as it
is.  The events themselves are neither changes of state nor, once a tick has fired,
the firing of another.  What invocations add is narrower still: calls that begin and
end, with reports (`Event.isWork`), and where no call begins only the latter
(`Event.isEnding`).
-/

namespace Interchain

namespace Event

/-- Neither a change of state nor the firing of a tick. -/
def isPlain : Event → Bool
  | .entered _ | .fired _ => false
  | _ => true

/-- A call that begins or ends, or a report. -/
def isWork : Event → Bool
  | .began _ _ _ | .finished _ _ _ | .reported _ => true
  | _ => false

/-- A call that ends, or a report. -/
def isEnding : Event → Bool
  | .finished _ _ _ | .reported _ => true
  | _ => false

/-- The beginning of a cycle. -/
def isCycle : Event → Bool
  | .began (.run _) _ _ => true
  | _ => false

theorem isPlain_of_isWork {e : Event} (h : e.isWork = true) : e.isPlain = true := by
  cases e <;> simp_all [isWork, isPlain]

theorem isWork_of_isEnding {e : Event} (h : e.isEnding = true) : e.isWork = true := by
  cases e <;> simp_all [isWork, isEnding]

theorem isWork_of_isCycle {e : Event} (h : e.isCycle = true) : e.isWork = true := by
  cases e <;> simp_all [isWork, isCycle]

theorem isPlain_of_isEnding {e : Event} (h : e.isEnding = true) : e.isPlain = true :=
  isPlain_of_isWork (isWork_of_isEnding h)

theorem isPlain_of_isCycle {e : Event} (h : e.isCycle = true) : e.isPlain = true :=
  isPlain_of_isWork (isWork_of_isCycle h)

end Event

namespace Journal

/-- Every call that was made has been counted. -/
def Numbered (j : Journal) : Prop :=
  ∀ t call n state, (t, .began call n state) ∈ j.history → n < j.begun call.line

/-- A journal after events of some kind were added at the same instant. -/
structure Adds (kind : Event → Bool) (j j' : Journal) : Prop where
  now : j'.now = j.now
  state : j'.state = j.state
  recoveries : j'.recoveries = j.recoveries
  begun : ∀ line, j.begun line ≤ j'.begun line
  numbered : j.Numbered → j'.Numbered
  history : ∃ new, j'.history = new ++ j.history ∧
    ∀ e ∈ new, e.1 = j.now ∧ kind e.2 = true

/-- A journal after more was done at the same instant, in the same state. -/
structure Grows (j j' : Journal) : Prop where
  now : j'.now = j.now
  state : j'.state = j.state
  recoveries : j'.recoveries = j.recoveries
  history : ∃ new, j'.history = new ++ j.history ∧
    ∀ e ∈ new, e.1 = j.now ∧ e.2.isPlain = true

variable {ε α : Type} {kind kind' : Event → Bool} {j j' j'' : Journal}

theorem Adds.refl (j : Journal) : j.Adds kind j := by
  refine ⟨rfl, rfl, rfl, fun _ => Nat.le_refl _, id, [], rfl, ?_⟩
  intro e he
  cases he

theorem Adds.trans (h : j.Adds kind j') (h' : j'.Adds kind j'') : j.Adds kind j'' := by
  obtain ⟨new, hnew, hkind⟩ := h.history
  obtain ⟨new', hnew', hkind'⟩ := h'.history
  refine ⟨h'.now.trans h.now, h'.state.trans h.state, h'.recoveries.trans h.recoveries,
    fun line => Nat.le_trans (h.begun line) (h'.begun line), h'.numbered ∘ h.numbered,
    new' ++ new, by rw [hnew', hnew, List.append_assoc], ?_⟩
  intro e he
  rcases List.mem_append.mp he with he | he
  · exact h.now ▸ hkind' e he
  · exact hkind e he

theorem Adds.mono (h : j.Adds kind j') (hkind : ∀ {e : Event}, kind e = true → kind' e = true) :
    j.Adds kind' j' := by
  obtain ⟨new, hnew, hnewKind⟩ := h.history
  refine ⟨h.now, h.state, h.recoveries, h.begun, h.numbered, new, hnew, ?_⟩
  intro e he
  exact (hnewKind e he).imp_right hkind

/-- What is added may be anything but the beginning of a call. -/
theorem adds_record {e : Event} (he : kind e = true)
    (hbegan : ∀ call n state, e ≠ .began call n state) : j.Adds kind (j.record e) := by
  refine ⟨rfl, rfl, rfl, fun _ => Nat.le_refl _, ?_, [(j.now, e)], rfl, ?_⟩
  · intro hnumbered t call n state hmem
    rcases List.mem_cons.mp hmem with heq | hmem
    · exact absurd (Prod.mk.inj heq).2.symm (hbegan call n state)
    · exact hnumbered t call n state hmem
  · intro d hd
    rw [List.mem_singleton.mp hd]
    exact ⟨rfl, he⟩

theorem adds_fired (tick : TickKind) (h : kind (.fired tick) = true) :
    j.Adds kind (j.record (.fired tick)) :=
  adds_record h nofun

/-- Many steps that each add to the journal. -/
theorem adds_foldl {β : Type} {f : Journal → β → Journal}
    (hf : ∀ (j : Journal) b, j.Adds kind (f j b)) (l : List β) (j : Journal) :
    j.Adds kind (l.foldl f j) := by
  induction l generalizing j with
  | nil => exact .refl j
  | cons b rest ih => exact (hf j b).trans (ih _)

theorem adds_report (n : Notice) : j.Adds Event.isEnding (j.report n) :=
  adds_record rfl nofun

theorem adds_finish (p : Pending ε α) (how : Ended) : j.Adds Event.isEnding (j.finish p how) :=
  adds_record rfl nofun

/-- The only thing that the beginning of a call adds to a journal is that. -/
theorem adds_begin (call : Call) (answer : Nat → Answer ε α)
    (hkind : kind (.began call (j.begun call.line) j.state) = true) :
    j.Adds kind (j.begin call answer).2 := by
  have hbegun (line : Line) : (j.begin call answer).2.begun line =
      if line = call.line then j.begun call.line + 1 else j.begun line := rfl
  have hmono (line : Line) : j.begun line ≤ (j.begin call answer).2.begun line := by
    rw [hbegun]
    split
    · rename_i hline
      rw [hline]
      exact Nat.le_succ _
    · exact Nat.le_refl _
  refine ⟨rfl, rfl, rfl, hmono, ?_, [(j.now, .began call (j.begun call.line) j.state)], rfl, ?_⟩
  · intro hnumbered t call' n state hmem
    rcases List.mem_cons.mp hmem with heq | hmem
    · obtain ⟨rfl, rfl, -⟩ := Event.began.inj (Prod.mk.inj heq).2
      rw [hbegun, if_pos rfl]
      exact Nat.lt_succ_self _
    · exact Nat.lt_of_lt_of_le (hnumbered t call' n state hmem) (hmono _)
  · intro e he
    rw [List.mem_singleton.mp he]
    exact ⟨rfl, hkind⟩

theorem Adds.grows (h : j.Adds Event.isPlain j') : j.Grows j' :=
  ⟨h.now, h.state, h.recoveries, h.history⟩

theorem Grows.refl (j : Journal) : j.Grows j :=
  (Adds.refl j).grows

theorem Grows.trans (h : j.Grows j') (h' : j'.Grows j'') : j.Grows j'' := by
  obtain ⟨new, hnew, hplain⟩ := h.history
  obtain ⟨new', hnew', hplain'⟩ := h'.history
  refine ⟨h'.now.trans h.now, h'.state.trans h.state, h'.recoveries.trans h.recoveries,
    new' ++ new, by rw [hnew', hnew, List.append_assoc], ?_⟩
  intro e he
  rcases List.mem_append.mp he with he | he
  · exact h.now ▸ hplain' e he
  · exact hplain e he

theorem grows_record {e : Event} (he : e.isPlain = true) : j.Grows (j.record e) := by
  refine ⟨rfl, rfl, rfl, [(j.now, e)], rfl, ?_⟩
  intro d hd
  rw [List.mem_singleton.mp hd]
  exact ⟨rfl, he⟩

theorem grows_report (n : Notice) : j.Grows (j.report n) :=
  grows_record rfl

theorem grows_finish (p : Pending ε α) (how : Ended) : j.Grows (j.finish p how) :=
  grows_record rfl

theorem grows_begin (call : Call) (answer : Nat → Answer ε α) : j.Grows (j.begin call answer).2 :=
  (adds_begin call answer rfl).grows

/-- Many steps that each add to the journal. -/
theorem grows_foldl {β : Type} {f : Journal → β → Journal}
    (hf : ∀ (j : Journal) b, j.Grows (f j b)) (l : List β) (j : Journal) :
    j.Grows (l.foldl f j) := by
  induction l generalizing j with
  | nil => exact .refl j
  | cons b rest ih => exact (hf j b).trans (ih _)

/-- What was done before has been done still. -/
theorem Grows.mem (h : j.Grows j') {e : Nat × Event} (he : e ∈ j.history) : e ∈ j'.history := by
  obtain ⟨new, hnew, -⟩ := h.history
  exact hnew ▸ List.mem_append_right _ he

end Journal

open Journal

namespace FetchCall

theorem adds_finish (c : FetchCall) (j : Journal) : j.Adds Event.isEnding (c.finish j) := by
  unfold finish
  split
  · exact (Journal.adds_finish _ _).trans (adds_report _)
  · exact Journal.adds_finish _ _

theorem grows_finish (c : FetchCall) (j : Journal) : j.Grows (c.finish j) :=
  ((adds_finish c j).mono Event.isPlain_of_isEnding).grows

theorem adds_beginAll (script : Script) (targets : List (ChainName × WorkerId)) (j : Journal) :
    j.Adds Event.isCycle (beginAll script targets j).2 := by
  induction targets generalizing j with
  | nil => exact .refl j
  | cons t rest ih =>
    let mode := RunningMode.fetch t.1 t.2
    exact (adds_begin (.run mode) (script.run mode) rfl).trans (ih _)

theorem grows_beginAll (script : Script) (targets : List (ChainName × WorkerId)) (j : Journal) :
    j.Grows (beginAll script targets j).2 :=
  ((adds_beginAll script targets j).mono Event.isPlain_of_isCycle).grows

end FetchCall

namespace Invocation

theorem works_start (s : Scheduler) (script : Script) (tick : TickKind) (j : Journal) :
    (j.record (.fired tick)).Adds Event.isWork (start s script tick j).2 := by
  cases tick with
  | fetch => exact (FetchCall.adds_beginAll _ _ _).mono Event.isWork_of_isCycle
  | execute => exact adds_begin _ (script.run .execute) rfl
  | credentialRefresh => exact adds_begin _ script.accessToken rfl

theorem grows_start (s : Scheduler) (script : Script) (tick : TickKind) (j : Journal) :
    (j.record (.fired tick)).Grows (start s script tick j).2 :=
  ((works_start s script tick j).mono Event.isPlain_of_isWork).grows

theorem adds_endExecute (p : Pending ExecutorError RunOutcome) (j : Journal) :
    j.Adds Event.isEnding (endExecute p j).2 := by
  unfold endExecute
  split
  · exact (adds_finish _ _).trans (adds_report _)
  · exact (adds_finish _ _).trans (adds_report _)
  · exact adds_finish _ _
  · exact adds_finish _ _

theorem adds_endConfigure (p : Pending ExecutorError Unit) (j : Journal) :
    j.Adds Event.isEnding (endConfigure p j).2 := by
  unfold endConfigure
  split
  · exact (adds_finish _ _).trans (adds_report _)
  · exact adds_finish _ _
  · exact adds_finish _ _

theorem works_endToken (script : Script) (p : Pending CredentialError String) (j : Journal) :
    j.Adds Event.isWork (endToken script p j).2 := by
  have hfinish (how : Ended) : j.Adds Event.isWork (j.finish p how) :=
    (adds_finish p how).mono Event.isWork_of_isEnding
  unfold endToken
  split
  · exact (hfinish _).trans (adds_begin _ script.configure rfl)
  · exact hfinish _
  · exact hfinish _

theorem works_settle? {script : Script} {n : Nat} {i : Invocation} {j : Journal}
    {r : Invocation × Journal} (h : i.settle? script n j = some r) :
    j.Adds Event.isWork r.2 := by
  rcases settle?_cases h with ⟨calls, fatal, c, -, -, -, rfl⟩ | ⟨p, -, -, -, rfl⟩ |
    ⟨p, -, -, -, rfl⟩ | ⟨p, -, -, -, rfl⟩
  · exact (FetchCall.adds_finish c j).mono Event.isWork_of_isEnding
  · exact (adds_endExecute p j).mono Event.isWork_of_isEnding
  · exact works_endToken script p j
  · exact (adds_endConfigure p j).mono Event.isWork_of_isEnding

theorem grows_settle? {script : Script} {n : Nat} {i : Invocation} {j : Journal}
    {r : Invocation × Journal} (h : i.settle? script n j = some r) : j.Grows r.2 :=
  ((works_settle? h).mono Event.isPlain_of_isWork).grows

theorem adds_abort (i : Invocation) (j : Journal) : j.Adds Event.isEnding (i.abort j) := by
  cases i with
  | fetching calls fatal => exact adds_foldl (fun j c => adds_finish _ _) calls j
  | executing p => exact adds_finish _ _
  | requesting p => exact adds_finish _ _
  | configuring p => exact adds_finish _ _
  | settled tick result => exact .refl j

/-- Cutting off several invocations. -/
theorem adds_abortAll (is : List Invocation) (j : Journal) :
    j.Adds Event.isEnding (is.foldl (fun j i => i.abort j) j) :=
  adds_foldl (fun j i => adds_abort i j) is j

theorem grows_abort (i : Invocation) (j : Journal) : j.Grows (i.abort j) :=
  ((adds_abort i j).mono Event.isPlain_of_isEnding).grows

end Invocation

namespace Generation

/-- A tick that learns an outcome can only add to the errors that wait. -/
theorem deliver_eq (tick : TickKind) (result : TickResult) (g : Generation) (j : Journal) :
    ∃ faults, (deliver tick result g j).1 = { g with faults } := by
  unfold deliver
  split
  · exact ⟨g.faults, rfl⟩
  · split
    · exact ⟨g.faults, rfl⟩
    · exact ⟨_, rfl⟩

/-- A tick that learns an outcome reports an error or hands it over. -/
theorem adds_deliver {kind : Event → Bool} (tick : TickKind) (result : TickResult) (g : Generation)
    (j : Journal) (hreported : ∀ n, kind (.reported n) = true)
    (hfaulted : ∀ e, kind (.faulted tick e) = true) :
    j.Adds kind (deliver tick result g j).2 := by
  unfold deliver
  split
  · exact .refl j
  · split
    · exact adds_record (hreported _) nofun
    · exact adds_record (hfaulted _) nofun

theorem grows_deliver (tick : TickKind) (result : TickResult) (g : Generation) (j : Journal) :
    j.Grows (deliver tick result g j).2 :=
  (adds_deliver tick result g j (fun _ => rfl) fun _ => rfl).grows

end Generation

end Interchain
