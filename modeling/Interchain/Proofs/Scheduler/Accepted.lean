import Interchain.Credentials
import Interchain.Proofs.Scheduler.Fetching
import Interchain.Proofs.Scheduler.StartUp
import Interchain.Proofs.Scheduler.Verdict
import Interchain.Proofs.Text.Blank

/-!
# Settings that were accepted

The validation of settings, the reading of the token command and the ticks each rely on
conditions of their own, and only the first checks all of them.  What it accepts is enough for
the others: no tick dies for want of a period, so that the supervisor waits until an error is
handed over or shutdown is requested; looking for tasks makes a call; and the token command
has a word.
-/

namespace Interchain

/-! ## Validation -/

namespace TokenCommand

variable {line : String}

/-- A line is a command unless trimming leaves nothing of it. -/
theorem exists_ofLine_eq_ok_iff :
    (∃ command, ofLine line = .ok command) ↔ (Blank.trim line).isEmpty = false := by
  rw [← Bool.not_eq_true, Blank.isEmpty_trim_iff, ofLine]
  cases Blank.words line <;> simp

theorem ofLine_eq_emptyCommand_iff :
    ofLine line = .error .emptyCommand ↔ (Blank.trim line).isEmpty = true := by
  rw [Blank.isEmpty_trim_iff, ofLine]
  cases Blank.words line <;> simp

end TokenCommand

namespace SchedulerSettings

/-- There is something to do for each tick, from time to time. -/
structure Workable (s : SchedulerSettings) : Prop where
  periods : ∀ tick, s.interval tick ≠ 0
  chains : s.sourceChains ≠ []
  workers : s.workers ≠ []

variable {s : SchedulerSettings}

theorem find?_interval_eq_none_iff :
    (TickKind.all.find? fun tick => s.interval tick == 0) = none ↔
      ∀ tick, s.interval tick ≠ 0 := by
  rw [List.find?_eq_none]
  simp only [beq_iff_eq]
  constructor
  · intro h tick
    exact h tick (by cases tick <;> decide)
  · exact fun h tick _ => h tick

/-- The token command is looked at last. -/
theorem validate_of_workable (h : s.Workable) : s.validate =
    if (Blank.trim s.tokenCommand).isEmpty then .error .noTokenCommand else .ok () := by
  rw [validate, find?_interval_eq_none_iff.mpr h.periods]
  simp [h.chains, h.workers]

/-- Only settings that are workable come as far as that. -/
theorem workable_of_validate (h : s.validate = .ok () ∨ s.validate = .error .noTokenCommand) :
    s.Workable := by
  unfold validate at h
  split at h
  · rcases h with h | h <;> cases h
  · rename_i hperiods
    by_cases hchains : s.sourceChains = []
    · simp [hchains] at h
    · by_cases hworkers : s.workers = []
      · simp [hchains, hworkers] at h
      · exact ⟨find?_interval_eq_none_iff.mp hperiods, hchains, hworkers⟩

/-- Settings that are accepted, or rejected for their token command, are all those that are
workable, and the token command decides between the two. -/
theorem validate_eq_iff {verdict : Except SettingsFault Unit}
    (hverdict : verdict = .ok () ∨ verdict = .error .noTokenCommand) :
    s.validate = verdict ↔ s.Workable ∧
      (if (Blank.trim s.tokenCommand).isEmpty then .error .noTokenCommand else .ok ()) =
        verdict := by
  constructor
  · rintro rfl
    have workable := workable_of_validate hverdict
    exact ⟨workable, (validate_of_workable workable).symm⟩
  · rintro ⟨workable, rfl⟩
    exact validate_of_workable workable

theorem validate_eq_ok_iff : s.validate = .ok () ↔
    s.Workable ∧ ∃ command, TokenCommand.ofLine s.tokenCommand = .ok command := by
  rw [validate_eq_iff (.inl rfl), TokenCommand.exists_ofLine_eq_ok_iff]
  cases (Blank.trim s.tokenCommand).isEmpty <;> simp

theorem validate_eq_noTokenCommand_iff : s.validate = .error .noTokenCommand ↔
    s.Workable ∧ TokenCommand.ofLine s.tokenCommand = .error .emptyCommand := by
  rw [validate_eq_iff (.inr rfl), TokenCommand.ofLine_eq_emptyCommand_iff]
  cases (Blank.trim s.tokenCommand).isEmpty <;> simp

end SchedulerSettings

/-! ## Ticks stay alive -/

namespace Generation

variable {s : Scheduler} {script : Script} {shutdown : Option Nat}

theorem dead_eq_nil (positive : ∀ tick, s.settings.interval tick ≠ 0) : dead s = [] := by
  simp [dead, List.filter_eq_nil_iff, positive]

/-- No tick has ended, unless it was told to or shutdown was requested. -/
def Alive (shutdown : Option Nat) (g : Generation) (j : Journal) : Prop :=
  g.verdict = none → shutdownBy shutdown j.now = false → ∀ tick, tick ∈ g.live

theorem alive (positive : ∀ tick, s.settings.interval tick ≠ 0) (script : Script)
    (shutdown : Option Nat) : Invariant s script shutdown (Alive shutdown) where
  fresh j := by
    intro _ _ tick
    have hall : tick ∈ TickKind.all := by cases tick <;> decide
    exact List.mem_filter.mpr ⟨hall, by simpa using positive tick⟩
  fire h _ _ := by
    intro hverdict hgoing
    rw [(Invocation.works_start s script _ _).now] at hgoing
    exact h hverdict hgoing
  settle h _ goes := by
    intro hverdict hgoing
    rw [(Invocation.works_settle? goes).now] at hgoing
    exact h hverdict hgoing
  note {g j i tick result} h _ := by
    intro hverdict hgoing
    have hgrow := grows_deliver tick result { g with inflight := g.inflight.eraseIdx i } j
    obtain ⟨faults, heq⟩ := deliver_eq tick result { g with inflight := g.inflight.eraseIdx i } j
    rw [hgrow.now] at hgoing
    rw [heq] at hverdict ⊢
    exact h hverdict hgoing
  heed _ _ _ := nofun
  quit _ _ _ := nofun
  halt h _ told := by
    intro hverdict hgoing
    rw [(Invocation.adds_abortAll _ _).now] at hgoing
    rcases told with told | told
    · rw [Option.isSome_iff_ne_none] at told
      exact absurd hverdict told
    · rw [hgoing] at told
      cases told
  pass h rest := fun _ _ => h rest.verdict rest.going

end Generation

/-! ## Looking for tasks makes a call -/

namespace Journal

/-- Each time that tasks are to be looked for, a call for one of the chains and one of the
workers is the next thing that is done, at the same instant. -/
def Looks (settings : SchedulerSettings) (history : List (Nat × Event)) : Prop :=
  ∀ later t past, history = later ++ (t, .fired .fetch) :: past →
    ∃ chain ∈ settings.sourceChains, ∃ worker ∈ settings.workers, ∃ n state between,
      later = between ++ [(t, .began (.run (.fetch chain worker)) n state)]

variable {settings : SchedulerSettings} {past : List (Nat × Event)} {j j' : Journal}

/-- Something else is done. -/
theorem Looks.append (h : Looks settings past) (new : List (Nat × Event))
    (hnew : ∀ e ∈ new, e.2 ≠ .fired .fetch) : Looks settings (new ++ past) := by
  intro later t before hsplit
  rcases List.append_eq_append_iff.mp hsplit with ⟨rest, rfl, hold⟩ | ⟨rest, hrest, hold⟩
  · obtain ⟨chain, hchain, worker, hworker, n, state, between, rfl⟩ := h rest t before hold
    exact ⟨chain, hchain, worker, hworker, n, state, new ++ between, by simp⟩
  · cases rest with
    | nil =>
      obtain ⟨chain, hchain, worker, hworker, n, state, between, hnil⟩ := h [] t before hold.symm
      simp at hnil
    | cons e rest =>
      obtain ⟨rfl, -⟩ := List.cons.inj hold
      exact absurd rfl (hnew _ (hrest ▸ List.mem_append_right _ List.mem_cons_self))

theorem Looks.grow (h : Looks settings j.history) (hj : j.Grows j') :
    Looks settings j'.history := by
  obtain ⟨new, hnew, hplain⟩ := hj.history
  rw [hnew]
  refine h.append _ fun e he hfired => ?_
  have hfalse := (hplain e he).2
  rw [hfired] at hfalse
  cases hfalse

theorem Looks.enter (h : Looks settings j.history) (state : SchedulerState) :
    Looks settings (j.enter state).history :=
  Looks.append h [_] (by simp)

/-- Tasks are looked for, and the first call is made. -/
theorem Looks.begin {chain : ChainName} {worker : WorkerId} (h : Looks settings past)
    (hchain : chain ∈ settings.sourceChains) (hworker : worker ∈ settings.workers) (t n : Nat)
    (state : SchedulerState) :
    Looks settings
      ((t, .began (.run (.fetch chain worker)) n state) :: (t, .fired .fetch) :: past) := by
  intro later t' before hsplit
  match later with
  | [] => cases hsplit
  | [e] =>
    obtain ⟨rfl, hfired⟩ := List.cons.inj hsplit
    obtain ⟨⟩ := hfired
    exact ⟨chain, hchain, worker, hworker, n, state, [], rfl⟩
  | e :: d :: rest =>
    obtain ⟨rfl, hrest⟩ := List.cons.inj hsplit
    obtain ⟨rfl, hold⟩ := List.cons.inj hrest
    obtain ⟨chain', hchain', worker', hworker', n', state', between, rfl⟩ :=
      h rest t' before hold
    exact ⟨chain', hchain', worker', hworker', n', state', _ :: _ :: between, rfl⟩

theorem Looks.fire {s : Scheduler} (workable : s.settings.Workable)
    (h : Looks s.settings j.history) (script : Script) (tick : TickKind) :
    Looks s.settings (Invocation.start s script tick j).2.history := by
  by_cases hfetch : tick = .fetch
  · subst hfetch
    obtain ⟨calls, -, cover⟩ := FetchCall.cover_start s script j
    obtain ⟨chain, chains, hchains⟩ := List.exists_cons_of_ne_nil workable.chains
    obtain ⟨worker, workers, hworkers⟩ := List.exists_cons_of_ne_nil workable.workers
    obtain ⟨c, hc, hchain, hworker⟩ :=
      cover.placed 0 0 chain worker (by rw [hchains]; rfl) (by rw [hworkers]; rfl)
    rw [Nat.zero_mul, ← List.head?_eq_getElem?] at hc
    obtain ⟨rest, rfl⟩ := List.head?_eq_some_iff.mp hc
    have hmade := (cover.made c List.mem_cons_self).call
    rw [hchain, hworker] at hmade
    rw [cover.history, List.map_cons, List.reverse_cons, List.append_assoc,
      List.singleton_append, FetchCall.beginning, hmade]
    refine Looks.append ?_ _ ?_
    · exact h.begin (hchains ▸ List.mem_cons_self) (hworkers ▸ List.mem_cons_self) _ _ _
    · intro e he
      obtain ⟨d, -, rfl⟩ := List.mem_map.mp (List.mem_reverse.mp he)
      exact Event.noConfusion
  · have hfired : Looks s.settings (j.record (.fired tick)).history :=
      Looks.append h [_] (by simpa using hfetch)
    exact hfired.grow (Invocation.grows_start s script tick j)

end Journal

namespace Run

open Journal

variable {s : Scheduler} {script : Script} {shutdown : Option Nat} {r r' : Run} {m : Move}

theorem looks_check (p : Pending ExecutorError Bool) {j : Journal}
    (h : Looks s.settings j.history) : Looks s.settings (check s p j).journal.history := by
  have hfinish := h.grow (grows_finish p p.ending.kind)
  unfold check
  split
  · exact hfinish.grow (grows_report _)
  · exact (hfinish.grow (grows_report _)).enter _
  · exact (hfinish.grow (grows_report _)).enter _
  · exact hfinish

theorem looks_conclude (v : Verdict) {j : Journal} (h : Looks s.settings j.history) :
    Looks s.settings (conclude s v j).journal.history := by
  obtain ⟨reports, hhistory, -, hending⟩ := history_conclude s v j
  rw [hhistory, ← List.cons_append]
  refine h.append _ fun e he => ?_
  rcases List.mem_cons.mp he with rfl | he
  · exact Event.noConfusion
  · intro hfired
    have hfalse := hending e he
    rw [hfired] at hfalse
    cases hfalse

/-- In every possible run looking for tasks makes a call. -/
theorem looks_of_possible (workable : s.settings.Workable) (h : Possible s script shutdown r) :
    Looks s.settings r.journal.history := by
  induction h with
  | first =>
    have hblank : Looks s.settings [] := by
      intro later t past hsplit
      simp at hsplit
    have hopened : Looks s.settings (blank.enter .awaitingExecutorReady).history :=
      Looks.append hblank [_, _] (by simp)
    exact hopened.grow (grows_begin .isRunning script.isRunning)
  | move before happens ih =>
    cases happens with
    | answer ended => exact looks_check _ ih
    | start => exact ih.enter _
    | fire live due => exact ih.fire workable script _
    | settle found goes => exact ih.grow (Invocation.grows_settle? goes)
    | note found => exact ih.grow (Generation.grows_deliver _ _ _ _)
    | heed waits queued => exact ih
    | quit waits ended => exact ih
    | halt live told => exact ih.grow (grows_foldl (fun j i => i.grows_abort j) _ _)
    | conclude ended told => exact looks_conclude _ ih
  | pass _ _ _ ih => exact ih

/-- Nothing in the settings of a run stands in its way. -/
structure Sustained (s : Scheduler) (shutdown : Option Nat) (r : Run) : Prop where
  /-- No tick dies when the ticks are started. -/
  starts : Generation.dead s = []
  /-- Ticks live until they are told to end. -/
  live : ∀ g, r.stage = .ticking g → g.Alive shutdown r.journal
  /-- The supervisor stops waiting for an error that a tick handed over, -/
  received : ∀ g e, r.stage = .ticking g → g.verdict = some (.fault e) →
    ∃ t tick, (t, .faulted tick e) ∈ r.journal.history
  /-- or for a shutdown that was requested, -/
  stopped : ∀ g, r.stage = .ticking g → g.verdict = some .shutdown →
    Generation.shutdownBy shutdown r.journal.now = true
  /-- and only after that the run returns without an error. -/
  returned : r.result? = some (.ok ()) → Generation.shutdownBy shutdown r.journal.now = true
  /-- Looking for tasks makes a call. -/
  looks : Looks s.settings r.journal.history

theorem sustained_of_possible (workable : s.settings.Workable)
    (h : Possible s script shutdown r) : Sustained s shutdown r where
  starts := Generation.dead_eq_nil workable.periods
  live := (Generation.alive workable.periods script shutdown).holds h
  received g e hstage hverdict := by
    have heard := (Generation.heard s script shutdown).holds h g hstage
    obtain ⟨tick, hfirst⟩ := heard.received e hverdict
    obtain ⟨t, ht⟩ := mem_of_mem_handed (List.mem_of_getLast? hfirst)
    exact ⟨t, tick, (List.takeWhile_sublist _).subset ht⟩
  stopped g hstage hverdict := by
    have running : (script.isRunning 0).ending = .returned true := by
      have hcourse := (lawful_of_possible h).course
      rw [hstage] at hcourse
      exact hcourse.1.1
    exact ((founded_of_possible workable.periods running h).ticking g hstage).quits hverdict
  returned hresult := by
    rcases returns_of_possible h hresult with (⟨-, ⟨⟩⟩ | ⟨-, -, ⟨⟩⟩) | ⟨running, -⟩
    have founded := founded_of_possible workable.periods running h
    rcases r with ⟨j, stage⟩
    cases stage with
    | ended result =>
      obtain rfl : result = .ok () := Option.some.inj hresult
      exact founded.ended _ rfl
    | _ => cases hresult
  looks := looks_of_possible workable h

end Run

namespace SchedulerSettings

/-- Settings are accepted, whatever periods are put in place of their own, exactly if they are
workable and their token command can be read.  Nothing in them stands in the way of a scheduler
then, in any of its runs.  They are rejected for their token command exactly if that is all
that is wrong with them, and then it cannot be read. -/
theorem accepted_sustains (s : SchedulerSettings) (fetch execute tokenUpdate : Option UInt64) :
    let settings := s.withIntervals fetch execute tokenUpdate
    (settings.validate = .ok () ↔
      settings.Workable ∧ ∃ command, TokenCommand.ofLine settings.tokenCommand = .ok command) ∧
    (settings.validate = .ok () → ∀ (storageUrl : String) (keystore : ContractId) (script : Script)
      (shutdown : Option Nat) (r : Run),
        Run.Possible ⟨settings, storageUrl, keystore⟩ script shutdown r →
          r.Sustained ⟨settings, storageUrl, keystore⟩ shutdown) ∧
    (settings.validate = .error .noTokenCommand ↔
      settings.Workable ∧ TokenCommand.ofLine settings.tokenCommand = .error .emptyCommand) := by
  intro settings
  refine ⟨validate_eq_ok_iff, ?_, validate_eq_noTokenCommand_iff⟩
  intro accepted storageUrl keystore script shutdown r possible
  exact Run.sustained_of_possible (workable_of_validate (.inl accepted)) possible

/-- A command between blanks of several kinds, with a period given for the fetch tick. -/
theorem accepted_sustains_sample :
    let s : SchedulerSettings :=
      { standard with
        workers := [⟨"0x01"⟩], fetchInterval := 0, tokenCommand := "\u2003cat\u00a0t" }
    let r := Run.upTo ⟨s.withIntervals (some 2) none none, "", ⟨""⟩⟩ .quiet (some 5) 3
    s.validate ≠ .ok () ∧
      (∃ command, TokenCommand.ofLine s.tokenCommand = .ok command) ∧
      (Journal.lastChange r.journal.history).map Prod.snd = some .running ∧
      r.Sustained ⟨s.withIntervals (some 2) none none, "", ⟨""⟩⟩ (some 5) ∧
      TokenCommand.ofLine "\u2003\u00a0" = .error .emptyCommand := by
  intro s r
  let blank : SchedulerSettings := { s with tokenCommand := "\u2003\u00a0" }
  have accepted : (s.withIntervals (some 2) none none).validate = .ok () := by decide
  have rejected : (blank.withIntervals (some 2) none none).validate = .error .noTokenCommand := by
    decide
  obtain ⟨hok, hruns, -⟩ := accepted_sustains s (some 2) none none
  obtain ⟨-, -, hblank⟩ := accepted_sustains blank (some 2) none none
  have hrunning : (Journal.lastChange r.journal.history).map Prod.snd = some .running := by
    decide +kernel
  exact ⟨by decide, (hok.mp accepted).2, hrunning,
    hruns accepted "" ⟨""⟩ .quiet (some 5) r (Run.possible_upTo 3).1, (hblank.mp rejected).2⟩

end SchedulerSettings

end Interchain
