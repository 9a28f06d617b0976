import Interchain.Proofs.Scheduler.Verdict
import Mathlib.Data.List.Nodup

/-!
# Cadence

While ticks go on, each of them fires at every multiple of its period after their
start, once, and at no other time, whatever becomes of its invocations and of the other
ticks.  The invariant counts the beats that a tick has fired at
(`Generation.InTime`): the last of them is not ahead of the present instant, the next
one is not behind it, and a tick is due just when the next one is the present instant.
-/

namespace Interchain

/-- When a tick fired, the latest first. -/
def Journal.firings (tick : TickKind) (history : List (Nat × Event)) : List Nat :=
  (history.filter fun e => e.2.fired? == some tick).map fun e => e.1

/-- The period of a tick in milliseconds. -/
def Scheduler.period (s : Scheduler) (tick : TickKind) : Nat :=
  (s.settings.interval tick).toNat

/-- The first `k` multiples of a period after an instant, the latest first. -/
def beats (since period : Nat) : Nat → List Nat
  | 0 => []
  | k + 1 => (since + (k + 1) * period) :: beats since period k

/-- Something is done once at each multiple of a period after an instant and before
another, at most once at the latter, and at no other time. -/
structure Cadence (since period till : Nat) (times : List Nat) : Prop where
  each : ∀ n, 0 < n → since + n * period < till → times.count (since + n * period) = 1
  last : times.count till ≤ 1
  only : ∀ t ∈ times, t ≤ till ∧ ∃ n, 0 < n ∧ t = since + n * period

section

variable {since period till k t : Nat}

theorem mem_beats : t ∈ beats since period k ↔ ∃ n, 0 < n ∧ n ≤ k ∧ t = since + n * period := by
  induction k with
  | zero =>
    constructor
    · intro h
      cases h
    · rintro ⟨n, hpos, hle, -⟩
      omega
  | succ k ih =>
    rw [beats, List.mem_cons, ih]
    constructor
    · rintro (rfl | ⟨n, hpos, hle, rfl⟩)
      · exact ⟨k + 1, Nat.succ_pos k, Nat.le_refl _, rfl⟩
      · exact ⟨n, hpos, Nat.le_succ_of_le hle, rfl⟩
    · rintro ⟨n, hpos, hle, rfl⟩
      rcases Nat.le_succ_iff.mp hle with hle | rfl
      · exact .inr ⟨n, hpos, hle, rfl⟩
      · exact .inl rfl

theorem nodup_beats (hperiod : 0 < period) : (beats since period k).Nodup := by
  induction k with
  | zero => exact List.nodup_nil
  | succ k ih =>
    refine List.nodup_cons.mpr ⟨?_, ih⟩
    intro h
    obtain ⟨n, -, hle, heq⟩ := mem_beats.mp h
    have hlt : n * period < (k + 1) * period :=
      Nat.mul_lt_mul_of_pos_right (Nat.lt_succ_of_le hle) hperiod
    omega

theorem cadence_beats (hperiod : 0 < period) (hreached : since + k * period ≤ till)
    (hahead : till ≤ since + (k + 1) * period) :
    Cadence since period till (beats since period k) := by
  have hnodup : (beats since period k).Nodup := nodup_beats hperiod
  constructor
  · intro n hpos hlt
    have hn : n < k + 1 := Nat.lt_of_mul_lt_mul_right (a := period) (by omega)
    exact List.count_eq_one_of_mem hnodup (mem_beats.mpr ⟨n, hpos, Nat.le_of_lt_succ hn, rfl⟩)
  · exact List.nodup_iff_count_le_one.mp hnodup till
  · intro t ht
    obtain ⟨n, hpos, hle, rfl⟩ := mem_beats.mp ht
    have hmul : n * period ≤ k * period := Nat.mul_le_mul_right period hle
    exact ⟨by omega, n, hpos, rfl⟩

end

namespace Journal

variable {tick : TickKind} {j j' : Journal}

theorem firings_append (tick : TickKind) (new past : List (Nat × Event)) :
    firings tick (new ++ past) = firings tick new ++ firings tick past := by
  simp [firings]

theorem firings_of_isPlain {new : List (Nat × Event)} (h : ∀ e ∈ new, e.2.isPlain = true) :
    firings tick new = [] := by
  rw [firings, List.map_eq_nil_iff, List.filter_eq_nil_iff]
  intro e he
  have hplain := h e he
  cases hevent : e.2 <;> simp_all [Event.isPlain, Event.fired?]

/-- No tick fires while only plain events are added. -/
theorem Adds.firings_eq (h : j.Adds Event.isPlain j') (tick : TickKind) :
    firings tick (generation j'.history) = firings tick (generation j.history) := by
  obtain ⟨new, hgeneration, -, hplain⟩ := h.generation_eq Event.isSteady_of_isPlain
  rw [hgeneration, firings_append, firings_of_isPlain fun e he => (hplain e he).2,
    List.nil_append]

end Journal

open Journal

namespace Generation

variable {s : Scheduler} {script : Script} {shutdown : Option Nat} {g g' : Generation}
variable {j j' : Journal} {tick : TickKind} {k : Nat}

/-- Between one beat and the next, a tick is due just at the next. -/
theorem isDue_iff {since now : Nat} (hperiod : 0 < s.period tick)
    (hlow : since + k * s.period tick ≤ now) (hhigh : now < since + (k + 1) * s.period tick) :
    isDue s since (now + 1) tick = true ↔ now + 1 = since + (k + 1) * s.period tick := by
  have hsplit : now + 1 - since = now + 1 - since - k * s.period tick + k * s.period tick := by
    omega
  have hmod : (now + 1 - since) % s.period tick =
      (now + 1 - since - k * s.period tick) % s.period tick := by
    rw [hsplit, Nat.add_mul_mod_self_right, ← hsplit]
  rw [Nat.succ_mul] at hhigh ⊢
  have hdue : isDue s since (now + 1) tick = true ↔
      since < now + 1 ∧ (now + 1 - since) % s.period tick = 0 := by
    simp [isDue, Scheduler.period]
  rw [hdue, hmod]
  rcases Nat.lt_or_ge (now + 1 - since - k * s.period tick) (s.period tick) with hlt | hge
  · rw [Nat.mod_eq_of_lt hlt]
    omega
  · have heq : now + 1 - since - k * s.period tick = s.period tick := by omega
    rw [heq, Nat.mod_self]
    omega

/-- A tick has fired at its first `k` beats, and is due at the next one. -/
structure InTime (s : Scheduler) (g : Generation) (j : Journal) (tick : TickKind) (k : Nat) :
    Prop where
  fired : firings tick (generation j.history) = beats g.since (s.period tick) k
  reached : g.since + k * s.period tick ≤ j.now
  ahead : j.now ≤ g.since + (k + 1) * s.period tick
  due : tick ∈ g.due → j.now = g.since + (k + 1) * s.period tick
  waits : tick ∈ g.live → j.now = g.since + (k + 1) * s.period tick → tick ∈ g.due

/-- Every tick keeps time.  None ends unless it is told to. -/
structure Punctual (s : Scheduler) (shutdown : Option Nat) (g : Generation) (j : Journal) :
    Prop where
  live : g.live.Nodup
  due : g.due.Nodup
  told : ∀ tick, tick ∉ g.live → g.verdict.isSome = true ∨ shutdownBy shutdown j.now = true
  beat : ∀ tick, ∃ k, g.InTime s j tick k

theorem period_pos (positive : ∀ tick, s.settings.interval tick ≠ 0) (tick : TickKind) :
    0 < s.period tick := by
  apply Nat.pos_of_ne_zero
  intro hzero
  exact positive tick (UInt64.toNat_inj.mp hzero)

theorem punctual_fresh (positive : ∀ tick, s.settings.interval tick ≠ 0) (j : Journal) :
    (fresh s j.now).Punctual s shutdown (j.enter .running) := by
  have hlive (tick : TickKind) : tick ∈ (fresh s j.now).live := by
    refine List.mem_filter.mpr ⟨?_, by simpa using positive tick⟩
    cases tick <;> decide
  refine ⟨List.Nodup.filter _ (by decide), List.nodup_nil, ?_, ?_⟩
  · intro tick hdead
    exact absurd (hlive tick) hdead
  · intro tick
    have hperiod := period_pos positive tick
    have hsince : (fresh s j.now).since = (j.enter .running).now := rfl
    refine ⟨0, rfl, by omega, by omega, ?_, by omega⟩
    intro hdue
    cases hdue

/-- Time is kept while no tick fires and those that end were told to. -/
theorem Punctual.keep (h : g.Punctual s shutdown j) (hj : j.Adds Event.isPlain j')
    (hsince : g'.since = g.since) (hdue : g'.due = g.due) (hlive : g'.live.Sublist g.live)
    (hends : ∀ tick ∈ g.live, tick ∉ g'.live →
      g.verdict.isSome = true ∨ shutdownBy shutdown j.now = true)
    (hverdict : g.verdict.isSome = true → g'.verdict.isSome = true) :
    g'.Punctual s shutdown j' where
  live := h.live.sublist hlive
  due := hdue ▸ h.due
  told tick hdead := by
    rw [hj.now]
    apply Or.imp_left hverdict
    by_cases hmem : tick ∈ g.live
    · exact hends tick hmem hdead
    · exact h.told tick hmem
  beat tick := by
    obtain ⟨k, hk⟩ := h.beat tick
    refine ⟨k, ?_⟩
    constructor
    · rw [hj.firings_eq, hk.fired, hsince]
    · rw [hj.now, hsince]
      exact hk.reached
    · rw [hj.now, hsince]
      exact hk.ahead
    · rw [hj.now, hsince, hdue]
      exact hk.due
    · rw [hj.now, hsince, hdue]
      intro hmem
      exact hk.waits (hlive.subset hmem)

/-- A tick that fires does so at its next beat. -/
theorem Punctual.fire (positive : ∀ tick, s.settings.interval tick ≠ 0)
    (h : g.Punctual s shutdown j) (live : tick ∈ g.live) (due : tick ∈ g.due) :
    Punctual s shutdown
      { g with
        due := g.due.erase tick
        inflight := g.inflight ++ [(Invocation.start s script tick j).1] }
      (Invocation.start s script tick j).2 := by
  have hworks : (j.record (.fired tick)).Adds Event.isPlain (Invocation.start s script tick j).2 :=
    (Invocation.works_start s script tick j).mono Event.isPlain_of_isWork
  have hnow : (Invocation.start s script tick j).2.now = j.now := hworks.now
  have hfirings (other : TickKind) :
      firings other (generation (Invocation.start s script tick j).2.history) =
        (if other = tick then [j.now] else []) ++ firings other (generation j.history) := by
    have hfired : generation (j.record (.fired tick)).history =
        (j.now, .fired tick) :: generation j.history := by
      simp [generation, Event.entered?]
    rw [hworks.firings_eq, hfired]
    by_cases heq : other = tick
    · simp [firings, Event.fired?, heq]
    · simp [firings, Event.fired?, heq, Ne.symm heq]
  refine ⟨h.live, h.due.erase tick, ?_, ?_⟩
  · rw [hnow]
    exact h.told
  · intro other
    obtain ⟨k, hk⟩ := h.beat other
    have hperiod := period_pos positive other
    rcases eq_or_ne other tick with rfl | hne
    · have hbeat := hk.due due
      refine ⟨k + 1, ?_⟩
      constructor
      · rw [hfirings, if_pos rfl, hk.fired, hbeat]
        rfl
      · rw [hnow, hbeat]
      · rw [hnow, hbeat]
        exact Nat.add_le_add_left (Nat.mul_le_mul_right _ (Nat.le_succ _)) _
      · intro hdue
        exact absurd hdue h.due.not_mem_erase
      · rw [hnow, hbeat]
        intro _ hnext
        have hmul : (k + 1) * s.period other < (k + 1 + 1) * s.period other :=
          Nat.mul_lt_mul_of_pos_right (Nat.lt_succ_self _) hperiod
        exact absurd (Nat.add_left_cancel hnext) (Nat.ne_of_lt hmul)
    · refine ⟨k, ?_⟩
      constructor
      · rw [hfirings, if_neg hne]
        exact hk.fired
      · rw [hnow]
        exact hk.reached
      · rw [hnow]
        exact hk.ahead
      · rw [hnow]
        intro hdue
        exact hk.due (List.mem_of_mem_erase hdue)
      · rw [hnow]
        intro hlive hnext
        exact (List.mem_erase_of_ne hne).mpr (hk.waits hlive hnext)

/-- Time passes when all ticks that were due have fired, so none misses a beat. -/
theorem Punctual.pass (positive : ∀ tick, s.settings.interval tick ≠ 0)
    (h : g.Punctual s shutdown j) (rest : g.AtRest shutdown j) :
    (g.pass s (j.now + 1)).Punctual s shutdown { j with now := j.now + 1 } := by
  have hlive (tick : TickKind) : tick ∈ g.live := by
    by_contra hdead
    rcases h.told tick hdead with hverdict | hshutdown
    · simp [rest.verdict] at hverdict
    · simp [rest.going] at hshutdown
  refine ⟨h.live, h.live.filter _, ?_, ?_⟩
  · intro tick hdead
    exact absurd (hlive tick) hdead
  · intro tick
    obtain ⟨k, hk⟩ := h.beat tick
    have hperiod := period_pos positive tick
    have hlow := hk.reached
    have hhigh : j.now < g.since + (k + 1) * s.period tick := by
      rcases Nat.lt_or_eq_of_le hk.ahead with hlt | heq
      · exact hlt
      · exact absurd (hk.waits (hlive tick) heq) (rest.fired tick (hlive tick))
    have hdue := isDue_iff hperiod hlow hhigh
    refine ⟨k, hk.fired, Nat.le_succ_of_le hlow, hhigh, ?_, ?_⟩
    · intro hmem
      exact hdue.mp (List.mem_filter.mp hmem).2
    · intro _ hbeat
      exact List.mem_filter.mpr ⟨hlive tick, hdue.mpr hbeat⟩

end Generation

namespace Run

open Generation

variable {s : Scheduler} {script : Script} {shutdown : Option Nat} {m : Move} {r r' : Run}
variable {g g' : Generation} {j j' : Journal} {since till : Nat}
variable {span past : List (Nat × Event)}

/-- Ticks keep time while they go on. -/
theorem punctual (script : Script) (positive : ∀ tick, s.settings.interval tick ≠ 0) :
    Invariant s script shutdown (Punctual s shutdown) where
  fresh j := punctual_fresh positive j
  fire h live due := h.fire positive live due
  settle h _ goes :=
    h.keep ((Invocation.works_settle? goes).mono Event.isPlain_of_isWork) rfl rfl (.refl _)
      (fun _ hlive hdead => absurd hlive hdead) id
  note {g j i tick result} h found := by
    obtain ⟨faults, hdeliver⟩ :=
      deliver_eq tick result { g with inflight := g.inflight.eraseIdx i } j
    rw [hdeliver]
    exact h.keep (adds_deliver _ _ _ _ (fun _ => rfl) fun _ => rfl) rfl rfl (.refl _)
      (fun _ hlive hdead => absurd hlive hdead) id
  heed h _ _ := h.keep (.refl _) rfl rfl (.refl _) (fun _ hlive hdead => absurd hlive hdead)
    fun _ => rfl
  quit h _ _ := h.keep (.refl _) rfl rfl (.refl _) (fun _ hlive hdead => absurd hlive hdead)
    fun _ => rfl
  halt h _ told :=
    h.keep ((Invocation.adds_abortAll _ _).mono Event.isPlain_of_isEnding) rfl rfl
      List.erase_sublist
      (fun _ _ _ => told) id
  pass h rest := h.pass positive rest

/-- In a stretch a tick has fired at its first beats, and all of them that came before
the end are among these. -/
theorem Stretch.firings_eq (positive : ∀ tick, s.settings.interval tick ≠ 0)
    (h : Possible s script shutdown r) (stretch : Stretch r since span past till)
    (tick : TickKind) :
    ∃ k, firings tick span = beats since (s.period tick) k ∧
      since + k * s.period tick ≤ till ∧ till ≤ since + (k + 1) * s.period tick := by
  obtain ⟨j, g, possible, closes⟩ := stretch.closes h
  obtain ⟨k, hk⟩ := ((punctual script positive).holds possible g rfl).beat tick
  obtain ⟨reports, hspan, hending⟩ := closes.done
  have hreports : ∀ e ∈ reports, e.2.isPlain = true := by
    intro e he
    exact Event.isPlain_of_isEnding (hending e he)
  refine ⟨k, ?_, ?_, ?_⟩
  · rw [hspan, firings_append, firings_of_isPlain hreports, List.nil_append, hk.fired,
      closes.starts]
  · rw [← closes.ends, ← closes.starts]
    exact hk.reached
  · rw [← closes.ends, ← closes.starts]
    exact hk.ahead

/-- Ticks fire in stretches only. -/
theorem exists_stretch_of_fired {t : Nat} {tick : TickKind} (h : Possible s script shutdown r)
    (fired : (t, .fired tick) ∈ r.journal.history) :
    ∃ since span past till, Stretch r since span past till ∧ (t, .fired tick) ∈ span := by
  obtain ⟨later, before, split⟩ := List.append_of_mem fired
  have hfires := (lawful_of_possible h).fires
  rw [split] at hfires
  obtain ⟨since, hlast⟩ := lastChange_of_head?_entered hfires.at.2.1
  have hspan : ∀ e ∈ (t, .fired tick) :: generation before, e.2.isSteady = true := by
    intro e he
    rcases List.mem_cons.mp he with rfl | he
    · rfl
    · exact isSteady_of_mem_generation he
  have hsplit : r.journal.history = later ++ ((t, .fired tick) :: generation before ++
      (since, .entered .running) :: earlier before) := by
    rw [List.cons_append, ← split_of_lastChange hlast, split]
  obtain ⟨done, till, stretch, hsubset⟩ := exists_stretch hspan hsplit
  exact ⟨since, done, _, till, stretch, hsubset List.mem_cons_self⟩

/-- Whatever the calls of a run come to and however long they take, each tick fires once
at every whole number of its periods after a start of the ticks and before their end, at
most once at the end, and at no other time.  Ticks that are started after a recovery are
started at the instant at which the error was handed over that made the run recover. -/
theorem cadence_of_run (positive : ∀ tick, s.settings.interval tick ≠ 0)
    (h : Possible s script shutdown r) :
    (∀ since span past till, Stretch r since span past till →
      ∀ tick, Cadence since (s.period tick) till (firings tick span)) ∧
    (∀ t tick, (t, .fired tick) ∈ r.journal.history →
      ∃ since span past till, Stretch r since span past till ∧ (t, .fired tick) ∈ span) ∧
    (∀ since span past till t, Stretch r since span ((t, .entered .recovering) :: past) till →
      since = t ∧ ∃ attempt e past' tick, past = (t, .reported (.recovering attempt e)) :: past' ∧
        e.isTransient = true ∧ (t, .faulted tick e) ∈ generation past') := by
  refine ⟨?_, ?_, ?_⟩
  · intro since span past till stretch tick
    obtain ⟨k, hfirings, hreached, hahead⟩ := stretch.firings_eq positive h tick
    rw [hfirings]
    exact cadence_beats (period_pos positive tick) hreached hahead
  · intro t tick fired
    exact exists_stretch_of_fired h fired
  · intro since span past till t stretch
    obtain ⟨j, g, possible, closes⟩ := stretch.closes h
    obtain ⟨e, before, hprepared⟩ := closes.prepared
    have hsince : t = since := (Prod.mk.inj (List.cons.inj hprepared).1).1
    obtain ⟨later, split⟩ := stretch.exists_eq_append
    exact ⟨hsince.symm, received_of_recovering h split⟩

theorem cadence_of_recovered_run :
    ∃ r span past, Possible (.paced 1000 10 6) colliding none r ∧
      Stretch r 10 span ((10, .entered .recovering) :: past) 17 ∧
      (firings .credentialRefresh span).count 16 = 1 ∧
      ∃ tick e, (10, .faulted tick e) ∈ past := by
  let r := upTo (.paced 1000 10 6) colliding none 17
  have possible : Possible (.paced 1000 10 6) colliding none r := (possible_upTo 17).1
  have positive : ∀ tick, (Scheduler.paced 1000 10 6).settings.interval tick ≠ 0 :=
    Scheduler.interval_paced_ne_zero (by decide) (by decide) (by decide)
  have hrunning : lastChange r.journal.history = some (10, .running) := by decide +kernel
  have hrecovering : lastChange (earlier r.journal.history) = some (10, .recovering) := by
    decide +kernel
  have hnone : generation (earlier r.journal.history) = [] := by
    rw [← List.isEmpty_iff]
    decide +kernel
  have split := split_of_lastChanges hrunning hrecovering
  rw [hnone, List.nil_append] at split
  have stretch : Stretch r 10 _ _ r.journal.now :=
    .going (fun _ => isSteady_of_mem_generation) split
  have hnow : r.journal.now = 17 := by decide +kernel
  rw [hnow] at stretch
  obtain ⟨cadence, -, restart⟩ := cadence_of_run positive possible
  obtain ⟨-, attempt, e, past', tick, hpast, -, hmem⟩ := restart _ _ _ _ _ stretch
  refine ⟨r, _, _, possible, stretch, ?_, tick, e, ?_⟩
  · exact (cadence _ _ _ _ stretch .credentialRefresh).each 1 (by decide) (by decide)
  · rw [hpast]
    exact List.mem_cons_of_mem _ (List.takeWhile_subset _ hmem)

end Run

end Interchain
