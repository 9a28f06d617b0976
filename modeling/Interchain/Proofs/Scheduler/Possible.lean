import Interchain.Scheduler.Instant

/-!
# Possible runs

Executor, network and clock decide in which order the things happen that can happen
at one instant.  A run is possible if some order leads to it.  Time passes only when
nothing more can happen at an instant.  The run that is executed is one of the
possible ones (`Run.possible_upTo`), so what holds of all of them holds of it.
-/

namespace Interchain.Run

variable (s : Scheduler) (script : Script) (shutdown : Option Nat)

/-- Nothing more can happen in a run at its instant. -/
def Still (r : Run) : Prop :=
  ∀ m r', ¬Happens s script shutdown m r r'

/-- The runs that some order of moves leads to. -/
inductive Possible : Run → Prop
  | first : Possible (first script)
  | move {m r r'} (before : Possible r) (happens : Happens s script shutdown m r r') : Possible r'
  | pass {r} (before : Possible r) (going : r.isOver = false) (still : Still s script shutdown r) :
      Possible (r.pass s 1)

variable {s script shutdown} {m : Move} {r r' : Run}

/-- Whatever can happen is among the moves that are tried. -/
theorem mem_candidates_of_happens (h : Happens s script shutdown m r r') : m ∈ r.candidates := by
  have all (tick : TickKind) : tick ∈ TickKind.all := by cases tick <;> decide
  cases h with
  | answer => exact List.mem_singleton.mpr rfl
  | start => exact List.mem_singleton.mpr rfl
  | @fire g j tick live due => simp [candidates, all tick]
  | @settle g j i n v w found goes =>
    have hn : n < v.dues.length := by
      rcases Invocation.settle?_cases goes with ⟨calls, fatal, c, rfl, hc, -, -⟩ |
        ⟨p, rfl, rfl, -, -⟩ | ⟨p, rfl, rfl, -, -⟩ | ⟨p, rfl, rfl, -, -⟩
      · simpa [Invocation.dues] using (List.getElem?_eq_some_iff.mp hc).1
      all_goals exact Nat.zero_lt_one
    obtain ⟨hi, hv⟩ := List.getElem?_eq_some_iff.mp found
    have hmem : Move.settle i n ∈ (g.inflight.mapIdx fun i v =>
        (List.range v.dues.length).map (Move.settle i)).flatten := by
      refine List.mem_flatten.mpr ⟨_, List.mem_mapIdx.mpr ⟨i, hi, rfl⟩, ?_⟩
      exact List.mem_map.mpr ⟨n, List.mem_range.mpr (by rwa [hv]), rfl⟩
    simp only [candidates, List.mem_append]
    exact .inl (.inl (.inr hmem))
  | @note g j i tick result found =>
    have hi : i < g.inflight.length := (List.getElem?_eq_some_iff.mp found).1
    simp only [candidates, List.mem_append]
    exact .inl (.inr (List.mem_map.mpr ⟨i, List.mem_range.mpr hi, rfl⟩))
  | heed => simp [candidates]
  | quit => simp [candidates]
  | @halt g j tick live told => simp [candidates, all tick]
  | conclude => simp [candidates]

theorem still_of_move?_eq_none (h : move? s script shutdown r = none) :
    Still s script shutdown r := by
  intro m r' happens
  have hm := List.findSome?_eq_none_iff.mp h m (mem_candidates_of_happens happens)
  rw [perform?_eq_some.mpr happens] at hm
  cases hm

/-- The moves that are made at an instant lead to a possible run in which nothing
more can happen. -/
theorem Possible.settle (h : Possible s script shutdown r) :
    Possible s script shutdown (settle s script shutdown r) ∧
      Still s script shutdown (settle s script shutdown r) := by
  induction r using Run.settle.induct s script shutdown with
  | case1 r r' hm ih =>
    obtain ⟨m, -, happens⟩ := happens_of_move? hm
    rw [Run.settle]
    split
    · rename_i r'' hm'
      obtain rfl : r' = r'' := Option.some.inj (hm.symm.trans hm')
      exact ih (h.move happens)
    · rename_i hm'
      rw [hm] at hm'
      cases hm'
  | case2 r hm =>
    have hself : Run.settle s script shutdown r = r := by
      rw [Run.settle]
      split
      · rename_i r' hm'
        rw [hm] at hm'
        cases hm'
      · rfl
    rw [hself]
    exact ⟨h, still_of_move?_eq_none hm⟩

theorem possible_later (n : Nat) (h : Possible s script shutdown r)
    (hstill : Still s script shutdown r) :
    Possible s script shutdown (later s script shutdown n r) ∧
      Still s script shutdown (later s script shutdown n r) := by
  induction n generalizing r with
  | zero => exact ⟨h, hstill⟩
  | succ n ih =>
    rw [later, next]
    split
    · exact ih h hstill
    · rename_i hover
      have hsettle := (h.pass (by simpa using hover) hstill).settle
      exact ih hsettle.1 hsettle.2

/-- The run that is executed is a possible one, and all that can happen by an
instant has happened in it. -/
theorem possible_upTo (t : Nat) :
    Possible s script shutdown (upTo s script shutdown t) ∧
      Still s script shutdown (upTo s script shutdown t) :=
  have h : Possible s script shutdown (first script) := .first
  possible_later t h.settle.1 h.settle.2

/-! ## Runs to look at -/

end Run

/-- A scheduler with the standard settings. -/
def Scheduler.sample : Scheduler :=
  ⟨.standard, "", ⟨""⟩⟩

/-- The sample with other periods. -/
def Scheduler.paced (fetch execute tokenUpdate : UInt64) : Scheduler :=
  { Scheduler.sample with
    settings := .withIntervals .standard (some fetch) (some execute) (some tokenUpdate) }

theorem Scheduler.interval_paced_ne_zero {fetch execute tokenUpdate : UInt64} (hfetch : fetch ≠ 0)
    (hexecute : execute ≠ 0) (htoken : tokenUpdate ≠ 0) (tick : TickKind) :
    (Scheduler.paced fetch execute tokenUpdate).settings.interval tick ≠ 0 := by
  cases tick with
  | fetch => exact hfetch
  | execute => exact hexecute
  | credentialRefresh => exact htoken

/-- All calls succeed at once. -/
def Script.quiet : Script where
  isRunning _ := ⟨0, .returned true⟩
  run _ _ := ⟨0, .returned (.ok .null)⟩
  accessToken _ := ⟨0, .returned ""⟩
  configure _ := ⟨0, .returned ()⟩

/-- All calls are answered at once, and the first cycle and the first handover of a token
fail for passing reasons. -/
def Script.stumbling : Script :=
  { Script.quiet with
    run := fun mode n =>
      if n = 0 then ⟨0, .failed (.transport (.transient .connectionReset ""))⟩
      else Script.quiet.run mode n
    configure := fun n =>
      if n = 0 then ⟨0, .failed (.transport (.transient .undecodedBody ""))⟩
      else Script.quiet.configure n }

end Interchain
