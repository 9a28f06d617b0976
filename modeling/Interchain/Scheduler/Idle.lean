import Interchain.Scheduler.Instant

/-!
# Instants at which nothing is due

Most instants of a run only let time pass.  They can be passed over at once:
`Run.advance` comes to the same run as a step for every instant does
(`Run.advance_eq_later`).
-/

namespace Interchain

namespace Generation

/-- Whether ticks only wait for time to pass. -/
def isQuiet (g : Generation) : Bool :=
  g.verdict.isNone && g.faults.isEmpty && !g.live.isEmpty &&
    g.inflight.all fun i => !i.dues.isEmpty

end Generation

namespace Run

variable (s : Scheduler) (script : Script) (shutdown : Option Nat)

/-- How many of the next instants a tick lets pass before it fires. -/
def untilDue (since now period : Nat) : Nat :=
  if since ≤ now then period - (now - since) % period - 1 else 0

/-- For each thing that a run waits for, how many of the next instants come before
it. -/
def waits (r : Run) : List Nat :=
  let now := r.journal.now
  match r.stage with
  | .checking p => [p.due - now - 1]
  | .ticking g =>
    if g.isQuiet then
      (shutdown.map fun t => t - now - 1).toList ++
        (g.live.map fun tick => untilDue g.since now (s.settings.interval tick).toNat) ++
        g.inflight.flatMap fun i => i.dues.map fun t => t - now - 1
    else [0]
  | .starting => [0]
  | .ended _ | .crashed _ => []

/-- How many of the next `n` instants pass with nothing done. -/
def idle (n : Nat) (r : Run) : Nat :=
  (waits s shutdown r).foldl min n

/-- A run some instants later, found without looking at instants at which nothing
is due. -/
def advance : Nat → Run → Run
  | 0, r => r
  | n + 1, r =>
    if r.isOver then r
    else advance (n - idle s shutdown n r) (next s script shutdown (pass s (idle s shutdown n r) r))
termination_by n => n
decreasing_by omega

/-- A run at the given instant, found by way of the instants at which something is
due. -/
def reach (t : Nat) : Run :=
  advance s script shutdown t (start s script shutdown)

theorem foldl_min_le (n : Nat) (l : List Nat) :
    l.foldl min n ≤ n ∧ ∀ t ∈ l, l.foldl min n ≤ t := by
  induction l generalizing n with
  | nil => simp
  | cons a rest ih =>
    have h := ih (min n a)
    refine ⟨Nat.le_trans h.1 (Nat.min_le_left n a), fun t ht => ?_⟩
    rcases List.mem_cons.mp ht with rfl | ht
    · exact Nat.le_trans h.1 (Nat.min_le_right n t)
    · exact h.2 t ht

variable {s script shutdown}

theorem isDue_eq_false {since now k : Nat} {tick : TickKind} (hk : 0 < k)
    (h : k ≤ untilDue since now (s.settings.interval tick).toNat) :
    Generation.isDue s since (now + k) tick = false := by
  simp only [untilDue] at h
  split at h
  · rename_i hs
    have hmod : (now + k - since) % (s.settings.interval tick).toNat =
        (now - since) % (s.settings.interval tick).toNat + k := by
      have hsub : now + k - since = (now - since) + k := by omega
      have hlt : (now - since) % (s.settings.interval tick).toNat + k <
          (s.settings.interval tick).toNat := by omega
      rw [hsub, Nat.add_mod, Nat.mod_eq_of_lt (a := k) (by omega), Nat.mod_eq_of_lt hlt]
    have hne : ¬((now + k - since) % (s.settings.interval tick).toNat = 0) := by omega
    simp [Generation.isDue, hne]
  · omega

theorem exists_due_of_settle? {v : Invocation} {n : Nat} {j : Journal}
    {w : Invocation × Journal} (h : v.settle? script n j = some w) : ∃ t ∈ v.dues, t ≤ j.now := by
  rcases Invocation.settle?_cases h with ⟨calls, fatal, c, rfl, hc, hdue, -⟩ |
    ⟨p, rfl, -, hdue, -⟩ | ⟨p, rfl, -, hdue, -⟩ | ⟨p, rfl, -, hdue, -⟩
  · exact ⟨_, List.mem_map.mpr ⟨c, List.mem_of_getElem? hc, rfl⟩, hdue⟩
  all_goals exact ⟨_, List.mem_singleton.mpr rfl, hdue⟩

/-- Nothing can happen at an instant before those at which something is due. -/
theorem not_happens_pass {r r' : Run} {n k : Nat} {m : Move} (hk : 0 < k)
    (h : k ≤ idle s shutdown n r) : ¬Happens s script shutdown m (pass s k r) r' := by
  have hw : ∀ t ∈ waits s shutdown r, k ≤ t := fun t ht =>
    Nat.le_trans h ((foldl_min_le n _).2 t ht)
  rcases r with ⟨j, stage⟩
  cases stage with
  | checking p =>
    have : k ≤ p.due - j.now - 1 := hw _ (by simp [waits])
    rintro ⟨ended⟩
    simp only at ended
    omega
  | starting =>
    have : k ≤ 0 := hw _ (by simp [waits])
    omega
  | ended result => rintro ⟨⟩
  | crashed message => rintro ⟨⟩
  | ticking g =>
    cases hq : g.isQuiet with
    | false =>
      have : k ≤ 0 := hw _ (by simp [waits, hq])
      omega
    | true =>
      have hw : ∀ t ∈ (shutdown.map fun t => t - j.now - 1).toList ++
          (g.live.map fun tick => untilDue g.since j.now (s.settings.interval tick).toNat) ++
          g.inflight.flatMap fun i => i.dues.map fun t => t - j.now - 1, k ≤ t := by
        simpa only [waits, hq, if_true] using hw
      simp only [Generation.isQuiet, Bool.and_eq_true, Option.isNone_iff_eq_none,
        List.isEmpty_iff, Bool.not_eq_true', List.isEmpty_eq_false_iff, List.all_eq_true] at hq
      obtain ⟨⟨⟨hverdict, hfaults⟩, hlive⟩, hinflight⟩ := hq
      have hs : Generation.shutdownBy shutdown (j.now + k) = false := by
        cases shutdown with
        | none => rfl
        | some t =>
          have : k ≤ t - j.now - 1 := hw _ (by simp)
          simp only [Generation.shutdownBy, decide_eq_false_iff_not]
          omega
      intro happens
      cases happens with
      | fire live due =>
        simp only [Generation.pass, List.mem_filter] at due
        have hle := hw _ (List.mem_append_left _
          (List.mem_append_right _ (List.mem_map.mpr ⟨_, live, rfl⟩)))
        rw [isDue_eq_false hk hle] at due
        exact Bool.false_ne_true due.2
      | @settle _ _ i n v w found goes =>
        obtain ⟨t, ht, hle⟩ := exists_due_of_settle? goes
        have : k ≤ t - j.now - 1 := hw _ (List.mem_append_right _
          (List.mem_flatMap.mpr ⟨v, List.mem_of_getElem? found, List.mem_map.mpr ⟨t, ht, rfl⟩⟩))
        simp only at hle
        omega
      | note found =>
        simpa [Invocation.dues] using hinflight _ (List.mem_of_getElem? found)
      | heed waits queued => simp [Generation.pass, hfaults] at queued
      | quit waits ended =>
        rcases ended with ended | ended
        · simp [hs] at ended
        · exact hlive ended.1
      | halt live told =>
        rcases told with told | told
        · simp [Generation.pass, hverdict] at told
        · simp [hs] at told
      | conclude ended told => simp [Generation.pass, hverdict] at told

/-- Nothing is done at an instant before those at which something is due. -/
theorem settle_pass {r : Run} {n k : Nat} (hk : 0 < k) (h : k ≤ idle s shutdown n r) :
    settle s script shutdown (pass s k r) = pass s k r := by
  have hnone : move? s script shutdown (pass s k r) = none := by
    cases hm : move? s script shutdown (pass s k r) with
    | none => rfl
    | some r' =>
      obtain ⟨m, -, happens⟩ := happens_of_move? hm
      exact absurd happens (not_happens_pass hk h)
  rw [settle]
  split
  · rename_i hm
    rw [hnone] at hm
    cases hm
  · rfl

theorem pass_pass (r : Run) (m n : Nat) : pass s n (pass s m r) = pass s (m + n) r := by
  rcases r with ⟨j, stage⟩
  cases stage <;> simp [pass, Generation.pass, Nat.add_assoc]

@[simp] theorem isOver_pass (r : Run) (n : Nat) : (pass s n r).isOver = r.isOver := by
  rcases r with ⟨j, stage⟩
  cases stage <;> rfl

theorem next_of_isOver {r : Run} (h : r.isOver = true) : next s script shutdown r = r := by
  simp [next, h]

theorem later_of_isOver {r : Run} (h : r.isOver = true) (n : Nat) :
    later s script shutdown n r = r := by
  induction n with
  | zero => rfl
  | succ n ih => rw [later, next_of_isOver h, ih]

theorem next_pass {r : Run} (hr : r.isOver = false) (k : Nat) :
    next s script shutdown (pass s k r) = settle s script shutdown (pass s (k + 1) r) := by
  simp [next, hr, pass_pass]

theorem later_add (m n : Nat) (r : Run) :
    later s script shutdown (m + n) r =
      later s script shutdown n (later s script shutdown m r) := by
  induction m generalizing r with
  | zero => simp [later]
  | succ m ih => rw [Nat.succ_add, later, ih, later]

theorem next_pass_eq_later {r : Run} {n k : Nat} (hr : r.isOver = false)
    (hk : k ≤ idle s shutdown n r) :
    next s script shutdown (pass s k r) = later s script shutdown (k + 1) r := by
  induction k with
  | zero =>
    rw [next_pass hr]
    simp [later, next, hr]
  | succ k ih =>
    have hpass : next s script shutdown (pass s k r) = pass s (k + 1) r := by
      rw [next_pass hr, settle_pass (Nat.succ_pos k) hk]
    rw [later_add, ← ih (Nat.le_of_succ_le hk), hpass]
    rfl

theorem advance_eq_later (n : Nat) (r : Run) :
    advance s script shutdown n r = later s script shutdown n r := by
  induction n using Nat.strongRecOn generalizing r with
  | ind n ih =>
    cases n with
    | zero => simp [advance, later]
    | succ n =>
      rw [advance]
      cases hr : r.isOver with
      | true => simp [later_of_isOver hr]
      | false =>
        have hk : idle s shutdown n r ≤ n := (foldl_min_le n _).1
        have hn : n + 1 = idle s shutdown n r + 1 + (n - idle s shutdown n r) := by omega
        simp only [Bool.false_eq_true, if_false]
        rw [ih _ (by omega), next_pass_eq_later hr (Nat.le_refl _), ← later_add, ← hn]

/-- Looking only at instants at which something is due comes to the same run. -/
theorem reach_eq_upTo (t : Nat) : reach s script shutdown t = upTo s script shutdown t :=
  advance_eq_later t _

end Run

end Interchain
