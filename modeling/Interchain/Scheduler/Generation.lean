import Interchain.Scheduler.Invocation

/-!
# Ticks that were started together

Each start of the ticks makes a generation of them.  A tick fires whenever a whole
number of its periods has passed since, and hands the errors that it does not
absorb to the supervisor.  The supervisor waits for the first such error or for
shutdown, tells the ticks to end and waits until they have.

What happens within one instant happens in some order.  Each function here does
one thing that may come next and gives nothing if it may not.
-/

namespace Interchain

/-- Why the supervisor tells the ticks to end. -/
inductive Verdict where
  | shutdown
  | fault (error : SchedulerError)

/-- The ticks since they were last started. -/
structure Generation where
  /-- When they were started. -/
  since : Nat
  /-- Those that have not ended. -/
  live : List TickKind
  /-- Those that are to fire at the present instant and have not yet. -/
  due : List TickKind
  /-- Their invocations, the oldest first. -/
  inflight : List Invocation
  /-- The errors that the supervisor has not received, the oldest first. -/
  faults : List SchedulerError
  verdict : Option Verdict

namespace Generation

variable (s : Scheduler) (script : Script) (shutdown : Option Nat)

/-- Whether shutdown was requested by an instant. -/
def shutdownBy (now : Nat) : Bool :=
  match shutdown with
  | some t => t ≤ now
  | none => false

/-- Whether a tick fires at an instant.  One without a period never does. -/
def isDue (since now : Nat) (tick : TickKind) : Bool :=
  since < now && (now - since) % (s.settings.interval tick).toNat == 0

/-- The ticks that die because they have no period. -/
def dead : List TickKind :=
  TickKind.all.filter fun tick => s.settings.interval tick == 0

/-- The ticks as they are started. -/
def fresh (now : Nat) : Generation where
  since := now
  live := TickKind.all.filter fun tick => s.settings.interval tick != 0
  due := []
  inflight := []
  faults := []
  verdict := none

/-- The ticks at a later instant. -/
def pass (now : Nat) (g : Generation) : Generation :=
  { g with due := g.live.filter (isDue s g.since now) }

/-- A tick fires. -/
def fire? (tick : TickKind) (g : Generation) (j : Journal) : Option (Generation × Journal) :=
  if tick ∈ g.live ∧ tick ∈ g.due then
    let r := Invocation.start s script tick j
    some ({ g with due := g.due.erase tick, inflight := g.inflight ++ [r.1] }, r.2)
  else none

/-- The `n`-th call that the `i`-th invocation waits for ends. -/
def settle? (i n : Nat) (g : Generation) (j : Journal) : Option (Generation × Journal) :=
  g.inflight[i]?.bind fun v =>
    (v.settle? script n j).map fun r => ({ g with inflight := g.inflight.set i r.1 }, r.2)

/-- A tick learns the outcome of an invocation: an error that it absorbs is only
reported. -/
def deliver (tick : TickKind) (result : TickResult) (g : Generation) (j : Journal) :
    Generation × Journal :=
  match result with
  | .ok () => (g, j)
  | .error e =>
    if e.isTransient && tick.swallowsTransient then (g, j.report (.swallowed tick e))
    else ({ g with faults := g.faults ++ [e] }, j.record (.faulted tick e))

/-- The outcome of the `i`-th invocation reaches its tick. -/
def note? (i : Nat) (g : Generation) (j : Journal) : Option (Generation × Journal) :=
  match g.inflight[i]? with
  | some (.settled tick result) =>
    some (deliver tick result { g with inflight := g.inflight.eraseIdx i } j)
  | _ => none

/-- The supervisor receives an error. -/
def heed? (g : Generation) (j : Journal) : Option (Generation × Journal) :=
  match g.verdict, g.faults with
  | none, e :: rest => some ({ g with faults := rest, verdict := some (.fault e) }, j)
  | _, _ => none

/-- The supervisor stops waiting, because shutdown was requested or because no
tick is left that could hand over an error. -/
def quit? (g : Generation) (j : Journal) : Option (Generation × Journal) :=
  if g.verdict.isNone ∧ (shutdownBy shutdown j.now ∨ g.live = [] ∧ g.faults.isEmpty) then
    some ({ g with verdict := some .shutdown }, j)
  else none

/-- A tick ends and cuts its invocations off, because the supervisor said so or
shutdown was requested. -/
def halt? (tick : TickKind) (g : Generation) (j : Journal) : Option (Generation × Journal) :=
  if tick ∈ g.live ∧ (g.verdict.isSome ∨ shutdownBy shutdown j.now) then
    let own := g.inflight.filter fun i => i.tick = tick
    let others := g.inflight.filter fun i => i.tick ≠ tick
    some ({ g with live := g.live.erase tick, inflight := others },
      own.foldl (fun j i => i.abort j) j)
  else none

/-! ## What it takes for each of them -/

section

variable {s script shutdown} {g : Generation} {j : Journal} {r : Generation × Journal}
variable {tick : TickKind} {i n : Nat}

theorem fire?_eq_some : g.fire? s script tick j = some r ↔
    (tick ∈ g.live ∧ tick ∈ g.due) ∧
      ({ g with
          due := g.due.erase tick
          inflight := g.inflight ++ [(Invocation.start s script tick j).1] },
        (Invocation.start s script tick j).2) = r := by
  simp [fire?]

theorem settle?_eq_some : g.settle? script i n j = some r ↔
    ∃ v, g.inflight[i]? = some v ∧ ∃ w, v.settle? script n j = some w ∧
      ({ g with inflight := g.inflight.set i w.1 }, w.2) = r := by
  simp only [settle?, Option.bind_eq_some_iff, Option.map_eq_some_iff]

theorem note?_eq_some : g.note? i j = some r ↔
    ∃ tick result, g.inflight[i]? = some (.settled tick result) ∧
      deliver tick result { g with inflight := g.inflight.eraseIdx i } j = r := by
  unfold note?
  split
  · rename_i tick result h
    simp only [h, Option.some.injEq, Invocation.settled.injEq]
    exact ⟨fun hr => ⟨tick, result, ⟨rfl, rfl⟩, hr⟩, by rintro ⟨_, _, ⟨rfl, rfl⟩, hr⟩; exact hr⟩
  · rename_i h
    exact ⟨fun hr => by simp at hr, fun ⟨tick, result, hi, _⟩ => absurd hi (h tick result)⟩

theorem heed?_eq_some : g.heed? j = some r ↔
    ∃ e rest, g.verdict = none ∧ g.faults = e :: rest ∧
      ({ g with faults := rest, verdict := some (.fault e) }, j) = r := by
  unfold heed?
  split
  · rename_i e rest hv hf
    simp only [hv, hf, Option.some.injEq, List.cons.injEq, true_and]
    exact ⟨fun hr => ⟨e, rest, ⟨rfl, rfl⟩, hr⟩, by rintro ⟨_, _, ⟨rfl, rfl⟩, hr⟩; exact hr⟩
  · rename_i h
    exact ⟨fun hr => by simp at hr, fun ⟨e, rest, hv, hf, _⟩ => (h e rest hv hf).elim⟩

theorem quit?_eq_some : g.quit? shutdown j = some r ↔
    (g.verdict = none ∧ (shutdownBy shutdown j.now = true ∨ g.live = [] ∧ g.faults = [])) ∧
      ({ g with verdict := some .shutdown }, j) = r := by
  simp [quit?]

theorem halt?_eq_some : g.halt? shutdown tick j = some r ↔
    (tick ∈ g.live ∧ (g.verdict.isSome = true ∨ shutdownBy shutdown j.now = true)) ∧
      ({ g with
          live := g.live.erase tick
          inflight := g.inflight.filter fun i => i.tick ≠ tick },
        (g.inflight.filter fun i => i.tick = tick).foldl (fun j i => i.abort j) j) = r := by
  simp [halt?]

end

end Generation

end Interchain
