import Interchain.Proofs.Scheduler.Possible

/-!
# What is over before time passes

Time passes only when nothing more can happen at an instant.  By then ticks that are
due have fired, calls that are due have ended, and no error waits for the supervisor
nor has it been told to stop (`Generation.AtRest`).  So whatever is due at an instant
happens at that instant, and so does all that follows when the supervisor decides to
end the ticks.
-/

namespace Interchain

namespace Invocation

variable {i : Invocation} {j : Journal}

/-- A call that is due can end. -/
theorem exists_settle?_of_due (script : Script) {t : Nat} (ht : t ∈ i.dues) (hdue : t ≤ j.now) :
    ∃ n r, i.settle? script n j = some r := by
  cases i with
  | fetching calls fatal =>
    obtain ⟨c, hc, rfl⟩ := List.mem_map.mp ht
    obtain ⟨n, hn⟩ := List.getElem?_of_mem hc
    exact ⟨n, _, by simp only [settle?, hn, Option.bind_some, if_pos hdue]; rfl⟩
  | executing p =>
    obtain rfl := List.mem_singleton.mp ht
    exact ⟨0, _, if_pos ⟨rfl, hdue⟩⟩
  | requesting p =>
    obtain rfl := List.mem_singleton.mp ht
    exact ⟨0, _, if_pos ⟨rfl, hdue⟩⟩
  | configuring p =>
    obtain rfl := List.mem_singleton.mp ht
    exact ⟨0, _, if_pos ⟨rfl, hdue⟩⟩
  | settled tick result => cases ht

end Invocation

/-- Ticks wait for time to pass, and so does the supervisor. -/
structure Generation.AtRest (shutdown : Option Nat) (g : Generation) (j : Journal) : Prop where
  /-- The supervisor has not told the ticks to end. -/
  verdict : g.verdict = none
  /-- No error waits for it. -/
  faults : g.faults = []
  /-- Shutdown has not been requested. -/
  going : shutdownBy shutdown j.now = false
  /-- All ticks that were due have fired. -/
  fired : ∀ tick ∈ g.live, tick ∉ g.due
  /-- All calls that were due have ended. -/
  pending : ∀ i ∈ g.inflight, ∀ t ∈ i.dues, j.now < t

namespace Run

variable {s : Scheduler} {script : Script} {shutdown : Option Nat} {g : Generation} {j : Journal}

theorem not_still_starting : ¬Still s script shutdown ⟨j, .starting⟩ := by
  intro still
  exact still .start _ .start

/-- Ticks that have been told to end do so before time passes. -/
theorem verdict_eq_none_of_still (still : Still s script shutdown ⟨j, .ticking g⟩) :
    g.verdict = none := by
  cases hv : g.verdict with
  | none => rfl
  | some v =>
    cases hlive : g.live with
    | nil => exact absurd (.conclude hlive hv) (still .conclude _)
    | cons tick rest =>
      have htick : tick ∈ g.live := hlive ▸ List.mem_cons_self
      exact absurd (.halt htick (.inl (hv ▸ rfl))) (still (.halt tick) _)

theorem atRest_of_still (still : Still s script shutdown ⟨j, .ticking g⟩) :
    g.AtRest shutdown j := by
  have hverdict := verdict_eq_none_of_still still
  refine ⟨hverdict, ?_, ?_, ?_, ?_⟩
  · cases hfaults : g.faults with
    | nil => rfl
    | cons e rest => exact absurd (.heed hverdict hfaults) (still .heed _)
  · cases hs : Generation.shutdownBy shutdown j.now with
    | false => rfl
    | true => exact absurd (.quit hverdict (.inl hs)) (still .quit _)
  · intro tick live due
    exact still (.fire tick) _ (.fire live due)
  · intro i hi t ht
    apply Nat.lt_of_not_le
    intro hdue
    obtain ⟨k, hk⟩ := List.getElem?_of_mem hi
    obtain ⟨n, r, goes⟩ := Invocation.exists_settle?_of_due script ht hdue
    exact still (.settle k n) _ (.settle hk goes)

end Run

/-! ## Invariants of ticks -/

/-- What holds of ticks when they are started and is kept by whatever happens while they
go on, and by time when it passes. -/
structure Generation.Invariant (s : Scheduler) (script : Script) (shutdown : Option Nat)
    (P : Generation → Journal → Prop) : Prop where
  fresh (j : Journal) : P (fresh s j.now) (j.enter .running)
  fire {g j tick} (h : P g j) (live : tick ∈ g.live) (due : tick ∈ g.due) :
    P { g with
        due := g.due.erase tick
        inflight := g.inflight ++ [(Invocation.start s script tick j).1] }
      (Invocation.start s script tick j).2
  settle {g j i n v w} (h : P g j) (found : g.inflight[i]? = some v)
    (goes : v.settle? script n j = some w) : P { g with inflight := g.inflight.set i w.1 } w.2
  note {g j i tick result} (h : P g j) (found : g.inflight[i]? = some (.settled tick result)) :
    P (deliver tick result { g with inflight := g.inflight.eraseIdx i } j).1
      (deliver tick result { g with inflight := g.inflight.eraseIdx i } j).2
  heed {g j e rest} (h : P g j) (waits : g.verdict = none) (queued : g.faults = e :: rest) :
    P { g with faults := rest, verdict := some (.fault e) } j
  quit {g j} (h : P g j) (waits : g.verdict = none)
    (ended : shutdownBy shutdown j.now = true ∨ g.live = [] ∧ g.faults = []) :
    P { g with verdict := some .shutdown } j
  halt {g j tick} (h : P g j) (live : tick ∈ g.live)
    (told : g.verdict.isSome = true ∨ shutdownBy shutdown j.now = true) :
    P { g with
        live := g.live.erase tick
        inflight := g.inflight.filter fun i => i.tick ≠ tick }
      ((g.inflight.filter fun i => i.tick = tick).foldl (fun j i => i.abort j) j)
  pass {g j} (h : P g j) (rest : g.AtRest shutdown j) :
    P (g.pass s (j.now + 1)) { j with now := j.now + 1 }

namespace Run

variable {s : Scheduler} {script : Script} {shutdown : Option Nat} {g : Generation} {j : Journal}

theorem stage_check_ne (p : Pending ExecutorError Bool) : (check s p j).stage ≠ .ticking g := by
  unfold check
  split <;> exact Stage.noConfusion

theorem stage_conclude_ne (v : Verdict) : (conclude s v j).stage ≠ .ticking g := by
  cases v with
  | shutdown => exact Stage.noConfusion
  | fault e => cases he : e.isTransient <;> simp [conclude, he, terminate]

end Run

/-- An invariant of ticks holds whenever ticks go on. -/
theorem Generation.Invariant.holds {s : Scheduler} {script : Script} {shutdown : Option Nat}
    {P : Generation → Journal → Prop} (inv : Generation.Invariant s script shutdown P) {r : Run}
    (h : Run.Possible s script shutdown r) : ∀ g, r.stage = .ticking g → P g r.journal := by
  induction h with
  | first => exact fun g hstage => nomatch hstage
  | move before happens ih =>
    cases happens with
    | answer ended => exact fun g hstage => absurd hstage (Run.stage_check_ne _)
    | start =>
      rintro _ ⟨⟩
      exact inv.fresh _
    | fire live due =>
      rintro _ ⟨⟩
      exact inv.fire (ih _ rfl) live due
    | settle found goes =>
      rintro _ ⟨⟩
      exact inv.settle (ih _ rfl) found goes
    | note found =>
      rintro _ ⟨⟩
      exact inv.note (ih _ rfl) found
    | heed waits queued =>
      rintro _ ⟨⟩
      exact inv.heed (ih _ rfl) waits queued
    | quit waits ended =>
      rintro _ ⟨⟩
      exact inv.quit (ih _ rfl) waits ended
    | halt live told =>
      rintro _ ⟨⟩
      exact inv.halt (ih _ rfl) live told
    | conclude ended told => exact fun g hstage => absurd hstage (Run.stage_conclude_ne _)
  | @pass r before going still ih =>
    rcases r with ⟨j, stage⟩
    cases stage with
    | ticking g =>
      rintro _ ⟨⟩
      exact inv.pass (ih g rfl) (Run.atRest_of_still still)
    | checking p => exact fun g hstage => nomatch hstage
    | starting => exact fun g hstage => nomatch hstage
    | ended result => cases going
    | crashed message => cases going

end Interchain
