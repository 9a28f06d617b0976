import Interchain.Proofs.Scheduler.Growth
import Interchain.Proofs.Scheduler.Rest
import Mathlib.Data.List.Induction
import Mathlib.Data.List.Perm.Basic
import Mathlib.Data.List.ProdSigma

/-!
# Looking for tasks

An invocation that looks for tasks makes one call for each chain and worker, all at once, and
waits until the last of them has settled.  The calls settle in any order, with anything else
happening in between.  Errors that pass and failures that the executor reports do not count;
of the others the one that settles first is the outcome.
-/

namespace Interchain

open Journal

namespace FetchCall

/-- The call ends in an error that does not pass, or breaks down. -/
inductive Fatal (c : FetchCall) : SchedulerError → Prop
  | failed {e} (ending : c.pending.ending = .failed e) (lasts : e.isTransient = false) :
    Fatal c (.executor e)
  | panicked {m} (ending : c.pending.ending = .panicked m) :
    Fatal c (.tickPanicked .fetch (Ending.panicMessage m))

variable {c : FetchCall} {e : SchedulerError}

theorem fatal?_eq_some_iff : c.pending.ending.fatal? = some e ↔ c.Fatal e := by
  constructor
  · intro h
    cases hending : c.pending.ending with
    | returned _ => simp [hending, Ending.fatal?] at h
    | failed error =>
      rw [hending, Ending.fatal?] at h
      simp only [Option.ite_none_left_eq_some, Option.some.injEq, Bool.not_eq_true] at h
      obtain ⟨lasts, rfl⟩ := h
      exact .failed hending lasts
    | panicked m =>
      rw [hending] at h
      obtain rfl := Option.some.inj h
      exact .panicked hending
  · rintro (⟨ending, lasts⟩ | ⟨ending⟩)
    · simp [ending, Ending.fatal?, lasts]
    · rw [ending, Ending.fatal?]

theorem fatal?_eq_none_iff : c.pending.ending.fatal? = none ↔ ∀ e, ¬ c.Fatal e := by
  rw [Option.eq_none_iff_forall_ne_some]
  exact forall_congr' fun e => not_congr fatal?_eq_some_iff

/-! ## The calls that are made -/

/-- A call as it is made at an instant, which is answered as the script says for its chain,
its worker and its number. -/
structure Made (script : Script) (now : Nat) (c : FetchCall) : Prop where
  call : c.pending.call = .run (.fetch c.chain c.worker)
  ending : c.pending.ending = (script.run (.fetch c.chain c.worker) c.pending.index).ending
  due : c.pending.due = now + (script.run (.fetch c.chain c.worker) c.pending.index).delay

/-- The event that the call was made. -/
def beginning (state : SchedulerState) (c : FetchCall) : Event :=
  .began c.pending.call c.pending.index state

theorem beginAll_cons (script : Script) (t : ChainName × WorkerId)
    (rest : List (ChainName × WorkerId)) (j : Journal) :
    beginAll script (t :: rest) j =
      let r := j.begin (.run (.fetch t.1 t.2)) (script.run (.fetch t.1 t.2))
      (⟨t.1, t.2, r.1⟩ :: (beginAll script rest r.2).1, (beginAll script rest r.2).2) := rfl

theorem map_beginAll (script : Script) (targets : List (ChainName × WorkerId)) (j : Journal) :
    (beginAll script targets j).1.map (fun c => (c.chain, c.worker)) = targets := by
  induction targets generalizing j with
  | nil => rfl
  | cons t rest ih => exact congrArg (t :: ·) (ih _)

theorem made_beginAll (script : Script) (targets : List (ChainName × WorkerId)) (j : Journal) :
    ∀ c ∈ (beginAll script targets j).1, c.Made script j.now := by
  induction targets generalizing j with
  | nil => exact nofun
  | cons t rest ih =>
    intro c hc
    rw [beginAll_cons] at hc
    rcases List.mem_cons.mp hc with rfl | hc
    · exact ⟨rfl, rfl, rfl⟩
    · have hmade := ih _ c hc
      exact hmade

theorem history_beginAll (script : Script) (targets : List (ChainName × WorkerId))
    (j : Journal) : (beginAll script targets j).2.history =
      ((beginAll script targets j).1.map fun c => (j.now, c.beginning j.state)).reverse ++
        j.history := by
  induction targets generalizing j with
  | nil => rfl
  | cons t rest ih =>
    rw [beginAll_cons, List.map_cons, List.reverse_cons, List.append_assoc]
    exact ih _

/-- No two calls have the same chain, worker and number. -/
theorem pairwise_beginAll (script : Script) (targets : List (ChainName × WorkerId))
    (j : Journal) :
    (∀ c ∈ (beginAll script targets j).1,
      j.begun (.run (.fetch c.chain c.worker)) ≤ c.pending.index) ∧
    (beginAll script targets j).1.Pairwise fun c d =>
      (c.chain, c.worker, c.pending.index) ≠ (d.chain, d.worker, d.pending.index) := by
  induction targets generalizing j with
  | nil => exact ⟨nofun, .nil⟩
  | cons t rest ih =>
    rw [beginAll_cons]
    let r := j.begin (.run (.fetch t.1 t.2)) (script.run (.fetch t.1 t.2))
    have hr (line : Line) : r.2.begun line =
        if line = .run (.fetch t.1 t.2) then j.begun (.run (.fetch t.1 t.2)) + 1
        else j.begun line := rfl
    obtain ⟨hbegun, hpairwise⟩ := ih r.2
    simp only [hr] at hbegun
    refine ⟨?_, .cons ?_ hpairwise⟩
    · intro c hc
      rcases List.mem_cons.mp hc with rfl | hc
      · exact Nat.le_refl _
      · have hle := hbegun c hc
        split at hle
        · rename_i hline
          rw [hline]
          exact Nat.le_of_succ_le hle
        · exact hle
    · intro d hd hsame
      obtain ⟨hchain, hworker, hindex⟩ : t.1 = d.chain ∧ t.2 = d.worker ∧
          r.1.index = d.pending.index := by simpa using hsame
      have hlt := hbegun d hd
      rw [← hchain, ← hworker, if_pos rfl, ← hindex] at hlt
      exact absurd hlt (Nat.not_succ_le_self _)

theorem length_targets (settings : SchedulerSettings) :
    (targets settings).length = settings.sourceChains.length * settings.workers.length :=
  List.length_product settings.sourceChains settings.workers

theorem getElem?_targets {settings : SchedulerSettings} {i k : Nat} {chain : ChainName}
    {worker : WorkerId} (hi : settings.sourceChains[i]? = some chain)
    (hk : settings.workers[k]? = some worker) :
    (targets settings)[i * settings.workers.length + k]? = some (chain, worker) := by
  unfold targets
  generalize settings.sourceChains = chains at hi ⊢
  induction chains generalizing i with
  | nil => cases hi
  | cons first rest ih =>
    have hlength : (settings.workers.map fun worker => (first, worker)).length =
        settings.workers.length := List.length_map _
    have hlt := (List.getElem?_eq_some_iff.mp hk).1
    rw [List.flatMap_cons]
    cases i with
    | zero =>
      obtain rfl : first = chain := Option.some.inj hi
      rw [Nat.zero_mul, Nat.zero_add, List.getElem?_append_left (hlength ▸ hlt),
        List.getElem?_map, hk, Option.map_some]
    | succ i =>
      have hpast : (i + 1) * settings.workers.length + k =
          settings.workers.length + (i * settings.workers.length + k) := by
        rw [Nat.succ_mul]
        omega
      rw [hpast, List.getElem?_append_right (hlength ▸ Nat.le_add_right _ _), hlength,
        Nat.add_sub_cancel_left]
      exact ih hi

/-- Calls that look for tasks once for each place of a chain and each place of a worker in the
settings.  They are all made at the instant at which the tick fires. -/
structure Cover (settings : SchedulerSettings) (script : Script) (j j' : Journal)
    (calls : List FetchCall) : Prop where
  length : calls.length = settings.sourceChains.length * settings.workers.length
  placed : ∀ i k chain worker, settings.sourceChains[i]? = some chain →
    settings.workers[k]? = some worker →
      ∃ c, calls[i * settings.workers.length + k]? = some c ∧ c.chain = chain ∧ c.worker = worker
  made : ∀ c ∈ calls, c.Made script j.now
  /-- Each call has an answer of its own. -/
  distinct : calls.Pairwise fun c d =>
    (c.chain, c.worker, c.pending.index) ≠ (d.chain, d.worker, d.pending.index)
  /-- No other call is made. -/
  history : j'.history = (calls.map fun c => (j.now, c.beginning j.state)).reverse ++
    (j.now, .fired .fetch) :: j.history

theorem cover_start (s : Scheduler) (script : Script) (j : Journal) :
    ∃ calls, (Invocation.start s script .fetch j).1 = Invocation.fetched calls none ∧
      Cover s.settings script j (Invocation.start s script .fetch j).2 calls := by
  let j₀ := j.record (.fired .fetch)
  have hmap := map_beginAll script (targets s.settings) j₀
  refine ⟨(beginAll script (targets s.settings) j₀).1, rfl, ?_⟩
  constructor
  case length => exact (List.length_map _).symm.trans (hmap ▸ length_targets s.settings)
  case placed =>
    intro i k chain worker hi hk
    have hplace := getElem?_targets hi hk
    rw [← hmap, List.getElem?_map] at hplace
    obtain ⟨c, hc, hsame⟩ := Option.map_eq_some_iff.mp hplace
    exact ⟨c, hc, congrArg Prod.fst hsame, congrArg Prod.snd hsame⟩
  case made => exact made_beginAll script (targets s.settings) j₀
  case distinct => exact (pairwise_beginAll script (targets s.settings) j₀).2
  case history => exact history_beginAll script (targets s.settings) j₀

end FetchCall

namespace Invocation

variable {s : Scheduler} {script : Script} {v w : Invocation} {j : Journal} {n : Nat}
variable {calls done order : List FetchCall} {c : FetchCall}

/-- The calls that looking for tasks still waits for. -/
def awaited : Invocation → List FetchCall
  | .fetching calls _ => calls
  | _ => []

/-- An invocation comes to another when these calls settle one after the other.  Between them
the journal may change in any way. -/
inductive Settles (script : Script) (v : Invocation) : List FetchCall → Invocation → Prop
  | start : Settles script v [] v
  | next {done w n c j r} (before : Settles script v done w) (awaits : w.awaited[n]? = some c)
      (goes : w.settle? script n j = some r) : Settles script v (done ++ [c]) r.1

/-- How looking for tasks by some calls has come out when these have settled in this order. -/
structure Gathers (calls done : List FetchCall) (w : Invocation) : Prop where
  /-- Each call settles once. -/
  once : (done ++ w.awaited).Perm calls
  ended : (∃ result, w = .settled .fetch result) ↔ done.Perm calls
  succeeded : w = .settled .fetch (.ok ()) ↔ done.Perm calls ∧ ∀ c ∈ calls, ∀ e, ¬ c.Fatal e
  /-- The first fatal error is the outcome. -/
  failed : ∀ e, w = .settled .fetch (.error e) ↔ done.Perm calls ∧
    ∃ before c after, done = before ++ c :: after ∧ c.Fatal e ∧ ∀ b ∈ before, ∀ e', ¬ b.Fatal e'

theorem awaited_fetched (calls : List FetchCall) (fatal : Option SchedulerError) :
    (fetched calls fatal).awaited = calls := by
  cases calls <;> rfl

theorem fetched_eq_settled_iff {fatal : Option SchedulerError} {r : TickResult} :
    fetched calls fatal = .settled .fetch r ↔ calls = [] ∧ r = result fatal := by
  cases calls with
  | nil =>
    constructor
    · rintro ⟨⟩
      exact ⟨rfl, rfl⟩
    · rintro ⟨-, rfl⟩
      rfl
  | cons c rest => exact ⟨nofun, fun h => nomatch h.1⟩

/-- What is waited for settles when it is due, and begins no further call. -/
theorem settle?_of_awaited {r : Invocation × Journal} (awaits : w.awaited[n]? = some c)
    (goes : w.settle? script n j = some r) : ∃ fatal, w = .fetching w.awaited fatal ∧
      c.pending.due ≤ j.now ∧
      r = (fetched (w.awaited.eraseIdx n) (fatal.or c.pending.ending.fatal?), c.finish j) := by
  rcases settle?_cases goes with ⟨calls, fatal, d, rfl, hd, hdue, rfl⟩ | ⟨p, rfl, -⟩ |
    ⟨p, rfl, -⟩ | ⟨p, rfl, -⟩
  · obtain rfl : c = d := Option.some.inj (awaits.symm.trans hd)
    exact ⟨fatal, rfl, hdue, rfl⟩
  all_goals cases awaits

/-- What is waited for settles when it is due. -/
theorem exists_settle?_of_awaited (awaits : w.awaited[n]? = some c) (due : c.pending.due ≤ j.now) :
    ∃ r, w.settle? script n j = some r := by
  cases w with
  | fetching calls fatal =>
    refine ⟨(fetched (calls.eraseIdx n) (fatal.or c.pending.ending.fatal?), c.finish j), ?_⟩
    have hn : calls[n]? = some c := awaits
    rw [settle?, hn, Option.bind_some, if_pos due]
  | executing | requesting | configuring | settled => cases awaits

/-- After some calls have settled, those that are left are waited for and the first fatal error
is kept. -/
theorem Settles.eq_fetched (h : Settles script (fetched calls none) done w) :
    (done ++ w.awaited).Perm calls ∧
      w = fetched w.awaited (done.findSome? fun c => c.pending.ending.fatal?) := by
  induction h with
  | start =>
    rw [awaited_fetched]
    exact ⟨.refl _, rfl⟩
  | @next done w n c j r before awaits goes ih =>
    obtain ⟨hperm, hw⟩ := ih
    obtain ⟨fatal, hfetching, -, rfl⟩ := settle?_of_awaited awaits goes
    obtain ⟨hn, hc⟩ := List.getElem?_eq_some_iff.mp awaits
    have hfatal : fatal = done.findSome? fun c => c.pending.ending.fatal? := by
      rw [hfetching] at hw
      obtain ⟨d, rest, hawaited⟩ := List.exists_cons_of_length_pos (Nat.zero_lt_of_lt hn)
      rw [awaited, hawaited] at hw
      exact (Invocation.fetching.inj hw).2
    rw [awaited_fetched, List.findSome?_append, hfatal, List.findSome?_singleton]
    refine ⟨?_, rfl⟩
    rw [List.append_assoc, List.singleton_append, ← hc]
    exact ((List.getElem_cons_eraseIdx_perm hn).append_left done).trans hperm

theorem result_eq_ok_iff {fatal : Option SchedulerError} :
    .ok () = result fatal ↔ fatal = none := by
  cases fatal with
  | none => exact ⟨fun _ => rfl, fun _ => rfl⟩
  | some e => exact ⟨nofun, nofun⟩

theorem result_eq_error_iff {fatal : Option SchedulerError} {e : SchedulerError} :
    .error e = result fatal ↔ fatal = some e := by
  cases fatal with
  | none => exact ⟨nofun, nofun⟩
  | some d =>
    constructor
    · rintro ⟨⟩
      rfl
    · rintro ⟨⟩
      rfl

theorem Settles.gathers (h : Settles script (fetched calls none) done w) :
    Gathers calls done w := by
  obtain ⟨hperm, hw⟩ := h.eq_fetched
  have hawaited : w.awaited = [] ↔ done.Perm calls := by
    constructor
    · intro hnil
      rwa [hnil, List.append_nil] at hperm
    · intro hdone
      have hlength := hperm.length_eq.trans hdone.length_eq.symm
      rw [List.length_append] at hlength
      exact List.eq_nil_of_length_eq_zero (by omega)
  have hended (r : TickResult) : w = .settled .fetch r ↔
      done.Perm calls ∧ r = result (done.findSome? fun c => c.pending.ending.fatal?) := by
    rw [← hawaited, ← fetched_eq_settled_iff, ← hw]
  constructor
  · exact hperm
  · constructor
    · rintro ⟨r, hr⟩
      exact ((hended r).mp hr).1
    · intro hdone
      exact ⟨_, (hended _).mpr ⟨hdone, rfl⟩⟩
  · rw [hended]
    refine and_congr_right fun hdone => ?_
    rw [result_eq_ok_iff, List.findSome?_eq_none_iff]
    refine forall_congr' fun c => ?_
    rw [hdone.mem_iff, FetchCall.fatal?_eq_none_iff]
  · intro e
    rw [hended]
    refine and_congr_right fun hdone => ?_
    simp only [result_eq_error_iff, List.findSome?_eq_some_iff, FetchCall.fatal?_eq_some_iff,
      FetchCall.fatal?_eq_none_iff]

/-- The calls can settle in any order. -/
theorem exists_settles (h : (done ++ order).Perm calls) :
    ∃ w, Settles script (fetched calls none) done w := by
  induction done using List.reverseRecOn generalizing order with
  | nil => exact ⟨_, .start⟩
  | append_singleton done c ih =>
    rw [List.append_assoc] at h
    obtain ⟨w, hw⟩ := ih h
    have hperm := hw.eq_fetched.1
    have hc : c ∈ w.awaited :=
      ((List.perm_append_left_iff done).mp (h.trans hperm.symm)).mem_iff.mp List.mem_cons_self
    obtain ⟨n, hn⟩ := List.getElem?_of_mem hc
    let j : Journal := { Journal.blank with now := c.pending.due }
    have due : c.pending.due ≤ j.now := Nat.le_refl _
    obtain ⟨r, goes⟩ := exists_settle?_of_awaited hn due
    exact ⟨_, .next hw hn goes⟩

theorem tick_fetched (calls : List FetchCall) (fatal : Option SchedulerError) :
    (fetched calls fatal).tick = .fetch := by
  cases calls <;> rfl

/-- What goes on does so for the same tick. -/
theorem tick_settle? {r : Invocation × Journal} (goes : v.settle? script n j = some r) :
    r.1.tick = v.tick := by
  rcases settle?_cases goes with ⟨calls, fatal, c, rfl, -, -, rfl⟩ | ⟨p, rfl, -, -, rfl⟩ |
    ⟨p, rfl, -, -, rfl⟩ | ⟨p, rfl, -, -, rfl⟩
  · exact tick_fetched _ _
  · unfold endExecute
    split <;> rfl
  · unfold endToken
    split <;> rfl
  · unfold endConfigure
    split <;> rfl

/-- Looking for tasks only goes on by a call that is waited for. -/
theorem exists_awaited_of_settle? {r : Invocation × Journal} (fetches : v.tick = .fetch)
    (goes : v.settle? script n j = some r) : ∃ c, v.awaited[n]? = some c := by
  rcases settle?_cases goes with ⟨calls, fatal, c, rfl, hc, -⟩ | ⟨p, rfl, -⟩ | ⟨p, rfl, -⟩ |
    ⟨p, rfl, -⟩
  · exact ⟨c, hc⟩
  all_goals cases fetches

/-- Whatever ends a call that is waited for, it begins no other. -/
theorem Settles.adds {r : Invocation × Journal} (h : Settles script (fetched calls none) done w)
    (goes : w.settle? script n j = some r) :
    (∃ c, w.awaited[n]? = some c ∧ c.pending.due ≤ j.now) ∧ j.Adds Event.isEnding r.2 := by
  have fetches : w.tick = .fetch := h.eq_fetched.2 ▸ tick_fetched _ _
  obtain ⟨c, hc⟩ := exists_awaited_of_settle? fetches goes
  obtain ⟨-, -, hdue, rfl⟩ := settle?_of_awaited hc goes
  exact ⟨⟨c, hc, hdue⟩, c.adds_finish j⟩

end Invocation

/-! ## In a run -/

/-- The invocations of a run that have not been heard of, while ticks go on. -/
def Run.underWay : Run → List Invocation
  | ⟨_, .ticking g⟩ => g.inflight
  | ⟨_, _⟩ => []

theorem Run.exists_ticking_of_mem {r : Run} {v : Invocation} (h : v ∈ r.underWay) :
    ∃ g, r.stage = .ticking g ∧ v ∈ g.inflight := by
  rcases r with ⟨j, stage⟩
  cases stage with
  | ticking g => exact ⟨g, rfl, h⟩
  | checking | starting | ended | crashed => cases h

namespace Generation

variable {s : Scheduler} {script : Script} {shutdown : Option Nat}

/-- Every invocation that looks for tasks has come about by calls that settled. -/
def Gathering (s : Scheduler) (script : Script) (g : Generation) : Prop :=
  ∀ v ∈ g.inflight, v.tick = .fetch →
    ∃ j done, (Invocation.start s script .fetch j).1.Settles script done v

variable {g : Generation} {j : Journal} {tick : TickKind} {i n : Nat}

theorem Gathering.fire (h : g.Gathering s script) :
    Gathering s script { g with
      due := g.due.erase tick
      inflight := g.inflight ++ [(Invocation.start s script tick j).1] } := by
  intro v hv htick
  rcases List.mem_append.mp hv with hv | hv
  · exact h v hv htick
  · obtain rfl := List.mem_singleton.mp hv
    cases tick with
    | fetch => exact ⟨j, [], .start⟩
    | execute | credentialRefresh => cases htick

theorem Gathering.settle {v : Invocation} {w : Invocation × Journal} (h : g.Gathering s script)
    (found : g.inflight[i]? = some v) (goes : v.settle? script n j = some w) :
    Gathering s script { g with inflight := g.inflight.set i w.1 } := by
  intro u hu htick
  rcases List.mem_or_eq_of_mem_set hu with hu | rfl
  · exact h u hu htick
  · have fetches : v.tick = .fetch := (Invocation.tick_settle? goes).symm.trans htick
    obtain ⟨c, hc⟩ := Invocation.exists_awaited_of_settle? fetches goes
    obtain ⟨j₀, done, hdone⟩ := h v (List.mem_of_getElem? found) fetches
    exact ⟨j₀, done ++ [c], .next hdone hc goes⟩

theorem gathering_invariant :
    Invariant s script shutdown fun g _ => g.Gathering s script where
  fresh _ := nofun
  fire h _ _ := h.fire
  settle h found goes := h.settle found goes
  note {g _ i tick result} h _ := by
    obtain ⟨faults, heq⟩ := deliver_eq tick result { g with inflight := g.inflight.eraseIdx i } _
    rw [heq]
    exact fun v hv => h v (List.mem_of_mem_eraseIdx hv)
  heed h _ _ := h
  quit h _ _ := h
  halt h _ _ := fun v hv => h v (List.mem_filter.mp hv).1
  pass h _ := h

end Generation

namespace Invocation

/-- Looking for tasks waits for one call for each place of a chain and each place of a worker.
However they are answered and in whichever order they settle, it ends when all have, and fails
with the first fatal error if there is one.  So the order has no say in whether it fails.  In a
run whatever looks for tasks has come about in this way. -/
theorem fetch_gathers (s : Scheduler) (script : Script) :
    (∀ j, ∃ calls, FetchCall.Cover s.settings script j (start s script .fetch j).2 calls ∧
      (∀ done w, Settles script (start s script .fetch j).1 done w → Gathers calls done w ∧
        ∀ n j' r, w.settle? script n j' = some r →
          (∃ c, w.awaited[n]? = some c ∧ c.pending.due ≤ j'.now) ∧ j'.Adds Event.isEnding r.2) ∧
      (∀ order, order.Perm calls →
        ∃ w, Settles script (start s script .fetch j).1 order w) ∧
      ∀ order order' w w', order.Perm calls → order'.Perm calls →
        Settles script (start s script .fetch j).1 order w →
        Settles script (start s script .fetch j).1 order' w' →
          (w = .settled .fetch (.ok ()) ↔ w' = .settled .fetch (.ok ()))) ∧
    ∀ shutdown r, Run.Possible s script shutdown r → ∀ v ∈ r.underWay, v.tick = .fetch →
      ∃ j done, Settles script (start s script .fetch j).1 done v := by
  constructor
  · intro j
    obtain ⟨calls, hstart, hcover⟩ := FetchCall.cover_start s script j
    rw [hstart]
    refine ⟨calls, hcover, ?_, ?_, ?_⟩
    · intro done w h
      exact ⟨h.gathers, fun n j' r goes => h.adds goes⟩
    · intro order horder
      have hall : (order ++ []).Perm calls := by rwa [List.append_nil]
      exact exists_settles hall
    · intro order order' w w' horder horder' h h'
      rw [h.gathers.succeeded, h'.gathers.succeeded, and_iff_right horder, and_iff_right horder']
  · intro shutdown r possible v hv
    obtain ⟨g, hstage, hv⟩ := Run.exists_ticking_of_mem hv
    exact Generation.gathering_invariant.holds possible g hstage v hv

/-- Tasks are looked for on three chains every millisecond. -/
def threeChains : Scheduler :=
  { Scheduler.sample with
    settings := { SchedulerSettings.standard with
      sourceChains := [⟨"Khala"⟩, ⟨"Moonbeam"⟩, ⟨"AstarEvm"⟩]
      workers := [⟨"w0"⟩]
      fetchInterval := 1 } }

/-- On the first chain looking for tasks breaks down, on the second it is refused, and the
connection to the third is reset. -/
def mixed : Script :=
  { Script.quiet with
    run := fun mode _ =>
      if mode = .fetch ⟨"Khala"⟩ ⟨"w0"⟩ then ⟨1, .panicked none⟩
      else if mode = .fetch ⟨"Moonbeam"⟩ ⟨"w0"⟩ then ⟨1, .failed (.rejected "run" "paused")⟩
      else ⟨1, .failed (.transport (.transient .connectionReset "read ECONNRESET"))⟩ }

/-- The order decides which error is the outcome. -/
theorem fetch_gathers_mixed :
    (∃ a b c w w',
      Settles mixed (start threeChains mixed .fetch .blank).1 [c, b, a] w ∧
      w = .settled .fetch (.error (.executor (.rejected "run" "paused"))) ∧
      Settles mixed (start threeChains mixed .fetch .blank).1 [c, a, b] w' ∧
      w' = .settled .fetch (.error (.tickPanicked .fetch "unknown panic"))) ∧
    ∃ r v, Run.Possible threeChains mixed none r ∧ v ∈ r.underWay ∧ v.tick = .fetch ∧
      ∃ j done, Settles mixed (start threeChains mixed .fetch j).1 done v := by
  obtain ⟨gathers, inRun⟩ := fetch_gathers threeChains mixed
  constructor
  · obtain ⟨calls, cover, settled, orders, -⟩ := gathers .blank
    have hlength : calls.length = 3 := cover.length
    obtain ⟨a, b, c, rfl⟩ := List.length_eq_three.mp hlength
    obtain ⟨_, ⟨⟩, hachain, haworker⟩ := cover.placed 0 0 _ _ rfl rfl
    obtain ⟨_, ⟨⟩, hbchain, hbworker⟩ := cover.placed 1 0 _ _ rfl rfl
    obtain ⟨_, ⟨⟩, hcchain, hcworker⟩ := cover.placed 2 0 _ _ rfl rfl
    have ha := (cover.made a (by simp)).ending
    have hb := (cover.made b (by simp)).ending
    have hc := (cover.made c (by simp)).ending
    rw [hachain, haworker] at ha
    rw [hbchain, hbworker] at hb
    rw [hcchain, hcworker] at hc
    have panics : a.Fatal (.tickPanicked .fetch "unknown panic") := .panicked ha
    have refused : b.Fatal (.executor (.rejected "run" "paused")) := .failed hb rfl
    have passes : ∀ d ∈ [c], ∀ e, ¬ d.Fatal e := by
      intro d hd e hfatal
      obtain rfl := List.mem_singleton.mp hd
      cases hfatal with
      | failed ending lasts =>
        obtain rfl := Ending.failed.inj (hc.symm.trans ending)
        cases lasts
      | panicked ending => cases hc.symm.trans ending
    have horder : [c, b, a].Perm [a, b, c] := List.reverse_perm [a, b, c]
    have horder' : [c, a, b].Perm [a, b, c] := @List.perm_append_comm _ [c] [a, b]
    obtain ⟨w, hw⟩ := orders _ horder
    obtain ⟨w', hw'⟩ := orders _ horder'
    refine ⟨a, b, c, w, w', hw, ?_, hw', ?_⟩
    · exact ((settled _ w hw).1.failed _).mpr ⟨horder, [c], b, [a], rfl, refused, passes⟩
    · exact ((settled _ w' hw').1.failed _).mpr ⟨horder', [c], a, [b], rfl, panics, passes⟩
  · let r := Run.upTo threeChains mixed none 1
    have possible : Run.Possible threeChains mixed none r := (Run.possible_upTo 1).1
    have hfetching : (r.underWay.any fun v => v.tick == .fetch) = true := by decide +kernel
    obtain ⟨v, hv, htick⟩ := List.any_eq_true.mp hfetching
    have htick : v.tick = .fetch := beq_iff_eq.mp htick
    exact ⟨r, v, possible, hv, htick, inRun none r possible v hv htick⟩

end Invocation

end Interchain
