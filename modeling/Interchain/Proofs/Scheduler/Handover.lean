import Interchain.Proofs.Scheduler.Cadence

/-!
# In which order tokens are handed over

Each time its tick fires, a refresh requests a token, and it hands the token to the
executor as soon as the request is answered, without regard to other refreshes that are
under way (`Generation.Handing`).  So tokens are handed over in the order in which the
requests for them are answered.  That is the order in which the refreshes were fired only
if no request is overtaken by a later one: a slow answer brings an older token to the
executor after a newer one.
-/

namespace Interchain

namespace Event

/-- The number of a request for a token that begins. -/
def requested? : Event → Option Nat
  | .began .accessToken k _ => some k
  | _ => none

/-- The number of a request that is answered with a token. -/
def answered? : Event → Option Nat
  | .finished .accessToken k .ok => some k
  | _ => none

/-- A token that is handed to the executor. -/
def configured? : Event → Option String
  | .began (.configure token) _ _ => some token
  | _ => none

/-- Nothing by which a refresh goes on. -/
def isAside (e : Event) : Bool :=
  e.isSteady && e.requested?.isNone && e.configured?.isNone &&
    e.fired? != some .credentialRefresh

theorem isAside_of_isEnding {e : Event} (h : e.isEnding = true) : e.isAside = true := by
  cases e <;> simp_all [isEnding, isAside, isSteady, entered?, requested?, configured?, fired?]

theorem isAside_of_isCycle {e : Event} (h : e.isCycle = true) : e.isAside = true := by
  cases e with
  | began call n state =>
    cases call <;> simp_all [isCycle, isAside, isSteady, entered?, requested?, configured?, fired?]
  | _ => cases h

theorem isSteady_of_isAside {e : Event} (h : e.isAside = true) : e.isSteady = true := by
  simp only [isAside, Bool.and_eq_true] at h
  exact h.1.1.1

end Event

/-- A token that was handed to the executor. -/
structure Handover where
  time : Nat
  /-- The number of the request that was answered with the token. -/
  request : Nat
  token : String
deriving DecidableEq

namespace Journal

/-- The requests for tokens by number and time, the latest first. -/
def requests (history : List (Nat × Event)) : List (Nat × Nat) :=
  history.filterMap fun e => e.2.requested?.map fun k => (k, e.1)

/-- The tokens that were handed to the executor, the latest first. -/
def tokens (history : List (Nat × Event)) : List String :=
  history.filterMap fun e => e.2.configured?

/-- A token that is handed over right after a request was answered with it. -/
def handover? (e : Nat × Event) (past : List (Nat × Event)) : Option Handover :=
  e.2.configured?.bind fun token =>
    (past.head?.bind fun d => d.2.answered?).map fun request => ⟨e.1, request, token⟩

/-- The tokens that were handed over with the requests for them, the latest first. -/
def handovers : List (Nat × Event) → List Handover
  | [] => []
  | e :: past => (handover? e past).toList ++ handovers past

/-- Refreshes request tokens when they are fired, and hand each over at the instant at
which the request is answered. -/
structure Handing (script : Script) (done : List (Nat × Event)) : Prop where
  /-- One request is made whenever a refresh is fired. -/
  fired : (requests done).map Prod.snd = firings .credentialRefresh done
  numbered : (requests done).Pairwise fun later earlier => earlier.1 < later.1
  /-- No token is handed over that was not answered. -/
  handed : (handovers done).map Handover.token = tokens done
  /-- Each is handed over as soon as the request for it is answered. -/
  prompt : ∀ d ∈ handovers done, ∃ t, (d.request, t) ∈ requests done ∧
    (script.accessToken d.request).ending = .returned d.token ∧
    d.time = t + (script.accessToken d.request).delay
  ordered : (handovers done).Pairwise fun later earlier => earlier.time ≤ later.time

variable {new past : List (Nat × Event)}

theorem requests_of_isAside (h : ∀ e ∈ new, e.2.isAside = true) :
    requests (new ++ past) = requests past := by
  have hnone : requests new = [] := by
    rw [requests, List.filterMap_eq_nil_iff]
    intro e he
    have haside := h e he
    simp only [Event.isAside, Bool.and_eq_true, Option.isNone_iff_eq_none] at haside
    simp [haside.1.1.2]
  rw [requests, List.filterMap_append, ← requests, ← requests, hnone, List.nil_append]

theorem tokens_of_isAside (h : ∀ e ∈ new, e.2.isAside = true) :
    tokens (new ++ past) = tokens past := by
  have hnone : tokens new = [] := by
    rw [tokens, List.filterMap_eq_nil_iff]
    intro e he
    have haside := h e he
    simp only [Event.isAside, Bool.and_eq_true, Option.isNone_iff_eq_none] at haside
    exact haside.1.2
  rw [tokens, List.filterMap_append, ← tokens, ← tokens, hnone, List.nil_append]

theorem handovers_of_isAside (h : ∀ e ∈ new, e.2.isAside = true) :
    handovers (new ++ past) = handovers past := by
  induction new with
  | nil => rfl
  | cons e rest ih =>
    have haside := h e List.mem_cons_self
    simp only [Event.isAside, Bool.and_eq_true, Option.isNone_iff_eq_none] at haside
    have hnone : handover? e (rest ++ past) = none := by
      rw [handover?, haside.1.2, Option.bind_none]
    rw [List.cons_append, handovers, hnone, ih fun d hd => h d (List.mem_cons_of_mem _ hd)]
    rfl

theorem firings_of_isAside (h : ∀ e ∈ new, e.2.isAside = true) :
    firings .credentialRefresh (new ++ past) = firings .credentialRefresh past := by
  have hnone : firings .credentialRefresh new = [] := by
    rw [firings, List.map_eq_nil_iff, List.filter_eq_nil_iff]
    intro e he
    have haside := h e he
    simp only [Event.isAside, Bool.and_eq_true, bne_iff_ne] at haside
    simpa using haside.2
  rw [firings_append, hnone, List.nil_append]

/-- More is done, but no refresh goes on. -/
theorem Handing.append {script : Script} (h : Handing script past)
    (haside : ∀ e ∈ new, e.2.isAside = true) : Handing script (new ++ past) := by
  constructor
  · rw [requests_of_isAside haside, firings_of_isAside haside]
    exact h.fired
  · rw [requests_of_isAside haside]
    exact h.numbered
  · rw [handovers_of_isAside haside, tokens_of_isAside haside]
    exact h.handed
  · rw [handovers_of_isAside haside, requests_of_isAside haside]
    exact h.prompt
  · rw [handovers_of_isAside haside]
    exact h.ordered

/-- A request was made once, so it is known when. -/
theorem Handing.time_eq {script : Script} {d : Handover} {t : Nat} (h : Handing script past)
    (hd : d ∈ handovers past) (ht : (d.request, t) ∈ requests past) :
    d.time = t + (script.accessToken d.request).delay := by
  have hnodup : ((requests past).map Prod.fst).Nodup :=
    (h.numbered.imp fun hlt => Nat.ne_of_gt hlt).map Prod.fst fun _ _ hne => hne
  obtain ⟨t', ht', -, htime⟩ := h.prompt d hd
  have hsame := List.inj_on_of_nodup_map hnodup ht ht' rfl
  rw [(Prod.mk.inj hsame).2]
  exact htime

end Journal

open Journal

/-- Requests under way are answered when the script says. -/
structure Generation.Handing (script : Script) (g : Generation) (j : Journal) : Prop where
  done : Journal.Handing script (generation j.history)
  counted : ∀ q ∈ requests (generation j.history), q.1 < j.begun .accessToken
  reached : ∀ d ∈ handovers (generation j.history), d.time ≤ j.now
  waiting : ∀ p, .requesting p ∈ g.inflight → p.call = .accessToken ∧
    p.ending = (script.accessToken p.index).ending ∧
    ∃ t, (p.index, t) ∈ requests (generation j.history) ∧
      p.due = t + (script.accessToken p.index).delay ∧ j.now ≤ p.due

namespace Generation

variable {s : Scheduler} {script : Script} {shutdown : Option Nat} {g g' : Generation}
variable {j j' : Journal} {i n : Nat}

theorem handing_fresh (j : Journal) : (fresh s j.now).Handing script (j.enter .running) := by
  have hnone : generation (j.enter .running).history = [] := rfl
  constructor
  · rw [hnone]
    exact ⟨rfl, List.Pairwise.nil, rfl, nofun, List.Pairwise.nil⟩
  · rw [hnone]
    exact nofun
  · rw [hnone]
    exact nofun
  · intro p hp
    cases hp

/-- No refresh goes on, though some may end. -/
theorem Handing.keep (h : g.Handing script j) (hj : j.Adds Event.isAside j')
    (hinflight : ∀ p, .requesting p ∈ g'.inflight → .requesting p ∈ g.inflight) :
    g'.Handing script j' := by
  obtain ⟨new, hgeneration, -, hnew⟩ := hj.generation_eq Event.isSteady_of_isAside
  have haside : ∀ e ∈ new, e.2.isAside = true := fun e he => (hnew e he).2
  have hrequests : requests (generation j'.history) = requests (generation j.history) := by
    rw [hgeneration, requests_of_isAside haside]
  have hhandovers : handovers (generation j'.history) = handovers (generation j.history) := by
    rw [hgeneration, handovers_of_isAside haside]
  constructor
  · rw [hgeneration]
    exact h.done.append haside
  · rw [hrequests]
    intro q hq
    exact Nat.lt_of_lt_of_le (h.counted q hq) (hj.begun _)
  · rw [hhandovers, hj.now]
    exact h.reached
  · rw [hrequests, hj.now]
    intro p hp
    exact h.waiting p (hinflight p hp)

/-- A refresh that is fired requests a token. -/
theorem Handing.request (h : g.Handing script j) :
    Handing script
      { g with
        due := g.due.erase .credentialRefresh
        inflight := g.inflight ++ [(Invocation.start s script .credentialRefresh j).1] }
      (Invocation.start s script .credentialRefresh j).2 := by
  have hgeneration : generation (Invocation.start s script .credentialRefresh j).2.history =
      (j.now, .began .accessToken (j.begun .accessToken) j.state) ::
        (j.now, .fired .credentialRefresh) :: generation j.history := by
    simp [Invocation.start, begin, generation, Event.entered?, Call.line]
  have hrequests :
      requests (generation (Invocation.start s script .credentialRefresh j).2.history) =
        (j.begun .accessToken, j.now) :: requests (generation j.history) := by
    rw [hgeneration]
    rfl
  have hhandovers :
      handovers (generation (Invocation.start s script .credentialRefresh j).2.history) =
        handovers (generation j.history) := by
    rw [hgeneration]
    rfl
  constructor
  · constructor
    · rw [hrequests, hgeneration, List.map_cons, h.done.fired]
      rfl
    · rw [hrequests]
      exact List.Pairwise.cons h.counted h.done.numbered
    · rw [hhandovers, hgeneration]
      exact h.done.handed
    · rw [hhandovers, hrequests]
      intro d hd
      obtain ⟨t, ht, hending⟩ := h.done.prompt d hd
      exact ⟨t, List.mem_cons_of_mem _ ht, hending⟩
    · rw [hhandovers]
      exact h.done.ordered
  · rw [hrequests]
    intro q hq
    have hbegun : (Invocation.start s script .credentialRefresh j).2.begun .accessToken =
        j.begun .accessToken + 1 := rfl
    rw [hbegun]
    rcases List.mem_cons.mp hq with rfl | hq
    · exact Nat.lt_succ_self _
    · exact Nat.lt_succ_of_lt (h.counted q hq)
  · rw [hhandovers]
    exact h.reached
  · rw [hrequests]
    intro p hp
    rcases List.mem_append.mp hp with hp | hp
    · obtain ⟨hcall, hending, t, ht, hdue⟩ := h.waiting p hp
      exact ⟨hcall, hending, t, List.mem_cons_of_mem _ ht, hdue⟩
    · obtain rfl := Invocation.requesting.inj (List.mem_singleton.mp hp)
      exact ⟨rfl, rfl, j.now, List.mem_cons_self, rfl, Nat.le_add_right _ _⟩

/-- A refresh whose request is answered with a token hands it over at once. -/
theorem Handing.handOver {p : Pending CredentialError String} {token : String}
    (h : g.Handing script j) (found : g.inflight[i]? = some (.requesting p)) (due : p.due ≤ j.now)
    (answered : p.ending = .returned token) :
    Handing script { g with inflight := g.inflight.set i (Invocation.endToken script p j).1 }
      (Invocation.endToken script p j).2 := by
  obtain ⟨hcall, hending, t, ht, hdue, hnow⟩ := h.waiting p (List.mem_of_getElem? found)
  have hgeneration : generation (Invocation.endToken script p j).2.history =
      (j.now, .began (.configure token) (j.begun .configure) j.state) ::
        (j.now, .finished .accessToken p.index .ok) :: generation j.history := by
    simp [Invocation.endToken, answered, begin, finish, generation, Event.entered?, Call.line,
      Ending.tokenKind, Ending.kind, hcall]
  have hrequests : requests (generation (Invocation.endToken script p j).2.history) =
      requests (generation j.history) := by
    rw [hgeneration]
    rfl
  have hhandovers : handovers (generation (Invocation.endToken script p j).2.history) =
      ⟨j.now, p.index, token⟩ :: handovers (generation j.history) := by
    rw [hgeneration]
    rfl
  have hadds : j.Adds Event.isWork (Invocation.endToken script p j).2 :=
    Invocation.works_endToken script p j
  constructor
  · constructor
    · rw [hrequests, hgeneration]
      exact h.done.fired
    · rw [hrequests]
      exact h.done.numbered
    · rw [hhandovers, hgeneration, List.map_cons, h.done.handed]
      rfl
    · rw [hhandovers, hrequests]
      intro d hd
      rcases List.mem_cons.mp hd with rfl | hd
      · refine ⟨t, ht, hending.symm.trans answered, ?_⟩
        rw [← hdue]
        exact Nat.le_antisymm hnow due
      · exact h.done.prompt d hd
    · rw [hhandovers]
      exact List.Pairwise.cons h.reached h.done.ordered
  · rw [hrequests]
    intro q hq
    exact Nat.lt_of_lt_of_le (h.counted q hq) (hadds.begun _)
  · rw [hhandovers, hadds.now]
    intro d hd
    rcases List.mem_cons.mp hd with rfl | hd
    · exact Nat.le_refl _
    · exact h.reached d hd
  · rw [hrequests, hadds.now]
    intro q hq
    rcases List.mem_or_eq_of_mem_set hq with hq | hq
    · exact h.waiting q hq
    · simp [Invocation.endToken, answered] at hq

theorem Handing.settle {v : Invocation} {w : Invocation × Journal} (h : g.Handing script j)
    (found : g.inflight[i]? = some v) (goes : v.settle? script n j = some w) :
    Handing script { g with inflight := g.inflight.set i w.1 } w.2 := by
  -- an invocation that does not wait for a request any more
  have ends {w : Invocation × Journal} (hw : j.Adds Event.isEnding w.2)
      (hne : ∀ p, w.1 ≠ .requesting p) :
      Handing script { g with inflight := g.inflight.set i w.1 } w.2 := by
    refine h.keep (hw.mono Event.isAside_of_isEnding) ?_
    intro p hp
    rcases List.mem_or_eq_of_mem_set hp with hp | hp
    · exact hp
    · exact absurd hp.symm (hne p)
  rcases Invocation.settle?_cases goes with ⟨calls, fatal, c, rfl, -, -, rfl⟩ |
    ⟨p, rfl, -, -, rfl⟩ | ⟨p, rfl, -, due, rfl⟩ | ⟨p, rfl, -, -, rfl⟩
  · refine ends (FetchCall.adds_finish c j) ?_
    intro p
    unfold Invocation.fetched
    split <;> exact Invocation.noConfusion
  · refine ends (Invocation.adds_endExecute p j) ?_
    intro q
    unfold Invocation.endExecute
    split <;> exact Invocation.noConfusion
  · cases hending : p.ending with
    | returned token => exact h.handOver found due hending
    | failed e =>
      refine ends ?_ ?_
      · simp only [Invocation.endToken, hending]
        exact adds_finish _ _
      · simp [Invocation.endToken, hending]
    | panicked m =>
      refine ends ?_ ?_
      · simp only [Invocation.endToken, hending]
        exact adds_finish _ _
      · simp [Invocation.endToken, hending]
  · refine ends (Invocation.adds_endConfigure p j) ?_
    intro q
    unfold Invocation.endConfigure
    split <;> exact Invocation.noConfusion

theorem Handing.fire {tick : TickKind} (h : g.Handing script j) :
    Handing script
      { g with
        due := g.due.erase tick
        inflight := g.inflight ++ [(Invocation.start s script tick j).1] }
      (Invocation.start s script tick j).2 := by
  cases tick with
  | fetch =>
    refine h.keep ((adds_fired .fetch rfl).trans
      ((FetchCall.adds_beginAll _ _ _).mono Event.isAside_of_isCycle)) ?_
    intro p hp
    rcases List.mem_append.mp hp with hp | hp
    · exact hp
    · simp only [Invocation.start, Invocation.fetched, List.mem_singleton] at hp
      split at hp <;> cases hp
  | execute =>
    refine h.keep ((adds_fired .execute rfl).trans (adds_begin _ (script.run .execute) rfl)) ?_
    intro p hp
    rcases List.mem_append.mp hp with hp | hp
    · exact hp
    · cases List.mem_singleton.mp hp
  | credentialRefresh => exact h.request

theorem handing (s : Scheduler) (script : Script) (shutdown : Option Nat) :
    Invariant s script shutdown (Handing script) where
  fresh j := handing_fresh j
  fire h _ _ := h.fire
  settle h found goes := h.settle found goes
  note h _ := by
    refine h.keep (adds_deliver _ _ _ _ (fun _ => rfl) fun _ => rfl) ?_
    intro p hp
    obtain ⟨faults, hdeliver⟩ := deliver_eq _ _ _ _
    rw [hdeliver] at hp
    exact List.mem_of_mem_eraseIdx hp
  heed h _ _ := h.keep (.refl _) fun _ hp => hp
  quit h _ _ := h.keep (.refl _) fun _ hp => hp
  halt h _ _ :=
    h.keep ((Invocation.adds_abortAll _ _).mono Event.isAside_of_isEnding)
      fun _ hp => (List.mem_filter.mp hp).1
  pass {g j} h rest := by
    refine ⟨h.done, h.counted, fun d hd => Nat.le_succ_of_le (h.reached d hd), ?_⟩
    intro p hp
    obtain ⟨hcall, hending, t, ht, hdue, -⟩ := h.waiting p hp
    exact ⟨hcall, hending, t, ht, hdue, rest.pending _ hp p.due List.mem_cons_self⟩

end Generation

namespace Run

variable {s : Scheduler} {script : Script} {shutdown : Option Nat} {r : Run}
variable {since till : Nat} {span past : List (Nat × Event)}

theorem Stretch.handing (h : Possible s script shutdown r)
    (stretch : Stretch r since span past till) : Journal.Handing script span := by
  obtain ⟨j, g, possible, closes⟩ := stretch.closes h
  obtain ⟨reports, hspan, hending⟩ := closes.done
  have haside : ∀ e ∈ reports, e.2.isAside = true := by
    intro e he
    exact Event.isAside_of_isEnding (hending e he)
  have done := ((Generation.handing s script shutdown).holds possible g rfl).done
  rw [hspan]
  exact done.append haside

/-- In a stretch each refresh requests a token when it is fired and hands it over as
soon as the request is answered.  So of two refreshes that both come to hand a token
over, the one whose request is answered first does so first, and that is the one that was
fired first if its request takes no longer than the other's. -/
theorem handovers_of_run (h : Possible s script shutdown r)
    (stretch : Stretch r since span past till) :
    Journal.Handing script span ∧
    ∀ d ∈ handovers span, ∀ d' ∈ handovers span, ∀ t t',
      (d.request, t) ∈ requests span → (d'.request, t') ∈ requests span →
      d.time = t + (script.accessToken d.request).delay ∧
      d'.time = t' + (script.accessToken d'.request).delay ∧
      (t < t' → (script.accessToken d.request).delay ≤ (script.accessToken d'.request).delay →
        d.time < d'.time) := by
  have handing := stretch.handing h
  refine ⟨handing, ?_⟩
  intro d hd d' hd' t t' ht ht'
  have htime := handing.time_eq hd ht
  have htime' := handing.time_eq hd' ht'
  refine ⟨htime, htime', ?_⟩
  intro hfired hdelay
  omega

theorem handovers_of_quiet_run :
    ∃ r span past, Possible (.paced 1000 1000 5) .quiet (some 12) r ∧
      Stretch r 0 span past 12 ∧ (handovers span).map Handover.time = [10, 5] ∧
      Journal.Handing .quiet span := by
  let r := upTo (.paced 1000 1000 5) .quiet (some 12) 12
  have possible : Possible (.paced 1000 1000 5) .quiet (some 12) r := (possible_upTo 12).1
  have htill : lastChange r.journal.history = some (12, .terminated) := by decide +kernel
  have hsince : lastChange (earlier r.journal.history) = some (0, .running) := by decide +kernel
  have stretch := stretch_of_lastChange htill hsince
  exact ⟨r, _, _, possible, stretch, by decide +kernel, (handovers_of_run possible stretch).1⟩

/-- Requests for tokens are answered at once but for the first, which takes longer than
the period of the refreshes. -/
def overtaken : Script :=
  { Script.quiet with
    accessToken := fun k => if k = 0 then ⟨8, .returned "old"⟩ else ⟨0, .returned "new"⟩ }

/-- The token of a refresh reaches the executor after that of one that was fired later. -/
theorem older_token_last :
    ∃ r span past, Possible (.paced 1000 1000 5) overtaken (some 14) r ∧
      Stretch r 0 span past 14 ∧ requests span = [(1, 10), (0, 5)] ∧
      handovers span = [⟨13, 0, "old"⟩, ⟨10, 1, "new"⟩] := by
  let r := upTo (.paced 1000 1000 5) overtaken (some 14) 14
  have possible : Possible (.paced 1000 1000 5) overtaken (some 14) r := (possible_upTo 14).1
  have htill : lastChange r.journal.history = some (14, .terminated) := by decide +kernel
  have hsince : lastChange (earlier r.journal.history) = some (0, .running) := by decide +kernel
  exact ⟨r, _, _, possible, stretch_of_lastChange htill hsince, by decide +kernel,
    by decide +kernel⟩

end Run

end Interchain
