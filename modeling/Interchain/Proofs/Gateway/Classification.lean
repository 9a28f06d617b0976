import Interchain.Handler
import Interchain.KeyStore
import Interchain.Proofs.Gateway.Transaction
import Interchain.Registry.Client
import Interchain.Scheduler.Error

/-!
# What a reply means

Under a success status a reply to a query is the contract's own answer, or it cannot be read.
Under another one its text tells whether the fault passes.  The clients of the contracts take
over what a call failed with: a transport error stays what it is on its way to the scheduler,
and nothing that a contract answers becomes one.
-/

namespace Interchain

open TransportError

/-- One of the markers occurs in the text. -/
def Mentions (text : String) (markers : List String) : Prop :=
  ∃ m ∈ markers, m.toList <:+: text.toList

namespace TransportError

variable {text : String}

theorem occursIn_go_iff {part : List Char} (whole : List Char) :
    occursIn.go part whole = true ↔ part <:+: whole := by
  induction whole with
  | nil => rw [occursIn.go, List.isEmpty_iff, List.infix_nil]
  | cons c rest ih =>
    rw [occursIn.go, Bool.or_eq_true, List.isPrefixOf_iff_prefix, ih, List.infix_cons_iff]

theorem any_occursIn_iff {markers : List String} :
    (markers.any fun m => occursIn m text) = true ↔ Mentions text markers := by
  rw [List.any_eq_true]
  exact exists_congr fun m => and_congr_right fun _ => occursIn_go_iff text.toList

/-- Whatever else it mentions, a text that mentions an answer that was not decoded is
about that. -/
theorem classify?_of_decode (h : Mentions text decodeMarkers) :
    classify? text = some .undecodedBody :=
  if_pos (any_occursIn_iff.mpr h)

theorem classify?_of_not_decode (h : ¬ Mentions text decodeMarkers) :
    classify? text =
      if resetMarkers.any fun m => occursIn m text then some .connectionReset else none :=
  if_neg fun hany => h (any_occursIn_iff.mp hany)

theorem classify?_of_reset (hd : ¬ Mentions text decodeMarkers) (h : Mentions text resetMarkers) :
    classify? text = some .connectionReset :=
  (classify?_of_not_decode hd).trans (if_pos (any_occursIn_iff.mpr h))

theorem classify?_of_not_reset (hd : ¬ Mentions text decodeMarkers)
    (h : ¬ Mentions text resetMarkers) : classify? text = none :=
  (classify?_of_not_decode hd).trans (if_neg fun hany => h (any_occursIn_iff.mp hany))

end TransportError

namespace ContractClient

variable {ε α : Type} {c : ContractClient} {code : Codec ε} {value : Codec α} {url : Url}
  {status : Nat} {text place : String}

/-! ## Replies to queries -/

/-- The status reports success. -/
def IsSuccess (status : Nat) : Prop :=
  200 ≤ status ∧ status < 300

/-- What comes of a query by the status and the text of its reply, and by the place at which
reading the text stops if it cannot be read. -/
inductive Means (code : Codec ε) (value : Codec α) (url : Url) (status : Nat)
    (text place : String) : Except (CallError ε) α → Prop
  | accepted {a : α} (success : IsSuccess status)
    (reads : (Codec.outcome code value).ofText text = .ok (.ok a)) :
    Means code value url status text place (.ok a)
  | rejected {k : ε} (success : IsSuccess status)
    (reads : (Codec.outcome code value).ofText text = .ok (.error k)) :
    Means code value url status text place (.error (.contract k))
  | garbled {fault} (success : IsSuccess status)
    (reads : (Codec.outcome code value).ofText text = .error fault) :
    Means code value url status text place (.error (.transport (.transient .undecodedBody
      ("undecodable response from " ++ url.render ++ ": " ++ fault.message ++ place))))
  | undecoded (failing : ¬ IsSuccess status) (decode : Mentions text decodeMarkers) :
    Means code value url status text place (.error (.transport (.transient .undecodedBody text)))
  | reset (failing : ¬ IsSuccess status) (decode : ¬ Mentions text decodeMarkers)
    (reset : Mentions text resetMarkers) :
    Means code value url status text place (.error (.transport (.transient .connectionReset text)))
  | failed (failing : ¬ IsSuccess status) (decode : ¬ Mentions text decodeMarkers)
    (reset : ¬ Mentions text resetMarkers) :
    Means code value url status text place (.error (.transport (.http url.render status text)))

theorem body_of_success (h : IsSuccess status) :
    body url (.answer status text place) = .ok text :=
  if_pos h

theorem body_of_failing (h : ¬ IsSuccess status) :
    body url (.answer status text place) =
      match classify? text with
      | some kind => .error (.transient kind text)
      | none => .error (.http url.render status text) :=
  if_neg h

/-- Every reply means something, and the query comes to this. -/
theorem means_verdict : Means code value url status text place
    (verdict (readReply (.outcome code value) url (.answer status text place))) := by
  by_cases hs : IsSuccess status
  case pos =>
    rw [readReply, body_of_success hs, Attempt.ok_bind]
    rcases hread : (Codec.outcome code value).ofText text with fault | k | a
    · exact .garbled hs hread
    · exact .rejected hs hread
    · exact .accepted hs hread
  case neg =>
    rw [readReply, body_of_failing hs]
    by_cases hd : Mentions text decodeMarkers
    case pos =>
      rw [classify?_of_decode hd]
      exact .undecoded hs hd
    case neg =>
      by_cases hr : Mentions text resetMarkers
      case pos =>
        rw [classify?_of_reset hd hr]
        exact .reset hs hd hr
      case neg =>
        rw [classify?_of_not_reset hd hr]
        exact .failed hs hd hr

/-- No reply means anything but what the query comes to. -/
theorem Means.eq_verdict {outcome : Except (CallError ε) α}
    (h : Means code value url status text place outcome) :
    outcome = verdict (readReply (.outcome code value) url (.answer status text place)) := by
  cases h with
  | accepted success reads | rejected success reads | garbled success reads =>
    rw [readReply, body_of_success success, Attempt.ok_bind, reads]
    rfl
  | undecoded failing decode =>
    rw [readReply, body_of_failing failing, classify?_of_decode decode]
    rfl
  | reset failing decode reset =>
    rw [readReply, body_of_failing failing, classify?_of_reset decode reset]
    rfl
  | failed failing decode reset =>
    rw [readReply, body_of_failing failing, classify?_of_not_reset decode reset]
    rfl

/-- A query asks once and comes to what the reply means. -/
theorem run_query_iff {g : Gateway} {sent : List Request} {method : String} {args : Json}
    (h : c.address? .query = some url)
    (hreply : g (sent ++ [⟨url, c.unlimited method args⟩]) = .answer status text place)
    (outcome : Except (CallError ε) α) :
    (c.query method args code value).run g sent =
        (outcome, sent ++ [⟨url, c.unlimited method args⟩]) ↔
      Means code value url status text place outcome := by
  obtain ⟨hurl, hs⟩ := address?_eq_some.mp h
  have hrun : (c.query method args code value).run g sent =
      (verdict (readReply (.outcome code value) url (.answer status text place)),
        sent ++ [⟨url, c.unlimited method args⟩]) := by
    simp only [query, Exchange.run_bind, run_post hurl hs, hreply]
    rfl
  rw [hrun, Prod.mk.injEq, and_iff_left rfl]
  constructor
  · rintro rfl
    exact means_verdict
  · intro hmeans
    exact hmeans.eq_verdict.symm

end ContractClient

/-! ## Clients that go on from a call -/

/-- A client makes the requests of a call and takes over what the call failed with on the way:
its own transport errors are just those of the call. -/
structure Exchange.TakesOver {ε η α β : Type} (x : Exchange (Except (CallError ε) α))
    (transport : TransportError → η) (y : Exchange (Except η β)) : Prop where
  requests : ∀ g sent, (y.run g sent).2 = (x.run g sent).2
  faults : ∀ g sent e,
    (y.run g sent).1 = .error (transport e) ↔ (x.run g sent).1 = .error (.transport e)

section Clients

variable {ε η α β : Type} {transport : TransportError → η} {x : Exchange (Except (CallError ε) α)}

/-- A client that works on the outcome of a call takes its transport errors over, if it does so
with every outcome. -/
theorem Exchange.takesOver_of_outcome {f : Except (CallError ε) α → Except η β}
    (h : ∀ r e, f r = .error (transport e) ↔ r = .error (.transport e)) :
    x.TakesOver transport (x >>= fun r => pure (f r)) where
  requests g sent := congrArg Prod.snd (run_bind g sent x _)
  faults g sent e := by
    rw [run_bind, run_pure]
    exact h _ e

variable {f : CallError ε → η}

/-- Failures are named anew, and just the transport errors get the names of those. -/
theorem mapError_eq_transport (h : ∀ failure e, f failure = transport e ↔ failure = .transport e)
    (r : Except (CallError ε) α) (e : TransportError) :
    r.mapError f = .error (transport e) ↔ r = .error (.transport e) := by
  rw [Attempt.mapError_eq_error]
  constructor
  · rintro ⟨failure, hr, hf⟩
    rw [hr, (h failure e).mp hf]
  · intro hr
    exact ⟨_, hr, (h _ e).mpr rfl⟩

theorem Exchange.takesOver_mapError
    (h : ∀ failure e, f failure = transport e ↔ failure = .transport e) :
    x.TakesOver transport (x >>= fun r => pure (r.mapError f)) :=
  takesOver_of_outcome (mapError_eq_transport h)

/-- What becomes of a success makes no difference. -/
theorem Exchange.takesOver_map {k : α → β}
    (h : ∀ failure e, f failure = transport e ↔ failure = .transport e) :
    x.TakesOver transport (x >>= fun r => pure ((r.mapError f).map k)) :=
  takesOver_of_outcome fun r e => Attempt.map_eq_error.trans (mapError_eq_transport h r e)

end Clients

theorem ExecutorError.ofCall_eq_transport {method : String} (failure : CallError Json)
    (e : TransportError) : ofCall method failure = .transport e ↔ failure = .transport e := by
  cases failure <;> simp [ofCall]

/-- Only a transport error on the way to the executor passes. -/
theorem ExecutorError.transientKind?_eq_some {error : ExecutorError} {kind : TransientKind} :
    error.transientKind? = some kind ↔ ∃ message, error = .transport (.transient kind message) := by
  rcases error with ⟨method, code⟩ | e
  · simp [transientKind?]
  · cases e <;> simp [transientKind?, TransportError.transientKind?]

/-- None of the names of refusals is that of a transport error. -/
theorem RegistryError.ofCode_ne_transport (code : Json) (e : TransportError) :
    ofCode code ≠ .transport e := by
  have hnamed : ∀ n ∈ named, n.2 ≠ .transport e := by
    simp [named]
  unfold ofCode
  split
  · next n hn => exact hnamed n (List.mem_of_find?_eq_some hn)
  · exact RegistryError.noConfusion

theorem RegistryError.ofCall_eq_transport (failure : CallError Json) (e : TransportError) :
    ofCall failure = .transport e ↔ failure = .transport e := by
  cases failure with
  | contract code => simp [ofCall, ofCode_ne_transport]
  | transport e' => simp [ofCall]

theorem Executor.takesOver_query {α : Type} (c : ContractClient) (method : String)
    (items : List Json) (value : Codec α) :
    (c.query method (args items) Codec.opaqueValue value).TakesOver ExecutorError.transport
      (query c method items value) :=
  Exchange.takesOver_mapError ExecutorError.ofCall_eq_transport

theorem Executor.takesOver_transaction (c : ContractClient) (method : String)
    (items : List Json) :
    (c.transaction method (args items) Codec.opaqueValue).TakesOver ExecutorError.transport
      (transaction c method items) :=
  Exchange.takesOver_map ExecutorError.ofCall_eq_transport

theorem RegistryClient.takesOver_register (c : ContractClient) (r : Registration) :
    (c.transaction r.method (Json.array r.args).canonical Codec.opaqueValue).TakesOver
      RegistryError.transport (register c r) :=
  Exchange.takesOver_map RegistryError.ofCall_eq_transport

theorem RegistryClient.takesOver_getGraph (c : ContractClient) :
    (c.query "get_graph" (.array []) Codec.opaqueValue Graph.codec).TakesOver
      RegistryError.transport (getGraph c) :=
  Exchange.takesOver_mapError RegistryError.ofCall_eq_transport

theorem HandlerClient.takesOver_submit (h : HandlerClient) (method : String)
    (items : List Json) :
    (h.contract.transaction method (.array items) Codec.opaqueValue).TakesOver
      HandlerError.transport (h.submit method items) := by
  refine Exchange.takesOver_mapError ?_
  rintro (code | e') e <;> simp

theorem KeyStore.takesOver_setExecutor (c : ContractClient) (executor : ContractId) :
    (c.transaction "set_executor" (.array [Name.codec.write executor])
      Codec.opaqueValue).TakesOver KeyStoreError.transport (setExecutor c executor) := by
  refine Exchange.takesOver_mapError ?_
  rintro (code | e') e <;> simp

/-- A cycle fails just with the transport errors of its query.  What the contract rejects is
an outcome of the cycle as what it accepts is. -/
theorem Executor.run_runCycle (c : ContractClient) (mode : RunningMode) (g : Gateway)
    (sent : List Request) :
    let call := (c.query "run" (args [RunningMode.codec.write mode]) Codec.opaqueValue
      Codec.opaqueValue).run g sent
    let run := (runCycle c mode).run g sent
    run.2 = call.2 ∧
    (∀ error, run.1 = .error error ↔ ∃ e, error = .transport e ∧ call.1 = .error (.transport e)) ∧
    (∀ reason, run.1 = .ok (.error reason) ↔ call.1 = .error (.contract reason)) ∧
    ∀ output, run.1 = .ok (.ok output) ↔ call.1 = .ok output := by
  intro call run
  rcases hcall : call with ⟨(reason | e) | output, sent'⟩ <;>
    simp only [call] at hcall <;>
    simp [run, runCycle, hcall, eq_comm]

/-- A call to the executor has failed for a passing reason just if it failed with a transport
error that passes.  A scheduler takes the error for what it is. -/
theorem ExecutorError.transientKind?_ofCall {method : String} {failure : CallError Json}
    {kind : TransientKind} :
    (ofCall method failure).transientKind? = some kind ↔
      ∃ message, failure = .transport (.transient kind message) := by
  rw [transientKind?_eq_some]
  exact exists_congr fun message => ofCall_eq_transport failure _

namespace ContractClient

/-- The clients of a contract take over the transport errors of their calls. -/
structure Carries (c : ContractClient) : Prop where
  executorQuery : ∀ (α : Type) (method : String) (items : List Json) (value : Codec α),
    (c.query method (Executor.args items) Codec.opaqueValue value).TakesOver
      ExecutorError.transport (Executor.query c method items value)
  executorTransaction : ∀ (method : String) (items : List Json),
    (c.transaction method (Executor.args items) Codec.opaqueValue).TakesOver
      ExecutorError.transport (Executor.transaction c method items)
  register : ∀ r : Registration,
    (c.transaction r.method (Json.array r.args).canonical Codec.opaqueValue).TakesOver
      RegistryError.transport (RegistryClient.register c r)
  getGraph :
    (c.query "get_graph" (.array []) Codec.opaqueValue Graph.codec).TakesOver
      RegistryError.transport (RegistryClient.getGraph c)
  submit : ∀ (chain : ChainName) (method : String) (items : List Json),
    (c.transaction method (.array items) Codec.opaqueValue).TakesOver
      HandlerError.transport (HandlerClient.submit ⟨chain, c⟩ method items)
  setExecutor : ∀ executor : ContractId,
    (c.transaction "set_executor" (.array [Name.codec.write executor])
      Codec.opaqueValue).TakesOver KeyStoreError.transport (KeyStore.setExecutor c executor)

theorem carries (c : ContractClient) : c.Carries where
  executorQuery _ method items value := Executor.takesOver_query c method items value
  executorTransaction method items := Executor.takesOver_transaction c method items
  register r := RegistryClient.takesOver_register c r
  getGraph := RegistryClient.takesOver_getGraph c
  submit chain method items := HandlerClient.takesOver_submit ⟨chain, c⟩ method items
  setExecutor executor := KeyStore.takesOver_setExecutor c executor

/-- A query comes to what its reply means by its status and the text of its body.  The clients
of the contract take over the transport errors of their calls and have no others, and neither
the executor's client nor a scheduler reports a passing fault unless a transport error is one.
A cycle of the executor fails just with transport errors, and what the contract rejects is an
outcome of it. -/
theorem replies_classified {ε α : Type} (c : ContractClient) (g : Gateway) (sent : List Request)
    (method : String) (args : Json) (code : Codec ε) (value : Codec α) :
    (∀ url status text place, c.address? .query = some url →
      g (sent ++ [⟨url, c.unlimited method args⟩]) = .answer status text place →
      ∀ outcome, (c.query method args code value).run g sent =
          (outcome, sent ++ [⟨url, c.unlimited method args⟩]) ↔
        Means code value url status text place outcome) ∧
    c.Carries ∧
    (∀ method failure kind,
      ((ExecutorError.ofCall method failure).transientKind? = some kind ↔
        ∃ message, failure = .transport (.transient kind message)) ∧
      ((SchedulerError.executor (.ofCall method failure)).transientKind? = some kind ↔
        ∃ message, failure = .transport (.transient kind message))) ∧
    ∀ mode : RunningMode,
      let call := (c.query "run" (Executor.args [RunningMode.codec.write mode])
        Codec.opaqueValue Codec.opaqueValue).run g sent
      let run := (Executor.runCycle c mode).run g sent
      run.2 = call.2 ∧
      (∀ error, run.1 = .error error ↔
        ∃ e, error = .transport e ∧ call.1 = .error (.transport e)) ∧
      (∀ reason, run.1 = .ok (.error reason) ↔ call.1 = .error (.contract reason)) ∧
      ∀ output, run.1 = .ok (.ok output) ↔ call.1 = .ok output := by
  refine ⟨?query, c.carries, ?kind, ?cycle⟩
  case query =>
    intro url status text place h hreply outcome
    exact run_query_iff h hreply outcome
  case kind =>
    intro method failure kind
    exact ⟨ExecutorError.transientKind?_ofCall, ExecutorError.transientKind?_ofCall⟩
  case cycle => exact fun mode => Executor.run_runCycle c mode g sent

/-- A fault that mentions both is one of decoding. -/
theorem replies_classified_sample :
    let text := "createType(InkResponse):: read ECONNRESET"
    (sample.query "run" (.array []) Codec.opaqueValue Codec.opaqueValue).run
        (fun _ => .answer 500 text "") [] =
      (.error (.transport (.transient .undecodedBody text)),
        [⟨sampleAddress .query, "//Alice", "run", .array [], none, none⟩]) := by
  intro text
  obtain ⟨hquery, -⟩ := replies_classified sample (fun _ => .answer 500 text "") [] "run"
    (.array []) Codec.opaqueValue Codec.opaqueValue
  have hfailing : ¬ IsSuccess 500 := fun h => absurd h.2 (by decide)
  have hdecode : Mentions text decodeMarkers := any_occursIn_iff.mp (by decide)
  apply (hquery (sampleAddress .query) 500 text "" (by decide +kernel) rfl _).mpr
  exact .undecoded hfailing hdecode

end ContractClient

end Interchain
