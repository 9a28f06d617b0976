import Interchain.Proofs.Gateway.Transaction

/-!
# Exchanges that stop at the first failure

A plan lists the requests that an exchange is to send, each with the replies that serve it.
An exchange that follows a plan sends its requests in order and goes on after every reply that
serves.  It ends before the plan does only with a fault: after a reply that does not serve, or
before a request that has no address.
-/

namespace Interchain

/-- A request about a contract as it is planned, with the replies that serve it. -/
structure Step where
  client : ContractClient
  action : Action
  method : String
  args : Json
  serves : Reply → Prop

namespace Step

/-- A request is what a step plans.  Only what is sent for good has limits. -/
structure Asks (s : Step) (r : Request) : Prop where
  url : s.client.address? s.action = some r.url
  origin : r.call.origin = s.client.origin
  method : r.call.method = s.method
  args : r.call.args = s.args
  limited : r.call.gasLimit.isSome = decide (s.action = .tx)

variable {α ε : Type}

/-- A step that is served by a reply with a value that is accepted. -/
def reading (c : ContractClient) (action : Action) (method : String) (args : Json)
    (codec : Codec α) (accepted : α → Prop) : Step :=
  ⟨c, action, method, args, fun reply => ∃ a, reply.Holds codec a ∧ accepted a⟩

/-- A reply does not serve if no value can be read from it, or one that is not accepted. -/
theorem not_serves_reading {c : ContractClient} {action : Action} {method : String} {args : Json}
    {codec : Codec α} {accepted : α → Prop} {reply : Reply} :
    ¬ (reading c action method args codec accepted).serves reply ↔
      (∀ a, ¬ reply.Holds codec a) ∨ ∃ a, reply.Holds codec a ∧ ¬ accepted a := by
  constructor
  · intro h
    by_cases hread : ∃ a, reply.Holds codec a
    case pos =>
      obtain ⟨a, ha⟩ := hread
      exact .inr ⟨a, ha, fun hok => h ⟨a, ha, hok⟩⟩
    case neg => exact .inl (not_exists.mp hread)
  · rintro (hnone | ⟨a, ha, hbad⟩) ⟨b, hb, hok⟩
    · exact hnone b hb
    · rw [ContractClient.holds_unique hb ha] at hok
      exact hbad hok

/-- A query, whose value is accepted. -/
def check (c : ContractClient) (method : String) (args : Json) (code : Codec ε)
    (value : Codec α) (accepted : α → Prop) : Step :=
  reading c .query method args (.outcome code value) fun outcome =>
    ∃ a, outcome = .ok a ∧ accepted a

/-- A query of which any value will do. -/
def query (c : ContractClient) (method : String) (args : Json) (code : Codec ε)
    (value : Codec α) : Step :=
  check c method args code value fun _ => True

/-- The two requests of a transaction: an estimate by which the contract would accept the call,
and a receipt. -/
def transaction (c : ContractClient) (method : String) (args : Json) (code : Codec ε) :
    List Step :=
  [reading c .estimate method args (CostEstimate.codec code) fun e => ∃ j, e.result = .ok j,
   reading c .tx method args (.outcome code TxReceipt.codec) fun outcome => ∃ r, outcome = .ok r]

end Step

/-- An exchange sends the requests of a plan one after the other, as long as they are served.  It
gives up at one that is not served or has no address, and nowhere else. -/
inductive Exchange.Follows {ε α : Type} : List Step → Exchange (Except ε α) → Prop
  | finished (a : α) : Follows [] (.done (.ok a))
  | unaddressed {step : Step} {plan : List Step} (address : step.client.address? step.action = none)
      (e : ε) : Follows (step :: plan) (.done (.error e))
  | send {step : Step} {plan : List Step} {r : Request} {next : Reply → Exchange (Except ε α)}
      (asks : step.Asks r)
      (served : ∀ reply, step.serves reply → Follows plan (next reply))
      (unserved : ∀ reply, ¬ step.serves reply → ∃ e, next reply = .done (.error e)) :
      Follows (step :: plan) (.send r next)

/-! ## Following a plan -/

namespace Exchange.Follows

variable {α β ε ε' : Type} {xs ys : List Step}

/-- Two exchanges one after the other follow their plans one after the other, if the second
does not go on from a fault. -/
theorem andThen {x : Exchange (Except ε α)} {k : Except ε α → Exchange (Except ε' β)}
    (h : Follows xs x) (hok : ∀ a, Follows ys (k (.ok a)))
    (herr : ∀ e, ∃ e', k (.error e) = .done (.error e')) : Follows (xs ++ ys) (x >>= k) := by
  -- Along the first exchange: a fault in it leaves the whole second plan undone as well.
  induction h with
  | finished a => exact hok a
  | @unaddressed step plan address e =>
    obtain ⟨e', he'⟩ := herr e
    change Follows (step :: plan ++ ys) (k (.error e))
    rw [he']
    exact unaddressed address e'
  | send asks _ unserved ih =>
    refine send asks ih fun reply hreply => ?_
    obtain ⟨e, he⟩ := unserved reply hreply
    obtain ⟨e', he'⟩ := herr e
    exact ⟨e', (congrArg (Exchange.andThen k) he).trans he'⟩

/-- The result may be worked on, if it stays a success or a fault as it was. -/
theorem mapResult {x : Exchange (Except ε α)} {f : Except ε α → Except ε' β} (h : Follows xs x)
    (hok : ∀ a, ∃ b, f (.ok a) = .ok b) (herr : ∀ e, ∃ e', f (.error e) = .error e') :
    Follows xs (x >>= fun r => pure (f r)) := by
  have hdone : ∀ a, Follows [] (pure (f (.ok a))) := by
    intro a
    obtain ⟨b, hb⟩ := hok a
    rw [hb]
    exact finished b
  have hstop : ∀ e, ∃ e', (pure (f (.error e)) : Exchange _) = .done (.error e') := by
    intro e
    obtain ⟨e', he'⟩ := herr e
    exact ⟨e', congrArg Exchange.done he'⟩
  simpa only [List.append_nil] using h.andThen (k := fun r => pure (f r)) hdone hstop

end Exchange.Follows

namespace ContractClient

open Exchange (Follows)

variable {α β ε ε' : Type} {c : ContractClient} {rest : List Step}

/-- A request whose reply is read, and which is gone on from where what is read is accepted. -/
theorem follows_post {action : Action} (call : CallRequest) {codec : Codec α}
    {accepted : α → Prop} {k : Except TransportError α → Exchange (Except ε β)}
    (horigin : call.origin = c.origin) (hlimited : call.gasLimit.isSome = decide (action = .tx))
    (hok : ∀ a, accepted a → Follows rest (k (.ok a)))
    (hbad : ∀ a, ¬ accepted a → ∃ e, k (.ok a) = .done (.error e))
    (herr : ∀ e, ∃ e', k (.error e) = .done (.error e')) :
    Follows (Step.reading c action call.method call.args codec accepted :: rest)
      (c.post action call codec >>= k) := by
  cases haddress : c.address? action with
  | none =>
    obtain ⟨e, hpost⟩ := post_of_none haddress call codec
    obtain ⟨e', hstop⟩ := herr e
    rw [hpost, pure_bind, hstop]
    exact .unaddressed haddress e'
  | some url =>
    rw [post_of_some haddress]
    refine .send ⟨haddress, horigin, rfl, rfl, hlimited⟩ ?served ?unserved
    case served =>
      rintro reply ⟨a, ha, hacc⟩
      have hread : readReply codec url reply = .ok a := readReply_eq_ok.mpr ha
      change Follows rest (k (readReply codec url reply))
      rw [hread]
      exact hok a hacc
    case unserved =>
      intro reply hunserved
      change ∃ e, k (readReply codec url reply) = _
      cases hread : readReply codec url reply with
      | error e => exact herr e
      | ok a => exact hbad a fun hacc => hunserved ⟨a, readReply_eq_ok.mp hread, hacc⟩

variable {method : String} {args : Json} {code : Codec ε}

/-- A query whose value is looked at, and which is gone on from where that is accepted. -/
theorem follows_check {value : Codec α} {accepted : α → Prop}
    {k : Except (CallError ε) α → Exchange (Except ε' β)}
    (hok : ∀ a, accepted a → Follows rest (k (.ok a)))
    (hbad : ∀ a, ¬ accepted a → ∃ e, k (.ok a) = .done (.error e))
    (herr : ∀ e, ∃ e', k (.error e) = .done (.error e')) :
    Follows (Step.check c method args code value accepted :: rest)
      (c.query method args code value >>= k) := by
  rw [query, bind_assoc]
  refine follows_post (c.unlimited method args) rfl rfl ?_ ?_ fun e => herr (.transport e)
  · rintro _ ⟨a, rfl, hacc⟩
    exact hok a hacc
  · rintro (rejection | a) hunaccepted
    · exact herr (.contract rejection)
    · exact hbad a fun hacc => hunaccepted ⟨a, rfl, hacc⟩

theorem follows_query {value : Codec α} {k : Except (CallError ε) α → Exchange (Except ε' β)}
    (hok : ∀ a, Follows rest (k (.ok a)))
    (herr : ∀ e, ∃ e', k (.error e) = .done (.error e')) :
    Follows (Step.query c method args code value :: rest)
      (c.query method args code value >>= k) :=
  follows_check (fun a _ => hok a) (fun _ h => absurd trivial h) herr

/-- The second request of a transaction. -/
theorem follows_tx (gas : UInt64) (deposit : Option (BitVec 128)) :
    Follows [Step.reading c .tx method args (.outcome code TxReceipt.codec)
        fun outcome => ∃ r, outcome = .ok r]
      (c.post .tx ⟨c.origin, method, args, some gas, deposit⟩ (.outcome code TxReceipt.codec) >>=
        fun outcome => pure (verdict outcome)) := by
  refine follows_post ⟨c.origin, method, args, some gas, deposit⟩ rfl rfl ?_ ?_
    fun e => ⟨.transport e, rfl⟩
  · rintro _ ⟨receipt, rfl⟩
    exact .finished receipt
  · rintro (rejection | receipt) hrejected
    · exact ⟨.contract rejection, rfl⟩
    · exact absurd ⟨receipt, rfl⟩ hrejected

theorem follows_transaction :
    Follows (Step.transaction c method args code) (c.transaction method args code) := by
  refine follows_post (c.unlimited method args) rfl rfl ?_ ?_ fun e => ⟨.transport e, rfl⟩
  · rintro e ⟨j, hj⟩
    simp only [hj]
    exact follows_tx e.gasRequired e.storageDeposit
  · intro e hrejected
    cases hresult : e.result with
    | error code => exact ⟨.contract code, by simp only [hresult]; rfl⟩
    | ok j => exact absurd ⟨j, hresult⟩ hrejected

end ContractClient

/-! ## Runs -/

/-- The requests of a run against a gateway that has received others before are the first of a
plan, up to one that is not served or the last before one without an address. -/
structure StopsAtFailure (g : Gateway) (before : List Request) (plan : List Step)
    (asked : List Request) (success : Prop) : Prop where
  /-- What is asked is what was planned, in the same order. -/
  planned : ∀ (i : Nat) (r : Request), asked[i]? = some r →
    ∃ step : Step, plan[i]? = some step ∧ step.Asks r
  /-- After a request that is not served no other is sent, and the run fails. -/
  stops : ∀ (i : Nat) (step : Step), i < asked.length → plan[i]? = some step →
    ¬ step.serves (g (before ++ asked.take (i + 1))) → asked.length = i + 1 ∧ ¬ success
  /-- A request that was planned is left out only if it has no address, or after one that is not
  served. -/
  short : ∀ step : Step, plan[asked.length]? = some step →
    step.client.address? step.action = none ∨
      ∃ (i : Nat) (last : Step), asked.length = i + 1 ∧ plan[i]? = some last ∧
        ¬ last.serves (g (before ++ asked))
  /-- The run succeeds exactly if the whole plan is carried out and served. -/
  succeeds : success ↔ asked.length = plan.length ∧
    ∀ (i : Nat) (step : Step), plan[i]? = some step →
      step.serves (g (before ++ asked.take (i + 1)))

namespace StopsAtFailure

variable {g : Gateway} {before asked : List Request} {plan : List Step} {success : Prop}

/-- A run at the end of its plan. -/
theorem done (h : success) : StopsAtFailure g before [] [] success where
  planned i r hr := by simp at hr
  stops i step hi := by simp at hi
  short step hstep := by simp at hstep
  succeeds := iff_of_true h ⟨rfl, fun i step hstep => by simp at hstep⟩

/-- A run whose first request has no address. -/
theorem unaddressed {step : Step} (address : step.client.address? step.action = none)
    (h : ¬ success) : StopsAtFailure g before (step :: plan) [] success where
  planned i r hr := by simp at hr
  stops i step hi := by simp at hi
  short s hs := .inl (Option.some.inj hs ▸ address)
  succeeds := iff_of_false h fun hall => absurd hall.1 (Nat.succ_ne_zero _).symm

/-- A run whose first request is not served. -/
theorem unserved {step : Step} {r : Request} (asks : step.Asks r)
    (hunserved : ¬ step.serves (g (before ++ [r]))) (h : ¬ success) :
    StopsAtFailure g before (step :: plan) [r] success where
  planned
    | 0, q, hq => ⟨step, rfl, by simpa [← Option.some.inj hq] using asks⟩
    | i + 1, q, hq => by simp at hq
  stops i _ hi _ _ := ⟨by simp at hi ⊢; omega, h⟩
  short _ _ := .inr ⟨0, step, rfl, rfl, hunserved⟩
  succeeds := iff_of_false h fun hall => hunserved (hall.2 0 step rfl)

/-- A run whose first request is served. -/
theorem cons {step : Step} {r : Request} (asks : step.Asks r)
    (served : step.serves (g (before ++ [r])))
    (h : StopsAtFailure g (before ++ [r]) plan asked success) :
    StopsAtFailure g before (step :: plan) (r :: asked) success where
  planned
    | 0, q, hq => ⟨step, rfl, by simpa [← Option.some.inj hq] using asks⟩
    | i + 1, q, hq => h.planned i q hq
  stops
    | 0, s, _, hs, hunserved => absurd (by simpa [← Option.some.inj hs] using served) hunserved
    | i + 1, s, hi, hs, hunserved => by
      obtain ⟨hlast, hfail⟩ := h.stops i s (by simpa using hi) hs (by simpa using hunserved)
      exact ⟨congrArg (· + 1) hlast, hfail⟩
  short s hs := by
    refine (h.short s hs).imp_right ?_
    rintro ⟨i, last, hlength, hlast, hunserved⟩
    exact ⟨i + 1, last, congrArg (· + 1) hlength, hlast, by simpa using hunserved⟩
  succeeds := by
    rw [h.succeeds, List.length_cons, List.length_cons, Nat.add_right_cancel_iff]
    refine and_congr_right fun _ => ?_
    constructor
    · rintro hall (_ | i) s hs
      · simpa [← Option.some.inj hs] using served
      · simpa using hall i s hs
    · intro hall i s hs
      simpa using hall (i + 1) s hs

/-- Nothing is asked where nothing was planned. -/
theorem eq_nil (h : StopsAtFailure g before [] asked success) : asked = [] := by
  cases asked with
  | nil => rfl
  | cons r rest =>
    obtain ⟨step, hstep, -⟩ := h.planned 0 r rfl
    cases hstep

theorem congr {success' : Prop} (h : StopsAtFailure g before plan asked success)
    (hs : success ↔ success') : StopsAtFailure g before plan asked success' :=
  propext hs ▸ h

/-- What is asked before the last was served. -/
theorem served (h : StopsAtFailure g before plan asked success) {i : Nat} {step : Step}
    (hi : i + 1 < asked.length) (hstep : plan[i]? = some step) :
    step.serves (g (before ++ asked.take (i + 1))) := by
  by_contra hunserved
  obtain ⟨hlast, -⟩ := h.stops i step (Nat.lt_of_succ_lt hi) hstep hunserved
  exact absurd hlast (Nat.ne_of_gt hi)

/-- The methods and arguments asked are the first of those planned. -/
theorem calls_prefix (h : StopsAtFailure g before plan asked success) :
    (asked.map fun r => (r.call.method, r.call.args)) <+:
      plan.map fun step => (step.method, step.args) := by
  rw [List.prefix_iff_getElem?]
  intro i hi
  rw [List.length_map] at hi
  obtain ⟨step, hstep, asks⟩ := h.planned i _ (List.getElem?_eq_getElem hi)
  rw [List.getElem?_map, hstep, Option.map_some, List.getElem_map, asks.method, asks.args]

theorem calls_eq (h : StopsAtFailure g before plan asked success) (hs : success) :
    (asked.map fun r => (r.call.method, r.call.args)) =
      plan.map fun step => (step.method, step.args) :=
  h.calls_prefix.eq_of_length (by rw [List.length_map, List.length_map, (h.succeeds.mp hs).1])

/-- What is asked after a transaction is asked when its receipt has come. -/
theorem receipt_of_transaction {ε : Type} {c : ContractClient} {method : String} {args : Json}
    {code : Codec ε}
    (h : StopsAtFailure g before (Step.transaction c method args code ++ plan) asked success)
    (hasked : 2 < asked.length) : ∃ q, asked[1]? = some q ∧ q.call.method = method ∧
      q.call.gasLimit.isSome = true ∧ ∃ receipt,
        (g (before ++ asked.take 2)).Holds (.outcome code TxReceipt.codec) (.ok receipt) := by
  have hfirst := List.getElem?_eq_getElem (Nat.lt_of_succ_lt hasked)
  obtain ⟨step, hstep, asks⟩ := h.planned 1 _ hfirst
  have hserved := h.served hasked hstep
  obtain rfl : Step.reading c .tx method args (.outcome code TxReceipt.codec)
      (fun outcome => ∃ r, outcome = .ok r) = step := Option.some.inj hstep
  obtain ⟨_, hholds, receipt, rfl⟩ := hserved
  exact ⟨_, hfirst, asks.method, asks.limited, receipt, hholds⟩

end StopsAtFailure

/-- An exchange that follows a plan stops at the first request that is not served. -/
theorem Exchange.Follows.run {α ε : Type} {plan : List Step} {x : Exchange (Except ε α)}
    (h : Exchange.Follows plan x) (g : Gateway) (before : List Request) :
    ∃ asked, (x.run g before).2 = before ++ asked ∧
      StopsAtFailure g before plan asked (∃ a, (x.run g before).1 = .ok a) := by
  induction h generalizing before with
  | finished a => exact ⟨[], by simp, .done ⟨a, rfl⟩⟩
  | unaddressed address e => exact ⟨[], by simp, .unaddressed address (by simp)⟩
  | @send step plan r next asks served unserved ih =>
    by_cases hserved : step.serves (g (before ++ [r]))
    case pos =>
      obtain ⟨asked, hasked, hstops⟩ := ih _ hserved (before ++ [r])
      exact ⟨r :: asked, by simpa using hasked, .cons asks hserved hstops⟩
    case neg =>
      obtain ⟨e, he⟩ := unserved _ hserved
      refine ⟨[r], by rw [run_send, he]; rfl, .unserved asks hserved ?_⟩
      rw [run_send, he]
      simp

end Interchain
