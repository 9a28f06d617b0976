import Interchain.Proofs.Endpoint.Reference
import Interchain.Proofs.Gateway.Contract
import Interchain.Proofs.Json.Records

/-!
# Transactions

A transaction asks for an estimate without limits.  Only if the contract would accept the
call is it sent for good, within the limits of the estimate, and its outcome is then that of
the second request.  A client without an address for estimates sends nothing.
-/

namespace Interchain

open Codec

/-- A reply with a success status, whose body reads as a value. -/
def Reply.Holds {α : Type} (reply : Reply) (codec : Codec α) (a : α) : Prop :=
  ∃ status text place, reply = .answer status text place ∧ (200 ≤ status ∧ status < 300) ∧
    codec.ofText text = .ok a

/-- An estimate in a reply, by which the contract would accept the call. -/
def Reply.Accepts {ε : Type} (reply : Reply) (code : Codec ε) (e : CostEstimate ε) : Prop :=
  reply.Holds (CostEstimate.codec code) e ∧ ∃ j, e.result = .ok j

/-- An estimate in a reply, by which the contract would reject the call. -/
def Reply.Rejects {ε : Type} (reply : Reply) (code : Codec ε) (k : ε) : Prop :=
  ∃ e, reply.Holds (CostEstimate.codec code) e ∧ e.result = .error k

theorem Action.isWord_label (action : Action) : IsWord action.label.toList := by
  have hlower : action.label.toList.all Char.isLower = true := by
    cases action <;> rfl
  constructor
  case ne_nil => cases action <;> decide
  case isLower => exact List.all_eq_true.mp hlower

namespace ContractClient

variable {α ε : Type} {c : ContractClient} {url url' : Url}

/-- A value is read from a reply exactly if the reply holds it. -/
theorem readReply_eq_ok {codec : Codec α} {reply : Reply} {a : α} :
    readReply codec url reply = .ok a ↔ reply.Holds codec a := by
  cases reply with
  | reset | refused | closed | truncated =>
    constructor
    · rintro ⟨⟩
    · rintro ⟨_, _, _, ⟨⟩, _⟩
  | answer status text place =>
    by_cases hstatus : 200 ≤ status ∧ status < 300
    case pos =>
      have hbody : body url (.answer status text place) = .ok text := if_pos hstatus
      rw [readReply, hbody, Attempt.ok_bind]
      constructor
      · intro hread
        refine ⟨status, text, place, rfl, hstatus, ?_⟩
        split at hread
        · next heq => rw [heq, Attempt.pure_eq_ok.mp hread]
        · cases hread
      · rintro ⟨_, _, _, ⟨⟩, _, hread⟩
        rw [hread]
        rfl
    case neg =>
      have hbody : ∃ e, body url (.answer status text place) = .error e := by
        simp only [body, if_neg hstatus]
        split <;> exact ⟨_, rfl⟩
      obtain ⟨e, he⟩ := hbody
      rw [readReply, he]
      constructor
      · rintro ⟨⟩
      · rintro ⟨_, _, _, ⟨⟩, hsuccess, _⟩
        exact absurd hsuccess hstatus

/-- A reply holds one value at most. -/
theorem holds_unique {codec : Codec α} {reply : Reply} {a b : α} (ha : reply.Holds codec a)
    (hb : reply.Holds codec b) : a = b := by
  obtain ⟨_, _, _, rfl, -, ha⟩ := ha
  obtain ⟨_, _, _, ⟨⟩, -, hb⟩ := hb
  exact Except.ok.inj (ha.symm.trans hb)

/-- What is written into a reply is held by it. -/
theorem holds_success {codec : Codec α} {n : Nat} {a : α} (h : codec.Carries .text .written n a)
    (hn : n ≤ Document.Parser.maxDepth) (url : Url) : (Reply.success codec a).Holds codec a :=
  readReply_eq_ok.mp (readReply_success h hn url)

section Estimates

variable {code : Codec ε} {reply : Reply}

/-- An estimate that accepts the call does not reject it. -/
theorem not_rejects_of_accepts {e : CostEstimate ε} (he : reply.Accepts code e) (k : ε) :
    ¬ reply.Rejects code k := by
  rintro ⟨e', he', hresult'⟩
  obtain ⟨hholds, j, hresult⟩ := he
  rw [holds_unique he' hholds, hresult] at hresult'
  cases hresult'

/-- An estimate that is written into a reply accepts the call, whatever it costs. -/
theorem accepts_success (gas : UInt64) (deposit : Option (BitVec 128)) (url : Url) :
    (Reply.success (CostEstimate.codec code) ⟨gas, deposit, .ok .null⟩).Accepts code
      ⟨gas, deposit, .ok .null⟩ := by
  have hcarries : (CostEstimate.codec code).Carries .text .written 2 ⟨gas, deposit, .ok .null⟩ :=
    CostEstimate.carries (outcome_carries_ok opaqueValue_carries_null)
  exact ⟨holds_success hcarries (by decide) url, _, rfl⟩

end Estimates

/-! ## Addresses of the actions -/

/-- The address at which the contract is asked for an action, if it can be sent to. -/
def address? (c : ContractClient) (action : Action) : Option Url :=
  (c.base.resolve? ("contracts/" ++ c.contract.text ++ "/" ++ action.label)).filter Url.isSendable

theorem address?_eq_some {action : Action} : c.address? action = some url ↔
    c.base.resolve? ("contracts/" ++ c.contract.text ++ "/" ++ action.label) = some url ∧
      url.isSendable = true :=
  Option.filter_eq_some_iff

/-- A request without an address is not sent. -/
theorem post_of_none {action : Action} (h : c.address? action = none) (call : CallRequest)
    (codec : Codec α) : ∃ e, c.post action call codec = pure (.error e) := by
  unfold post
  split
  case h_1 => exact ⟨_, rfl⟩
  case h_2 url hurl =>
    have hunsendable : ¬ url.isSendable = true := by
      intro hs
      rw [address?_eq_some.mpr ⟨hurl, hs⟩] at h
      cases h
    rw [if_neg hunsendable]
    exact ⟨_, rfl⟩

theorem post_of_some {action : Action} (h : c.address? action = some url) (call : CallRequest)
    (codec : Codec α) : c.post action call codec =
      .send ⟨url, call⟩ fun reply => pure (readReply codec url reply) := by
  obtain ⟨hurl, hs⟩ := address?_eq_some.mp h
  simp only [post, hurl, hs, if_true]
  rfl

/-- Where an estimate can be asked for, the call can be sent for good. -/
theorem exists_address?_tx (h : c.address? .estimate = some url) :
    ∃ url', c.address? .tx = some url' := by
  obtain ⟨hurl, hs⟩ := address?_eq_some.mp h
  have hbase : ∃ t, c.base.path = .segments t := by
    cases ht : c.base.path with
    | segments t => exact ⟨t, rfl⟩
    | text t => simp [Url.resolve?, ht] at hurl
  have hscheme : url.scheme = c.base.scheme := by
    obtain ⟨t, ht⟩ := hbase
    rw [Url.resolve?_parts ht rfl rfl, Option.some.injEq] at hurl
    rw [← hurl]
  have hfile : c.base.scheme ≠ "file" := by
    intro hfile
    simp [Url.isSendable, hscheme, hfile] at hs
  obtain ⟨u, hresolve⟩ := Url.exists_resolve?_word hfile (c := 'c') (by decide)
    ("ontracts/".toList ++ c.contract.text.toList) hbase
  have haddress : ∀ action : Action,
      c.base.resolve? ("contracts/" ++ c.contract.text ++ "/" ++ action.label) =
        some (u.extend action.label.toList) := by
    intro action
    refine hresolve _ _ action.isWord_label ?_
    simp [String.toList_append]
  rw [haddress, Option.some.injEq] at hurl
  refine ⟨u.extend Action.tx.label.toList, address?_eq_some.mpr ⟨haddress .tx, ?_⟩⟩
  rw [← hurl] at hs
  -- Only the length of an address is left to check, and `tx` is shorter than `estimate`.
  exact Url.isSendable_extend Action.estimate.isWord_label Action.tx.isWord_label (by decide) hs

/-! ## The two phases -/

section Transaction

variable {g : Gateway} {sent : List Request} {method : String} {args : Json} {code : Codec ε}

theorem verdict_eq_ok {outcome : Except TransportError (Except ε α)} {a : α} :
    verdict outcome = .ok a ↔ outcome = .ok (.ok a) := by
  rcases outcome with e | k | a <;> simp [verdict]

theorem verdict_eq_contract {outcome : Except TransportError (Except ε α)} {k : ε} :
    verdict outcome = .error (.contract k) ↔ outcome = .ok (.error k) := by
  rcases outcome with e | k | a <;> simp [verdict]

/-- A transaction that an estimate accepts is sent for good, within its limits. -/
theorem run_transaction_of_accepts (h : c.address? .estimate = some url)
    (h' : c.address? .tx = some url') {e : CostEstimate ε}
    (he : (g (sent ++ [⟨url, c.unlimited method args⟩])).Accepts code e) :
    let requests := sent ++ [⟨url, c.unlimited method args⟩,
      ⟨url', c.origin, method, args, some e.gasRequired, e.storageDeposit⟩]
    (c.transaction method args code).run g sent =
      (verdict (readReply (.outcome code TxReceipt.codec) url' (g requests)), requests) := by
  obtain ⟨hurl, hs⟩ := address?_eq_some.mp h
  obtain ⟨hurl', hs'⟩ := address?_eq_some.mp h'
  obtain ⟨hholds, j, hj⟩ := he
  have hrun := run_transaction_of_ok hurl hs (readReply_eq_ok.mpr hholds) hj hurl' hs'
  simpa only [List.append_assoc, List.singleton_append] using hrun

/-- A transaction that no estimate accepts ends there, with the code of the contract if the
estimate rejects it. -/
theorem run_transaction_of_not_accepts (h : c.address? .estimate = some url)
    (hnone : ∀ e, ¬ (g (sent ++ [⟨url, c.unlimited method args⟩])).Accepts code e) :
    ∃ error, (c.transaction method args code).run g sent =
        (.error error, sent ++ [⟨url, c.unlimited method args⟩]) ∧
      ∀ k, error = .contract k ↔
        (g (sent ++ [⟨url, c.unlimited method args⟩])).Rejects code k := by
  obtain ⟨hurl, hs⟩ := address?_eq_some.mp h
  cases hread : readReply (CostEstimate.codec code) url
      (g (sent ++ [⟨url, c.unlimited method args⟩])) with
  | error error =>
    refine ⟨.transport error, ?_, ?_⟩
    · simp only [transaction, Exchange.run_bind, run_post hurl hs, hread]
      rfl
    · intro k
      refine iff_of_false (by simp) ?_
      rintro ⟨e, he, -⟩
      rw [readReply_eq_ok.mpr he] at hread
      cases hread
  | ok e =>
    have he := readReply_eq_ok.mp hread
    cases hresult : e.result with
    | ok j => exact absurd ⟨he, j, hresult⟩ (hnone e)
    | error k =>
      refine ⟨.contract k, run_transaction_of_error hurl hs hread hresult, ?_⟩
      intro k'
      constructor
      · rintro ⟨⟩
        exact ⟨e, he, hresult⟩
      · rintro ⟨e', he', hresult'⟩
        rw [holds_unique he' he, hresult] at hresult'
        cases hresult'
        rfl

/-- A transaction asks once for an estimate without limits, and sends the call for good
within the limits of the estimate exactly if that accepts it.  It comes to a receipt exactly
if the second reply holds that, and to a code of the contract exactly if either reply holds
it.  Without an address for the estimate nothing is sent. -/
theorem transaction_phases (c : ContractClient) (g : Gateway) (sent : List Request)
    (method : String) (args : Json) (code : Codec ε) :
    let run := (c.transaction method args code).run g sent
    (c.address? .estimate = none → ∃ e, run = (.error (.transport e), sent)) ∧
    ∀ url, c.address? .estimate = some url → ∃ url', c.address? .tx = some url' ∧
      let estimate : Request := ⟨url, c.origin, method, args, none, none⟩
      let tx (gas : UInt64) (deposit : Option (BitVec 128)) : Request :=
        ⟨url', c.origin, method, args, some gas, deposit⟩
      let reply := g (sent ++ [estimate])
      (∀ e, reply.Accepts code e →
        run.2 = sent ++ [estimate, tx e.gasRequired e.storageDeposit]) ∧
      ((∀ e, ¬ reply.Accepts code e) → run.2 = sent ++ [estimate]) ∧
      (∀ gas deposit, reply = Reply.success (CostEstimate.codec code) ⟨gas, deposit, .ok .null⟩ →
        run.2 = sent ++ [estimate, tx gas deposit]) ∧
      (∀ receipt, run.1 = .ok receipt ↔ ∃ gas deposit, run.2 = sent ++ [estimate, tx gas deposit] ∧
        (g run.2).Holds (.outcome code TxReceipt.codec) (.ok receipt)) ∧
      ∀ k, run.1 = .error (.contract k) ↔ reply.Rejects code k ∨
        ∃ gas deposit, run.2 = sent ++ [estimate, tx gas deposit] ∧
          (g run.2).Holds (.outcome code TxReceipt.codec) (.error k) := by
  intro run
  constructor
  case left =>
    intro h
    obtain ⟨e, he⟩ := post_of_none h (c.unlimited method args) (CostEstimate.codec code)
    refine ⟨e, ?_⟩
    simp only [run, transaction, he]
    rfl
  case right =>
    intro url h
    obtain ⟨url', h'⟩ := exists_address?_tx h
    refine ⟨url', h', ?_⟩
    intro estimate tx reply
    have haccepted : ∀ e, reply.Accepts code e →
        run.2 = sent ++ [estimate, tx e.gasRequired e.storageDeposit] :=
      fun e he => congrArg Prod.snd (run_transaction_of_accepts h h' he)
    have hwritten : ∀ gas deposit,
        reply = Reply.success (CostEstimate.codec code) ⟨gas, deposit, .ok .null⟩ →
        reply.Accepts code ⟨gas, deposit, .ok .null⟩ := fun gas deposit heq =>
      heq ▸ accepts_success gas deposit url
    by_cases hreply : ∃ e, reply.Accepts code e
    case pos =>
      obtain ⟨e, he⟩ := hreply
      have hrun : run = _ := run_transaction_of_accepts h h' he
      have hsent := haccepted e he
      have hoffered : ∀ outcome, (g run.2).Holds (.outcome code TxReceipt.codec) outcome ↔
          ∃ gas deposit, run.2 = sent ++ [estimate, tx gas deposit] ∧
            (g run.2).Holds (.outcome code TxReceipt.codec) outcome := by
        intro outcome
        constructor
        · intro hholds
          exact ⟨_, _, hsent, hholds⟩
        · rintro ⟨-, -, -, hholds⟩
          exact hholds
      refine ⟨haccepted, fun hnone => absurd he (hnone e),
        fun gas deposit heq => haccepted _ (hwritten gas deposit heq), ?_, ?_⟩
      · intro receipt
        rw [← hoffered, hrun, verdict_eq_ok, readReply_eq_ok]
      · intro k
        rw [or_iff_right (not_rejects_of_accepts he k), ← hoffered, hrun, verdict_eq_contract,
          readReply_eq_ok]
    case neg =>
      have hnone : ∀ e, ¬ reply.Accepts code e := fun e he => hreply ⟨e, he⟩
      obtain ⟨error, hrun, herror⟩ := run_transaction_of_not_accepts h hnone
      have hsent : run.2 = sent ++ [estimate] := congrArg Prod.snd hrun
      have hresult : run.1 = .error error := congrArg Prod.fst hrun
      have honce : ∀ gas deposit, run.2 ≠ sent ++ [estimate, tx gas deposit] := by
        intro gas deposit heq
        rw [hsent] at heq
        simpa using List.append_cancel_left heq
      refine ⟨haccepted, fun _ => hsent,
        fun gas deposit heq => absurd (hwritten gas deposit heq) (hnone _), ?_, ?_⟩
      · intro receipt
        rw [hresult]
        apply iff_of_false
        · rintro ⟨⟩
        · rintro ⟨gas, deposit, heq, -⟩
          exact honce gas deposit heq
      · intro k
        rw [hresult, Except.error.injEq, herror]
        refine (or_iff_left ?_).symm
        rintro ⟨gas, deposit, heq, -⟩
        exact honce gas deposit heq

/-- A client of a gateway on this machine. -/
def sample : ContractClient :=
  ⟨⟨"http", "", "", some "localhost", some 8080, .segments "/", none, none⟩, ⟨"0xexec"⟩, "//Alice"⟩

/-- The address of an action for that client. -/
def sampleAddress (action : Action) : Url :=
  { sample.base with path := .segments ("/contracts/0xexec/" ++ action.label) }

/-- A gateway that accepts every call, at the highest cost. -/
def dearest : Gateway := fun sent =>
  if sent.length = 1 then
    Reply.success (CostEstimate.codec opaqueValue)
      ⟨.ofBitVec (BitVec.allOnes 64), some (BitVec.allOnes 128), .ok .null⟩
  else Reply.success (.outcome opaqueValue TxReceipt.codec) (.ok ⟨"0x01", some 1⟩)

theorem transaction_phases_sample :
    (sample.transaction "resume" (.array []) opaqueValue).run dearest [] =
      (.ok ⟨"0x01", some 1⟩,
        [⟨sampleAddress .estimate, "//Alice", "resume", .array [], none, none⟩,
         ⟨sampleAddress .tx, "//Alice", "resume", .array [], some (.ofBitVec (BitVec.allOnes 64)),
          some (BitVec.allOnes 128)⟩]) := by
  have haddress : ∀ action, sample.address? action = some (sampleAddress action) := by
    intro action
    cases action <;> decide +kernel
  obtain ⟨url', htx, -, -, hwritten, hreceipt, -⟩ :=
    (transaction_phases sample dearest [] "resume" (.array []) opaqueValue).2 _
      (haddress .estimate)
  rw [haddress, Option.some.injEq] at htx
  subst htx
  have hsent := hwritten _ _ rfl
  refine Prod.ext ((hreceipt _).mpr ⟨_, _, hsent, ?_⟩) hsent
  rw [hsent]
  exact holds_success (outcome_carries_ok (TxReceipt.carries (n := 0) _)) (by decide)
    (sampleAddress .tx)

/-- A client whose base has no path to follow references from sends nothing, whatever the
gateway. -/
theorem transaction_unaddressed : ∃ c, make "data:x" ⟨"0xexec"⟩ "//Alice" = .ok c ∧
    ∀ g : Gateway, (c.transaction "resume" (.array []) opaqueValue).run g [] =
      (.error (.transport (.invalidEndpoint "data:x/")), []) :=
  ⟨⟨⟨"data", "", "", none, none, .text "x/", none, none⟩, ⟨"0xexec"⟩, "//Alice"⟩,
    by decide +kernel, fun _ => rfl⟩

end Transaction

end ContractClient

end Interchain
