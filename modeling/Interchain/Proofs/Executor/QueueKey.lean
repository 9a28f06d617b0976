import Interchain.Executor
import Interchain.Proofs.Gateway.Transaction
import Interchain.Proofs.Json.Order
import Interchain.Proofs.Text.Upper

/-!
# Which chain a request to the executor is about

An approval carries the lowered name of its chain, which two names have in common exactly if
they are names of one chain.  A task is dropped from the queue under the capitalized name, and
that tells chains apart only as far as capitalizing does: where a name begins with a character
of ASCII, or with one that has no other upper case.  Beyond that, chains may share a queue.
-/

namespace Interchain

namespace ChainName

/-- The name begins, if it is not empty, with a character of ASCII or with one that is its own
upper case. -/
def Plain (n : ChainName) : Prop :=
  ∀ c ∈ n.text.toList.head?, c.toNat < 128 ∨ Upper.ofChar c = [c]

theorem plain_of_ascii {n : ChainName} {c : Char} (h : n.text.toList.head? = some c)
    (hc : c.toNat < 128) : n.Plain := by
  intro d hd
  obtain rfl : c = d := Option.some.inj (h.symm.trans hd)
  exact .inl hc

theorem same_iff_map {a b : ChainName} :
    a.same b = true ↔ a.text.toList.map Char.toLower = b.text.toList.map Char.toLower := by
  rw [same_iff, normalized, normalized, ← String.toList_inj, Ascii.toList_lower,
    Ascii.toList_lower]

end ChainName

/-! ## Keys of queues -/

namespace Upper

/-- The first character of a plain name is raised, once lowered, as in ASCII. -/
theorem ofChar_toLower {c : Char} (h : c.toNat < 128 ∨ ofChar c = [c]) :
    ofChar c.toLower = [c.toLower.toUpper] := by
  have hlower := toNat_toLower c
  by_cases hc : c.toNat < 128
  · apply ofChar_ascii
    split_ifs at hlower <;> omega
  · have hkept : c.toLower = c := by
      apply Char.toNat_inj.mp
      rw [hlower, if_neg (by omega)]
    have hown : c.toUpper = c := by
      apply Char.toNat_inj.mp
      rw [toNat_toUpper, if_neg (by omega)]
    rw [hkept, hown]
    exact h.resolve_left hc

end Upper

namespace Executor

/-- The key begins with the first character raised, and goes on as the lowered name does. -/
theorem toList_queueKey (n : ChainName) : (queueKey n).toList =
    match n.text.toList with
    | [] => []
    | c :: rest => Upper.ofChar c.toLower ++ rest.map Char.toLower := by
  rw [queueKey, ChainName.normalized, Ascii.toList_lower]
  cases n.text.toList with
  | nil => rfl
  | cons c rest => simp

/-- All spellings of a name have one key. -/
theorem queueKey_of_same {a b : ChainName} (h : a.same b = true) : queueKey a = queueKey b := by
  rw [queueKey, queueKey, ChainName.same_iff.mp h]

/-- Plain names with one key are names of one chain. -/
theorem same_of_queueKey {a b : ChainName} (ha : a.Plain) (hb : b.Plain)
    (h : queueKey a = queueKey b) : a.same b = true := by
  have hlist : (queueKey a).toList = (queueKey b).toList := by rw [h]
  rw [toList_queueKey, toList_queueKey] at hlist
  rw [ChainName.same_iff_map]
  unfold ChainName.Plain at ha hb
  cases hx : a.text.toList with
  | nil =>
    cases hy : b.text.toList with
    | nil => rfl
    | cons d ds =>
      rw [hy] at hb
      simp [hx, hy, Upper.ofChar_toLower (hb d rfl)] at hlist
  | cons c cs =>
    rw [hx] at ha
    cases hy : b.text.toList with
    | nil => simp [hx, hy, Upper.ofChar_toLower (ha c rfl)] at hlist
    | cons d ds =>
      rw [hy] at hb
      simp only [hx, hy, Upper.ofChar_toLower (ha c rfl), Upper.ofChar_toLower (hb d rfl),
        List.singleton_append, List.cons.injEq] at hlist
      rw [List.map_cons, List.map_cons, Upper.toUpper_toLower_inj hlist.1, hlist.2]

/-! ## Requests -/

/-- A query is one request, or none if it has no address. -/
theorem sent_query {α : Type} (c : ContractClient) (method : String) (items : List Json)
    (value : Codec α) (g : Gateway) (sent : List Request) :
    ((query c method items value).run g sent).2 =
      sent ++ (c.address? .query).toList.map fun url => ⟨url, c.unlimited method (args items)⟩ := by
  simp only [query, ContractClient.query, Exchange.run_bind, Exchange.run_pure]
  cases h : c.address? .query with
  | none =>
    obtain ⟨e, he⟩ := ContractClient.post_of_none h (c.unlimited method (args items))
      (.outcome Codec.opaqueValue value)
    simp [he]
  | some url =>
    obtain ⟨hurl, hs⟩ := ContractClient.address?_eq_some.mp h
    simp [ContractClient.run_post hurl hs]

/-- Two queries send the same if they have the same arguments, or no address. -/
theorem sent_query_eq_iff {α : Type} {c : ContractClient} {method : String}
    {items items' : List Json} {value : Codec α} {g : Gateway} {sent : List Request} :
    ((query c method items value).run g sent).2 = ((query c method items' value).run g sent).2 ↔
      c.address? .query = none ∨ items.map Json.canonical = items'.map Json.canonical := by
  rw [sent_query, sent_query, List.append_cancel_left_eq]
  cases c.address? .query <;>
    simp [ContractClient.unlimited, args, Json.canonical, Json.canonicalItems_eq_map]

/-- Approvals are about the same chain exactly if they are for one.  So are tasks dropped for
chains with plain names; others may be dropped from one queue, though never is one chain's task
looked for in two queues. -/
theorem requests_by_chain (c : ContractClient) (g : Gateway) (sent : List Request)
    (worker : WorkerId) (token spender : Location) (amount : BitVec 128) (task : TaskId)
    (a b : ChainName) :
    let approved n := ((approve c worker n token spender amount).run g sent).2
    let dropped n := ((dropTask c worker n task).run g sent).2
    (approved a = approved b ↔ c.address? .query = none ∨ a.same b = true) ∧
      (a.same b = true → dropped a = dropped b) ∧
      (a.Plain → b.Plain →
        (dropped a = dropped b ↔ c.address? .query = none ∨ a.same b = true)) := by
  intro approved dropped
  have happroved : approved a = approved b ↔ c.address? .query = none ∨ a.same b = true := by
    rw [ChainName.same_iff]
    refine sent_query_eq_iff.trans ?_
    simp [Json.canonical]
  have hdropped : dropped a = dropped b ↔
      c.address? .query = none ∨ queueKey a = queueKey b := by
    refine sent_query_eq_iff.trans ?_
    simp [Json.canonical]
  refine ⟨happroved, fun h => hdropped.mpr (.inr (queueKey_of_same h)), fun ha hb => ?_⟩
  rw [hdropped]
  exact or_congr_right ⟨same_of_queueKey ha hb, queueKey_of_same⟩

theorem requests_by_chain_sample :
    let dropped (chain : String) : List Request :=
      ((dropTask .sample ⟨"0x01"⟩ ⟨chain⟩ ⟨[2]⟩).run Gateway.unreachable []).2
    dropped "Moonbeam" = dropped "MOONBEAM" ∧ dropped "Moonbeam" ≠ dropped "Moonriver" := by
  intro dropped
  have halike := requests_by_chain .sample Gateway.unreachable [] ⟨"0x01"⟩ ⟨[]⟩ ⟨[]⟩ 0 ⟨[2]⟩
    ⟨"Moonbeam"⟩ ⟨"MOONBEAM"⟩
  have hother := requests_by_chain .sample Gateway.unreachable [] ⟨"0x01"⟩ ⟨[]⟩ ⟨[]⟩ 0 ⟨[2]⟩
    ⟨"Moonbeam"⟩ ⟨"Moonriver"⟩
  have hbeam : ChainName.Plain ⟨"Moonbeam"⟩ :=
    ChainName.plain_of_ascii (c := 'M') (by decide) (by decide)
  have hriver : ChainName.Plain ⟨"Moonriver"⟩ :=
    ChainName.plain_of_ascii (c := 'M') (by decide) (by decide)
  constructor
  · exact halike.2.1 (by decide)
  · intro heq
    have hnone := (hother.2.2 hbeam hriver).mp heq
    exact absurd hnone (by decide +kernel)

/-- A command for one chain reaches the queue of another: the long `s` at the beginning of one
name is raised to the letter that the other begins with. -/
theorem queue_shared :
    (⟨"Shiden"⟩ : ChainName).same ⟨"ſhiden"⟩ = false ∧
      ∀ (g : Gateway) (chain : ChainName), chain ∈ [⟨"Shiden"⟩, ⟨"ſhiden"⟩] →
        ((dropTask .sample ⟨"0x01"⟩ chain ⟨[2]⟩).run g []).2 =
          [⟨ContractClient.sampleAddress .query, "//Alice", "worker_drop_task",
            .array [.string "0x01", .string "Shiden", .string "0x02"], none, none⟩] := by
  refine ⟨by decide, fun g chain hchain => ?_⟩
  have hkey : queueKey chain = "Shiden" := by
    simp only [List.mem_cons, List.not_mem_nil, or_false] at hchain
    rcases hchain with rfl | rfl
    · decide +kernel
    · decide +kernel
  have haddress : ContractClient.sample.address? .query =
      some (ContractClient.sampleAddress .query) := by decide +kernel
  rw [dropTask, sent_query, haddress, hkey]
  rfl

end Executor

end Interchain
