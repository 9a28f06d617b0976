import Interchain.Config.Basic
import Interchain.Proofs.Json.Place
import Interchain.Proofs.Sorted
import Interchain.Proofs.Text.ByteOrder

/-!
# The two layouts of chain tables

A table of chains is written as one object or as a list of objects, and either way its members
are put in their places one after another.  So the last member of a key stands, wherever the
objects end, and what has no key in common may change places.  In the table that results, the
first spelling of a name is the least.
-/

namespace Interchain

variable {α β : Type} {form : Form} {chain : ChainName} {d d' : Document}
  {layers : List (List (String × String))}

/-! ## Reading -/

namespace ChainTable

/-- Members with texts, as an object. -/
def object (members : List (String × String)) : Json :=
  .object (members.map fun m => (m.1, .string m.2))

/-- A document that gives the members of these objects, in a list or in one object.  Members
of an object that have different keys may be written in another order, and so may objects
without common keys. -/
inductive Gives : List (List (String × String)) → Document → Prop
  | listed (layers : List (List (String × String))) :
    Gives layers (.ofJson (.array (layers.map object)))
  | single (layers : List (List (String × String))) :
    Gives layers (.ofJson (object layers.flatten))
  | members {before after : List (List (String × String))}
      {left xs ys right : List (String × String)} {d : Document} (moved : xs.Perm ys)
      (keys : (xs.map Prod.fst).Nodup)
      (gives : Gives (before ++ (left ++ ys ++ right) :: after) d) :
    Gives (before ++ (left ++ xs ++ right) :: after) d
  | objects {before xs ys after : List (List (String × String))} {d : Document}
      (moved : xs.Perm ys) (keys : Sorted.Apart xs) (gives : Gives (before ++ ys ++ after) d) :
    Gives (before ++ xs ++ after) d

theorem read_object (members : List (String × String)) :
    (Codec.map Codec.string).read form (.ofJson (object members)) =
      .ok (Sorted.ofList members) := by
  have hread : ∀ m ∈ members, Codec.string.read form (.ofJson (.string m.2)) = .ok (id m.2) :=
    fun _ _ => rfl
  simpa [object] using Codec.map_read .string id hread

theorem read_objects (layers : List (List (String × String))) :
    (Codec.list (Codec.map Codec.string)).read form (.ofJson (.array (layers.map object))) =
      .ok (layers.map Sorted.ofList) :=
  Codec.list_read fun members _ => read_object members

theorem read_single (members : List (String × String)) :
    codec.read form (.ofJson (object members)) = .ok (Sorted.ofList members) := by
  simp only [codec, Document.toJson_ofJson, read_object]

/-- Sorting the objects first does not change which member of a key is the last. -/
theorem read_listed (layers : List (List (String × String))) :
    codec.read form (.ofJson (.array (layers.map object))) =
      .ok (Sorted.ofList layers.flatten) := by
  have hlist : ∃ e, (Codec.map Codec.string).read .value
      (.ofJson (.array (layers.map object))) = .error e := ⟨_, rfl⟩
  obtain ⟨e, he⟩ := hlist
  have hlast := Sorted.ofList_congr fun key => Sorted.last?_flatten_sorted (k := key) layers
  simp only [codec, Document.toJson_ofJson, he, read_objects, hlast]

/-- Whatever gives the objects is read as the table of all their members. -/
theorem Gives.read (h : Gives layers d) :
    codec.read form d = .ok (Sorted.ofList layers.flatten) := by
  induction h with
  | listed layers => exact read_listed layers
  | single layers => exact read_single layers.flatten
  | members moved keys _ ih =>
    rw [ih]
    congr 1
    apply Sorted.ofList_congr
    intro key
    simp only [List.flatten_append, List.flatten_cons, Sorted.last?_append,
      Sorted.last?_of_perm moved keys]
  | objects moved keys _ ih =>
    rw [ih]
    congr 1
    apply Sorted.ofList_congr
    intro key
    simp only [List.flatten_append, Sorted.last?_append,
      Sorted.last?_flatten_of_perm moved keys]

/-! ## Look-ups -/

theorem find?_map (table : ChainTable α) (f : α → β) :
    find? (table.map fun e => (e.1, f e.2)) chain = (table.find? chain).map f := by
  rw [find?, find?, List.find?_map, Option.map_map, Option.map_map]
  rfl

theorem find?_eq_some_iff {table : ChainTable α} (h : Sorted.Ascending table) {value : α} :
    table.find? chain = some value ↔ ∃ key, (key, value) ∈ table ∧
      Ascii.sameText key chain.text ∧
      ∀ e ∈ table, Ascii.sameText e.1 chain.text → ¬ e.1 < key := by
  have hfirst := h.find?_eq_some_iff fun s => Ascii.sameText s chain.text
  rw [find?, Option.map_eq_some_iff]
  constructor
  · rintro ⟨⟨key, _⟩, hfind, rfl⟩
    exact ⟨key, (hfirst key _).mp hfind⟩
  · rintro ⟨key, hkey⟩
    exact ⟨(key, value), (hfirst key value).mpr hkey, rfl⟩

theorem isSome_find? {table : ChainTable α} :
    (table.find? chain).isSome ↔ ∃ e ∈ table, Ascii.sameText e.1 chain.text := by
  rw [find?, Option.isSome_map, List.find?_isSome]

theorem find?_congr {a b : ChainName} (table : ChainTable α) (h : a.same b = true) :
    table.find? a = table.find? b := by
  have hsame : ∀ s, Ascii.sameText s a.text = Ascii.sameText s b.text := by
    intro s
    rw [Ascii.sameText, Ascii.sameText, Ascii.sameText_iff.mp h]
  simp only [find?, hsame]

end ChainTable

namespace Config

/-! ## Tables in configurations -/

/-- What a configuration tells of chains in either layout. -/
inductive Directory where
  | chains
  | handlers
deriving DecidableEq, Repr

namespace Directory

/-- The name of the field. -/
def key : Directory → String
  | chains => "chains"
  | handlers => "handlers"

/-- The table in a configuration. -/
def table : Directory → Config → ChainTable String
  | chains => Config.chains
  | handlers => Config.handlers

/-- What a configuration answers for the name of a chain. -/
def answer? : Directory → Config → ChainName → Option String
  | chains => chainEndpoint?
  | handlers => handler?

variable {dir : Directory} {doc : Document → Document}

theorem answer?_eq (dir : Directory) (c : Config) (chain : ChainName) :
    dir.answer? c chain = (dir.table c).find? chain := by
  cases dir <;> rfl

theorem table_expand (dir : Directory) (env : Environment) (c : Config) :
    dir.table (c.expand env) = (dir.table c).map fun e => (e.1, Expansion.expand env e.2) := by
  cases dir <;> rfl

theorem sameFor (h : ChainTable.codec.read form d = ChainTable.codec.read form d') :
    Document.SameFor form dir.key fields d d' := by
  intro f hf hname
  have hfields : fields.filter (fun f => f.name == dir.key) =
      [.default dir.key ChainTable.codec []] := by
    cases dir <;> rfl
  have hmem : f ∈ fields.filter fun f => f.name == dir.key :=
    List.mem_filter.mpr ⟨hf, beq_iff_eq.mpr hname⟩
  rw [hfields, List.mem_singleton] at hmem
  subst hmem
  exact h

theorem read_table {c : Config} (hdoc : Document.Place fields dir.key doc)
    (h : codec.read form (doc d) = .ok c) : ChainTable.codec.read form d = .ok (dir.table c) := by
  obtain ⟨vs, rfl, hholds⟩ := Codec.holds_of_record (by decide) hdoc h
  cases dir <;> exact hholds

end Directory

/-- How names of chains are answered by an environment and members, of which the last of each
key counts. -/
structure Answers (env : Environment) (members : List (String × String))
    (answer? : ChainName → Option String) : Prop where
  /-- Letter case in names does not matter. -/
  spelled : ∀ a b : ChainName, a.same b = true → answer? a = answer? b
  /-- There is an answer if a key is the name in some spelling. -/
  present : ∀ chain, (answer? chain).isSome ↔ ∃ m ∈ members, Ascii.sameText m.1 chain.text
  /-- Of several spellings the one whose bytes come first has the answer. -/
  least : ∀ chain answer, answer? chain = some answer ↔ ∃ key value,
    Sorted.last? key members = some value ∧ Ascii.sameText key chain.text ∧
    (∀ m ∈ members, Ascii.sameText m.1 chain.text →
      ¬ m.1.toUTF8.toList < key.toUTF8.toList) ∧
    answer = Expansion.expand env value

/-- The table of members that have been put in their places answers for them. -/
theorem answers_ofList {env : Environment} {members : List (String × String)}
    {answer? : ChainName → Option String} (h : ∀ chain, answer? chain =
      (ChainTable.find? (Sorted.ofList members) chain).map (Expansion.expand env)) :
    Answers env members answer? where
  spelled := by
    intro a b hsame
    rw [h, h, ChainTable.find?_congr _ hsame]
  present := by
    intro chain
    have hkeys := Sorted.forall_keys_ofList members fun s => ¬ Ascii.sameText s chain.text
    rw [h, Option.isSome_map, ChainTable.isSome_find?, ← not_iff_not]
    simpa using hkeys
  least := by
    intro chain answer
    have hkeys := fun key => Sorted.forall_keys_ofList members
      fun s => Ascii.sameText s chain.text → ¬ s < key
    simp only [h, Option.map_eq_some_iff, Utf8.bytes_lt_iff, ← hkeys,
      ChainTable.find?_eq_some_iff (Sorted.ascending_ofList members), Sorted.mem_ofList_iff]
    constructor
    · rintro ⟨value, ⟨key, hlast, hsame, hleast⟩, rfl⟩
      exact ⟨key, value, hlast, hsame, hleast, rfl⟩
    · rintro ⟨key, value, hlast, hsame, hleast, rfl⟩
      exact ⟨value, ⟨key, hlast, hsame, hleast⟩, rfl⟩

/-- Both layouts of a table mean the same, wherever it stands in a configuration.  The last
member of each key counts, and what has no key in common may be written in another order.  In
the configuration that is read, names of chains are answered by these members. -/
theorem layouts_agree (layers : List (List (String × String))) :
    ∃ table : ChainTable String, Sorted.Ascending table ∧
      (∀ key, Sorted.value? key table = Sorted.last? key layers.flatten) ∧
      (∀ d, ChainTable.Gives layers d → ∀ form, ChainTable.codec.read form d = .ok table) ∧
      ∀ (dir : Directory) (doc : Document → Document), Document.Place fields dir.key doc →
        ∀ d d', ChainTable.Gives layers d → ChainTable.Gives layers d' →
          ∀ text text' surplus, Document.ofText text = (doc d, surplus) →
            Document.ofText text' = (doc d', surplus) → ∀ env,
            ofText env text = ofText env text' ∧
              ∀ c, ofText env text = .ok c →
                dir.table c = table.map (fun e => (e.1, Expansion.expand env e.2)) ∧
                Answers env layers.flatten (dir.answer? c) := by
  refine ⟨Sorted.ofList layers.flatten, Sorted.ascending_ofList _, fun _ => Sorted.value?_ofList _,
    fun _ hd _ => hd.read, ?_⟩
  intro dir doc hdoc d d' hd hd' text text' surplus htext htext' env
  have hread : codec.read .text (doc d) = codec.read .text (doc d') :=
    Codec.record_congr hdoc (dir.sameFor (hd.read.trans hd'.read.symm))
  constructor
  · simp only [ofText, Codec.ofText, htext, htext', hread]
  · intro c hc
    obtain ⟨c, hok, rfl⟩ := Attempt.map_eq_ok.mp hc
    have htable : ChainTable.codec.read .text d = .ok (dir.table c) := by
      apply dir.read_table hdoc
      rw [← (Codec.ofText_eq_ok.mp hok).1, htext]
    have heq : Sorted.ofList layers.flatten = dir.table c :=
      Except.ok.inj (hd.read.symm.trans htable)
    refine ⟨by rw [dir.table_expand, heq], answers_ofList ?_⟩
    intro chain
    rw [dir.answer?_eq, dir.table_expand, ChainTable.find?_map, heq]

/-- Two spellings of a name, one of them in two objects. -/
theorem layouts_agree_sample :
    let layers := [[("astar", "low"), ("ASTAR", "old")], [("ASTAR", "$\x7bX\x7d"), ("Moon", "m")]]
    let config := fun chains : Json => Json.object [("node_endpoint", .string "n"),
      ("executor_contract_id", .string "e"), ("registry_contract_id", .string "r"),
      ("key_store_contract_id", .string "k"), ("chains", chains)]
    let listed := (config (.array (layers.map ChainTable.object))).compact
    let single := (config (ChainTable.object layers.flatten)).compact
    let env : Environment := fun n => if n = "X" then some "up" else none
    ofText env listed = ofText env single ∧
      ∃ c, ofText env listed = .ok c ∧ c.chainEndpoint? ⟨"AsTar"⟩ = some "up" := by
  intro layers config listed single env
  have hobject : ∀ members, (ChainTable.object members).Fits 1 := by
    intro members
    apply Json.Fits.object
    intro m hm
    obtain ⟨_, -, rfl⟩ := List.mem_map.mp hm
    exact .string _
  have hfits : ∀ chains : Json, chains.Fits 2 → (config chains).Fits 3 := by
    intro chains h
    apply Json.Fits.object
    simp only [List.forall_mem_cons]
    exact ⟨.string _, .string _, .string _, .string _, h, nofun⟩
  have htext : ∀ chains : Json, chains.Fits 2 →
      Document.ofText (config chains).compact = (Document.ofJson (config chains), false) :=
    fun chains h => Document.ofText_compact ((hfits chains h).mono (by decide))
  have hlisted := htext (.array (layers.map ChainTable.object)) <| .array fun j hj => by
    obtain ⟨_, -, rfl⟩ := List.mem_map.mp hj
    exact hobject _
  have hsingle := htext (ChainTable.object layers.flatten) ((hobject _).mono (by decide))
  obtain ⟨table, -, -, -, hplaced⟩ := layouts_agree layers
  have hplace : Document.Place fields Directory.chains.key fun d =>
      .object ([(.ok "node_endpoint", .string (.ok "n")),
        (.ok "executor_contract_id", .string (.ok "e")),
        (.ok "registry_contract_id", .string (.ok "r")),
        (.ok "key_store_contract_id", .string (.ok "k"))] ++ (.ok "chains", d) :: []) .closed :=
    .member (by decide)
  obtain ⟨hsame, hread⟩ := hplaced .chains _ hplace _ _ (.listed layers) (.single layers)
    listed single false hlisted hsingle env
  refine ⟨hsame, ?_⟩
  have hok : ∃ c, ofText env listed = .ok c := by
    rw [ofText, Codec.ofText, hlisted]
    exact ⟨_, rfl⟩
  obtain ⟨c, hc⟩ := hok
  refine ⟨c, hc, ((hread c hc).2.least ⟨"AsTar"⟩ "up").mpr
    ⟨"ASTAR", "$\x7bX\x7d", by decide, by decide, ?_, by decide⟩⟩
  simp only [Utf8.bytes_lt_iff]
  decide

end Config

end Interchain
