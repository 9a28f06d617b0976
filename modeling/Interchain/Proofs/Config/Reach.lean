import Interchain.Config.Basic
import Interchain.Proofs.Config.Expansion
import Interchain.Proofs.Json.Follow

/-!
# How far expansion reaches

References are expanded once a configuration has been read, and not in all of its texts: those
in the names of contracts, workers and source chains remain.  So a document whose strings are
expanded before it is read is not read as the same configuration, unless these names stay as
they are.  The other texts do not come out alike either if their expansion makes up the
beginning of a reference that is not closed, which is then expanded once more.
-/

namespace Interchain

variable {α : Type} {env : Environment} {f : String → String} {form : Form}

/-! ## Texts -/

namespace Expansion

variable {a b : List Char}

/-- A text without a dollar sign has no reference. -/
theorem closed_of_no_dollar (h : '$' ∉ a) : Closed a := by
  apply closed_of_no_opening
  rintro ⟨before, after, rfl⟩
  simp at h

theorem expand_of_no_dollar {s : String} (h : '$' ∉ s.toList) : expand env s = s := by
  rw [← String.toList_inj, toList_expand]
  apply scan_eq_self (closed_of_no_dollar h)
  rintro name ⟨before, after, -, -, hsplit⟩
  refine absurd ?_ h
  rw [hsplit]
  simp [reference]

/-- Where no variable is set, a reference that is not closed is all that is altered: it gets
its brace. -/
theorem expand_empty_eq_self_iff {s : String} : expand .empty s = s ↔ Closed s.toList := by
  rw [← String.toList_inj, toList_expand]
  constructor
  · intro hself
    by_contra hopen
    obtain ⟨before, left, hbefore, hleft, hsplit⟩ := (closed_or_open s.toList).resolve_left hopen
    have hscan : scan .empty none before = before := scan_eq_self hbefore fun _ _ => rfl
    rw [hsplit, scan_append hbefore (by simp), hscan, scan, scan_left hleft] at hself
    have hlength := congrArg List.length (List.append_cancel_left hself)
    simp [value, Environment.empty, reference] at hlength
  · intro hclosed
    exact scan_eq_self hclosed fun _ _ => rfl

/-- Two texts side by side have the references of each, if none is made up where they meet. -/
theorem Closed.append (ha : Closed a) (hb : Closed b) (hlast : a.getLast? ≠ some '$') :
    Closed (a ++ b) := by
  induction ha with
  | nil => exact hb
  | @plain c rest opens _ ih =>
    cases rest with
    | nil =>
      refine .plain ?_ hb
      rintro ⟨tail, htail⟩
      exact hlast (congrArg some (List.cons.inj htail).1.symm)
    | cons d rest =>
      refine .plain ?_ (ih ?_)
      · rintro ⟨tail, htail⟩
        obtain ⟨rfl, hnext⟩ := List.cons.inj htail
        obtain ⟨rfl, -⟩ := List.cons.inj hnext
        exact opens ⟨rest, rfl⟩
      · rwa [List.getLast?_cons_cons] at hlast
  | @reference name rest ends _ ih =>
    rw [List.append_assoc]
    refine .reference ends ?_
    cases rest with
    | nil => exact hb
    | cons d rest =>
      apply ih
      rwa [List.getLast?_append_of_ne_nil _ (List.cons_ne_nil d rest)] at hlast

/-- The values of the variables begin no reference that they do not close, neither on their own
nor with the texts around them. -/
structure Inert (env : Environment) : Prop where
  closed : ∀ name v, env name = some v → Closed v.toList
  begins : ∀ name v, env name = some v → ∃ c rest, v.toList = c :: rest ∧ c ≠ '\x7b'
  ends : ∀ name v, env name = some v → v.toList.getLast? ≠ some '$'

/-- With such values, a text with closed references is expanded to one.  That it does not begin
with a brace unless the text does is what the induction needs behind a dollar sign. -/
theorem Inert.closed_scan (henv : Inert env) (ha : Closed a) :
    Closed (scan env none a) ∧
      ((scan env none a).head? = some '\x7b' → a.head? = some '\x7b') := by
  induction ha with
  | nil => exact ⟨by rw [scan]; exact .nil, by rw [scan]; exact id⟩
  | @plain c rest opens _ ih =>
    obtain ⟨hclosed, hhead⟩ := ih
    rw [scan_plain opens]
    refine ⟨.plain ?_ hclosed, id⟩
    rintro ⟨tail, htail⟩
    obtain ⟨rfl, hscan⟩ := List.cons.inj htail
    have hrest : rest.head? = some '\x7b' := by
      apply hhead
      rw [← hscan]
      rfl
    cases rest with
    | nil => cases hrest
    | cons d rest =>
      obtain rfl := Option.some.inj hrest
      exact opens ⟨rest, rfl⟩
  | @reference name rest ends _ ih =>
    obtain ⟨hclosed, -⟩ := ih
    rw [scan_reference ends, value]
    cases hvalue : env (String.ofList name) with
    | none =>
      refine ⟨.reference ends hclosed, ?_⟩
      intro hhead
      exact absurd (Option.some.inj hhead) (by decide)
    | some v =>
      refine ⟨(henv.closed _ v hvalue).append hclosed (henv.ends _ v hvalue), ?_⟩
      obtain ⟨c, tail, hv, hc⟩ := henv.begins _ v hvalue
      dsimp only
      rw [hv]
      intro hhead
      exact absurd (Option.some.inj hhead) hc

end Expansion

/-! ## Tables -/

/-- Either layout of a table is read with its texts changed, and in the same order. -/
theorem ChainTable.follows :
    ChainTable.codec.Follows form f (List.map fun e => (e.1, f e.2)) := by
  have hmap : (Codec.map Codec.string).Follows .value f (List.map fun e => (e.1, f e.2)) :=
    Codec.map_follows Codec.string_follows
  intro d table h
  simp only [codec] at h ⊢
  cases hj : d.toJson with
  | error why =>
    rw [hj] at h
    cases h
  | ok j =>
    rw [Document.toJson_mapStrings d hj]
    simp only [hj] at h
    simp only [Document.ofJson_mapStrings]
    cases hobject : (Codec.map Codec.string).read .value (Document.ofJson j) with
    | ok entries =>
      rw [hobject] at h
      cases h
      rw [hmap _ _ hobject]
    | error e =>
      rw [hobject] at h
      cases hlist : (Codec.list (Codec.map Codec.string)).read .value (Document.ofJson j) with
      | error e' =>
        simp only [hlist] at h
        cases h
      | ok tables =>
        simp only [hlist] at h
        cases h
        -- What is read as a list is no object, also with other strings.
        have hno : ∃ e, (Codec.map Codec.string).read .value
            ((Document.ofJson j).mapStrings f) = .error e := by
          cases j with
          | array items => exact ⟨_, rfl⟩
          | _ => cases hlist
        obtain ⟨e', he'⟩ := hno
        rw [he']
        simp only [Codec.list_follows hmap _ _ hlist, ← Sorted.ofList_map, List.map_flatten]

/-- The names of the families stay. -/
theorem ChainType.follows (hf : ∀ s : String, '$' ∉ s.toList → f s = s) :
    ChainType.codec.Follows .text f id := by
  intro d t h
  refine Codec.readVariant_follows ?_ ?_ h
  · simp only [List.forall_mem_cons]
    exact ⟨hf _ (by decide), hf _ (by decide), List.forall_mem_nil _⟩
  · intro name payload a ha
    exact Codec.bare_follows ha

/-! ## Configurations -/

/-- Change every text of the settings. -/
def SchedulerSettings.mapTexts (f : String → String) (s : SchedulerSettings) :
    SchedulerSettings :=
  { s with
    sourceChains := s.sourceChains.map fun n => ⟨f n.text⟩
    workers := s.workers.map fun n => ⟨f n.text⟩
    tokenCommand := f s.tokenCommand }

namespace Config

/-- Change every text of a configuration. -/
def mapTexts (f : String → String) (c : Config) : Config :=
  { nodeEndpoint := f c.nodeEndpoint
    executorContract := ⟨f c.executorContract.text⟩
    registryContract := ⟨f c.registryContract.text⟩
    keyStoreContract := ⟨f c.keyStoreContract.text⟩
    signer := c.signer.map f
    storageUrl := c.storageUrl.map f
    chains := c.chains.map fun e => (e.1, f e.2)
    handlers := c.handlers.map fun e => (e.1, f e.2)
    chainTypes := c.chainTypes
    scheduler := c.scheduler.mapTexts f }

/-- The texts in which references are expanded. -/
def reached (c : Config) : List String :=
  c.nodeEndpoint :: c.scheduler.tokenCommand :: c.signer.toList ++ c.storageUrl.toList ++
    c.chains.map Prod.snd ++ c.handlers.map Prod.snd

/-- The texts in which references remain. -/
def unreached (c : Config) : List String :=
  c.executorContract.text :: c.registryContract.text :: c.keyStoreContract.text ::
    c.scheduler.sourceChains.map ChainName.text ++ c.scheduler.workers.map Name.text

end Config

/-! ## Reading -/

theorem Name.follows {kind : NameKind} :
    (Name.codec : Codec (Name kind)).Follows form f fun n => ⟨f n.text⟩ :=
  Codec.iso_follows Codec.string_follows fun _ => rfl

theorem ChainName.follows : ChainName.codec.Follows form f fun n => ⟨f n.text⟩ :=
  Codec.iso_follows Codec.string_follows fun _ => rfl

/-- What becomes of the fields of the settings. -/
def SchedulerSettings.changes (f : String → String) : Values.Changes fields :=
  (List.map fun n => ⟨f n.text⟩, List.map fun n => ⟨f n.text⟩, id, id, id, f, ())

theorem SchedulerSettings.mapTexts_standard (hf : ∀ s : String, '$' ∉ s.toList → f s = s) :
    standard.mapTexts f = standard := by
  simp only [mapTexts, standard, List.map_cons, List.map_nil, hf "Moonbeam" (by decide),
    hf "AstarEvm" (by decide), hf "gcloud auth print-access-token" (by decide)]

theorem SchedulerSettings.follows (hf : ∀ s : String, '$' ∉ s.toList → f s = s) :
    SchedulerSettings.codec.Follows form f (mapTexts f) := by
  have hfields : Values.Follow form f fields (changes f) := by
    refine ⟨Codec.list_follows ChainName.follows, ?_, Codec.list_follows Name.follows, ?_,
      Codec.uint64_follows, ?_, Codec.uint64_follows, ?_, Codec.uint64_follows, ?_,
      Codec.string_follows, ?_, trivial⟩
    all_goals rintro _ ⟨⟩
    any_goals rfl
    · exact congrArg sourceChains (mapTexts_standard hf)
    · exact congrArg tokenCommand (mapTexts_standard hf)
  exact Codec.record_follows hfields fun _ => rfl

namespace Config

/-- What becomes of the fields of a configuration. -/
def changes (f : String → String) : Values.Changes fields :=
  (f, fun n => ⟨f n.text⟩, fun n => ⟨f n.text⟩, fun n => ⟨f n.text⟩, Option.map f, Option.map f,
   List.map fun e => (e.1, f e.2), List.map fun e => (e.1, f e.2),
   id, SchedulerSettings.mapTexts f, ())

/-- From a document with other strings, the configuration with other texts is read. -/
theorem follows (hf : ∀ s : String, '$' ∉ s.toList → f s = s) :
    codec.Follows .text f (mapTexts f) := by
  have hfamilies : (Codec.map ChainType.codec).Follows .text f id := by
    simpa using Codec.map_follows (ChainType.follows hf)
  have hfields : Values.Follow .text f fields (changes f) := by
    refine ⟨Codec.string_follows, nofun, Name.follows, nofun, Name.follows, nofun, Name.follows,
      nofun, Codec.option_follows Codec.string_follows, ?_,
      Codec.option_follows Codec.string_follows, ?_, ChainTable.follows, ?_, ChainTable.follows, ?_,
      hfamilies, ?_, SchedulerSettings.follows hf, ?_, trivial⟩
    all_goals rintro _ ⟨⟩
    any_goals rfl
    exact SchedulerSettings.mapTexts_standard hf
  exact Codec.record_follows hfields fun _ => rfl

/-! ## Texts that stay -/

variable {g : String → String}

theorem name_eq_self_iff {kind : NameKind} (n : Name kind) :
    (⟨f n.text⟩ : Name kind) = n ↔ f n.text = n.text := by
  cases n
  rw [Name.mk.injEq]

theorem chainName_eq_self_iff (n : ChainName) :
    (⟨f n.text⟩ : ChainName) = n ↔ f n.text = n.text := by
  cases n
  rw [ChainName.mk.injEq]

/-- Names stay as they are if their texts do. -/
theorem names_eq_self_iff {text : α → String} {change : α → α}
    (h : ∀ a, change a = a ↔ f (text a) = text a) (names : List α) :
    names.map change = names ↔ ∀ t ∈ names.map text, f t = t := by
  induction names with
  | nil => simp
  | cons a rest ih =>
    rw [List.map_cons, List.cons.injEq, h, ih, List.map_cons, List.forall_mem_cons]

theorem option_again_eq_iff (x : Option String) :
    (x.map f).map g = x.map f ↔ ∀ t ∈ x.toList, g (f t) = f t := by
  cases x <;> simp

theorem table_again_eq_iff (table : ChainTable String) :
    (table.map fun e => (e.1, f e.2)).map (fun e => (e.1, g e.2)) =
      table.map (fun e => (e.1, f e.2)) ↔ ∀ t ∈ table.map Prod.snd, g (f t) = f t := by
  rw [List.map_map, List.map_inj_left, List.forall_mem_map]
  simp

/-- Expanding all texts, and those that are reached once more where no variable is set, is
expanding those that are reached only if the others stay as they are and these are left with
no reference that is not closed. -/
theorem expand_mapTexts_eq_iff (env : Environment) (c : Config) :
    (c.mapTexts (Expansion.expand env)).expand .empty = c.expand env ↔
      (∀ t ∈ c.unreached, Expansion.expand env t = t) ∧
        ∀ t ∈ c.reached, Expansion.Closed (Expansion.expand env t).toList := by
  simp only [expand, mapTexts, SchedulerSettings.mapTexts, Config.mk.injEq,
    SchedulerSettings.mk.injEq, name_eq_self_iff, option_again_eq_iff, table_again_eq_iff,
    names_eq_self_iff name_eq_self_iff, names_eq_self_iff chainName_eq_self_iff,
    ← Expansion.expand_empty_eq_self_iff, reached, unreached, List.forall_mem_cons,
    List.forall_mem_append]
  constructor
  · rintro ⟨hnode, hexecutor, hregistry, hkeyStore, hsigner, hstorage, hchains, hhandlers, -,
      hsources, hworkers, -, -, -, hcommand⟩
    exact ⟨⟨⟨hexecutor, hregistry, hkeyStore, hsources⟩, hworkers⟩,
      ⟨⟨⟨hnode, hcommand, hsigner⟩, hstorage⟩, hchains⟩, hhandlers⟩
  · rintro ⟨⟨⟨hexecutor, hregistry, hkeyStore, hsources⟩, hworkers⟩,
      ⟨⟨⟨hnode, hcommand, hsigner⟩, hstorage⟩, hchains⟩, hhandlers⟩
    exact ⟨hnode, hexecutor, hregistry, hkeyStore, hsigner, hstorage, hchains, hhandlers, trivial,
      hsources, hworkers, trivial, trivial, trivial, hcommand⟩

theorem unreached_mapTexts (c : Config) : (c.mapTexts f).unreached = c.unreached.map f := by
  simp only [unreached, mapTexts, SchedulerSettings.mapTexts, List.map_cons, List.map_append,
    List.map_map]
  rfl

theorem reached_mapTexts (c : Config) : (c.mapTexts f).reached = c.reached.map f := by
  simp only [reached, mapTexts, SchedulerSettings.mapTexts, List.map_cons, List.map_append,
    List.map_map, Option.toList_map]
  rfl

/-- A text of a configuration stands in the document, or has no reference. -/
theorem texts_of_document {d : Document} {c : Config} (h : codec.read .text d = .ok c) :
    ∀ t ∈ c.unreached ++ c.reached, t ∈ d.strings ∨ '$' ∉ t.toList := by
  -- A function that changes all other texts changes nothing in the document, so it changes
  -- nothing in the configuration either.
  let f : String → String := fun t => if t ∈ d.strings ∨ '$' ∉ t.toList then t else t ++ "$"
  have hf : ∀ t, f t = t → t ∈ d.strings ∨ '$' ∉ t.toList := by
    intro t ht
    by_contra hother
    have hlength := congrArg String.length ht
    simp [f, hother] at hlength
  have hdoc : d.mapStrings f = d := d.mapStrings_eq_self fun s hs => if_pos (.inl hs)
  have hread : codec.read .text d = .ok (c.mapTexts f) := by
    have hfollows := follows (f := f) (fun s hs => if_pos (.inr hs)) d c h
    rwa [hdoc] at hfollows
  have hsame : c.mapTexts f = c := Except.ok.inj (hread.symm.trans h)
  have htexts : (c.unreached ++ c.reached).map f = c.unreached ++ c.reached := by
    rw [List.map_append, ← unreached_mapTexts, ← reached_mapTexts, hsame]
  intro t ht
  exact hf t (List.map_inj_left.mp (htexts.trans (List.map_id _).symm) t ht)

theorem ofText_of_read {text : String} {c : Config} (h : codec.ofText text = .ok c) :
    ofText env text = .ok (c.expand env) := by
  rw [ofText, h]
  rfl

/-- A document is not read in an environment as it would be read in none with all its strings
expanded before.  The two are the same configuration only if the names of contracts, workers
and source chains have nothing to expand, and if expansion leaves no reference open in the
other texts.  That it does not, if the references in the document are closed and the values of
the variables make up none. -/
theorem expanded_first (env : Environment) {text text' : String} {c : Config}
    (hread : codec.ofText text = .ok c)
    (htext' : Document.ofText text' =
      ((Document.ofText text).1.mapStrings (Expansion.expand env), false)) :
    ofText env text = .ok (c.expand env) ∧
      ofText .empty text' = .ok ((c.mapTexts (Expansion.expand env)).expand .empty) ∧
      (ofText env text = ofText .empty text' ↔
        (∀ t ∈ c.unreached, Expansion.expand env t = t) ∧
          ∀ t ∈ c.reached, Expansion.Closed (Expansion.expand env t).toList) ∧
      ((∀ s ∈ (Document.ofText text).1.strings, Expansion.Closed s.toList) → Expansion.Inert env →
        (ofText env text = ofText .empty text' ↔
          ∀ t ∈ c.unreached, Expansion.expand env t = t)) := by
  obtain ⟨hdoc, -⟩ := Codec.ofText_eq_ok.mp hread
  have hread' : codec.ofText text' = .ok (c.mapTexts (Expansion.expand env)) := by
    rw [Codec.ofText_eq_ok, htext']
    exact ⟨follows (fun _ => Expansion.expand_of_no_dollar) _ c hdoc, rfl⟩
  have hfirst : ofText env text = .ok (c.expand env) := ofText_of_read hread
  have hsecond : ofText .empty text' = .ok ((c.mapTexts (Expansion.expand env)).expand .empty) :=
    ofText_of_read hread'
  have hsame : ofText env text = ofText .empty text' ↔
      (∀ t ∈ c.unreached, Expansion.expand env t = t) ∧
        ∀ t ∈ c.reached, Expansion.Closed (Expansion.expand env t).toList := by
    rw [hfirst, hsecond, ← expand_mapTexts_eq_iff, Except.ok.injEq, eq_comm]
  refine ⟨hfirst, hsecond, hsame, ?_⟩
  intro hclosed henv
  rw [hsame, and_iff_left]
  intro t ht
  rw [Expansion.toList_expand]
  refine (henv.closed_scan ?_).1
  rcases texts_of_document hdoc t (List.mem_append_right _ ht) with hmem | hplain
  · exact hclosed t hmem
  · exact Expansion.closed_of_no_dollar hplain

/-- References in the address of the gateway and in a table of chains in the older layout. -/
theorem expanded_first_sample :
    let doc := Json.object [("node_endpoint", .string "$\x7bN\x7d/api"),
      ("executor_contract_id", .string "e"), ("registry_contract_id", .string "r"),
      ("key_store_contract_id", .string "k"),
      ("chains", .array [.object [("astar", .string "$\x7bN\x7d")]])]
    let env : Environment := fun n => if n = "N" then some "n" else none
    ofText env doc.compact = ofText .empty (doc.mapStrings (Expansion.expand env)).compact ∧
      ∃ c, ofText env doc.compact = .ok c ∧ c.nodeEndpoint = "n/api" := by
  intro doc env
  have hfits : doc.Fits Document.Parser.maxDepth := by
    have hastar : (Json.object [("astar", .string "$\x7bN\x7d")]).Fits 1 := by
      apply Json.Fits.object
      simpa using .string _
    have hchains : (Json.array [.object [("astar", .string "$\x7bN\x7d")]]).Fits 2 := by
      apply Json.Fits.array
      simpa using hastar
    have hdoc : doc.Fits 3 := by
      apply Json.Fits.object
      simp only [List.forall_mem_cons]
      exact ⟨.string _, .string _, .string _, .string _, hchains, List.forall_mem_nil _⟩
    exact hdoc.mono (by decide)
  have hok : ∃ c, codec.ofText doc.compact = .ok c ∧ c.nodeEndpoint = "$\x7bN\x7d/api" ∧
      c.unreached = ["e", "r", "k", "Moonbeam", "AstarEvm"] := by
    rw [Codec.ofText, Document.ofText_compact hfits]
    exact ⟨_, rfl, rfl, rfl⟩
  have hclosed : ∀ s ∈ (Document.ofText doc.compact).1.strings, Expansion.Closed s.toList := by
    have hstrings : (Document.ofJson doc).strings =
        ["$\x7bN\x7d/api", "e", "r", "k", "$\x7bN\x7d"] := rfl
    have hplain : ∀ s : String, '$' ∉ s.toList → Expansion.Closed s.toList :=
      fun _ => Expansion.closed_of_no_dollar
    rw [Document.ofText_compact hfits, hstrings]
    simp only [List.forall_mem_cons]
    exact ⟨@Expansion.Closed.reference ['N'] _ (by decide) (hplain "/api" (by decide)),
      hplain _ (by decide), hplain _ (by decide), hplain _ (by decide),
      @Expansion.Closed.reference ['N'] _ (by decide) .nil, List.forall_mem_nil _⟩
  have hinert : Expansion.Inert env := by
    have hvalue : ∀ name v, env name = some v → v = "n" := by
      intro name v hv
      simp only [env] at hv
      split_ifs at hv
      exact (Option.some.inj hv).symm
    constructor
    · intro name v hv
      exact hvalue name v hv ▸ Expansion.closed_of_no_dollar (by decide)
    · intro name v hv
      exact hvalue name v hv ▸ ⟨'n', [], by decide, by decide⟩
    · intro name v hv
      exact hvalue name v hv ▸ by decide
  obtain ⟨c, hread, hnode, hunreached⟩ := hok
  obtain ⟨hfirst, -, -, hsame⟩ := expanded_first env hread (Document.ofText_mapStrings hfits)
  constructor
  · rw [hsame hclosed hinert, hunreached]
    decide
  · refine ⟨_, hfirst, ?_⟩
    rw [expand, hnode]
    show Expansion.expand env "$\x7bN\x7d/api" = "n/api"
    decide

/-- The name of a contract refers to a variable.  It is not the value of the variable, as it
would be if it were expanded before. -/
theorem contract_not_expanded :
    let doc := Json.object [("node_endpoint", .string "http://node.example"),
      ("executor_contract_id", .string "$\x7bX\x7d"), ("registry_contract_id", .string "0xreg"),
      ("key_store_contract_id", .string "0xkey")]
    let env : Environment := fun n => if n = "X" then some "0xexec" else none
    (∃ c, ofText env doc.compact = .ok c ∧ c.executorContract = ⟨"$\x7bX\x7d"⟩) ∧
      (∃ c, ofText .empty (doc.mapStrings (Expansion.expand env)).compact = .ok c ∧
        c.executorContract = ⟨"0xexec"⟩) ∧
      ¬ ∀ (env : Environment) (text text' : String) (c : Config), codec.ofText text = .ok c →
        (∀ s ∈ (Document.ofText text).1.strings, Expansion.Closed s.toList) →
        (∀ name v, env name = some v → ¬ "$\x7b".toList <:+: v.toList) →
        Document.ofText text' =
          ((Document.ofText text).1.mapStrings (Expansion.expand env), false) →
        ofText env text = ofText .empty text' := by
  intro doc env
  have hfits : doc.Fits Document.Parser.maxDepth := by
    have hdoc : doc.Fits 1 := by
      apply Json.Fits.object
      simp only [List.forall_mem_cons]
      exact ⟨.string _, .string _, .string _, .string _, List.forall_mem_nil _⟩
    exact hdoc.mono (by decide)
  have hclosed : ∀ s ∈ (Document.ofText doc.compact).1.strings, Expansion.Closed s.toList := by
    have hstrings : (Document.ofJson doc).strings =
        ["http://node.example", "$\x7bX\x7d", "0xreg", "0xkey"] := rfl
    rw [Document.ofText_compact hfits, hstrings]
    simp only [List.forall_mem_cons]
    exact ⟨Expansion.closed_of_no_dollar (by decide),
      @Expansion.Closed.reference ['X'] _ (by decide) .nil,
      Expansion.closed_of_no_dollar (by decide), Expansion.closed_of_no_dollar (by decide),
      List.forall_mem_nil _⟩
  have hvalues : ∀ name v, env name = some v → ¬ "$\x7b".toList <:+: v.toList := by
    intro name v hv
    simp only [env] at hv
    split_ifs at hv
    rw [← Option.some.inj hv]
    decide
  have hread : ∃ c, codec.ofText doc.compact = .ok c ∧ c.executorContract = ⟨"$\x7bX\x7d"⟩ := by
    rw [Codec.ofText, Document.ofText_compact hfits]
    exact ⟨_, rfl, rfl⟩
  have hread' : ∃ c, codec.ofText (doc.mapStrings (Expansion.expand env)).compact = .ok c ∧
      c.executorContract = ⟨Expansion.expand env "$\x7bX\x7d"⟩ := by
    rw [Codec.ofText, Document.ofText_compact hfits.mapStrings]
    exact ⟨_, rfl, rfl⟩
  obtain ⟨c, hc, hname⟩ := hread
  obtain ⟨c', hc', hname'⟩ := hread'
  have hvalue : Expansion.expand env "$\x7bX\x7d" = "0xexec" := by decide
  rw [hvalue] at hname'
  have hfirst : ofText env doc.compact = .ok (c.expand env) := ofText_of_read hc
  have hsecond : ofText .empty (doc.mapStrings (Expansion.expand env)).compact =
      .ok (c'.expand .empty) := ofText_of_read hc'
  refine ⟨⟨_, hfirst, hname⟩, ⟨_, hsecond, hname'⟩, ?_⟩
  intro hclaim
  have hsame := hclaim env _ _ c hc hclosed hvalues (Document.ofText_mapStrings hfits)
  rw [hfirst, hsecond] at hsame
  have hcontracts : (⟨"$\x7bX\x7d"⟩ : ContractId) = ⟨"0xexec"⟩ := calc
    _ = (c.expand env).executorContract := hname.symm
    _ = (c'.expand .empty).executorContract := congrArg executorContract (Except.ok.inj hsame)
    _ = _ := hname'
  exact absurd hcontracts (by decide)

end Config

end Interchain
