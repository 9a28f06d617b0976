import Interchain.Proofs.Json.Codec
import Interchain.Proofs.Json.Strings
import Interchain.Proofs.Sorted

/-!
# Reading documents with other strings

A codec follows a function on strings if a document that it reads as a value is still read with
its strings replaced, as the value changed in a certain way.  Codecs of compound values follow
it if those of their parts do.  A record does also where fields are left out, if the function
leaves alone what stands for them, and a variant does if it leaves alone the names.
-/

namespace Interchain

variable {α β : Type} {f : String → String} {form : Form}

/-! ## Values -/

namespace Codec

variable {c : Codec α} {change : α → α}

/-- A document that is read as a value is read, with other strings, as what `change` makes of
the value. -/
def Follows (c : Codec α) (form : Form) (f : String → String) (change : α → α) : Prop :=
  ∀ d a, c.read form d = .ok a → c.read form (d.mapStrings f) = .ok (change a)

theorem string_follows : string.Follows form f f := by
  intro d a h
  cases d with
  | string s =>
    cases s with
    | ok s =>
      cases h
      rfl
    | error why => cases h
  | _ => cases h

theorem uint64_follows : uint64.Follows form f id := by
  intro d a h
  obtain ⟨n, hn, rfl⟩ := Attempt.map_eq_ok.mp h
  simp only [readNatural] at hn
  split at hn
  · next i hseen =>
    simp only [uint64, readNatural, d.seen_mapStrings hseen, hn]
    rfl
  · cases hn

theorem iso_follows {back : β → α} {make : α → β} {changed : β → β} (h : c.Follows form f change)
    (hmake : ∀ a, changed (make a) = make (change a)) :
    (iso c back make).Follows form f changed := by
  intro d b hb
  obtain ⟨a, ha, rfl⟩ := Attempt.map_eq_ok.mp hb
  simp only [iso, h d a ha, Except.map, hmake]

theorem option_follows (h : c.Follows form f change) :
    (option c).Follows form f (Option.map change) := by
  intro d x hx
  cases d with
  | null =>
    cases hx
    rfl
  | _ =>
    obtain ⟨a, ha, rfl⟩ := Attempt.map_eq_ok.mp hx
    exact Attempt.map_eq_ok.mpr ⟨_, h _ a ha, rfl⟩

theorem list_follows (h : c.Follows form f change) :
    (list c).Follows form f (List.map change) := by
  intro d xs hd
  obtain ⟨items, close, rfl, hd⟩ := onArray_eq_ok.mp hd
  obtain ⟨xs, hxs, hd⟩ := Attempt.bind_eq_ok.mp hd
  obtain ⟨hclose, ⟨⟩⟩ := Attempt.check_eq_ok.mp hd
  simp only [list, Document.mapStrings, onArray, Document.mapItems_eq_map,
    Attempt.mapM_map_of_mapM h hxs, hclose, Attempt.ok_bind]
  rfl

/-- Entries with other values are put in the same order. -/
theorem map_follows (h : c.Follows form f change) :
    (map c).Follows form f (List.map fun e => (e.1, change e.2)) := by
  intro d table hd
  obtain ⟨members, close, rfl, hd⟩ := onObject_eq_ok.mp hd
  obtain ⟨entries, hentries, hd⟩ := Attempt.bind_eq_ok.mp hd
  obtain ⟨hclose, ⟨⟩⟩ := Attempt.check_eq_ok.mp hd
  have hmember : ∀ (m : Except Malformed String × Document) (e : String × α),
      (do
        let k ← textual m.1
        let v ← c.read form m.2
        return (k, v)) = .ok e →
      (do
        let k ← textual m.1
        let v ← c.read form (m.2.mapStrings f)
        return (k, v)) = .ok (e.1, change e.2) := by
    intro m e he
    obtain ⟨k, hk, he⟩ := Attempt.bind_eq_ok.mp he
    obtain ⟨v, hv, ⟨⟩⟩ := Attempt.bind_eq_ok.mp he
    simp only [hk, h m.2 v hv, Attempt.ok_bind]
    rfl
  simp only [map, Document.mapStrings, onObject, Document.mapMembers_eq_map]
  rw [Attempt.mapM_map_of_mapM hmember hentries]
  simp only [Attempt.ok_bind, hclose, Sorted.ofList_map]
  rfl

/-- The names of variants are strings too, and stay. -/
theorem readVariant_follows {expected : String} {names : List String}
    {arm : String → Option Document → Except Fault α} (hnames : ∀ name ∈ names, f name = name)
    (harm : ∀ name payload a, arm name payload = .ok a →
      arm name (payload.map (Document.mapStrings f)) = .ok (change a))
    {d : Document} {a : α} (h : readVariant expected names arm .text d = .ok a) :
    readVariant expected names arm .text (d.mapStrings f) = .ok (change a) := by
  cases d with
  | string s =>
    cases s with
    | error why => cases h
    | ok name =>
      simp only [readVariant] at h
      split_ifs at h with hname
      have hf : f name = name := hnames name (List.contains_iff_mem.mp hname)
      simp only [Document.mapStrings, Except.map, readVariant, hf, hname, if_true]
      exact harm name none a h
  | object members close =>
    rcases members with _ | ⟨⟨key, payload⟩, rest⟩
    · cases h
    · obtain ⟨name, hkey, h⟩ := Attempt.bind_eq_ok.mp h
      obtain ⟨b, hb, h⟩ := Attempt.bind_eq_ok.mp h
      obtain ⟨hafter, hab⟩ := Attempt.check_eq_ok.mp h
      obtain rfl : b = a := Except.ok.inj hab
      beta_reduce at hb
      split_ifs at hb with hname
      have hrest : afterVariant (Document.mapMembers f rest) close = afterVariant rest close := by
        cases rest <;> rfl
      have harm' := harm name _ _ hb
      rw [Option.map_some] at harm'
      simp only [Document.mapStrings, Document.mapMembers, readVariant, hkey, hname, if_true,
        Attempt.ok_bind, harm', hrest, hafter]
      rfl
  | _ => cases h

theorem bare_follows {b : α} {payload : Option Document} {a : α} (h : bare b payload = .ok a) :
    bare b (payload.map (Document.mapStrings f)) = .ok a := by
  cases payload with
  | none => exact h
  | some d =>
    cases d with
    | null => exact h
    | _ => cases h

end Codec

/-! ## Records -/

/-- What becomes of the value of each field. -/
def Values.Changes : List Field → Type
  | [] => Unit
  | f :: fs => (f.type → f.type) × Changes fs

/-- Change the value of each field. -/
def Values.change : (fs : List Field) → Changes fs → Values fs → Values fs
  | [], _, _ => ()
  | _ :: fs, (g, gs), (v, vs) => (g v, change fs gs vs)

/-- Change the values of the fields that have been read. -/
def Draft.change : (fs : List Field) → Values.Changes fs → Draft fs → Draft fs
  | [], _, _ => ()
  | _ :: fs, (g, gs), (slot, draft) => (slot.map g, change fs gs draft)

/-- Every field follows, and the value that it has where it is left out stays. -/
def Values.Follow (form : Form) (f : String → String) : (fs : List Field) → Changes fs → Prop
  | [], _ => True
  | field :: fs, (g, gs) =>
    field.codec.Follows form f g ∧ (∀ v ∈ field.absent, g v = v) ∧ Follow form f fs gs

namespace Draft

variable {fs : List Field} {gs : Values.Changes fs} {draft draft' : Draft fs}

theorem change_blank (gs : Values.Changes fs) : (blank fs).change fs gs = blank fs := by
  induction fs with
  | nil => rfl
  | cons _ fs ih =>
    obtain ⟨g, gs⟩ := gs
    rw [blank, Draft.change, ih]
    rfl

theorem put_follows {key : String} {d : Document} (hfs : Values.Follow form f fs gs)
    (h : put form key d fs draft = .ok draft') :
    put form key (d.mapStrings f) fs (draft.change fs gs) = .ok (draft'.change fs gs) := by
  induction fs with
  | nil => rwa [put, Document.skip_mapStrings]
  | cons field fs ih =>
    obtain ⟨g, gs⟩ := gs
    obtain ⟨slot, draft⟩ := draft
    obtain ⟨hfield, -, hfs⟩ := hfs
    simp only [put, Draft.change] at h ⊢
    split_ifs at h ⊢ with hname
    · cases slot with
      | some v => cases h
      | none =>
        obtain ⟨v, hv, rfl⟩ := Attempt.map_eq_ok.mp h
        exact Attempt.map_eq_ok.mpr ⟨g v, hfield d v hv, rfl⟩
    · obtain ⟨rest, hrest, rfl⟩ := Attempt.map_eq_ok.mp h
      exact Attempt.map_eq_ok.mpr ⟨_, ih hfs hrest, rfl⟩

theorem putAll_follows {members : List (Except Malformed String × Document)}
    (hfs : Values.Follow form f fs gs) (h : putAll form fs members draft = .ok draft') :
    putAll form fs (Document.mapMembers f members) (draft.change fs gs) =
      .ok (draft'.change fs gs) := by
  induction members generalizing draft with
  | nil =>
    cases h
    rfl
  | cons m rest ih =>
    obtain ⟨key, hkey, h⟩ := Attempt.bind_eq_ok.mp h
    obtain ⟨_, hput, h⟩ := Attempt.bind_eq_ok.mp h
    simp only [Document.mapMembers, putAll, hkey, put_follows hfs hput, ih h, Attempt.ok_bind]

theorem finish_follows {vs : Values fs} (hfs : Values.Follow form f fs gs)
    (h : finish fs draft = .ok vs) : finish fs (draft.change fs gs) = .ok (vs.change fs gs) := by
  induction fs with
  | nil => rfl
  | cons field fs ih =>
    obtain ⟨g, gs⟩ := gs
    obtain ⟨slot, draft⟩ := draft
    obtain ⟨-, habsent, hfs⟩ := hfs
    rw [finish] at h
    cases hslot : slot.or field.absent with
    | none =>
      rw [hslot] at h
      cases h
    | some v =>
      rw [hslot] at h
      obtain ⟨vs, hvs, rfl⟩ := Attempt.map_eq_ok.mp h
      have hg : (slot.map g).or field.absent = some (g v) := by
        cases slot with
        | none =>
          have hv : field.absent = some v := hslot
          rw [Option.map_none, Option.none_or, habsent v hv, hv]
        | some w => exact congrArg (Option.map g) hslot
      rw [Draft.change, finish, hg]
      exact Attempt.map_eq_ok.mpr ⟨_, ih hfs hvs, rfl⟩

end Draft

namespace Values

variable {fs : List Field} {gs : Changes fs} {vs : Values fs} {close : Close}

theorem ofMembers_follows {members : List (Except Malformed String × Document)}
    (hfs : Follow form f fs gs) (h : ofMembers form fs members close = .ok vs) :
    ofMembers form fs (Document.mapMembers f members) close = .ok (vs.change fs gs) := by
  obtain ⟨draft, hput, h⟩ := Attempt.bind_eq_ok.mp h
  obtain ⟨hclose, hfinish⟩ := Attempt.check_eq_ok.mp h
  have hput' := Draft.putAll_follows hfs hput
  rw [Draft.change_blank] at hput'
  simp only [ofMembers, hput', hclose, Attempt.ok_bind]
  exact Draft.finish_follows hfs hfinish

theorem ofItems_follows {label : String} {n : Nat} {items rest : List Document}
    (hfs : Follow form f fs gs) (h : ofItems form label close n fs items = .ok (vs, rest)) :
    ofItems form label close n fs (Document.mapItems f items) =
      .ok (vs.change fs gs, Document.mapItems f rest) := by
  induction fs generalizing items n with
  | nil =>
    cases h
    rfl
  | cons field fs ih =>
    obtain ⟨g, gs⟩ := gs
    obtain ⟨hfield, habsent, hfs⟩ := hfs
    cases items with
    | nil =>
      obtain ⟨hclose, h⟩ := Attempt.check_eq_ok.mp h
      cases hv : field.absent with
      | none =>
        rw [hv] at h
        cases h
      | some v =>
        rw [hv] at h
        obtain ⟨⟨vs, rest⟩, hrest, ⟨⟩⟩ := Attempt.map_eq_ok.mp h
        have hrest' := ih hfs hrest
        simp only [Document.mapItems] at hrest'
        simp only [Document.mapItems, ofItems, hclose, Attempt.ok_bind, hv, hrest', Values.change,
          habsent v hv]
        rfl
    | cons d items =>
      obtain ⟨v, hv, h⟩ := Attempt.bind_eq_ok.mp h
      obtain ⟨⟨vs, rest⟩, hrest, ⟨⟩⟩ := Attempt.bind_eq_ok.mp h
      simp only [Document.mapItems, ofItems, hfield d v hv, ih hfs hrest, Attempt.ok_bind]
      rfl

theorem ofArray_follows {label : String} {items : List Document} (hfs : Follow form f fs gs)
    (h : ofArray form label fs items close = .ok vs) :
    ofArray form label fs (Document.mapItems f items) close = .ok (vs.change fs gs) := by
  obtain ⟨⟨vs, rest⟩, hitems, h⟩ := Attempt.bind_eq_ok.mp h
  cases rest with
  | nil =>
    obtain ⟨hclose, ⟨⟩⟩ := Attempt.check_eq_ok.mp h
    simp only [ofArray, ofItems_follows hfs hitems, Attempt.ok_bind, Document.mapItems,
      List.isEmpty_nil, if_true, hclose]
    rfl
  | cons => cases h

end Values

/-- A record follows if its fields do. -/
theorem Codec.record_follows {name : String} {fs : List Field} {gs : Values.Changes fs}
    {back : α → Values fs} {make : Values fs → α} {change : α → α}
    (hfs : Values.Follow form f fs gs) (hmake : ∀ vs, change (make vs) = make (vs.change fs gs)) :
    (record name fs back make).Follows form f change := by
  intro d a h
  cases d with
  | object members close =>
    obtain ⟨vs, hvs, rfl⟩ := Attempt.map_eq_ok.mp h
    exact Attempt.map_eq_ok.mpr ⟨_, Values.ofMembers_follows hfs hvs, (hmake vs).symm⟩
  | array items close =>
    obtain ⟨vs, hvs, rfl⟩ := Attempt.map_eq_ok.mp h
    exact Attempt.map_eq_ok.mpr ⟨_, Values.ofArray_follows hfs hvs, (hmake vs).symm⟩
  | deep d => cases d <;> cases h
  | _ => cases h

end Interchain
