import Interchain.Proofs.Json.Codec

/-!
# Fields where they stand

A record may be read from an object or from an array, and a document in one place of it
becomes the value of one field.  The other documents do not matter for that value, and the
record does not change if the document is replaced by one that the field reads alike.
-/

namespace Interchain

variable {form : Form} {key : String} {d d₁ d₂ : Document} {fs : List Field}

/-- A record with one document left open, in the place of a field: as a member of this name,
or as an item with as many before it as there are fields before this one. -/
inductive Document.Place (fs : List Field) (key : String) : (Document → Document) → Prop
  | member {before after : List (Except Malformed String × Document)} {close : Close}
      (named : key ∈ fs.map Field.name) :
    Place fs key fun d => .object (before ++ (.ok key, d) :: after) close
  | item {before after : List Document} {close : Close}
      (counted : (fs.map Field.name)[before.length]? = some key) :
    Place fs key fun d => .array (before ++ d :: after) close

/-- Every field of this name reads the two documents alike. -/
def Document.SameFor (form : Form) (key : String) (fs : List Field) (d₁ d₂ : Document) : Prop :=
  ∀ f ∈ fs, f.name = key → f.codec.read form d₁ = f.codec.read form d₂

/-! ## Members -/

namespace Draft

/-- What is read of a field, a document stands for. -/
def Has (form : Form) (key : String) (d : Document) : (fs : List Field) → Draft fs → Prop
  | [], _ => False
  | f :: fs, (slot, draft) =>
    if key = f.name then ∃ v, slot = some v ∧ f.codec.read form d = .ok v
    else Has form key d fs draft

variable {draft draft' : Draft fs} {members : List (Except Malformed String × Document)}

theorem putAll_append (before after : List (Except Malformed String × Document))
    (draft : Draft fs) :
    putAll form fs (before ++ after) draft =
      putAll form fs before draft >>= putAll form fs after := by
  induction before generalizing draft with
  | nil => rfl
  | cons m before ih =>
    obtain ⟨k, d⟩ := m
    have hrest : putAll form fs (before ++ after) =
        fun draft => putAll form fs before draft >>= putAll form fs after := funext ih
    simp only [List.cons_append, putAll, bind_assoc, hrest]

theorem put_congr (hkey : key ∈ fs.map Field.name) (h : Document.SameFor form key fs d₁ d₂)
    (draft : Draft fs) : put form key d₁ fs draft = put form key d₂ fs draft := by
  induction fs with
  | nil => cases hkey
  | cons f fs ih =>
    obtain ⟨slot, draft⟩ := draft
    simp only [put]
    split_ifs with hname
    · rw [h f List.mem_cons_self hname.symm]
    · have hrest : key ∈ fs.map Field.name :=
        (List.mem_cons.mp hkey).resolve_left hname
      rw [ih hrest fun g hg => h g (List.mem_cons_of_mem _ hg)]

/-- The member that was put in last is what its field was read from. -/
theorem has_of_put (hkey : key ∈ fs.map Field.name) (h : put form key d fs draft = .ok draft') :
    Has form key d fs draft' := by
  induction fs with
  | nil => cases hkey
  | cons f fs ih =>
    obtain ⟨slot, draft⟩ := draft
    simp only [put] at h
    split_ifs at h with hname
    · cases slot with
      | some v => cases h
      | none =>
        obtain ⟨v, hv, rfl⟩ := Attempt.map_eq_ok.mp h
        rw [Has, if_pos hname]
        exact ⟨v, rfl, hv⟩
    · obtain ⟨draft', hdraft, rfl⟩ := Attempt.map_eq_ok.mp h
      have hrest : key ∈ fs.map Field.name := (List.mem_cons.mp hkey).resolve_left hname
      rw [Has, if_neg hname]
      exact ih hrest hdraft

/-- A field that was read is not read again. -/
theorem Has.put {other : String} {e : Document} (h : Has form key d fs draft)
    (hput : put form other e fs draft = .ok draft') : Has form key d fs draft' := by
  induction fs with
  | nil => exact h.elim
  | cons f fs ih =>
    obtain ⟨slot, draft⟩ := draft
    simp only [Draft.put] at hput
    rw [Has] at h
    split_ifs at hput with hother
    · cases slot with
      | some v => cases hput
      | none =>
        obtain ⟨v, -, rfl⟩ := Attempt.map_eq_ok.mp hput
        rw [Has]
        split_ifs at h ⊢ with hname
        · obtain ⟨_, ⟨⟩, -⟩ := h
        · exact h
    · obtain ⟨draft', hdraft, rfl⟩ := Attempt.map_eq_ok.mp hput
      rw [Has]
      split_ifs at h ⊢ with hname
      · exact h
      · exact ih h hdraft

theorem Has.putAll (h : Has form key d fs draft)
    (hput : putAll form fs members draft = .ok draft') : Has form key d fs draft' := by
  induction members generalizing draft with
  | nil => exact Except.ok.inj hput ▸ h
  | cons m members ih =>
    obtain ⟨_, -, hput⟩ := Attempt.bind_eq_ok.mp hput
    obtain ⟨_, hfirst, hrest⟩ := Attempt.bind_eq_ok.mp hput
    exact ih (h.put hfirst) hrest

theorem Has.finish {vs : Values fs} (h : Has form key d fs draft)
    (hfinish : finish fs draft = .ok vs) : Values.Holds form key d fs vs := by
  induction fs with
  | nil => exact h.elim
  | cons f fs ih =>
    obtain ⟨slot, draft⟩ := draft
    rw [Draft.finish] at hfinish
    rw [Has] at h
    cases hslot : slot.or f.absent with
    | none =>
      rw [hslot] at hfinish
      cases hfinish
    | some v =>
      rw [hslot] at hfinish
      obtain ⟨vs, hvs, rfl⟩ := Attempt.map_eq_ok.mp hfinish
      rw [Values.Holds]
      split_ifs at h ⊢ with hname
      · obtain ⟨w, rfl, hread⟩ := h
        exact Option.some.inj hslot ▸ hread
      · exact ih h hvs

end Draft

namespace Values

theorem ofMembers_congr (hkey : key ∈ fs.map Field.name)
    (h : Document.SameFor form key fs d₁ d₂)
    (before after : List (Except Malformed String × Document)) (close : Close) :
    ofMembers form fs (before ++ (.ok key, d₁) :: after) close =
      ofMembers form fs (before ++ (.ok key, d₂) :: after) close := by
  have hmember : Draft.putAll form fs ((.ok key, d₁) :: after) =
      Draft.putAll form fs ((.ok key, d₂) :: after) := by
    funext draft
    exact congrArg (· >>= Draft.putAll form fs after) (Draft.put_congr hkey h draft)
  rw [ofMembers, ofMembers, Draft.putAll_append, Draft.putAll_append, hmember]

theorem holds_of_ofMembers {before after : List (Except Malformed String × Document)}
    {close : Close} {vs : Values fs} (hkey : key ∈ fs.map Field.name)
    (h : ofMembers form fs (before ++ (.ok key, d) :: after) close = .ok vs) :
    Holds form key d fs vs := by
  obtain ⟨draft, hput, h⟩ := Attempt.bind_eq_ok.mp h
  obtain ⟨_, -, hfinish⟩ := Attempt.bind_eq_ok.mp h
  rw [Draft.putAll_append] at hput
  obtain ⟨_, -, hput⟩ := Attempt.bind_eq_ok.mp hput
  obtain ⟨_, hok, hput⟩ := Attempt.bind_eq_ok.mp hput
  cases hok
  obtain ⟨_, hfirst, hrest⟩ := Attempt.bind_eq_ok.mp hput
  exact ((Draft.has_of_put hkey hfirst).putAll hrest).finish hfinish

/-! ## Items -/

theorem ofItems_congr {label : String} {close : Close} {before after : List Document} {n : Nat}
    (hkey : (fs.map Field.name)[before.length]? = some key)
    (h : Document.SameFor form key fs d₁ d₂) :
    ofItems form label close n fs (before ++ d₁ :: after) =
      ofItems form label close n fs (before ++ d₂ :: after) := by
  induction before generalizing fs n with
  | nil =>
    cases fs with
    | nil => cases hkey
    | cons f fs =>
      have hname : f.name = key := Option.some.inj hkey
      simp only [List.nil_append, ofItems, h f List.mem_cons_self hname]
  | cons e before ih =>
    cases fs with
    | nil => cases hkey
    | cons f fs =>
      simp only [List.cons_append, ofItems,
        ih hkey fun g hg => h g (List.mem_cons_of_mem _ hg)]

theorem ofArray_congr {label : String} {close : Close} {before after : List Document}
    (hkey : (fs.map Field.name)[before.length]? = some key)
    (h : Document.SameFor form key fs d₁ d₂) :
    ofArray form label fs (before ++ d₁ :: after) close =
      ofArray form label fs (before ++ d₂ :: after) close := by
  simp only [ofArray, ofItems_congr hkey h, List.length_append, List.length_cons]

theorem holds_of_ofItems {label : String} {close : Close} {before after rest : List Document}
    {n : Nat} {vs : Values fs} (hfs : (fs.map Field.name).Nodup)
    (hkey : (fs.map Field.name)[before.length]? = some key)
    (h : ofItems form label close n fs (before ++ d :: after) = .ok (vs, rest)) :
    Holds form key d fs vs := by
  induction before generalizing fs n rest with
  | nil =>
    cases fs with
    | nil => cases hkey
    | cons f fs =>
      have hname : f.name = key := Option.some.inj hkey
      obtain ⟨v, hv, h⟩ := Attempt.bind_eq_ok.mp h
      obtain ⟨_, -, h⟩ := Attempt.bind_eq_ok.mp h
      cases h
      rw [Holds, if_pos hname.symm]
      exact hv
  | cons e before ih =>
    cases fs with
    | nil => cases hkey
    | cons f fs =>
      obtain ⟨hfirst, hrest⟩ := List.nodup_cons.mp hfs
      obtain ⟨v, -, h⟩ := Attempt.bind_eq_ok.mp h
      obtain ⟨⟨vs', rest'⟩, hitems, h⟩ := Attempt.bind_eq_ok.mp h
      cases h
      have hne : key ≠ f.name := by
        rintro rfl
        exact hfirst (List.mem_of_getElem? hkey)
      rw [Holds, if_neg hne]
      exact ih hrest hkey hitems

theorem holds_of_ofArray {label : String} {close : Close} {before after : List Document}
    {vs : Values fs} (hfs : (fs.map Field.name).Nodup)
    (hkey : (fs.map Field.name)[before.length]? = some key)
    (h : ofArray form label fs (before ++ d :: after) close = .ok vs) :
    Holds form key d fs vs := by
  obtain ⟨⟨vs', rest⟩, hitems, h⟩ := Attempt.bind_eq_ok.mp h
  cases rest with
  | cons e rest => cases h
  | nil =>
    obtain ⟨_, -, h⟩ := Attempt.bind_eq_ok.mp h
    cases h
    exact holds_of_ofItems hfs hkey hitems

end Values

/-! ## Records -/

namespace Codec

variable {α : Type} {name : String} {back : α → Values fs} {make : Values fs → α}
  {C : Document → Document}

/-- A record does not change if a field reads another document alike. -/
theorem record_congr (hC : Document.Place fs key C) (h : Document.SameFor form key fs d₁ d₂) :
    (record name fs back make).read form (C d₁) = (record name fs back make).read form (C d₂) := by
  cases hC with
  | member named => simp only [record, Values.ofMembers_congr named h]
  | item counted => simp only [record, onArray, Values.ofArray_congr counted h]

/-- A field of a record has the value that its codec reads from the document in its place. -/
theorem holds_of_record {a : α} (hfs : (fs.map Field.name).Nodup) (hC : Document.Place fs key C)
    (h : (record name fs back make).read form (C d) = .ok a) :
    ∃ vs, make vs = a ∧ Values.Holds form key d fs vs := by
  cases hC with
  | member named =>
    obtain ⟨vs, hvs, hmake⟩ := Attempt.map_eq_ok.mp h
    exact ⟨vs, hmake, Values.holds_of_ofMembers named hvs⟩
  | item counted =>
    obtain ⟨vs, hvs, hmake⟩ := Attempt.map_eq_ok.mp h
    exact ⟨vs, hmake, Values.holds_of_ofArray hfs counted hvs⟩

end Codec

end Interchain
