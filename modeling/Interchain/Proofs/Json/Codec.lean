import Interchain.Json.Codec
import Interchain.Proofs.Attempt
import Interchain.Proofs.Json.Order
import Interchain.Proofs.Json.Text

/-!
# Records are read back as they were written

A codec carries a value if what it writes for the value fits into a text and is read
back as the value.  Codecs of compound values carry whatever the codecs of their
parts carry, and records do so in whatever order their members come.
-/

namespace Interchain

namespace Codec

variable {α β ε : Type} {c : Codec α} {form : Form} {o : Json.Order} {n : Nat}

/-- A text with nothing after its document is read as the document. -/
theorem ofText_of_end {text : String} (h : (Document.ofText text).2 = false) :
    c.ofText text = c.read .text (Document.ofText text).1 := by
  simp only [ofText, h]
  exact bind_pure _

/-- A text is read as a value if its document is, and nothing follows it. -/
theorem ofText_eq_ok {text : String} {a : α} : c.ofText text = .ok a ↔
    c.read .text (Document.ofText text).1 = .ok a ∧ (Document.ofText text).2 = false := by
  cases h : (Document.ofText text).2 with
  | false => simp [ofText_of_end h]
  | true =>
    simp only [ofText, h, if_true, reduceCtorEq, and_false, iff_false]
    intro hok
    obtain ⟨b, -, hb⟩ := Attempt.bind_eq_ok.mp hok
    cases hb

/-- What is written for a value has at most so many levels, and from a document of this
form, with its members in this order, the value is read back. -/
structure Carries (c : Codec α) (form : Form) (o : Json.Order) (levels : Nat) (a : α) : Prop where
  fits : ((c.write a).arranged o).Fits levels
  read : c.read form (.ofJson ((c.write a).arranged o)) = .ok a

theorem Carries.mono {m : Nat} {a : α} (h : c.Carries form o m a) (hmn : m ≤ n) :
    c.Carries form o n a :=
  ⟨h.fits.mono hmn, h.read⟩

/-- A carried value is read back from its text. -/
theorem Carries.ofText_compact {a : α} (h : c.Carries .text o n a)
    (hn : n ≤ Document.Parser.maxDepth) :
    c.ofText ((c.write a).arranged o).compact = .ok a := by
  rw [ofText, Document.ofText_compact (h.fits.mono hn)]
  simp [h.read]

/-! ## Simple values -/

theorem string_carries (s : String) : string.Carries form o n s where
  fits := by simpa [string] using .string s
  read := by simp [string, Document.ofJson]

theorem opaqueValue_carries_null : opaqueValue.Carries form o n .null where
  fits := by simpa [opaqueValue] using .null
  read := by cases form <;> simp [opaqueValue, Json.canonical]

theorem opaqueValue_carries_string (s : String) : opaqueValue.Carries form o n (.string s) where
  fits := by simpa [opaqueValue] using .string s
  read := by cases form <;> simp [opaqueValue, Json.canonical]

/-- Numbers of at most 64 bits are kept as integers. -/
theorem narrow_natural {n : Nat} (h : n < UInt64.size) : (Number.int n).narrow = .int n := by
  have hmin : Int64.minValue.toInt ≤ 0 := by decide
  rw [Number.narrow, if_pos ⟨by omega, by exact_mod_cast h⟩]

theorem fits_natural {n : Nat} (h : n < 1 <<< 128) {levels : Nat} :
    (Json.number (.int n)).Fits levels := by
  refine .int ?_
  have hdigits : (Nat.toDigits 10 n).length ≤ 40 :=
    (Nat.length_toDigits_le_iff (by decide) (by decide)).mpr (Nat.lt_trans h (by decide))
  rw [Int.natAbs_natCast, Number.digitsOf, List.length_map]
  exact Nat.le_trans hdigits (by decide)

/-- A type whose values are written as numbers of at most 64 bits. -/
theorem natural_carries {label : String} {bits : Nat} {back : α → Nat} {make : Nat → α} {a : α}
    (hsize : back a < UInt64.size) (hbits : back a < 1 <<< bits) (ha : make (back a) = a) :
    Carries ⟨fun a => writeNatural (back a), fun _ d => (readNatural label bits d).map make⟩
      form o n a := by
  have hw : (writeNatural (back a)).arranged o = .number (.int (back a)) :=
    Json.arranged_number (narrow_natural hsize)
  refine ⟨hw ▸ fits_natural (Nat.lt_trans hsize (by decide)), ?_⟩
  simp [hw, Document.ofJson, readNatural, Document.seen, Except.map, narrow_natural hsize, hbits,
    ha]

theorem uint8_carries (x : UInt8) : uint8.Carries form o n x :=
  natural_carries (Nat.lt_trans x.toNat_lt (by decide)) x.toNat_lt UInt8.ofNat_toNat

theorem uint32_carries (x : UInt32) : uint32.Carries form o n x :=
  natural_carries (Nat.lt_trans x.toNat_lt (by decide)) x.toNat_lt UInt32.ofNat_toNat

theorem uint64_carries (x : UInt64) : uint64.Carries form o n x :=
  natural_carries x.toNat_lt x.toNat_lt UInt64.ofNat_toNat

/-- An amount is carried by a text, where it stays an integer whatever its size. -/
theorem amount_carries (x : BitVec 128) : amount.Carries .text .written n x where
  fits := fits_natural x.isLt
  read := by
    have hx : (x.toNat : Int).toNat < 1 <<< 128 := x.isLt
    simp only [amount, writeNatural, Json.arranged, Document.ofJson]
    rw [if_pos ⟨by omega, hx⟩]
    simp

/-! ## Compound values -/

theorem iso_carries {back : β → α} {make : α → β} {b : β} (h : c.Carries form o n (back b))
    (hb : make (back b) = b) : (iso c back make).Carries form o n b where
  fits := h.fits
  read := by
    simp [iso, h.read, Except.map, hb]

theorem via_carries {back : β → α} {make : α → Except Fault β} {b : β}
    (h : c.Carries form o n (back b)) (hb : make (back b) = .ok b) :
    (via c back make).Carries form o n b where
  fits := h.fits
  read := by
    simp [via, h.read, hb]

/-- A value that may be `null` is carried if the codec never writes `null` for one that
is there. -/
theorem option_carries {x : Option α} (h : ∀ a ∈ x, c.Carries form o n a)
    (hne : ∀ a, c.write a ≠ .null) : (option c).Carries form o n x := by
  cases x with
  | none => exact ⟨by simpa [option] using .null, by simp [option, Document.ofJson]⟩
  | some a =>
    have ha := h a rfl
    refine ⟨ha.fits, ?_⟩
    have hnull : Document.ofJson ((c.write a).arranged o) ≠ .null := by
      have := Json.arranged_ne_null (o := o) (hne a)
      cases hj : (c.write a).arranged o <;> simp_all [Document.ofJson]
    simp [option, ha.read, Except.map]

theorem ofItems_eq_map (items : List Json) : Document.ofItems items = items.map .ofJson := by
  induction items with
  | nil => rfl
  | cons v rest ih => rw [Document.ofItems, ih, List.map_cons]

theorem ofMembers_eq_map (members : List (String × Json)) :
    Document.ofMembers members = members.map fun m => (.ok m.1, .ofJson m.2) := by
  induction members with
  | nil => rfl
  | cons m rest ih => rw [Document.ofMembers, ih, List.map_cons]

/-- What is read from an array, an array was given for. -/
theorem onArray_eq_ok {expected : String} {read : List Document → Close → Except Fault α}
    {d : Document} {a : α} : onArray expected read d = .ok a ↔
      ∃ items close, d = .array items close ∧ read items close = .ok a := by
  constructor
  · intro h
    cases d with
    | array items close => exact ⟨items, close, rfl, h⟩
    | deep d => cases d <;> cases h
    | _ => cases h
  · rintro ⟨items, close, rfl, h⟩
    exact h

/-- What is read from an object, an object was given for. -/
theorem onObject_eq_ok {expected : String}
    {read : List (Except Malformed String × Document) → Close → Except Fault α} {d : Document}
    {a : α} : onObject expected read d = .ok a ↔
      ∃ members close, d = .object members close ∧ read members close = .ok a := by
  constructor
  · intro h
    cases d with
    | object members close => exact ⟨members, close, rfl, h⟩
    | deep d => cases d <;> cases h
    | _ => cases h
  · rintro ⟨members, close, rfl, h⟩
    exact h

/-- A list is read if each of its items is. -/
theorem list_read {doc : β → Json} {value : β → α} {xs : List β}
    (h : ∀ b ∈ xs, c.read form (.ofJson (doc b)) = .ok (value b)) :
    (list c).read form (.ofJson (.array (xs.map doc))) = .ok (xs.map value) := by
  have hitems : ((xs.map doc).map Document.ofJson).mapM (c.read form) = .ok (xs.map value) := by
    rw [List.map_map]
    exact Attempt.mapM_map_eq_ok h
  simp only [list, Document.ofJson, onArray, ofItems_eq_map, hitems]
  rfl

/-- Entries are read if the value of each is, and put in the order of their keys. -/
theorem map_read (doc : β → Json) (value : β → α) {entries : List (String × β)}
    (h : ∀ e ∈ entries, c.read form (.ofJson (doc e.2)) = .ok (value e.2)) :
    (map c).read form (.ofJson (.object (entries.map fun e => (e.1, doc e.2)))) =
      .ok (Sorted.ofList (entries.map fun e => (e.1, value e.2))) := by
  simp only [map, Document.ofJson, onObject, ofMembers_eq_map, List.map_map]
  rw [Attempt.mapM_map_eq_ok (h := fun e => (e.1, value e.2))]
  · rfl
  · intro e he
    simp only [Function.comp_apply, h e he]
    rfl

theorem list_carries {xs : List α} (h : ∀ a ∈ xs, c.Carries form o n a) :
    (list c).Carries form o (n + 1) xs where
  fits := by
    rw [list, Json.arranged_array, List.map_map]
    apply Json.Fits.array
    intro v hv
    obtain ⟨a, ha, rfl⟩ := List.mem_map.mp hv
    exact (h a ha).fits
  read := by
    rw [list, Json.arranged_array, List.map_map]
    exact (list_read fun a ha => (h a ha).read).trans (congrArg _ (List.map_id xs))

end Codec

/-! ## Records -/

variable {form : Form} {o : Json.Order} {n : Nat}

/-- Every field of a record is carried. -/
def Values.Carried (form : Form) (o : Json.Order) (levels : Nat) : (fs : List Field) →
    Values fs → Prop
  | [], _ => True
  | f :: fs, (v, vs) => f.codec.Carries form o levels v ∧ Carried form o levels fs vs

/-- A document from which the field of a name has the value that it has in a record. -/
def Values.Holds (form : Form) (key : String) (d : Document) : (fs : List Field) →
    Values fs → Prop
  | [], _ => False
  | f :: fs, (v, vs) =>
    if key = f.name then f.codec.read form d = .ok v else Holds form key d fs vs

/-- The fields of a record that are not of these names have the values that they have where they
are left out. -/
def Values.Given (names : List String) : (fs : List Field) → Values fs → Prop
  | [], _ => True
  | f :: fs, (v, vs) => (f.name ∉ names → f.absent = some v) ∧ Given names fs vs

/-- What has been read of a record when the fields of these names have. -/
def Draft.filled (names : List String) : (fs : List Field) → Values fs → Draft fs
  | [], _ => ()
  | f :: fs, (v, vs) => (if f.name ∈ names then some v else none, filled names fs vs)

namespace Draft

variable {fs : List Field} {key : String} {names : List String}

theorem filled_nil (vs : Values fs) : filled [] fs vs = blank fs := by
  induction fs with
  | nil => rfl
  | cons f fs ih =>
    obtain ⟨v, vs⟩ := vs
    simp only [filled, blank, List.not_mem_nil, if_false, ih]
    rfl

theorem filled_cons_of_not_mem (h : key ∉ fs.map Field.name) (vs : Values fs) :
    filled (key :: names) fs vs = filled names fs vs := by
  induction fs with
  | nil => rfl
  | cons f fs ih =>
    obtain ⟨v, vs⟩ := vs
    simp only [List.map_cons, List.mem_cons, not_or] at h
    have hname : f.name ≠ key := Ne.symm h.1
    simp only [filled, List.mem_cons, hname, false_or, ih h.2]
    rfl

/-- A member is read into the field of its name. -/
theorem put_filled {d : Document} {vs : Values fs} (hfs : (fs.map Field.name).Nodup)
    (hkey : key ∉ names) (h : Values.Holds form key d fs vs) :
    put form key d fs (filled names fs vs) = .ok (filled (key :: names) fs vs) := by
  induction fs with
  | nil => cases h
  | cons f fs ih =>
    obtain ⟨v, vs⟩ := vs
    rw [List.map_cons, List.nodup_cons] at hfs
    simp only [Values.Holds] at h
    by_cases hname : key = f.name
    · subst hname
      rw [if_pos rfl] at h
      simp [put, filled, hkey, h, Except.map, filled_cons_of_not_mem hfs.1]
    · rw [if_neg hname] at h
      have hother : f.name ≠ key := Ne.symm hname
      simp [put, filled, hname, hother, ih hfs.2 h, Except.map]

/-- Members are read into the fields of their names, in whatever order they come. -/
theorem putAll_filled {ms : List (String × Json)} {vs : Values fs}
    (hfs : (fs.map Field.name).Nodup) (hkeys : (ms.map Prod.fst).Nodup)
    (hnew : ∀ m ∈ ms, m.1 ∉ names) (h : ∀ m ∈ ms, Values.Holds form m.1 (.ofJson m.2) fs vs) :
    putAll form fs (Document.ofMembers ms) (filled names fs vs) =
      .ok (filled ((ms.map Prod.fst).reverse ++ names) fs vs) := by
  induction ms generalizing names with
  | nil => rfl
  | cons m ms ih =>
    rw [List.map_cons, List.nodup_cons] at hkeys
    have hput := put_filled hfs (hnew m List.mem_cons_self) (h m List.mem_cons_self)
    have hnew' : ∀ m' ∈ ms, m'.1 ∉ m.1 :: names := by
      intro m' hm'
      rw [List.mem_cons, not_or]
      constructor
      · intro heq
        exact hkeys.1 (heq ▸ List.mem_map_of_mem hm')
      · exact hnew m' (List.mem_cons_of_mem _ hm')
    have hrest := ih hkeys.2 hnew' fun m' hm' => h m' (List.mem_cons_of_mem _ hm')
    simp only [Document.ofMembers, putAll, Codec.textual, Except.mapError, Attempt.ok_bind, hput,
      hrest, List.map_cons, List.reverse_cons, List.append_assoc, List.cons_append,
      List.nil_append]

/-- A record is complete when all its fields have been read, or have the values that they have
where they are left out. -/
theorem finish_filled {vs : Values fs} (h : Values.Given names fs vs) :
    finish fs (filled names fs vs) = .ok vs := by
  induction fs with
  | nil => rfl
  | cons f fs ih =>
    obtain ⟨v, vs⟩ := vs
    by_cases hname : f.name ∈ names
    · simp [finish, filled, hname, ih h.2, Except.map]
    · simp [finish, filled, hname, h.1 hname, ih h.2, Except.map]

end Draft

namespace Values

variable {fs : List Field} {vs : Values fs}

theorem map_fst_members (fs : List Field) (vs : Values fs) :
    (members fs vs).map Prod.fst = fs.map Field.name := by
  induction fs with
  | nil => rfl
  | cons f fs ih =>
    obtain ⟨v, vs⟩ := vs
    simp only [members, List.map_cons, ih]

theorem fits_of_mem_members (h : Carried form o n fs vs) :
    ∀ m ∈ members fs vs, (m.2.arranged o).Fits n := by
  induction fs with
  | nil => exact fun m hm => nomatch hm
  | cons f fs ih =>
    obtain ⟨v, vs⟩ := vs
    intro m hm
    rcases List.mem_cons.mp hm with rfl | hm
    · exact h.1.fits
    · exact ih h.2 m hm

/-- Each member that is written holds the value of its field. -/
theorem holds_of_mem_members (hfs : (fs.map Field.name).Nodup) (h : Carried form o n fs vs) :
    ∀ m ∈ members fs vs, Holds form m.1 (.ofJson (m.2.arranged o)) fs vs := by
  induction fs with
  | nil => exact fun m hm => nomatch hm
  | cons f fs ih =>
    obtain ⟨v, vs⟩ := vs
    intro m hm
    rw [List.map_cons, List.nodup_cons] at hfs
    rcases List.mem_cons.mp hm with rfl | hm
    · simp only [Holds, if_true]
      exact h.1.read
    · have hname : m.1 ∈ fs.map Field.name :=
        map_fst_members fs vs ▸ List.mem_map_of_mem hm
      have hne : m.1 ≠ f.name := by
        intro heq
        exact hfs.1 (heq ▸ hname)
      simp only [Holds, if_neg hne]
      exact ih hfs.2 h.2 m hm

theorem Given.congr {names names' : List String} (h : ∀ {name}, name ∈ names ↔ name ∈ names') :
    Given names fs vs ↔ Given names' fs vs := by
  induction fs with
  | nil => rfl
  | cons f fs ih =>
    obtain ⟨v, vs⟩ := vs
    simp only [Given, h, ih]

theorem given_of_forall_mem {names : List String} (h : ∀ f ∈ fs, f.name ∈ names) :
    Given names fs vs := by
  induction fs with
  | nil => trivial
  | cons f fs ih =>
    obtain ⟨v, vs⟩ := vs
    constructor
    · intro hname
      exact absurd (h f List.mem_cons_self) hname
    · exact ih fun g hg => h g (List.mem_cons_of_mem _ hg)

/-- A record is read from some of its members in whatever order they come, if the fields of the
others have the values that they have where they are left out. -/
theorem ofMembers_of_given {ms : List (String × Json)} (hfs : (fs.map Field.name).Nodup)
    (h : Carried form o n fs vs) (hkeys : (ms.map Prod.fst).Nodup)
    (hms : ms ⊆ (members fs vs).map fun m => (m.1, m.2.arranged o))
    (hgiven : Given (ms.map Prod.fst) fs vs) :
    ofMembers form fs (Document.ofMembers ms) .closed = .ok vs := by
  have hholds : ∀ m ∈ ms, Holds form m.1 (.ofJson m.2) fs vs := by
    intro m hm
    obtain ⟨w, hw, rfl⟩ := List.mem_map.mp (hms hm)
    exact holds_of_mem_members hfs h w hw
  have hput := Draft.putAll_filled hfs hkeys (fun m _ => List.not_mem_nil (a := m.1)) hholds
  rw [Draft.filled_nil] at hput
  have hgiven' : Given ((ms.map Prod.fst).reverse ++ []) fs vs := by
    rw [List.append_nil]
    exact (Given.congr List.mem_reverse).mpr hgiven
  simp only [ofMembers, hput, Attempt.ok_bind, Close.atMember, Codec.textual, Except.mapError]
  exact Draft.finish_filled hgiven'

/-- A record is read from its items in order. -/
theorem ofItems_items (h : Carried form o n fs vs) (label : String) (close : Close) (k : Nat)
    (rest : List Document) :
    ofItems form label close k fs ((items fs vs).map (fun v => .ofJson (v.arranged o)) ++ rest) =
      .ok (vs, rest) := by
  induction fs generalizing k with
  | nil => rfl
  | cons f fs ih =>
    obtain ⟨v, vs⟩ := vs
    simp only [items, List.map_cons, List.cons_append, ofItems, h.1.read, Attempt.ok_bind, ih h.2]
    rfl

theorem ofArray_items (h : Carried form o n fs vs) (label : String) :
    ofArray form label fs ((items fs vs).map fun v => .ofJson (v.arranged o)) .closed = .ok vs := by
  have hitems := ofItems_items h label .closed 0 []
  rw [List.append_nil] at hitems
  simp only [ofArray, hitems, Attempt.ok_bind, List.isEmpty_nil, if_true]
  rfl

theorem fits_of_mem_items (h : Carried form o n fs vs) :
    ∀ v ∈ items fs vs, (v.arranged o).Fits n := by
  induction fs with
  | nil => exact fun v hv => nomatch hv
  | cons f fs ih =>
    obtain ⟨v, vs⟩ := vs
    intro w hw
    rcases List.mem_cons.mp hw with rfl | hw
    · exact h.1.fits
    · exact ih h.2 w hw

end Values

namespace Codec

variable {α β ε : Type}

/-- A record is carried by some of the members that are written for its fields, which must have
different names, if the fields of the others have the values that they have where they are left
out. -/
theorem members_carry {name : String} {fs : List Field} {back : α → Values fs}
    {make : Values fs → α} {a : α} {kept : List (String × Json)}
    (hfs : (fs.map Field.name).Nodup) (h : Values.Carried form o n fs (back a))
    (ha : make (back a) = a) (hkept : kept.Sublist (Values.members fs (back a)))
    (hgiven : Values.Given (kept.map Prod.fst) fs (back a)) :
    ((Json.object kept).arranged o).Fits (n + 1) ∧
      (record name fs back make).read form (.ofJson ((Json.object kept).arranged o)) = .ok a := by
  have hkeys : (kept.map Prod.fst).Nodup := by
    refine (hkept.map Prod.fst).nodup ?_
    rwa [Values.map_fst_members]
  obtain ⟨ms, hms, hperm⟩ := Json.arranged_object (o := o) hkeys
  have hfst : (ms.map Prod.fst).Perm (kept.map Prod.fst) := by
    have := hperm.map Prod.fst
    rwa [List.map_map] at this
  have hread : Values.ofMembers form fs (Document.ofMembers ms) .closed = .ok (back a) := by
    refine Values.ofMembers_of_given hfs h (hfst.nodup_iff.mpr hkeys) ?_
      ((Values.Given.congr hfst.mem_iff).mpr hgiven)
    exact fun m hm => (hkept.map _).subset (hperm.subset hm)
  constructor
  · rw [hms]
    apply Json.Fits.object
    intro m hm
    obtain ⟨w, hw, rfl⟩ := List.mem_map.mp (hperm.subset hm)
    exact Values.fits_of_mem_members h w (hkept.subset hw)
  · simp [record, hms, Document.ofJson, hread, Except.map, ha]

/-- A record is carried with its fields, which must have different names. -/
theorem record_carries {name : String} {fs : List Field} {back : α → Values fs}
    {make : Values fs → α} {a : α} (hfs : (fs.map Field.name).Nodup)
    (h : Values.Carried form o n fs (back a)) (ha : make (back a) = a) :
    (record name fs back make).Carries form o (n + 1) a := by
  have hgiven : Values.Given ((Values.members fs (back a)).map Prod.fst) fs (back a) := by
    rw [Values.map_fst_members]
    exact Values.given_of_forall_mem fun f hf => List.mem_map_of_mem hf
  obtain ⟨hfits, hread⟩ := members_carry hfs h ha (.refl _) hgiven
  exact ⟨hfits, hread⟩

/-- A record is carried without those of its fields that are `null`, if they are this where they
are left out. -/
theorem sparse_carries {names : List String} {name : String} {fs : List Field}
    {back : α → Values fs} {make : Values fs → α} {a : α} (hfs : (fs.map Field.name).Nodup)
    (h : Values.Carried form o n fs (back a)) (ha : make (back a) = a)
    (hgiven : Values.Given (((Values.members fs (back a)).filter fun m =>
      !(names.contains m.1 && m.2.isNull)).map Prod.fst) fs (back a)) :
    (sparse names name fs back make).Carries form o (n + 1) a := by
  obtain ⟨hfits, hread⟩ := members_carry hfs h ha List.filter_sublist hgiven
  exact ⟨hfits, hread⟩

/-- Values of several fields, as an array. -/
def tuple (expected : String) (fs : List Field) : Codec (Values fs) where
  write vs := .array (Values.items fs vs)
  read form := onArray expected (Values.ofArray form expected fs)

theorem tuple_carries (expected : String) {fs : List Field} {vs : Values fs}
    (h : Values.Carried form o n fs vs) : (tuple expected fs).Carries form o (n + 1) vs := by
  constructor
  · rw [tuple, Json.arranged_array]
    apply Json.Fits.array
    intro v hv
    obtain ⟨w, hw, rfl⟩ := List.mem_map.mp hv
    exact Values.fits_of_mem_items h w hw
  · simp only [tuple, Json.arranged_array, Document.ofJson, ofItems_eq_map, List.map_map, onArray]
    exact Values.ofArray_items h expected

theorem pair_carries {a : Codec α} {b : Codec β} {p : α × β} (ha : a.Carries form o n p.1)
    (hb : b.Carries form o n p.2) : (pair a b).Carries form o (n + 1) p := by
  have h : Values.Carried form o n [.required "first" a, .required "second" b] (p.1, p.2, ()) :=
    ⟨ha, hb, trivial⟩
  have htuple := tuple_carries "a tuple of size 2" h
  refine ⟨htuple.fits, ?_⟩
  have hread := congrArg (Except.map fun v => (v.1, v.2.1)) htuple.read
  simp only [tuple, pair, Values.items, Json.arranged_array, List.map_cons, List.map_nil,
    Document.ofJson, onArray] at hread ⊢
  exact hread

/-- A variant that carries something is read from the only member of an object. -/
theorem readVariant_member {expected name : String} {names : List String}
    {arm : String → Option Document → Except Fault α} {v : Json} (h : names.contains name = true) :
    readVariant expected names arm form (.ofJson (.object [(name, v)])) =
      arm name (some (.ofJson v)) := by
  cases form
  · simp only [Document.ofJson, Document.ofMembers, readVariant, textual, Except.mapError,
      Attempt.ok_bind, h, if_true, afterVariant, List.isEmpty_nil]
    cases arm name (some (Document.ofJson v)) <;> rfl
  · simp only [Document.ofJson, Document.ofMembers, readVariant, h, if_true]

theorem outcome_carries_ok {code : Codec ε} {value : Codec α} {a : α}
    (h : value.Carries form o n a) : (outcome code value).Carries form o (n + 1) (.ok a) := by
  have hfits : Json.Fits (n + 1) (.object [("Ok", (value.write a).arranged o)]) := by
    apply Json.Fits.object
    intro m hm
    obtain rfl := List.mem_singleton.mp hm
    exact h.fits
  constructor
  · simpa only [outcome, Json.arranged_member] using hfits
  · simp only [outcome, Json.arranged_member]
    rw [readVariant_member rfl, if_pos rfl, wrapped, h.read]
    rfl

theorem outcome_carries_error {code : Codec ε} {value : Codec α} {e : ε}
    (h : code.Carries form o n e) : (outcome code value).Carries form o (n + 1) (.error e) := by
  have hfits : Json.Fits (n + 1) (.object [("Err", (code.write e).arranged o)]) := by
    apply Json.Fits.object
    intro m hm
    obtain rfl := List.mem_singleton.mp hm
    exact h.fits
  constructor
  · simpa only [outcome, Json.arranged_member] using hfits
  · simp only [outcome, Json.arranged_member]
    rw [readVariant_member rfl, if_neg (by decide), wrapped, h.read]
    rfl

end Codec

end Interchain
