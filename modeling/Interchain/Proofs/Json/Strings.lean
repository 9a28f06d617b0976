import Interchain.Proofs.Attempt
import Interchain.Proofs.Json.Text

/-!
# Documents with other strings

Every string in a document is replaced by what a function makes of it.  The names of members
are not strings of the document; they stay, as does everything else.  So the document is passed
over as before, and its value is the former one with its strings replaced.
-/

namespace Interchain

variable {f : String → String}

/-! ## Values -/

namespace Json

mutual

/-- Replace the strings in a value. -/
def mapStrings (f : String → String) : Json → Json
  | .null => .null
  | .bool b => .bool b
  | .number n => .number n
  | .string s => .string (f s)
  | .array items => .array (mapItems f items)
  | .object members => .object (mapMembers f members)

def mapItems (f : String → String) : List Json → List Json
  | [] => []
  | v :: rest => v.mapStrings f :: mapItems f rest

def mapMembers (f : String → String) : List (String × Json) → List (String × Json)
  | [] => []
  | (k, v) :: rest => (k, v.mapStrings f) :: mapMembers f rest

end

theorem mapItems_eq_map (items : List Json) : mapItems f items = items.map (mapStrings f) := by
  induction items with
  | nil => rfl
  | cons v rest ih => rw [mapItems, ih, List.map_cons]

theorem mapMembers_eq_map (members : List (String × Json)) :
    mapMembers f members = members.map fun m => (m.1, m.2.mapStrings f) := by
  induction members with
  | nil => rfl
  | cons m rest ih => rw [mapMembers, ih, List.map_cons]

/-- Other strings take no more levels. -/
theorem Fits.mapStrings {n : Nat} {j : Json} (h : j.Fits n) : (j.mapStrings f).Fits n := by
  induction h with
  | null => exact .null
  | bool b => exact .bool b
  | int h => exact .int h
  | string s => exact .string (f s)
  | array _ ih =>
    rw [Json.mapStrings, mapItems_eq_map]
    apply Json.Fits.array
    intro v hv
    obtain ⟨w, hw, rfl⟩ := List.mem_map.mp hv
    exact ih w hw
  | object _ ih =>
    rw [Json.mapStrings, mapMembers_eq_map]
    apply Json.Fits.object
    intro m hm
    obtain ⟨w, hw, rfl⟩ := List.mem_map.mp hm
    exact ih w hw

end Json

/-! ## Documents as they are written -/

namespace Document

mutual

/-- Replace the strings in a document. -/
def mapStrings (f : String → String) : Document → Document
  | .null => .null
  | .bool b => .bool b
  | .number n => .number n
  | .string s => .string (s.map f)
  | .array items close => .array (mapItems f items) close
  | .object members close => .object (mapMembers f members) close
  | .deep d => .deep (d.mapStrings f)
  | .missing why => .missing why
  | .brokenWord read skipped => .brokenWord read skipped
  | .brokenString read skipped => .brokenString read skipped

def mapItems (f : String → String) : List Document → List Document
  | [] => []
  | d :: rest => d.mapStrings f :: mapItems f rest

def mapMembers (f : String → String) :
    List (Except Malformed String × Document) → List (Except Malformed String × Document)
  | [] => []
  | (key, d) :: rest => (key, d.mapStrings f) :: mapMembers f rest

end

mutual

/-- The strings in a document. -/
def strings : Document → List String
  | .string (.ok s) => [s]
  | .array items _ => itemStrings items
  | .object members _ => memberStrings members
  | .deep d => d.strings
  | _ => []

def itemStrings : List Document → List String
  | [] => []
  | d :: rest => d.strings ++ itemStrings rest

def memberStrings : List (Except Malformed String × Document) → List String
  | [] => []
  | (_, d) :: rest => d.strings ++ memberStrings rest

end

theorem mapItems_eq_map (items : List Document) :
    mapItems f items = items.map (mapStrings f) := by
  induction items with
  | nil => rfl
  | cons d rest ih => rw [mapItems, ih, List.map_cons]

theorem mapMembers_eq_map (members : List (Except Malformed String × Document)) :
    mapMembers f members = members.map fun m => (m.1, m.2.mapStrings f) := by
  induction members with
  | nil => rfl
  | cons m rest ih => rw [mapMembers, ih, List.map_cons]

mutual

/-- A document stays as it is if its strings do. -/
theorem mapStrings_eq_self : ∀ d : Document, (∀ s ∈ d.strings, f s = s) → d.mapStrings f = d
  | .null, _ => rfl
  | .bool _, _ => rfl
  | .number _, _ => rfl
  | .string (.ok s), h => by
    rw [mapStrings, Except.map, h s (List.mem_singleton_self s)]
  | .string (.error _), _ => rfl
  | .array items _, h => by
    rw [mapStrings, mapItems_eq_self items h]
  | .object members _, h => by
    rw [mapStrings, mapMembers_eq_self members h]
  | .deep d, h => by
    rw [mapStrings, mapStrings_eq_self d h]
  | .missing _, _ => rfl
  | .brokenWord _ _, _ => rfl
  | .brokenString _ _, _ => rfl

theorem mapItems_eq_self : ∀ items : List Document, (∀ s ∈ itemStrings items, f s = s) →
    mapItems f items = items
  | [], _ => rfl
  | d :: rest, h => by
    obtain ⟨hd, hrest⟩ := List.forall_mem_append.mp h
    rw [mapItems, mapStrings_eq_self d hd, mapItems_eq_self rest hrest]

theorem mapMembers_eq_self : ∀ members : List (Except Malformed String × Document),
    (∀ s ∈ memberStrings members, f s = s) → mapMembers f members = members
  | [], _ => rfl
  | (_, d) :: rest, h => by
    obtain ⟨hd, hrest⟩ := List.forall_mem_append.mp h
    rw [mapMembers, mapStrings_eq_self d hd, mapMembers_eq_self rest hrest]

end

mutual

theorem ofJson_mapStrings : ∀ j : Json, ofJson (j.mapStrings f) = (ofJson j).mapStrings f
  | .null => rfl
  | .bool _ => rfl
  | .number _ => rfl
  | .string _ => rfl
  | .array items => by
    simp only [Json.mapStrings, ofJson, mapStrings, ofItems_mapItems items]
  | .object members => by
    simp only [Json.mapStrings, ofJson, mapStrings, ofMembers_mapMembers members]

theorem ofItems_mapItems : ∀ items : List Json,
    ofItems (Json.mapItems f items) = mapItems f (ofItems items)
  | [] => rfl
  | v :: rest => by
    simp only [Json.mapItems, ofItems, mapItems, ofJson_mapStrings v, ofItems_mapItems rest]

theorem ofMembers_mapMembers : ∀ members : List (String × Json),
    ofMembers (Json.mapMembers f members) = mapMembers f (ofMembers members)
  | [] => rfl
  | (k, v) :: rest => by
    simp only [Json.mapMembers, ofMembers, mapMembers, ofJson_mapStrings v,
      ofMembers_mapMembers rest]

end

/-- The text of a value with other strings is read as the document with other strings. -/
theorem ofText_mapStrings {j : Json} (h : j.Fits Parser.maxDepth) :
    Document.ofText (j.mapStrings f).compact =
      ((Document.ofText j.compact).1.mapStrings f, false) := by
  rw [ofText_compact h, ofText_compact h.mapStrings, ofJson_mapStrings]

mutual

/-- The value of a document with other strings is that of the document, with other strings. -/
theorem toJson_mapStrings : ∀ (d : Document) {j : Json}, d.toJson = .ok j →
    (d.mapStrings f).toJson = .ok (j.mapStrings f)
  | .null, _, h => by
    cases h
    rfl
  | .bool _, _, h => by
    cases h
    rfl
  | .number n, _, h => by
    obtain ⟨n, rfl, rfl⟩ := Attempt.map_eq_ok.mp h
    rfl
  | .string s, _, h => by
    obtain ⟨s, rfl, rfl⟩ := Attempt.map_eq_ok.mp h
    rfl
  | .array items close, _, h => by
    obtain ⟨values, hitems, h⟩ := Attempt.bind_eq_ok.mp h
    obtain ⟨hclose, ⟨⟩⟩ := Attempt.check_eq_ok.mp h
    simp only [mapStrings, toJson, itemsToJson_mapItems items hitems, hclose, Attempt.ok_bind]
    rfl
  | .object members close, _, h => by
    obtain ⟨values, hmembers, h⟩ := Attempt.bind_eq_ok.mp h
    obtain ⟨hclose, ⟨⟩⟩ := Attempt.check_eq_ok.mp h
    simp only [mapStrings, toJson, membersToJson_mapMembers members hmembers, hclose,
      Attempt.ok_bind]
    rfl

theorem itemsToJson_mapItems : ∀ (items : List Document) {values : List Json},
    itemsToJson items = .ok values → itemsToJson (mapItems f items) = .ok (Json.mapItems f values)
  | [], _, h => by
    cases h
    rfl
  | d :: rest, _, h => by
    obtain ⟨v, hv, h⟩ := Attempt.bind_eq_ok.mp h
    obtain ⟨vs, hvs, ⟨⟩⟩ := Attempt.bind_eq_ok.mp h
    simp only [mapItems, itemsToJson, toJson_mapStrings d hv, itemsToJson_mapItems rest hvs,
      Attempt.ok_bind]
    rfl

theorem membersToJson_mapMembers : ∀ (members : List (Except Malformed String × Document))
    {values : List (String × Json)}, membersToJson members = .ok values →
    membersToJson (mapMembers f members) = .ok (Json.mapMembers f values)
  | [], _, h => by
    cases h
    rfl
  | (key, d) :: rest, _, h => by
    obtain ⟨k, hk, h⟩ := Attempt.bind_eq_ok.mp h
    obtain ⟨v, hv, h⟩ := Attempt.bind_eq_ok.mp h
    obtain ⟨vs, hvs, ⟨⟩⟩ := Attempt.bind_eq_ok.mp h
    simp only [mapMembers, membersToJson, hk, toJson_mapStrings d hv,
      membersToJson_mapMembers rest hvs, Attempt.ok_bind]
    rfl

end

mutual

/-- A document that is passed over is passed over with other strings. -/
theorem skip_mapStrings : ∀ d : Document, (d.mapStrings f).skip = d.skip
  | .null => rfl
  | .bool _ => rfl
  | .number _ => rfl
  | .string _ => rfl
  | .array items close => by
    simp only [mapStrings, skip, skipItems_mapItems items]
  | .object members close => by
    simp only [mapStrings, skip, skipMembers_mapMembers members]
  | .deep d => by
    simp only [mapStrings, skip, skip_mapStrings d]
  | .missing _ => rfl
  | .brokenWord _ _ => rfl
  | .brokenString _ _ => rfl

theorem skipItems_mapItems : ∀ items : List Document,
    skipItems (mapItems f items) = skipItems items
  | [] => rfl
  | d :: rest => by
    simp only [mapItems, skipItems, skip_mapStrings d, skipItems_mapItems rest]

theorem skipMembers_mapMembers : ∀ members : List (Except Malformed String × Document),
    skipMembers (mapMembers f members) = skipMembers members
  | [] => rfl
  | (_, d) :: rest => by
    simp only [mapMembers, skipMembers, skip_mapStrings d, skipMembers_mapMembers rest]

end

/-- An integer is no string. -/
theorem seen_mapStrings {i : Int} : ∀ d : Document, d.seen = .ok (.integer i) →
    (d.mapStrings f).seen = .ok (.integer i)
  | .number _, h => h
  | .deep d, h => seen_mapStrings d h
  | .string s, h => by
    obtain ⟨_, -, ⟨⟩⟩ := Attempt.map_eq_ok.mp h

end Document

end Interchain
