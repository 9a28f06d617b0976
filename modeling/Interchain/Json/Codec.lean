import Interchain.Json.Fault
import Interchain.Json.Parser

/-!
# Records on the wire

A codec writes values as JSON and reads them back from documents.  Reading goes
through a document in the order it is written and stops at the first fault.

A record is a list of fields.  It is written as an object with its fields in
order.  It is read from an object whose members may come in any order, unknown
ones being passed over, or from an array of its fields in order.

A document reaches a reader either as written or as an opaque value that was
read before; the two differ in how they treat a shape that no value of the type
has (`Form`).
-/

namespace Interchain

/-- Where a document comes from. -/
inductive Form where
  /-- From a text, with its members in the order written. -/
  | text
  /-- From an opaque value. -/
  | value
deriving DecidableEq, Repr

/-- How the values of a type are written and read. -/
structure Codec (α : Type) where
  write : α → Json
  read : Form → Document → Except Fault α

namespace Codec

/-! ## Simple values -/

def string : Codec String where
  write := .string
  read
    | _, .string (.ok s) => .ok s
    | _, d => .error (d.mismatch "a string")

def bool : Codec Bool where
  write := .bool
  read
    | _, .bool b => .ok b
    | _, d => .error (d.mismatch "a boolean")

/-- Nothing, written as `null`. -/
def unit : Codec Unit where
  write _ := .null
  read
    | _, .null => .ok ()
    | _, d => .error (d.mismatch "unit")

/-- A value of any kind, kept in canonical form. -/
def opaqueValue : Codec Json where
  write := id
  read form d :=
    match d.toJson with
    | .error why => .error (.malformed why)
    | .ok j =>
      match form with
      | .text => .ok j.canonical
      | .value => .ok j

/-- The integer in a document, if it is one below `2 ^ bits`.  `label` names the
type in faults. -/
def readNatural (label : String) (bits : Nat) (d : Document) : Except Fault Nat :=
  match d.seen with
  | .ok (.integer i) =>
    if 0 ≤ i ∧ i.toNat < 1 <<< bits then .ok i.toNat else .error (.outOfRange (.integer i) label)
  | _ => .error (d.mismatch label)

def writeNatural (n : Nat) : Json := .number (.int n)

def uint8 : Codec UInt8 where
  write n := writeNatural n.toNat
  read _ d := (readNatural "u8" 8 d).map UInt8.ofNat

def uint32 : Codec UInt32 where
  write n := writeNatural n.toNat
  read _ d := (readNatural "u32" 32 d).map UInt32.ofNat

def uint64 : Codec UInt64 where
  write n := writeNatural n.toNat
  read _ d := (readNatural "u64" 64 d).map UInt64.ofNat

/-- An amount of 128 bits.  In a text anything else is malformed. -/
def amount : Codec (BitVec 128) where
  write n := writeNatural n.toNat
  read
    | .text, .number (.ok (.int i)) =>
      if 0 ≤ i ∧ i.toNat < 1 <<< 128 then .ok (BitVec.ofNat 128 i.toNat)
      else .error (.malformed .numberTooLarge)
    | .text, .missing why => .error (.malformed why)
    | .text, _ => .error (.malformed .badNumber)
    | .value, d => (readNatural "u128" 128 d).map (BitVec.ofNat 128)

/-! ## Compound values -/

/-- A value that may be `null`. -/
def option {α : Type} (c : Codec α) : Codec (Option α) where
  write
    | none => .null
    | some a => c.write a
  read
    | _, .null => .ok none
    | form, d => (c.read form d).map some

/-- What follows is read from an array. -/
def onArray {α : Type} (expected : String) (read : List Document → Close → Except Fault α) :
    Document → Except Fault α
  | .array items close => read items close
  | .deep (.array _ _) => .error (.malformed .tooDeep)
  | d => .error (d.mismatch expected)

/-- What follows is read from an object. -/
def onObject {α : Type} (expected : String)
    (read : List (Except Malformed String × Document) → Close → Except Fault α) :
    Document → Except Fault α
  | .object members close => read members close
  | .deep (.object _ _) => .error (.malformed .tooDeep)
  | d => .error (d.mismatch expected)

/-- A step of reading that only the form of the text can make fail. -/
def textual {α : Type} (x : Except Malformed α) : Except Fault α :=
  x.mapError .malformed

/-- A list, read item by item. -/
def list {α : Type} (c : Codec α) : Codec (List α) where
  write xs := .array (xs.map c.write)
  read form := onArray "a sequence" fun items close => do
    let xs ← items.mapM (c.read form)
    textual close.atItem
    return xs

/-- Entries in order of their keys, as an object.  The last of several members
with one key stands. -/
def map {α : Type} (c : Codec α) : Codec (List (String × α)) where
  write es := .object (es.map fun e => (e.1, c.write e.2))
  read form := onObject "a map" fun members close => do
    let es ← members.mapM fun m => do
      let k ← textual m.1
      let v ← c.read form m.2
      return (k, v)
    textual close.atMember
    return Sorted.ofList es

/-- What is said about items after the last field. -/
def surplus (length : Nat) : Form → Fault
  | .text => .malformed .surplus
  | .value => .wrongLength length "fewer elements in array"

/-- Read the type through another that it embeds in. -/
def via {α β : Type} (c : Codec α) (back : β → α) (make : α → Except Fault β) : Codec β where
  write b := c.write (back b)
  read form d := c.read form d >>= make

/-- Read the type as another that it is a copy of. -/
def iso {α β : Type} (c : Codec α) (back : β → α) (make : α → β) : Codec β where
  write b := c.write (back b)
  read form d := (c.read form d).map make

end Codec

/-! ## Records -/

/-- A field of a record: its name, how its values are written and read, and the
value it has where it is left out. -/
structure Field where
  name : String
  type : Type
  codec : Codec type
  absent : Option type

/-- A field that must be given. -/
def Field.required {α : Type} (name : String) (codec : Codec α) : Field :=
  ⟨name, α, codec, none⟩

/-- A field that may be left out. -/
def Field.default {α : Type} (name : String) (codec : Codec α) (absent : α) : Field :=
  ⟨name, α, codec, some absent⟩

/-- One value for every field. -/
def Values : List Field → Type
  | [] => Unit
  | f :: fs => f.type × Values fs

/-- The fields read so far. -/
def Draft : List Field → Type
  | [] => Unit
  | f :: fs => Option f.type × Draft fs

namespace Draft

/-- No field has been read. -/
def blank : (fs : List Field) → Draft fs
  | [] => ()
  | _ :: fs => (none, blank fs)

/-- Read a member into the field of its name; a member without a field is
passed over. -/
def put (form : Form) (key : String) (d : Document) : (fs : List Field) → Draft fs →
    Except Fault (Draft fs)
  | [], draft => (Codec.textual d.skip).map fun () => draft
  | f :: fs, (slot, draft) =>
    if key = f.name then
      match slot with
      | some _ => .error (.duplicateField f.name)
      | none => (f.codec.read form d).map fun v => (some v, draft)
    else (put form key d fs draft).map fun draft => (slot, draft)

/-- Read members in order. -/
def putAll (form : Form) (fs : List Field) : List (Except Malformed String × Document) →
    Draft fs → Except Fault (Draft fs)
  | [], draft => .ok draft
  | (k, d) :: rest, draft =>
    Codec.textual k >>= fun k => put form k d fs draft >>= putAll form fs rest

/-- Fill the fields that were left out, or name the first that must be given. -/
def finish : (fs : List Field) → Draft fs → Except Fault (Values fs)
  | [], _ => .ok ()
  | f :: fs, (slot, d) =>
    match slot.or f.absent with
    | none => .error (.missingField f.name)
    | some v => (finish fs d).map fun vs => (v, vs)

end Draft

namespace Values

/-- The values that fields have where all of them are left out; `none` if one of
them must be given. -/
def absent? : (fs : List Field) → Option (Values fs)
  | [] => some ()
  | f :: fs => do
    let v ← f.absent
    let vs ← absent? fs
    return (v, vs)

/-- The members of an object. -/
def members : (fs : List Field) → Values fs → List (String × Json)
  | [], _ => []
  | f :: fs, (v, vs) => (f.name, f.codec.write v) :: members fs vs

/-- The items of an array. -/
def items : (fs : List Field) → Values fs → List Json
  | [], _ => []
  | f :: fs, (v, vs) => f.codec.write v :: items fs vs

/-- Read fields in order from the items of an array, of which `n` have been
read; `label` names what is read. -/
def ofItems (form : Form) (label : String) (close : Close) (n : Nat) : (fs : List Field) →
    List Document → Except Fault (Values fs × List Document)
  | [], rest => .ok ((), rest)
  | f :: fs, [] =>
    Codec.textual close.atItem >>= fun () =>
      match f.absent with
      | none => .error (.wrongLength n label)
      | some v => (ofItems form label close (n + 1) fs []).map fun r => ((v, r.1), r.2)
  | f :: fs, d :: rest => do
    let v ← f.codec.read form d
    let r ← ofItems form label close (n + 1) fs rest
    return ((v, r.1), r.2)

/-- Read all fields from an array, which may have no further items. -/
def ofArray (form : Form) (label : String) (fs : List Field) (items : List Document)
    (close : Close) : Except Fault (Values fs) := do
  let (vs, rest) ← ofItems form label close 0 fs items
  if rest.isEmpty then
    Codec.textual close.afterItems
    return vs
  else throw (Codec.surplus items.length form)

/-- Read all fields from the members of an object. -/
def ofMembers (form : Form) (fs : List Field) (members : List (Except Malformed String × Document))
    (close : Close) : Except Fault (Values fs) := do
  let draft ← Draft.putAll form fs members (Draft.blank fs)
  Codec.textual close.atMember
  draft.finish fs

end Values

namespace Codec

/-- How many fields, in words. -/
def elements (n : Nat) : String :=
  Decimal.naturalText n ++ if n = 1 then " element" else " elements"

/-- Two values as an array. -/
def pair {α β : Type} (a : Codec α) (b : Codec β) : Codec (α × β) where
  write p := .array [a.write p.1, b.write p.2]
  read form := onArray "a tuple of size 2" fun items close =>
    (Values.ofArray form "a tuple of size 2" [.required "first" a, .required "second" b] items
      close).map fun v => (v.1, v.2.1)

/-- A record with the given fields. -/
def record {α : Type} (name : String) (fs : List Field) (back : α → Values fs)
    (make : Values fs → α) : Codec α where
  write a := .object (Values.members fs (back a))
  read
    | form, .object members close => (Values.ofMembers form fs members close).map make
    | form, d =>
      (onArray ("struct " ++ name)
        (Values.ofArray form ("struct " ++ name ++ " with " ++ elements fs.length) fs) d).map make

/-- A record that is written without those of the fields named that are `null`. -/
def sparse {α : Type} (names : List String) (name : String) (fs : List Field) (back : α → Values fs)
    (make : Values fs → α) : Codec α where
  write a := .object ((Values.members fs (back a)).filter fun m =>
    !(names.contains m.1 && m.2.isNull))
  read := (record name fs back make).read

/-- Part the members of an object into those of one field and the others, which are
looked at as opaque values. -/
def part (form : Form) (f : Field) : List (Except Malformed String × Document) →
    Option f.type × List (Except Malformed String × Document) →
    Except Fault (Option f.type × List (Except Malformed String × Document))
  | [], found => .ok (found.1, found.2.reverse)
  | (key, d) :: rest, (slot, others) => do
    let k ← textual key
    if k = f.name then
      match slot with
      | some _ => .error (.duplicateField f.name)
      | none => f.codec.read form d >>= fun v => part form f rest (some v, others)
    else textual d.toJson >>= fun _ => part form f rest (slot, (key, d) :: others)

/-- A record whose first field stands beside the fields of the record it holds.
It has no array form, and its own field is read before the others. -/
def spread {α : Type} (name : String) (f : Field) (fs : List Field)
    (back : α → f.type × Values fs) (make : f.type × Values fs → α) : Codec α where
  write a := .object ((f.name, f.codec.write (back a).1) :: Values.members fs (back a).2)
  read form := onObject ("struct " ++ name) fun members close => do
    let (slot, others) ← part form f members (none, [])
    textual close.atMember
    match slot.or f.absent with
    | none => throw (.missingField f.name)
    | some v => (Values.ofMembers form fs others .closed).map fun vs => make (v, vs)

/-! ## Variants -/

/-- What is said in a text about something that is neither the name of a variant nor
an object. -/
def noVariant : Document → Malformed
  | .missing why => why
  | .string (.error why) => why
  | .brokenString why _ => why
  | .deep (.object _ _) => .tooDeep
  | _ => .notValue

/-- What is said in a text about an object without a first member; `expected` stands
for the name of a variant. -/
def noName (expected : String) : Close → Fault
  | .badKey (.ok got) => .wrongType got expected
  | .badKey (.error why) => .malformed why
  | .brokenKey why _ => .malformed why
  | .cut => .malformed .endInValue
  | _ => .malformed .notValue

/-- What is said in a text about what follows the first member of an object. -/
def afterVariant (rest : List (Except Malformed String × Document)) : Close →
    Except Malformed Unit
  | .closed => if rest.isEmpty then .ok () else .error .notValue
  | .cut => .error (if rest.isEmpty then .endInObject else .notValue)
  | _ => .error .notValue

/-- Read a value that is one of several variants, given by its name alone or by
an object with one member.  `arm` reads what the variant carries. -/
def readVariant {α : Type} (expected : String) (names : List String)
    (arm : String → Option Document → Except Fault α) (form : Form) (d : Document) :
    Except Fault α :=
  let known := fun name payload =>
    if names.contains name then arm name payload else .error (.unknownVariant name names)
  match form, d with
  | _, .string (.ok name) => known name none
  | .text, .object [] close => .error (noName expected close)
  | .text, .object ((name, payload) :: rest) close => do
    let name ← textual name
    let a ← known name (some payload)
    textual (afterVariant rest close)
    return a
  | .text, d => .error (.malformed (noVariant d))
  | .value, .object [(.ok name, payload)] _ => known name (some payload)
  | .value, .object _ _ => .error (.outOfRange .map "map with a single key")
  | .value, d => .error (d.mismatch "string or map")

/-- What a variant without payload carries. -/
def bare {α : Type} (a : α) : Option Document → Except Fault α
  | none => .ok a
  | some d => (unit.read .text d).map fun () => a

/-- What a variant that wraps one value carries. -/
def wrapped {α : Type} (c : Codec α) (form : Form) : Option Document → Except Fault α
  | none => .error (.wrongType .unitVariant "newtype variant")
  | some d => c.read form d

/-- What a variant with several fields carries. -/
def fielded (label : String) (fs : List Field) (form : Form) :
    Option Document → Except Fault (Values fs)
  | none => .error (.wrongType .unitVariant "tuple variant")
  | some d =>
    let read := Values.ofArray form ("tuple variant " ++ label ++ " with " ++ elements fs.length) fs
    match form with
    | .text => onArray ("tuple variant " ++ label) read d
    | .value =>
      onArray "tuple variant"
        (fun items close =>
          if items.isEmpty then .error (.wrongType .null ("tuple variant " ++ label))
          else read items close)
        d

/-- The outcome of a remote call: what it returned, or the code it was rejected
with. -/
def outcome {ε α : Type} (code : Codec ε) (value : Codec α) : Codec (Except ε α) where
  write
    | .ok a => .object [("Ok", value.write a)]
    | .error e => .object [("Err", code.write e)]
  read form d :=
    readVariant "`Ok` or `Err`" ["Ok", "Err"]
      (fun name payload =>
        if name = "Ok" then (wrapped value form payload).map .ok
        else (wrapped code form payload).map .error)
      form d

/-- What stands for the name of a variant in faults. -/
def variantName : String := "variant identifier"

/-! ## Texts -/

/-- Read a value from a text, which may hold nothing after it. -/
def ofText {α : Type} (c : Codec α) (text : String) : Except Fault α :=
  match Document.ofText text with
  | (d, surplus) => do
    let a ← c.read .text d
    if surplus then throw (.malformed .surplus) else return a

/-- Read a value from an opaque value. -/
def ofValue {α : Type} (c : Codec α) (j : Json) : Except Fault α :=
  c.read .value (.ofJson j)

/-- The compact text of a value. -/
def toText {α : Type} (c : Codec α) (a : α) : String :=
  (c.write a).compact

end Codec

end Interchain
