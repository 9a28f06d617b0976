import Interchain.Json.Basic
import Interchain.Json.Malformed

/-!
# Documents as they are written

A text is read as far as anybody can need it, and what is wrong with it stays in
the document, at its place.  A reader comes upon it only if it looks there, and what
it then reports depends on how it looks: a reader that needs a value insists on more
than one that passes over it (`Document.skip`).  Numbers may be too large, strings
may hold half a surrogate pair, and values may be nested too deeply: these are met
only by a reader that needs them.
-/

namespace Interchain

/-- What was found where something else was expected. -/
inductive Seen where
  | null
  | bool (value : Bool)
  | integer (value : Int)
  | double (bits : UInt64)
  | string (value : String)
  | sequence
  | map
  /-- A variant that carries nothing. -/
  | unitVariant
deriving DecidableEq, Repr

/-- How an array or an object ends. -/
inductive Close where
  /-- With its bracket. -/
  | closed
  /-- The text ends where a comma or the bracket is due. -/
  | cut
  /-- Something else stands there. -/
  | unexpected
  /-- A comma stands before the bracket. -/
  | comma
  /-- The text ends after a comma. -/
  | cutAfterComma
  /-- Something other than a string stands where a key is due. -/
  | badKey (found : Except Malformed Seen)
  /-- The last key breaks off: as a reader of it reports, and as one that passes
  over it does. -/
  | brokenKey (read skipped : Malformed)
  /-- The last value breaks off. -/
  | broken
deriving Repr

/-- A document as it is written, up to where its text breaks off. -/
inductive Document where
  | null
  | bool (value : Bool)
  /-- A number, unless it is too large. -/
  | number (value : Except Malformed Number)
  /-- A string, unless it holds half a surrogate pair. -/
  | string (value : Except Malformed String)
  | array (items : List Document) (close : Close)
  | object (members : List (Except Malformed String × Document)) (close : Close)
  /-- An array or an object below the deepest level that is read. -/
  | deep (inner : Document)
  /-- Nothing can be read here. -/
  | missing (why : Malformed)
  /-- A word or a number that breaks off: as a reader of it reports, and as one
  that passes over it does. -/
  | brokenWord (read skipped : Malformed)
  /-- A string that breaks off. -/
  | brokenString (read skipped : Malformed)
deriving Repr

namespace Close

/-- The end of an array, for a reader that asks for a further item. -/
def atItem : Close → Except Malformed Unit
  | .closed => .ok ()
  | .cut => .error .endInArray
  | .comma => .error .commaBeforeEnd
  | _ => .error .notItemEnd

/-- The end of an array, for a reader that asks for no further item. -/
def afterItems : Close → Except Malformed Unit
  | .closed => .ok ()
  | .cut => .error .endInArray
  | .comma => .error .commaBeforeEnd
  | _ => .error .surplus

/-- The end of an array, for a reader that passes over it. -/
def skipItems : Close → Except Malformed Unit
  | .closed => .ok ()
  | .cut => .error .endInArray
  | .comma => .error .notValue
  | _ => .error .notItemEnd

/-- The end of an object, for a reader that asks for a further member. -/
def atMember : Close → Except Malformed Unit
  | .closed => .ok ()
  | .cut => .error .endInObject
  | .comma => .error .commaBeforeEnd
  | .cutAfterComma => .error .endInValue
  | .badKey _ => .error .notKey
  | .brokenKey read _ => .error read
  | _ => .error .notMemberEnd

/-- The end of an object, for a reader that passes over it. -/
def skipMembers : Close → Except Malformed Unit
  | .closed => .ok ()
  | .cut | .cutAfterComma => .error .endInObject
  | .comma | .badKey _ => .error .notKey
  | .brokenKey _ skipped => .error skipped
  | _ => .error .notMemberEnd

end Close

namespace Document

/-- How a document looks to a reader that expected something else. -/
def seen : Document → Except Malformed Seen
  | .null => .ok .null
  | .bool b => .ok (.bool b)
  | .number n => n.map fun n =>
    match n.narrow with
    | .int i => .integer i
    | .double bits => .double bits
  | .string s => s.map .string
  | .array _ _ => .ok .sequence
  | .object _ _ => .ok .map
  | .deep d => d.seen
  | .missing why => .error why
  | .brokenWord read _ => .error read
  | .brokenString read _ => .error read

mutual

/-- The value of a document. -/
def toJson : Document → Except Malformed Json
  | .null => .ok .null
  | .bool b => .ok (.bool b)
  | .number n => n.map .number
  | .string s => s.map .string
  | .array items close => do
    let values ← itemsToJson items
    close.atItem
    return .array values
  | .object members close => do
    let values ← membersToJson members
    close.atMember
    return .object values
  | .deep _ => .error .tooDeep
  | .missing why => .error why
  | .brokenWord read _ => .error read
  | .brokenString read _ => .error read

def itemsToJson : List Document → Except Malformed (List Json)
  | [] => .ok []
  | d :: rest => do
    let v ← d.toJson
    let vs ← itemsToJson rest
    return v :: vs

def membersToJson : List (Except Malformed String × Document) →
    Except Malformed (List (String × Json))
  | [] => .ok []
  | (key, d) :: rest => do
    let k ← key
    let v ← d.toJson
    let vs ← membersToJson rest
    return (k, v) :: vs

end

mutual

/-- Pass over a document. -/
def skip : Document → Except Malformed Unit
  | .null | .bool _ | .number _ | .string _ => .ok ()
  | .array items close => skipItems items >>= fun () => close.skipItems
  | .object members close => skipMembers members >>= fun () => close.skipMembers
  | .deep d => d.skip
  | .missing why => .error why
  | .brokenWord _ skipped => .error skipped
  | .brokenString _ skipped => .error skipped

def skipItems : List Document → Except Malformed Unit
  | [] => .ok ()
  | d :: rest => d.skip >>= fun () => skipItems rest

def skipMembers : List (Except Malformed String × Document) → Except Malformed Unit
  | [] => .ok ()
  | (_, d) :: rest => d.skip >>= fun () => skipMembers rest

end

mutual

/-- The document that a value is written as. -/
def ofJson : Json → Document
  | .null => .null
  | .bool b => .bool b
  | .number n => .number (.ok n)
  | .string s => .string (.ok s)
  | .array items => .array (ofItems items) .closed
  | .object members => .object (ofMembers members) .closed

def ofItems : List Json → List Document
  | [] => []
  | v :: rest => ofJson v :: ofItems rest

def ofMembers : List (String × Json) → List (Except Malformed String × Document)
  | [] => []
  | (k, v) :: rest => (.ok k, ofJson v) :: ofMembers rest

end

mutual

@[simp] theorem toJson_ofJson : ∀ j : Json, (ofJson j).toJson = .ok j
  | .null => rfl
  | .bool _ => rfl
  | .number _ => rfl
  | .string _ => rfl
  | .array items => by
    simp only [ofJson, toJson, itemsToJson_ofItems items]
    rfl
  | .object members => by
    simp only [ofJson, toJson, membersToJson_ofMembers members]
    rfl

theorem itemsToJson_ofItems : ∀ items : List Json, itemsToJson (ofItems items) = .ok items
  | [] => rfl
  | v :: rest => by
    simp only [ofItems, itemsToJson, toJson_ofJson v, itemsToJson_ofItems rest]
    rfl

theorem membersToJson_ofMembers : ∀ members : List (String × Json),
    membersToJson (ofMembers members) = .ok members
  | [] => rfl
  | (k, v) :: rest => by
    simp only [ofMembers, membersToJson, toJson_ofJson v, membersToJson_ofMembers rest]
    rfl

end

end Document

end Interchain
