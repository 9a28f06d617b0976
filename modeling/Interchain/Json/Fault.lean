import Interchain.Json.Document
import Interchain.Json.Printer
import Interchain.Text.Hex
import Interchain.Text.Quoted

/-!
# Why a document is no record

The first thing found wrong with a document when it is read as a record, in the
order in which the document is written.
-/

namespace Interchain

def Seen.describe : Seen → String
  | .null => "null"
  | .bool true => "boolean `true`"
  | .bool false => "boolean `false`"
  | .integer i => "integer `" ++ String.ofList (Decimal.integer i) ++ "`"
  | .double bits => "floating point `" ++ String.ofList (Decimal.double bits) ++ "`"
  | .string s => "string " ++ Quoted.text s
  | .sequence => "sequence"
  | .map => "map"
  | .unitVariant => "unit variant"

/-- The first fault of a document. -/
inductive Fault where
  /-- The text is no JSON document, or its shape rules out every reading. -/
  | malformed (why : Malformed)
  | missingField (name : String)
  | duplicateField (name : String)
  | unknownVariant (name : String) (expected : List String)
  | wrongType (got : Seen) (expected : String)
  | outOfRange (got : Seen) (expected : String)
  | wrongLength (length : Nat) (expected : String)
  /-- None of the layouts of a shape fits. -/
  | noLayout (shape : String)
  | hex (fault : Hex.Fault)
deriving DecidableEq, Repr

/-- Names between accents, as a choice. -/
def Fault.choice : List String → String
  | [] => "there are no variants"
  | [a] => "expected `" ++ a ++ "`"
  | [a, b] => "expected `" ++ a ++ "` or `" ++ b ++ "`"
  | a :: rest =>
    "expected one of `" ++ a ++ "`" ++ String.join (rest.map fun n => ", `" ++ n ++ "`")

def Fault.message : Fault → String
  | .malformed why => why.message
  | .missingField name => "missing field `" ++ name ++ "`"
  | .duplicateField name => "duplicate field `" ++ name ++ "`"
  | .unknownVariant name expected => "unknown variant `" ++ name ++ "`, " ++ choice expected
  | .wrongType got expected => "invalid type: " ++ got.describe ++ ", expected " ++ expected
  | .outOfRange got expected => "invalid value: " ++ got.describe ++ ", expected " ++ expected
  | .wrongLength length expected =>
    "invalid length " ++ Decimal.naturalText length ++ ", expected " ++ expected
  | .noLayout shape => "data did not match any variant of untagged enum " ++ shape
  | .hex fault => fault.message

/-- The fault of a document where something else is expected. -/
def Document.mismatch (d : Document) (expected : String) : Fault :=
  match d.seen with
  | .ok got => .wrongType got expected
  | .error why => .malformed why

end Interchain
