/-!
# Texts that are no JSON

What is wrong with a text, at the first place where it cannot be gone on with.
-/

namespace Interchain

/-- What is wrong with a text that is no JSON document. -/
inductive Malformed where
  /-- The text ends where a value is due. -/
  | endInValue
  | endInString
  | endInArray
  | endInObject
  | notValue
  /-- A word that begins like `null`, `true` or `false`. -/
  | notWord
  | notColon
  /-- Neither a comma nor a bracket follows an item. -/
  | notItemEnd
  /-- Neither a comma nor a brace follows a member. -/
  | notMemberEnd
  | notKey
  | commaBeforeEnd
  /-- Something follows where the document ends. -/
  | surplus
  | badNumber
  | numberTooLarge
  | badEscape
  | controlCharacter
  /-- Half a surrogate pair. -/
  | loneSurrogate
  /-- The first half of a surrogate pair with no escape after it. -/
  | missingSurrogate
  | tooDeep
deriving DecidableEq, Repr

def Malformed.message : Malformed → String
  | .endInValue => "EOF while parsing a value"
  | .endInString => "EOF while parsing a string"
  | .endInArray => "EOF while parsing a list"
  | .endInObject => "EOF while parsing an object"
  | .notValue => "expected value"
  | .notWord => "expected ident"
  | .notColon => "expected `:`"
  | .notItemEnd => "expected `,` or `]`"
  | .notMemberEnd => "expected `,` or `\x7d`"
  | .notKey => "key must be a string"
  | .commaBeforeEnd => "trailing comma"
  | .surplus => "trailing characters"
  | .badNumber => "invalid number"
  | .numberTooLarge => "number out of range"
  | .badEscape => "invalid escape"
  | .controlCharacter => "control character (\\u0000-\\u001F) found while parsing a string"
  | .loneSurrogate => "lone leading surrogate in hex escape"
  | .missingSurrogate => "unexpected end of hex escape"
  | .tooDeep => "recursion limit exceeded"

end Interchain
