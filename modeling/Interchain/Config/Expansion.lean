/-!
# Variables in texts

A configuration may leave parts of a text to the environment by writing a
dollar sign and the name of a variable in braces.  A name that is not set stands
for the reference itself, and the value of a variable is not read for further
references.
-/

namespace Interchain

/-- The values of the variables that are set. -/
abbrev Environment := String → Option String

/-- No variable is set. -/
def Environment.empty : Environment := fun _ => none

/-- The environment of the given variables, the first of each name.  A variable is
held as one text, its name and its value with an equals sign between them, and is
found by any beginning of that text that ends before an equals sign. -/
def Environment.ofList (entries : List (String × String)) : Environment := fun name =>
  if name.isEmpty ∨ name.toList.contains '\x00' then none
  else
    entries.findSome? fun v =>
      ((name.toList ++ ['=']).isPrefixOf? (v.1 ++ "=" ++ v.2).toList).map String.ofList

namespace Expansion

/-- A reference to the variable of this name. -/
def reference (name : List Char) : List Char :=
  '$' :: '\x7b' :: (name ++ ['\x7d'])

/-- What a reference stands for. -/
def value (env : Environment) (name : List Char) : List Char :=
  match env (String.ofList name) with
  | some v => v.toList
  | none => reference name

/-- Expand the references in a text.  Inside a reference, `name?` is the part of
the name that has been read, backwards.  A reference that the text ends in is
taken to be closed there. -/
def scan (env : Environment) : (name? : Option (List Char)) → List Char → List Char
  | none, [] => []
  | none, '$' :: '\x7b' :: rest => scan env (some []) rest
  | none, c :: rest => c :: scan env none rest
  | some name, [] => value env name.reverse
  | some name, '\x7d' :: rest => value env name.reverse ++ scan env none rest
  | some name, c :: rest => scan env (some (c :: name)) rest

/-- Expand the references in a text. -/
def expand (env : Environment) (text : String) : String :=
  String.ofList (scan env none text.toList)

end Expansion

end Interchain
