import Interchain.Blob
import Interchain.Decimal.Written

/-!
# Words of a command line

A command line is read level by level.  At each level there are options with a
value, flags, and then either operands or the name of what stands at the next
level.  A value follows its option as the next word or after an equals sign.
-/

namespace Interchain.Cli

/-- Why a command line is not carried out. -/
inductive Refusal where
  | usage
  /-- An explanation was asked for. -/
  | help
deriving DecidableEq, Repr

/-- What the value of an option or an operand must be. -/
inductive ValueKind where
  | text
  /-- A path, which is not empty. -/
  | path
  /-- A byte string in hexadecimal. -/
  | bytes
  /-- A number below `2 ^ bits`. -/
  | number (bits : Nat)
deriving DecidableEq, Repr

/-- Whether a word is a value of a kind. -/
def ValueKind.accepts : ValueKind → String → Bool
  | .text, _ => true
  | .path, s => !s.isEmpty
  | .bytes, s => (Blob.ofHex s : Except Hex.Fault Location).isOk
  | .number bits, s => (Decimal.below? (1 <<< bits) s).isSome

/-- What can stand at a level. -/
structure Level where
  options : List (String × ValueKind)
  flags : List String
  /-- The operands there are at most; `none` if a further level follows. -/
  operands : Option (List ValueKind)
deriving DecidableEq, Repr

/-- What stands at a level. -/
structure Words where
  options : List (String × String)
  flags : List String
  operands : List String
deriving DecidableEq, Repr

namespace Words

def empty : Words := ⟨[], [], []⟩

/-- The value of an option. -/
def value? (w : Words) (name : String) : Option String :=
  (w.options.find? fun o => o.1 == name).map Prod.snd

/-- Whether a flag is given. -/
def has (w : Words) (name : String) : Bool :=
  w.flags.contains name

/-- Give an option its value, for the first time. -/
def setOption (kind : ValueKind) (w : Words) (name value : String) : Except Refusal Words :=
  if (w.value? name).isSome ∨ !kind.accepts value then .error .usage
  else .ok { w with options := w.options ++ [(name, value)] }

/-- Set a flag for the first time. -/
def setFlag (w : Words) (name : String) : Except Refusal Words :=
  if w.has name then .error .usage else .ok { w with flags := w.flags ++ [name] }

/-- Take one more operand. -/
def addOperand (l : Level) (w : Words) (word : String) : Except Refusal Words :=
  match (l.operands.getD [])[w.operands.length]? with
  | some kind =>
    if kind.accepts word then .ok { w with operands := w.operands ++ [word] } else .error .usage
  | none => .error .usage

/-- How a word is meant. -/
inductive Kind where
  /-- All further words are operands. -/
  | separator
  /-- An option or flag, with the value after an equals sign if there is one. -/
  | long (name : String) (value : Option String)
  /-- Letters after a single dash. -/
  | short (letters : List Char)
  | plain
deriving DecidableEq, Repr

/-- How a word is meant. -/
def kind (word : String) : Kind :=
  match word.toList with
  | ['-', '-'] => .separator
  | '-' :: '-' :: cs =>
    let name := String.ofList (cs.takeWhile (· != '='))
    match cs.dropWhile (· != '=') with
    | [] => .long name none
    | _ :: value => .long name (some (String.ofList value))
  | '-' :: c :: cs => .short (c :: cs)
  | _ => .plain

/-- Read the words of a level.  What is left begins with the name of what stands
at the next one. -/
def read (l : Level) (w : Words) : List String → Except Refusal (Words × List String)
  | [] => .ok (w, [])
  | word :: rest =>
    match kind word with
    | .separator => rest.foldlM (addOperand l) w >>= fun w => .ok (w, [])
    | .short letters => .error (if letters.head? = some 'h' then .help else .usage)
    | .long name value =>
      if name = "help" then .error (if value.isSome then .usage else .help)
      else if l.flags.contains name then
        if value.isSome then .error .usage
        else w.setFlag name >>= fun w => read l w rest
      else
        match l.options.find? fun o => o.1 == name, value, rest with
        | none, _, _ => .error .usage
        | some (_, k), some value, rest => w.setOption k name value >>= fun w => read l w rest
        | some _, none, [] => .error .usage
        | some (_, k), none, value :: rest =>
          if kind value = .plain then w.setOption k name value >>= fun w => read l w rest
          else .error .usage
    | .plain =>
      match l.operands with
      | none => .ok (w, word :: rest)
      | some _ => addOperand l w word >>= fun w => read l w rest

end Words

end Interchain.Cli
