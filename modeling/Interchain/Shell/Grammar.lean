import Interchain.Process.World

/-!
# Scripts

A script is made up of commands, and a command of words.  A word is text in which
parameters, the outputs of commands and the values of expressions are replaced;
commands in turn stand in words, so that both are defined together.
-/

namespace Interchain.Shell

/-- What stands for a parameter in a word. -/
inductive Operator where
  /-- Its value. -/
  | value
  /-- The length of its value. -/
  | length
  /-- The word, if the parameter is not set. -/
  | otherwise
  /-- The word, which the parameter is set to if it is not set. -/
  | assign
  /-- The word is a complaint if the parameter is not set. -/
  | require
  /-- The word, if the parameter is set. -/
  | instead
  /-- Its value without the shortest or longest end that fits the word. -/
  | dropEnd (longest : Bool)
  /-- Its value without the shortest or longest beginning that fits the word. -/
  | dropFront (longest : Bool)
  /-- Something that means nothing. -/
  | bad
deriving DecidableEq, Repr

mutual

/-- A part of a word. -/
inductive Part where
  /-- A character; one that is escaped has no meaning but itself. -/
  | char (c : Char) (escaped : Bool)
  /-- A quotation mark. -/
  | quotes
  /-- A parameter, where `orNull` says that an empty value counts as none. -/
  | parameter (name : Octets) (operator : Operator) (orNull : Bool) (word : List Part)
  /-- The output of a script. -/
  | output (script : Option Command)
  /-- The value of an expression. -/
  | arithmetic (expression : List Part)

/-- Where a descriptor leads while a command runs. -/
inductive Redirection where
  | file (fd : Nat) (mode : FileMode) (name : List Part)
  /-- Where another descriptor leads, or nowhere. -/
  | duplicate (fd : Nat) (target : List Part)
  /-- To a text in the script, by its number. -/
  | document (fd : Nat) (number : Nat)

/-- A choice with its patterns. -/
inductive Clause where
  | mk (patterns : List (List Part)) (body : Option Command)

/-- A command.  Lines are those that complaints give. -/
inductive Command where
  /-- Assignments, words and redirections. -/
  | simple (line : Nat) (assignments words : List (List Part)) (redirections : List Redirection)
  | pipeline (commands : List Command) (background : Bool)
  | redirected (line : Nat) (body : Command) (redirections : List Redirection)
  /-- A command that is not waited for. -/
  | background (line : Nat) (body : Command) (redirections : List Redirection)
  /-- A command that changes nothing in the shell itself. -/
  | subshell (line : Nat) (body : Command) (redirections : List Redirection)
  | both (first second : Command)
  | either (first second : Command)
  | sequence (first second : Command)
  | branch (test body : Command) (otherwise : Option Command)
  /-- A body that is run again while the test succeeds, or while it fails. -/
  | loop (negated : Bool) (test body : Command)
  | each (line : Nat) (name : Octets) (words : List (List Part)) (body : Command)
  | choice (line : Nat) (word : List Part) (clauses : List Clause)
  /-- A function. -/
  | define (name : Octets) (body : Command)
  | negation (command : Command)

end

instance : Inhabited Command := ⟨.simple 0 [] [] []⟩

/-- A word. -/
abbrev Word := List Part

/-- The word that stands for all arguments. -/
def allArguments : Word :=
  [.quotes, .parameter ['@'] .value false [], .quotes]

/-! ## Names -/

def isNameStart (c : Char) : Bool := c.isAlpha || c == '_'

def isNameChar (c : Char) : Bool := c.isAlphanum || c == '_'

/-- Parameters whose names are signs. -/
def isSign (c : Char) : Bool :=
  ['@', '*', '#', '?', '-', '$', '!'].contains c || c.isDigit

/-- Whether a text is the name of a variable. -/
def isName (cs : Octets) : Bool :=
  cs.head?.any isNameStart && cs.all isNameChar

/-- The plain characters in front of a word. -/
def plainFront : Word → Octets
  | .char c false :: rest => c :: plainFront rest
  | _ => []

/-- The text of a word that consists of plain characters. -/
def plainText? : Word → Option Octets
  | [] => some []
  | .char c false :: rest => (plainText? rest).map (c :: ·)
  | _ => none

/-- Whether a word assigns a value to a variable. -/
def isAssignment (w : Word) : Bool :=
  let front := plainFront w
  let name := front.takeWhile isNameChar
  isName name && (front.drop name.length).head? == some '='

end Interchain.Shell
