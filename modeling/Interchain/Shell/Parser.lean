import Interchain.Shell.Token

/-!
# Commands of scripts

A script is read one line of commands at a time, each of which is run before the
next is read.  Commands may go on over several lines, and documents that a line
announces follow it.
-/

namespace Interchain.Shell

open Reading

/-- What is to be read. -/
inductive Wanted where
  /-- The commands of a line. -/
  | line
  /-- Commands up to a token that ends them, of which there is at least one. -/
  | body
  /-- Commands up to a token that ends them. -/
  | any
  /-- One command. -/
  | one
deriving DecidableEq, Repr

/-- Commands that change the shell itself, whose names no function may have. -/
def specialCommands : List String :=
  [".", ":", "break", "continue", "eval", "exec", "exit", "export", "local", "readonly", "return",
   "set", "shift", "times", "trap", "unset"]

/-- How commands inside others are read. -/
abbrev Inner := Wanted → Reading (Option Command)

namespace Inner

variable (inner : Inner)

/-- Commands in substitutions. -/
def nested : Nested where
  commands := inner .any
  bracketed := do
    let outer := (← get).announced
    modify fun r => { r with announced := [] }
    let script ← inner .any
    let t ← readToken ⟨inner .any, inner .any⟩ 1 .none
    if t ≠ .closing then expected .closing
    modify fun r => { r with announced := outer, check := .none }
    return script

/-- The next token. -/
def token : Reading Token := Reading.token inner.nested

/-- The next token, which must be this one. -/
def require (t : Token) : Reading Unit := do
  if (← inner.token) ≠ t then expected t

/-- A body of a command.  It is only missing at the end of the script, which cannot stand
behind it. -/
def body : Reading Command := return (← inner .body).getD default

/-- Run a step until it gives something, which it does within some tokens. -/
def iterate {σ α : Type} (step : σ → Reading (σ ⊕ α)) : Nat → σ → Reading α
  | 0, _ => unexpected
  | n + 1, s => do
    match ← step s with
    | .inl s => iterate step n s
    | .inr a => return a

/-- The words of a list, up to another token. -/
def words : Nat → Reading (List Word)
  | 0 => return []
  | n + 1 => do
    if (← inner.token) = .word then
      let word := (← get).word
      return word :: (← words n)
    else return []

/-! ## Redirections -/

/-- Read where the last redirection leads. -/
def target : Reading Redirection := do
  let redirection := (← get).redirection
  match redirection with
  | .document _ _ => look { Check.none with mark := true }
  | _ => pure ()
  if (← inner.token) ≠ .word then unexpected
  let r ← get
  match redirection with
  | .file fd mode _ => return .file fd mode r.word
  | .duplicate fd _ => return .duplicate fd r.word
  | .document fd number =>
    let mark := r.word.filterMap fun
      | .char c _ => some c
      | _ => none
    let announced := r.announced.map fun (a : Announced) =>
      if a.number = number then { a with mark := mark, expanded := !r.quoted } else a
    set { r with announced }
    return .document fd number

/-- The redirections behind a command. -/
def redirections : Nat → Reading (List Redirection)
  | 0 => return []
  | n + 1 => do
    if (← inner.token) = .redirection then
      let first ← inner.target
      return first :: (← redirections n)
    else
      again
      return []

/-! ## Commands -/

/-- A simple command that is being read. -/
structure Draft where
  assignments : List Word
  words : List Word
  redirections : List Redirection

/-- Read the body of a function with this name. -/
def function (name : Word) : Reading Command := do
  inner.require .closing
  match (plainText? name).filter isName with
  | none => fail "Bad function name"
  | some text =>
    if specialCommands.any fun c => c.toList == text then fail "Bad function name"
    else
      look .body
      match ← inner .one with
      | some body => return .define text body
      | none => unexpected

/-- One step of reading a simple command. -/
def simpleStep (line : Nat) (d : Draft) : Reading (Draft ⊕ Command) := do
  if d.words.isEmpty then look { Check.none with aliases := true }
  match ← inner.token with
  | .word =>
    let word := (← get).word
    if d.words.isEmpty && isAssignment word then
      return .inl { d with assignments := d.assignments ++ [word] }
    else return .inl { d with words := d.words ++ [word] }
  | .redirection =>
    let redirection ← inner.target
    return .inl { d with redirections := d.redirections ++ [redirection] }
  | t =>
    match t, d with
    | .opening, ⟨[], [name], []⟩ => return .inr (← inner.function name)
    | _, _ =>
      again
      return .inr (.simple line d.assignments d.words d.redirections)

/-- The branches behind `if`, up to its end. -/
def branches : Nat → Reading Command
  | 0 => unexpected
  | n + 1 => do
    let test ← inner.body
    inner.require (.keyword "then")
    let first ← inner.body
    match ← inner.token with
    | .keyword "elif" => return .branch test first (some (← branches n))
    | .keyword "else" => return .branch test first (some (← inner.body))
    | _ =>
      again
      return .branch test first none

/-- The patterns of a clause, up to the bracket behind them. -/
def patterns : Nat → Reading (List Word)
  | 0 => return []
  | n + 1 => do
    let word := (← get).word
    if (← inner.token) = .bar then
      let _ ← inner.token
      return word :: (← patterns n)
    else return [word]

/-- The clauses of a choice, up to its end. -/
def clauses : Nat → Reading (List Clause)
  | 0 => return []
  | n + 1 => do
    look { Check.body with aliases := false }
    if (← inner.token) = .keyword "esac" then return []
    if (← get).last = .opening then
      let _ ← inner.token
    let words ← inner.patterns (← size)
    if (← get).last ≠ .closing then expected .closing
    let body ← inner .any
    let clause := Clause.mk words body
    look { Check.body with aliases := false }
    match ← inner.token with
    | .keyword "esac" => return [clause]
    | .endOfClause => return clause :: (← clauses n)
    | _ => expected .endOfClause

/-- What a loop over words runs through. -/
def eachWords : Reading (List Word) := do
  look .body
  if (← inner.token) = .keyword "in" then
    let words ← inner.words (← size)
    let last := (← get).last
    if last ≠ .newline ∧ last ≠ .semicolon then unexpected
    return words
  else
    if (← get).last ≠ .semicolon then again
    return [allArguments]

/-- The rest of a loop over words. -/
def each (line : Nat) : Reading Command := do
  let t ← inner.token
  let r ← get
  match t, r.quoted, (plainText? r.word).filter isName with
  | .word, false, some name =>
    let words ← inner.eachWords
    look .body
    inner.require (.keyword "do")
    return .each line name words (← inner.body)
  | _, _, _ => fail "Bad for loop variable"

/-- The rest of a choice. -/
def choice (line : Nat) : Reading Command := do
  inner.require .word
  let word := (← get).word
  look .body
  inner.require (.keyword "in")
  return .choice line word (← inner.clauses (← size))

/-- The rest of a loop that a test ends. -/
def loop (negated : Bool) : Reading Command := do
  let test ← inner.body
  inner.require (.keyword "do")
  return .loop negated test (← inner.body)

/-- Put redirections around a command. -/
def redirected (line : Nat) (c : Command) (redirections : List Redirection) : Command :=
  match redirections, c with
  | [], c => c
  | _, .subshell line body [] => .subshell line body redirections
  | _, c => .redirected line c redirections

/-- A command behind the token that begins it, with the token that ends it. -/
def compound (line : Nat) : Token → Reading (Option (Command × Option Token))
  | .keyword "if" => return some (← inner.branches (← size), some (.keyword "fi"))
  | .keyword "while" => return some (← inner.loop false, some (.keyword "done"))
  | .keyword "until" => return some (← inner.loop true, some (.keyword "done"))
  | .keyword "for" => return some (← inner.each line, some (.keyword "done"))
  | .keyword "case" => return some (← inner.choice line, none)
  | .opening => return some (.subshell line (← inner.body) [], some .closing)
  | .keyword "\x7b" => return some (← inner.body, some (.keyword "\x7d"))
  | _ => return none

/-- One command. -/
def command : Reading Command := do
  let line := (← get).line
  let t ← inner.token
  if t = .word ∨ t = .redirection then
    again
    let line := (← get).line
    iterate (inner.simpleStep line) ((← size) + 1) ⟨[], [], []⟩
  else
    match ← inner.compound line t with
    | none => unexpected
    | some (c, last) =>
      last.forM inner.require
      look .command
      return redirected line c (← inner.redirections (← size))

/-- The commands behind a bar. -/
def piped : Nat → Reading (List Command)
  | 0 => return []
  | n + 1 => do
    if (← inner.token) = .bar then
      look .body
      let first ← inner.command
      return first :: (← piped n)
    else
      again
      return []

/-- Commands joined by bars. -/
def pipeline : Reading Command := do
  let negated := (← inner.token) = .keyword "!"
  if negated then look .command else again
  let first ← inner.command
  let rest ← inner.piped (← size)
  let c := if rest.isEmpty then first else .pipeline (first :: rest) false
  return if negated then .negation c else c

/-- Pipelines behind one that decides whether they are run. -/
def joined : Nat → Command → Reading Command
  | 0, c => return c
  | n + 1, c => do
    match ← inner.token with
    | .both =>
      look .body
      joined n (.both c (← inner.pipeline))
    | .either =>
      look .body
      joined n (.either c (← inner.pipeline))
    | _ =>
      again
      return c

/-- A command that is not waited for. -/
def inBackground : Command → Command
  | .pipeline commands _ => .pipeline commands true
  | .redirected line body redirections => .background line body redirections
  | c => .background 0 c []

/-- One step of reading a list. -/
def listStep (wanted : Wanted) (s : Option Command × Bool) :
    Reading ((Option Command × Bool) ⊕ Option Command) := do
  let (before, isFirst) := s
  look (if wanted = .line then .command else .body)
  let t ← inner.token
  if t = .newline then
    readDocuments inner.nested
    return .inr before
  else if t = .endOfFile then
    finished before
  else
    again
    if (wanted = .any ∨ (wanted = .body ∧ !isFirst)) ∧ t.endsList then return .inr before
    else
      let c ← inner.joined (← size) (← inner.pipeline)
      let t ← inner.token
      let c := if t = .ampersand then inBackground c else c
      let all : Command := match before with
        | none => c
        | some b => .sequence b c
      match t with
      | .endOfFile => finished all
      | .newline =>
        again
        return .inl (all, false)
      | .ampersand | .semicolon => return .inl (all, false)
      | _ =>
        if wanted = .line then unexpected
        again
        return .inr all
where
  finished (c : Option Command) : Reading ((Option Command × Bool) ⊕ Option Command) := do
    readDocuments inner.nested
    modify fun r => { r with last := .endOfFile, pushed := true }
    return .inr c

/-- What is wanted, with what it holds inside read by `inner`. -/
def read (wanted : Wanted) : Reading (Option Command) := do
  match wanted with
  | .one => return some (← inner.command)
  | _ => iterate (inner.listStep wanted) ((← size) + 1) (none, true)

/-- Read commands that stand in each other up to a depth. -/
def ofDepth : Nat → Inner
  | 0, _ => unexpected
  | n + 1, wanted => read (ofDepth n) wanted

end Inner

/-- What was read of a script. -/
structure Parsed where
  /-- The commands of a line, or nothing at the end of the script. -/
  command : Option (Option Command)
  documents : List (Nat × Word)
  rest : Octets
  line : Nat
  nextDocument : Nat
  /-- Nothing more follows. -/
  isLast : Bool

/-- Read the commands of the next line of a script. -/
def parseLine (aliases : List (Octets × Octets)) (nextDocument line : Nat) (input : Octets) :
    Except Mistake Parsed :=
  let start : Reader :=
    ⟨input, line, aliases, [], .none, .newline, false, [], false, .file 0 .read [], [], [],
      nextDocument⟩
  match (Inner.ofDepth (input.length + 2) .line).run start with
  | (.error mistake, _) => .error mistake
  | (.ok command, r) =>
    let isLast := r.pushed && r.last = .endOfFile
    .ok ⟨if isLast && command.isNone then none else some command, r.documents, r.input, r.line,
      r.nextDocument, isLast⟩

/-- Read a text as a document in which parameters and outputs are replaced. -/
def parseDocument (aliases : List (Octets × Octets)) (nextDocument : Nat) (input : Octets) :
    Except Mistake Word :=
  let start : Reader :=
    ⟨input, 1, aliases, [], .none, .newline, false, [], false, .file 0 .read [], [], [],
      nextDocument⟩
  let inner := Inner.ofDepth (input.length + 2)
  let read : Reading Word := do
    let n ← size
    let level := { Level.ofMode .double with quoted := true }
    let (_, s) ← scan inner.nested (some ⟨0, ['\n'], false, true⟩) n (← nextJoined) (.start level)
    finish true s
    return s.parts.reverse
  (read.run start).1

end Interchain.Shell
