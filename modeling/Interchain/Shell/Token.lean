import Interchain.Shell.Grammar

/-!
# Tokens of scripts

The characters of a script are read one by one.  Words hold substitutions, whose
text may hold commands; how these are read is a parameter here.
-/

namespace Interchain.Shell

/-- What is wrong with a script, and at which line. -/
structure Mistake where
  line : Nat
  what : String
deriving DecidableEq, Repr

inductive Token where
  | endOfFile
  | newline
  | semicolon
  | ampersand
  | both
  | either
  | bar
  | opening
  | closing
  | endOfClause
  | redirection
  | word
  | keyword (text : String)
deriving DecidableEq, Repr

namespace Token

/-- A token as it is named in complaints. -/
def name : Token → String
  | .endOfFile => "end of file"
  | .newline => "newline"
  | .semicolon => "\";\""
  | .ampersand => "\"&\""
  | .both => "\"&&\""
  | .either => "\"||\""
  | .bar => "\"|\""
  | .opening => "\"(\""
  | .closing => "\")\""
  | .endOfClause => "\";;\""
  | .redirection => "redirection"
  | .word => "word"
  | .keyword text => "\"" ++ text ++ "\""

/-- Words with a meaning of their own where a command begins. -/
def keywords : List String :=
  ["!", "case", "do", "done", "elif", "else", "esac", "fi", "for", "if", "in", "then", "until",
   "while", "\x7b", "\x7d"]

/-- Tokens that can only stand behind a list of commands. -/
def endsList : Token → Bool
  | .endOfFile | .closing | .endOfClause => true
  | .keyword text => ["do", "done", "elif", "else", "esac", "fi", "then", "\x7d"].contains text
  | _ => false

end Token

/-- What the next token is checked for. -/
structure Check where
  /-- Line ends are passed over. -/
  newlines : Bool
  keywords : Bool
  aliases : Bool
  /-- The word ends a document, so that nothing is replaced in it. -/
  mark : Bool
deriving DecidableEq, Repr

namespace Check

def none : Check := ⟨false, false, false, false⟩

def command : Check := ⟨false, true, true, false⟩

def body : Check := ⟨true, true, true, false⟩

end Check

/-- A document that is announced and begins at the next line. -/
structure Announced where
  number : Nat
  mark : Octets
  /-- Tabs in front of lines are dropped. -/
  stripped : Bool
  /-- Parameters and outputs are replaced in it. -/
  expanded : Bool
deriving DecidableEq, Repr

/-- An alias whose text is being read, until no more than `left` characters are left. -/
structure Replacing where
  name : Octets
  left : Nat
  /-- The word after the alias may be an alias too. -/
  continues : Bool
deriving DecidableEq, Repr

/-- A script while it is read. -/
structure Reader where
  input : Octets
  line : Nat
  aliases : List (Octets × Octets)
  replacing : List Replacing
  check : Check
  last : Token
  /-- The last token is to be read again. -/
  pushed : Bool
  /-- The word that was read last, and whether any of it was quoted. -/
  word : Word
  quoted : Bool
  redirection : Redirection
  announced : List Announced
  documents : List (Nat × Word)
  nextDocument : Nat

abbrev Reading := ExceptT Mistake (StateM Reader)

namespace Reading

/-- Complain about the line that is being read. -/
def fail {α : Type} (what : String) : Reading α := do
  let r ← get
  throw ⟨r.line, what⟩

/-- Complain about the last token. -/
def unexpected {α : Type} : Reading α := do
  let r ← get
  fail (r.last.name ++ " unexpected")

/-- Complain that the last token is not the one that must stand there. -/
def expected {α : Type} (t : Token) : Reading α := do
  let r ← get
  fail (r.last.name ++ " unexpected (expecting " ++ t.name ++ ")")

/-! ## Characters -/

def next : Reading (Option Char) := do
  let r ← get
  match r.input with
  | [] => return none
  | c :: rest =>
    set { r with input := rest }
    return some c

/-- Drop line ends that a backslash takes away. -/
def dropJoins (line : Nat) : Octets → Octets × Nat
  | '\\' :: '\n' :: rest => dropJoins (line + 1) rest
  | cs => (cs, line)

/-- The next character, lines joined. -/
def nextJoined : Reading (Option Char) := do
  let r ← get
  let (input, line) := dropJoins r.line r.input
  set { r with input, line }
  next

def unread (c : Option Char) : Reading Unit :=
  modify fun r => { r with input := c.toList ++ r.input }

def newLine : Reading Unit :=
  modify fun r => { r with line := r.line + 1 }

/-- The characters from the next on that a class holds, and the one behind them.  At
most `count` are read. -/
def nextWhile (p : Char → Bool) : Nat → Option Char → Reading (Octets × Option Char)
  | 0, c => return ([], c)
  | n + 1, c =>
    match c with
    | some c =>
      if p c then do
        let (cs, after) ← nextWhile p n (← nextJoined)
        return (c :: cs, after)
      else return ([], some c)
    | none => return ([], none)

def size : Reading Nat := return (← get).input.length + 1

/-! ## Words -/

/-- How characters are read. -/
inductive Mode where
  | plain
  | double
  | single
  | arithmetic
deriving DecidableEq, Repr

/-- A level of quotation. -/
structure Level where
  mode : Mode
  quoted : Bool
  /-- The level ends with the substitution that it was opened for. -/
  pushed : Bool
  /-- Within quotation marks inside a substitution. -/
  inner : Bool
  /-- Substitutions that are open, and those of them that are quoted. -/
  braces : Nat
  quotedBraces : Nat
  /-- Brackets that are open in an expression. -/
  brackets : Nat
deriving DecidableEq, Repr

def Level.ofMode (mode : Mode) : Level := ⟨mode, false, false, false, 0, 0, 0⟩

/-- A part that is being read, with the parts before it, last first. -/
inductive Frame where
  | parameter (name : Octets) (operator : Operator) (orNull : Bool) (before : List Part)
  | arithmetic (before : List Part)

/-- A word that is being read, its parts last first. -/
structure Scan where
  level : Level
  below : List Level
  parts : List Part
  frames : List Frame
  quoted : Bool

namespace Scan

def start (level : Level) : Scan := ⟨level, [], [], [], false⟩

def put (s : Scan) (p : Part) : Scan := { s with parts := p :: s.parts }

def putChar (s : Scan) (c : Char) (escaped : Bool) : Scan := s.put (.char c escaped)

def push (s : Scan) (level : Level) : Scan :=
  { s with level := level, below := s.level :: s.below }

def pop (s : Scan) : Scan :=
  match s.below with
  | [] => s
  | level :: below => { s with level := level, below := below }

def openFrame (s : Scan) (f : List Part → Frame) : Scan :=
  { s with frames := f s.parts :: s.frames, parts := [] }

/-- End the innermost open part. -/
def closeFrame (s : Scan) : Scan :=
  match s.frames with
  | [] => s
  | .parameter name operator orNull before :: frames =>
    { s with
      frames
      parts := .parameter name operator orNull s.parts.reverse :: before }
  | .arithmetic before :: frames =>
    { s with frames, parts := .arithmetic s.parts.reverse :: before }

/-- Note an opening or closing quotation mark; documents do not keep them. -/
def mark (s : Scan) (isDocument : Bool) : Scan :=
  if isDocument then s else s.put .quotes

/-- Turn the quotation inside a substitution on or off. -/
def toggle (s : Scan) : Scan :=
  if 0 < s.level.braces then { s with level := { s.level with inner := !s.level.inner } } else s

end Scan

/-- Characters that end a plain word. -/
def endsWord (c : Char) : Bool :=
  ['<', '>', '(', ')', ';', '&', '|', ' ', '\t'].contains c

/-- The sign around commands in an older form. -/
def backquote : Char := Char.ofNat 0x60

/-- Put in the character after a backslash. -/
def escape (s : Scan) (isDocument : Bool) : Reading Scan := do
  match ← next with
  | none => return s.putChar '\\' true
  | some c =>
    let kept := s.level.quoted && !(c == '\\' || c == backquote || c == '$' ||
      (c == '"' && !(isDocument && s.level.braces == 0)) || (c == '}' && 0 < s.level.braces))
    let s := if kept then s.putChar '\\' true else s
    return { s.putChar c true with quoted := true }

/-- The operators of a substitution behind a colon or not. -/
def operator? (c : Option Char) : Option Operator :=
  match c with
  | some '}' => some .value
  | some '-' => some .otherwise
  | some '+' => some .instead
  | some '?' => some .require
  | some '=' => some .assign
  | _ => none

/-- Read the operator of a substitution in braces that begins with `c`, and whether an
empty value counts as none. -/
def readOperator (c : Option Char) : Reading (Operator × Bool) := do
  match c with
  | some ':' => return ((operator? (← nextJoined)).getD .bad, true)
  | some '%' | some '#' =>
    let again ← nextJoined
    if again ≠ c then unread again
    let longest := again == c
    return (if c = some '%' then .dropEnd longest else .dropFront longest, false)
  | _ => return ((operator? c).getD .bad, false)

/-- The name of a parameter that begins with `c`, whether its length is asked for, and
the character behind it.  A name that is none is missing. -/
def readName (braced : Bool) (c : Option Char) : Reading (Option Octets × Bool × Option Char) := do
  let n ← size
  match c with
  | none => return (none, false, c)
  | some first =>
    if isNameStart first then
      let (name, after) ← nextWhile isNameChar n c
      return (some name, false, after)
    else if first.isDigit then
      let (name, after) ← nextWhile Char.isDigit (if braced then n else 1) c
      return (some name, false, after)
    else if first = '}' then return (none, false, c)
    else
      let second ← nextJoined
      if braced && first = '#' then
        if second.any isNameChar then
          let p := if second.any Char.isDigit then Char.isDigit else isNameChar
          let (name, after) ← nextWhile p n second
          return (some name, true, after)
        else
          let third ← nextJoined
          if second = some '}' ∨ third ≠ some '}' then
            unread third
            return (some ['#'], false, second)
          else
            return (if second.any isSign then some second.toList else none, second.any isSign, third)
      else return (if isSign first then some [first] else none, false, second)

/-- Begin a substitution of a parameter, whose name or brace is `c`. -/
def parameter (s : Scan) (c : Option Char) : Reading Scan := do
  let braced := c = some '{'
  let c ← if braced then nextJoined else pure c
  let (name, isLength, after) ← readName braced c
  let (op, orNull) ← match name, isLength with
    | none, _ =>
      unread after
      pure (Operator.bad, false)
    | some _, true =>
      unread after
      pure (if after = some '}' then Operator.length else Operator.bad, false)
    | some _, false =>
      if braced then readOperator after
      else
        unread after
        pure (Operator.value, false)
  if op = .value ∧ !orNull then return s.put (.parameter (name.getD []) .value false [])
  let mode := match op with
    | .dropEnd _ | .dropFront _ => Mode.plain
    | _ => if s.level.mode = .arithmetic then .double else s.level.mode
  let s := if mode ≠ s.level.mode ∨ s.level.inner then
      s.push { Level.ofMode mode with pushed := true, quoted := mode ≠ .plain }
    else s
  let level := { s.level with
    braces := s.level.braces + 1
    quotedBraces := s.level.quotedBraces + (if s.level.quoted then 1 else 0) }
  return { s with level := level }.openFrame (.parameter (name.getD []) op orNull)

/-- The text up to the closing backquote. -/
def backquoted (quoted : Bool) : Nat → Octets → Reading Octets
  | 0, _ => fail "EOF in backquote substitution"
  | n + 1, text => do
    match ← nextJoined with
    | none => fail "EOF in backquote substitution"
    | some '\\' =>
      let c ← next
      let isTaken := c.any fun c =>
        c == '\\' || c == backquote || c == '$' || (quoted && c == '"')
      backquoted quoted n (c.toList ++ (if isTaken then text else '\\' :: text))
    | some c =>
      if c = backquote then return text.reverse
      else
        if c = '\n' then newLine
        backquoted quoted n (c :: text)

/-- Read commands from a text of their own. -/
def within {α : Type} (commands : Reading α) (text : Octets) : Reading α := do
  let r ← get
  set { r with input := text, line := 1, announced := [], replacing := [], pushed := false,
               check := .none }
  let a ← commands
  modify fun inner => { inner with
    input := r.input
    line := r.line
    announced := r.announced
    replacing := r.replacing
    pushed := false }
  return a

/-- Whether a line of a document is its last.  `c` is its first character. -/
def isMark (a : Announced) (c : Option Char) (input : Octets) : Option Octets :=
  let line := c.toList ++ input
  if a.mark.isPrefixOf line then
    match line.drop a.mark.length with
    | [] => some []
    | '\n' :: rest => some rest
    | _ => none
  else none

/-- The first character of a line of a document, or nothing behind the last line. -/
def lineStart (here : Option Announced) (c : Option Char) : Reading (Option Char) := do
  match here with
  | none => return c
  | some a =>
    let c ← if a.stripped && c = some '\t' then do
        modify fun r => { r with input := r.input.dropWhile (· = '\t') }
        next
      else pure c
    let r ← get
    match isMark a c r.input with
    | some rest =>
      set { r with input := rest, line := r.line + 1 }
      return none
    | none => return c

/-- The commands of a substitution and the bracket behind them, or those in
backquotes. -/
structure Nested where
  commands : Reading (Option Command)
  bracketed : Reading (Option Command)

/-- Read what a dollar sign begins. -/
def dollar (nested : Nested) (s : Scan) : Reading Scan := do
  let c ← nextJoined
  let r ← get
  if r.check.mark || !(c.any fun c => c == '(' || c == '{' || isNameStart c || isSign c) then
    unread c
    return s.putChar '$' false
  else if c = some '(' then
    let c ← nextJoined
    if c = some '(' then
      return (s.push { Level.ofMode .arithmetic with quoted := true }).openFrame .arithmetic
    else
      unread c
      return s.put (.output (← nested.bracketed))
  else parameter s c

/-- Read on with a character.  Nothing is left to be read behind the end of a word. -/
def step (nested : Nested) (isDocument : Bool) (s : Scan) (c : Char) :
    Reading (Option Scan) := do
  match s.level.mode with
  | .single =>
    if c = '\'' && !isDocument then quotation
    else return some (s.putChar c (!isDocument))
  | .double =>
    if c = '\\' then return some (← escape s isDocument)
    else if c = '"' then
      if isDocument && s.level.braces == 0 then return some (s.putChar c false) else quotation
    else if c = backquote then commands
    else if c = '$' then return some (← dollar nested s)
    else if c = '}' then return some (brace c)
    else return some (s.putChar c true)
  | .arithmetic =>
    if c = '\\' then return some (← escape s isDocument)
    else if c = backquote then commands
    else if c = '$' then return some (← dollar nested s)
    else if c = '}' then return some (brace c)
    else if c = '(' then
      return some ({ s with level := { s.level with brackets := s.level.brackets + 1 } }.putChar c
        false)
    else if c = ')' then
      if 0 < s.level.brackets then
        return some ({ s with level := { s.level with brackets := s.level.brackets - 1 } }.putChar c
          false)
      else
        let after ← nextJoined
        if after = some ')' then return some s.closeFrame.pop
        else
          unread after
          return some (s.putChar ')' false)
    else return some (s.putChar c false)
  | .plain =>
    if c = '\\' then return some (← escape s isDocument)
    else if c = '\'' then
      return some ({ s with level := { s.level with mode := .single } }.mark isDocument)
    else if c = '"' then
      let s := { s with level := { s.level with mode := .double, quoted := true } }
      return some (s.toggle.mark isDocument)
    else if c = backquote then commands
    else if c = '$' then return some (← dollar nested s)
    else if c = '}' then return some (brace c)
    else if endsWord c && s.level.braces == 0 then return none
    else return some (s.putChar c false)
where
  /-- End a quotation. -/
  quotation : Reading (Option Scan) :=
    let level := if s.level.quotedBraces = 0 then { s.level with mode := .plain, quoted := false }
      else s.level
    let s := { s with level := level, quoted := true }
    return some ((if c = '"' then s.toggle else s).mark isDocument)
  /-- A closing brace ends a substitution if one is open. -/
  brace (c : Char) : Scan :=
    if !s.level.inner && 0 < s.level.braces then
      let level := { s.level with braces := s.level.braces - 1 }
      let s := { s with level := level }.closeFrame
      if level.braces = 0 && level.pushed then s.pop
      else { s with level := { level with quotedBraces := level.quotedBraces - 1 } }
    else s.putChar c false
  /-- Commands in backquotes. -/
  commands : Reading (Option Scan) := do
    let r ← get
    if r.check.mark then return some (s.putChar backquote false)
    else
      let text ← backquoted s.level.quoted (← size) []
      return some (s.put (.output (← within nested.commands text)))

/-- Read a word from the character `c` on.  The character behind it is returned. -/
def scan (nested : Nested) (here : Option Announced) : Nat → Option Char → Scan →
    Reading (Option Char × Scan)
  | 0, c, s => return (c, s)
  | n + 1, c, s => do
    match c with
    | none => return (none, s)
    | some '\n' =>
      if s.level.mode = .plain && s.level.braces == 0 then return (c, s)
      else
        newLine
        let after ← if s.level.mode = .single then next else nextJoined
        scan nested here n (← lineStart here after) (s.putChar '\n' (s.level.mode != .arithmetic))
    | some c =>
      match ← step nested here.isSome s c with
      | none => return (some c, s)
      | some s =>
        let after ← if s.level.mode = .single then next else nextJoined
        scan nested here n after s

/-- Check that everything in a word is closed. -/
def finish (isDocument : Bool) (s : Scan) : Reading Unit := do
  if s.level.mode = .arithmetic then fail "Missing '))'"
  else if s.level.mode ≠ .plain ∧ !isDocument then fail "Unterminated quoted string"
  else if 0 < s.level.braces then fail "Missing '\x7d'"

/-- The redirection that a sign begins, behind the descriptor of it. -/
def readRedirection (sign : Char) (digit : Option Char) : Reading Unit := do
  let fd := (digit.map fun c => c.toNat - 48).getD (if sign = '>' then 1 else 0)
  let c ← nextJoined
  let redirection ← match sign, c with
    | '>', some '>' => pure (Redirection.file fd .append [])
    | '>', some '|' => pure (.file fd .overwrite [])
    | '>', some '&' => pure (.duplicate fd [])
    | '>', _ =>
      unread c
      pure (.file fd .write [])
    | _, some '<' => do
      let c ← nextJoined
      if c ≠ some '-' then unread c
      let r ← get
      let a : Announced := ⟨r.nextDocument, [], c == some '-', false⟩
      set { r with nextDocument := r.nextDocument + 1, announced := r.announced ++ [a] }
      pure (.document fd r.nextDocument)
    | _, some '&' => pure (.duplicate fd [])
    | _, some '>' => pure (.file fd .readWrite [])
    | _, _ =>
      unread c
      pure (.file fd .read [])
  modify fun r => { r with redirection }

/-- Read a word or a redirection. -/
def readWord (nested : Nested) (c : Char) : Reading Token := do
  let (after, s) ← scan nested none (← size) (some c) (.start (.ofMode .plain))
  finish false s
  let word := s.parts.reverse
  let digit := match word with
    | [] => some none
    | [.char d false] => if d.isDigit then some (some d) else none
    | _ => none
  match after, digit with
  | some sign, some digit =>
    if (sign = '<' ∨ sign = '>') ∧ !s.quoted then
      readRedirection sign digit
      return .redirection
  | _, _ => pure ()
  unread after
  modify fun r => { r with word, quoted := s.quoted }
  return .word

/-! ## Tokens -/

def isBlank (c : Char) : Bool := c == ' ' || c == '\t'

/-- Drop blanks and a comment. -/
def dropBlanks (line : Nat) : Octets → Octets × Nat
  | '\\' :: '\n' :: rest => dropBlanks (line + 1) rest
  | ' ' :: rest => dropBlanks line rest
  | '\t' :: rest => dropBlanks line rest
  | '#' :: rest => (rest.dropWhile (· ≠ '\n'), line)
  | cs => (cs, line)

/-- The token after another, or the one before, by whether a sign is doubled. -/
def doubled (sign : Char) (two one : Token) : Reading Token := do
  let c ← nextJoined
  if c = some sign then return two
  else
    unread c
    return one

/-- The next token, without a look at what words mean. -/
def rawToken (nested : Nested) : Reading Token := do
  let r ← get
  if r.pushed then
    set { r with pushed := false }
    return r.last
  else
    let (input, line) := dropBlanks r.line r.input
    set { r with input, line }
    let token ← match ← nextJoined with
      | none => pure Token.endOfFile
      | some '\n' =>
        newLine
        pure .newline
      | some '&' => doubled '&' .both .ampersand
      | some '|' => doubled '|' .either .bar
      | some ';' => doubled ';' .endOfClause .semicolon
      | some '(' => pure .opening
      | some ')' => pure .closing
      | some c => readWord nested c
    modify fun r => { r with last := token }
    return token

/-- Read the documents that were announced. -/
def readDocuments (nested : Nested) : Reading Unit := do
  let r ← get
  set { r with announced := [] }
  r.announced.forM fun a => do
    let level := if a.expanded then { Level.ofMode .double with quoted := true }
      else Level.ofMode .single
    let n ← size
    let first ← lineStart (some a) (← if a.expanded then nextJoined else next)
    let (_, s) ← scan nested (some a) n first (.start level)
    finish true s
    modify fun r => { r with documents := r.documents ++ [(a.number, s.parts.reverse)] }

/-- Pass over line ends. -/
def passNewlines (nested : Nested) : Nat → Token → Reading Token
  | 0, t => return t
  | n + 1, t =>
    if t = .newline then do
      readDocuments nested
      passNewlines nested n (← rawToken nested)
    else return t

/-- Forget aliases once something is read behind their texts. -/
def settleAliases : Reading Unit := do
  let r ← get
  let n := r.input.length
  let continues := r.replacing.any fun a => n ≤ a.left && a.continues
  let replacing := (r.replacing.filter fun a => a.left ≤ n).map fun a =>
    if n = a.left then { a with continues := false } else a
  set { r with replacing, check := { r.check with aliases := r.check.aliases || continues } }

/-- The next token, with keywords and aliases looked up as asked for. -/
def readToken (nested : Nested) : Nat → Check → Reading Token
  | 0, _ => return (← get).last
  | n + 1, check => do
    let t ← rawToken nested
    let t ← if check.newlines then passNewlines nested (← size) t else pure t
    settleAliases
    let r ← get
    let check := { check with aliases := check.aliases || r.check.aliases }
    set { r with check := .none }
    match t, plainText? r.word with
    | .word, some text =>
      if r.quoted then return t
      else
        match if check.keywords then Token.keywords.find? fun k => k.toList == text else none with
        | some k =>
          modify fun r => { r with last := .keyword k }
          return .keyword k
        | none =>
          let isFree := r.replacing.all fun a => a.name != text
          match if check.aliases && isFree then r.aliases.find? (·.1 == text) else none with
          | some (name, value) =>
            modify fun r => { r with
              input := value ++ r.input
              replacing := (⟨name, r.input.length, value.getLast?.any isBlank⟩ : Replacing) ::
                r.replacing }
            readToken nested n check
          | none => return t
    | _, _ => return t

/-- The next token, by what was asked for before. -/
def token (nested : Nested) : Reading Token := do
  let r ← get
  readToken nested ((← size) * (r.aliases.length + 2)) r.check

/-- Ask what the next token is checked for. -/
def look (check : Check) : Reading Unit :=
  modify fun r => { r with check }

/-- Have the last token read again. -/
def again : Reading Unit :=
  modify fun r => { r with pushed := true }

end Reading

end Interchain.Shell
