/-!
# Reading characters

A reader takes what it understands from the front of a text and leaves the rest,
or fails.  Repetition is `Reader.loop`, whose bound is the length of the text:
a step that takes nothing would repeat forever and is made to fail instead.
-/

namespace ReliableDatagram.Toml

/-- A function that reads an `α` from the front of a text. -/
abbrev Reader (α : Type) : Type := StateT (List Char) Option α

namespace Reader

variable {α σ : Type}

/-- The next character, which is not taken. -/
def peek : Reader (Option Char) := fun text => some (text.head?, text)

/-- Take one character of the given kind. -/
def charOf (kind : Char → Bool) : Reader Char := fun text =>
  match text with
  | char :: rest => if kind char then some (char, rest) else none
  | [] => none

/-- Take the given character. -/
def char (expected : Char) : Reader Unit := do
  let _ ← charOf (· == expected)

/-- Take the given character if it is next, and tell whether it was. -/
def accept (expected : Char) : Reader Bool := fun text =>
  match text with
  | char :: rest => some (if char = expected then (true, rest) else (false, text))
  | [] => some (false, [])

/-- Take the given characters if they are next, and tell whether they were. -/
def acceptAll (expected : List Char) : Reader Bool := fun text =>
  some (if expected.isPrefixOf text then (true, text.drop expected.length) else (false, text))

/-- Take characters as long as they are of the given kind. -/
def takeWhile (kind : Char → Bool) : Reader (List Char) := fun text =>
  some (text.takeWhile kind, text.dropWhile kind)

/-- Succeed at the end of the text only. -/
def finish : Reader Unit := fun text => if text.isEmpty then some ((), []) else none

/-- Repeat a step at most `bound` times, from state to state, until it answers. -/
def loopWithin (step : σ → Reader (σ ⊕ α)) : (bound : Nat) → σ → Reader α
  | 0, _ => failure
  | bound + 1, state => do
      match ← step state with
      | .inl state => loopWithin step bound state
      | .inr answer => pure answer

/-- Repeat a step, from state to state, until it answers.  Every step but the
last has to take a character. -/
def loop (step : σ → Reader (σ ⊕ α)) (state : σ) : Reader α := fun text =>
  loopWithin step (text.length + 1) state text

/-- Read the whole of a text. -/
def readAll (reader : Reader α) (text : List Char) : Option α :=
  match reader text with
  | some (value, []) => some value
  | _ => none

/-! ## Gaps -/

/-- Space and tab. -/
def isBlankChar (char : Char) : Bool := char == ' ' || char == '\t'

/-- What may stand in a comment or a text of one line: everything but the control
characters, and the tab among these. -/
def isTextChar (char : Char) : Bool :=
  char == '\t' || (0x20 ≤ char.toNat && char.toNat != 0x7f)

/-- Take spaces and tabs. -/
def blanks : Reader Unit := do
  let _ ← takeWhile isBlankChar

/-- Take the end of a line, which is a line feed with or without a carriage
return before it. -/
def newline : Reader Unit := do
  if ← accept '\r' then char '\n' else char '\n'

/-- Take a comment if one starts here.  It ends before the end of the line. -/
def comment : Reader Unit := do
  if ← accept '#' then
    let _ ← takeWhile isTextChar

/-- Take what may follow an expression on its line, and the end of the line. -/
def restOfLine : Reader Unit := do
  blanks
  comment
  match ← peek with
  | none => pure ()
  | some _ => newline

/-- The rest of a text after blanks, ends of lines and comments. -/
def afterGap (inComment : Bool) : List Char → List Char
  | [] => []
  | char :: rest =>
      if char = '\n' then afterGap false rest
      else if char = '\r' ∧ rest.head? = some '\n' then afterGap false rest
      else if inComment then
        if isTextChar char then afterGap true rest else char :: rest
      else if isBlankChar char then afterGap false rest
      else if char = '#' then afterGap true rest
      else char :: rest

/-- Take blanks, ends of lines and comments. -/
def gap : Reader Unit := fun text => some ((), afterGap false text)

end Reader

end ReliableDatagram.Toml
