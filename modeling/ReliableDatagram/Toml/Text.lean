import ReliableDatagram.Toml.Reader

/-!
# Quoted text

A text stands between quotes on one line, or between tripled quotes over several
lines.  With double quotes a backslash starts an escape; with single quotes
every character stands for itself.

In the tripled form a line end right after the opening quotes does not count, and
one or two quotes may stand anywhere, also right before the closing ones.
-/

namespace ReliableDatagram.Toml

namespace Reader

/-- The double quote. -/
def doubleQuote : Char := '"'

/-- The single quote. -/
def singleQuote : Char := Char.ofNat 0x27

/-- The backslash. -/
def backslash : Char := Char.ofNat 0x5c

/-! ## Escapes -/

/-- The value of a hexadecimal digit. -/
def hexDigit? (char : Char) : Option Nat :=
  if '0' ≤ char ∧ char ≤ '9' then some (char.toNat - 0x30)
  else if 'a' ≤ char ∧ char ≤ 'f' then some (char.toNat - 0x61 + 10)
  else if 'A' ≤ char ∧ char ≤ 'F' then some (char.toNat - 0x41 + 10)
  else none

/-- Take a number of exactly so many hexadecimal digits. -/
def hexNumber (digits : Nat) : Reader Nat := do
  let chars ← (List.replicate digits ()).mapM fun () => charOf fun char => (hexDigit? char).isSome
  pure (chars.foldl (fun value char => value * 16 + (hexDigit? char).getD 0) 0)

/-- Take the character that so many hexadecimal digits name.  Surrogates and
numbers beyond the last character name none. -/
def namedChar (digits : Nat) : Reader Char := do
  let code ← hexNumber digits
  if code.isValidChar then pure (Char.ofNat code) else failure

/-- The character that a letter after a backslash stands for. -/
def escapes : List (Char × Nat) :=
  [('b', 0x08), ('t', 0x09), ('n', 0x0a), ('f', 0x0c), ('r', 0x0d), ('e', 0x1b), ('"', 0x22),
    (backslash, 0x5c)]

/-- Take the rest of an escape, after its backslash. -/
def escape : Reader Char := do
  let letter ← charOf fun _ => true
  match List.lookup letter escapes with
  | some code => pure (Char.ofNat code)
  | none =>
      if letter = 'x' then namedChar 2
      else if letter = 'u' then namedChar 4
      else if letter = 'U' then namedChar 8
      else failure

/-! ## One line -/

/-- Take the rest of a text in double quotes, after the opening quote. -/
def basicText : Reader String :=
  loop (fun text => do
    let char ← charOf isTextChar
    if char = doubleQuote then pure (.inr text)
    else if char = backslash then return .inl (text.push (← escape))
    else pure (.inl (text.push char))) ""

/-- Take the rest of a text in single quotes, after the opening quote. -/
def literalText : Reader String :=
  loop (fun text => do
    let char ← charOf isTextChar
    if char = singleQuote then pure (.inr text)
    else pure (.inl (text.push char))) ""

/-! ## Several lines -/

/-- Take the quotes that stand here, and tell what they are: so many quotes of the
text, and whether the text is closed after them. -/
def quoteRun (quote : Char) : Reader (Nat × Bool) := do
  let run ← takeWhile (· == quote)
  let count := run.length
  if count < 3 then pure (count, false)
  else if count ≤ 5 then pure (count - 3, true)
  else failure

/-- Take a backslash's line end, and the blanks and line ends after it. -/
def joinedLines : Reader Unit := do
  blanks
  newline
  loop (fun () => do
    match ← peek with
    | some char =>
        if isBlankChar char then
          blanks
          pure (.inl ())
        else if char = '\n' ∨ char = '\r' then
          newline
          pure (.inl ())
        else pure (.inr ())
    | none => pure (.inr ())) ()

/-- Take what a backslash in a text of several lines starts: an escape, or the
joint between two lines, which stands for nothing. -/
def escapeOrJoint : Reader String := do
  match ← peek with
  | some char =>
      if isBlankChar char || char == '\n' || char == '\r' then
        joinedLines
        pure ""
      else return String.singleton (← escape)
  | none => failure

/-- Take the rest of a text in tripled quotes, after the opening ones. -/
def longText (quote : Char) : Reader String := do
  match ← peek with
  | some char => if char = '\n' ∨ char = '\r' then newline
  | none => failure
  loop (fun text => do
    match ← peek with
    | none => failure
    | some char =>
        if char = quote then
          let (quotes, closed) ← quoteRun quote
          let text := text.pushn quote quotes
          pure (if closed then .inr text else .inl text)
        else if char = '\n' ∨ char = '\r' then
          newline
          pure (.inl (text.push '\n'))
        else
          let char ← charOf isTextChar
          if char = backslash ∧ quote = doubleQuote then
            return .inl (text ++ (← escapeOrJoint))
          else pure (.inl (text.push char))) ""

/-- Take a text on one line, with its quotes. -/
def shortQuoted : Reader String := do
  if ← accept doubleQuote then basicText
  else
    char singleQuote
    literalText

/-- Take a text of any form, with its quotes. -/
def quoted : Reader String := do
  if ← acceptAll (List.replicate 3 doubleQuote) then longText doubleQuote
  else if ← acceptAll (List.replicate 3 singleQuote) then longText singleQuote
  else shortQuoted

end Reader

end ReliableDatagram.Toml
