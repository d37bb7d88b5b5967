import ReliableDatagram.Toml.Moment
import ReliableDatagram.Toml.Number
import ReliableDatagram.Toml.Table
import ReliableDatagram.Toml.Text

/-!
# Reading documents

The grammar of keys, values and lines.  `Entries.ofText?` reads a document and
answers `none` when it breaks the grammar or the rules for tables.

Line ends, comments and a last comma may stand inside brackets and inside braces,
and there also around the equals sign.  Values nest at most `Reader.nesting` deep,
and a key has at most so many parts.
-/

namespace ReliableDatagram.Toml

namespace Reader

/-- How deep values may nest, and how many parts a key may have. -/
def nesting : Nat := 80

/-! ## Keys -/

/-- Whether a character may stand in a key without quotes.  These are letters and
digits of ASCII, the underscore and the hyphen. -/
def isKeyChar (char : Char) : Bool := char.isAlphanum || char == '_' || char == '-'

/-- Take one part of a key. -/
def keyPart : Reader String := do
  match ← peek with
  | none => failure
  | some char =>
      if char = doubleQuote ∨ char = singleQuote then shortQuoted
      else
        let chars ← takeWhile isKeyChar
        if chars.isEmpty then failure else pure (String.ofList chars)

/-- Take a key with all its parts, and the blanks after it. -/
def key : Reader (List String) := do
  let first ← keyPart
  let parts ← loop (fun parts => do
    blanks
    if ← accept '.' then
      blanks
      return .inl (parts ++ [← keyPart])
    else pure (.inr parts)) [first]
  if parts.length ≤ nesting then pure parts else failure

/-! ## Values -/

/-- The characters that end a word of a value without quotes. -/
def wordEnds : List Char :=
  ['=', ',', '[', ']', '\x7b', '\x7d', '#', ' ', '\t', '\r', '\n']

/-- Whether a character may stand in a word of a value without quotes. -/
def isWordChar (char : Char) : Bool := !wordEnds.contains char

/-- Whether a character starts a word after blanks. -/
def startsWord (char : Char) : Bool :=
  isWordChar char && char != '.' && char != doubleQuote && char != singleQuote

/-- The value that characters without quotes spell. -/
def scalar? (chars : List Char) : Option Value :=
  if chars = ['t', 'r', 'u', 'e'] then some (.boolean true)
  else if chars = ['f', 'a', 'l', 's', 'e'] then some (.boolean false)
  else if Number.isIntegerLike chars then
    some (((Number.integer? chars).map Value.integer).getD .misspelt)
  else
    ((Number.float? chars).map Value.float).or ((Moment.ofChars? chars).map Value.moment)

/-- Take the blanks and the word after them, if a word comes next. -/
def nextWord : Reader (List Char) := fun text =>
  let after := text.dropWhile isBlankChar
  some (match after.head? with
  | some char =>
      if text.head?.any isBlankChar && startsWord char then
        (text.takeWhile isBlankChar ++ after.takeWhile isWordChar, after.dropWhile isWordChar)
      else ([], text)
  | none => ([], text))

/-- Take the characters of a value without quotes.  Words that only blanks part
belong together, as a day and the time after it do. -/
def scalarChars : Reader (List Char) := do
  let first ← takeWhile isWordChar
  loop (fun words => do
    let word ← nextWord
    pure (if word.isEmpty then .inr words else .inl (words ++ word))) first

/-- Take a value that holds no other. -/
def scalar : Reader Value := do
  match ← peek with
  | none => failure
  | some char =>
      if char = doubleQuote ∨ char = singleQuote then return .string (← quoted)
      else
        match scalar? (← scalarChars) with
        | some value => pure value
        | none => failure

/-- Take a list up to its closing mark, with commas between the items. -/
def listUntil {α σ : Type} (closing : Char) (item : σ → Reader σ) (finish : σ → α)
    (start : σ) : Reader α :=
  loop (fun state => do
    gap
    if ← accept closing then pure (.inr (finish state))
    else
      let state ← item state
      gap
      if ← accept ',' then pure (.inl state)
      else
        char closing
        pure (.inr (finish state))) start

/-- Take a key and its value, with the given space around the equals sign. -/
def keyValue (space : Reader Unit) (value : Reader Value) : Reader (List String × Value) := do
  let path ← key
  space
  char '='
  space
  return (path, ← value)

/-- Take the rest of an array, after its opening bracket. -/
def array (value : Reader Value) : Reader Value :=
  listUntil ']' (fun (items : Array Value) => return items.push (← value))
    (fun items => .array items.toList) #[]

/-- Take the rest of a table in braces, after the opening one. -/
def inlineTable (value : Reader Value) : Reader Value :=
  listUntil '\x7d'
    (fun (entries : Entries) => do
      let (path, value) ← keyValue gap value
      match entries.assign path value .braces with
      | some entries => pure entries
      | none => failure)
    (.table .braces) []

/-- Take a value that nests at most so deep. -/
def value : (depth : Nat) → Reader Value
  | 0 => scalar
  | depth + 1 => do
      if ← accept '[' then array (value depth)
      else if ← accept '\x7b' then inlineTable (value depth)
      else scalar

/-! ## Lines -/

/-- Take the rest of a header, after its first bracket. -/
def header : Reader Statement := do
  let isItem ← accept '['
  blanks
  let path ← key
  char ']'
  if isItem then
    char ']'
    pure (.item path)
  else pure (.table path)

/-- Take an expression, if the line holds one. -/
def expression : Reader (Option Statement) := do
  match ← peek with
  | none => pure none
  | some char =>
      if char = '#' ∨ char = '\n' ∨ char = '\r' then pure none
      else if ← accept '[' then return some (← header)
      else
        let (path, value) ← keyValue blanks (value nesting)
        pure (some (.assign path value))

/-- Take all lines. -/
def statements : Reader (List Statement) :=
  loop (fun (statements : Array Statement) => do
    blanks
    match ← peek with
    | none => pure (.inr statements.toList)
    | some _ =>
        let statement ← expression
        restOfLine
        match statement with
        | some statement => pure (.inl (statements.push statement))
        | none => pure (.inl statements)) #[]

end Reader

/-- The mark that may stand in front of a text to tell its encoding. -/
def byteOrderMark : Char := '\ufeff'

/-- What a document says, if it is one. -/
def Entries.ofText? (text : String) : Option Entries := do
  let chars :=
    match text.toList with
    | char :: rest => if char = byteOrderMark then rest else char :: rest
    | [] => []
  Document.ofStatements (← Reader.readAll Reader.statements chars)

end ReliableDatagram.Toml
