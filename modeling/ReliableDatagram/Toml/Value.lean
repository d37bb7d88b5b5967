/-!
# TOML values

The values of a TOML document.  A table remembers how it came about, because
that decides what may still be added to it.
-/

namespace ReliableDatagram.Toml

/-- A number with a fraction or an exponent, as it is written. -/
inductive FloatLiteral where
  /-- The number `digits * 10 ^ exponent`, possibly negated. -/
  | finite (negative : Bool) (digits : Nat) (exponent : Int)
  /-- An infinity. -/
  | infinite (negative : Bool)
  /-- What is no number. -/
  | notANumber
  deriving DecidableEq, Repr

/-- A day of the calendar. -/
structure Date where
  year : Nat
  month : Nat
  day : Nat
  deriving DecidableEq, Repr

/-- A time of the day.  A minute that is given alone stands for its start. -/
structure TimeOfDay where
  hour : Nat
  minute : Nat
  second : Nat
  /-- The digits of the fraction of the second. -/
  fraction : List Char
  deriving DecidableEq, Repr

/-- How far local time is ahead of universal time. -/
inductive Offset where
  | universal
  | minutes (ahead : Int)
  deriving DecidableEq, Repr

/-- A point in time, or as much of one as is given. -/
inductive Moment where
  | date (date : Date)
  | time (time : TimeOfDay)
  | unzoned (date : Date) (time : TimeOfDay)
  | zoned (date : Date) (time : TimeOfDay) (offset : Offset)
  deriving DecidableEq, Repr

/-- How a table came about. -/
inductive Origin where
  /-- It has a header of its own, or is the document. -/
  | header
  /-- It is mentioned in the header of another table. -/
  | implied
  /-- It is mentioned in a dotted key. -/
  | dotted
  /-- It is written in braces. -/
  | braces
  deriving DecidableEq, Repr

/-- A value. -/
inductive Value where
  | string (text : String)
  | integer (value : Int)
  /-- What is written like an integer and spells none.  It does no harm where
  nobody reads it. -/
  | misspelt
  | float (literal : FloatLiteral)
  | boolean (value : Bool)
  | moment (moment : Moment)
  /-- An array written in brackets. -/
  | array (items : List Value)
  /-- An array whose items are tables with headers of their own. -/
  | tables (items : List Value)
  | table (origin : Origin) (entries : List (String × Value))
  deriving Inhabited, Repr

/-- The contents of a table: its keys, each with a value. -/
abbrev Entries : Type := List (String × Value)

namespace FloatLiteral

/-- The least number that binary64 rounds to infinity. -/
def overflowBound : Nat := (1 <<< 1024) - (1 <<< 970)

/-- Whether a finite literal is too large for a binary64 number.  Where the
number of digits decides, the power is not computed. -/
def overflows : FloatLiteral → Bool
  | finite _ digits exponent =>
      let magnitude : Int := (toString digits).length + exponent
      if digits = 0 ∨ magnitude < 300 then false
      else if 320 < magnitude then true
      else overflowBound * Nat.pow 10 (-exponent).toNat ≤ digits * Nat.pow 10 exponent.toNat
  | infinite _ => false
  | notANumber => false

end FloatLiteral

namespace Value

/-- Whether an integer fits into 128 bits, signed or unsigned. -/
def integerFits (value : Int) : Bool :=
  -Int.ofNat (1 <<< 127) ≤ value && value < Int.ofNat (1 <<< 128)

mutual

/-- Whether every number in the value is one and fits its type. -/
def isReadable : Value → Bool
  | string _ => true
  | integer value => integerFits value
  | misspelt => false
  | float literal => !literal.overflows
  | boolean _ => true
  | moment _ => true
  | array items => areReadable items
  | tables items => areReadable items
  | table _ entries => entriesAreReadable entries

/-- Whether every value of the list is readable. -/
def areReadable : List Value → Bool
  | [] => true
  | item :: rest => item.isReadable && areReadable rest

/-- Whether every value of the entries is readable. -/
def entriesAreReadable : List (String × Value) → Bool
  | [] => true
  | (_, value) :: rest => value.isReadable && entriesAreReadable rest

end

end Value

namespace Entries

/-- The value under a key. -/
def find? (entries : Entries) (key : String) : Option Value :=
  (List.lookup key entries)

/-- Change what is under a key, or fail.  A new key goes to the end. -/
def alter (entries : Entries) (key : String)
    (change : Option Value → Option Value) : Option Entries :=
  match entries with
  | [] => (change none).map fun value => [(key, value)]
  | (name, value) :: rest =>
      if name = key then (change (some value)).map fun value => (name, value) :: rest
      else (alter rest key change).map ((name, value) :: ·)

end Entries

end ReliableDatagram.Toml
