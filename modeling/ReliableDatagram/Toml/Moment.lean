import ReliableDatagram.Toml.Reader
import ReliableDatagram.Toml.Value

/-!
# Dates and times

A day is written as year, month and day, a time of the day as hour, minute and
possibly second with a fraction.  Both may stand together, parted by a `T` or a
blank, and then the distance to universal time may follow.
-/

namespace ReliableDatagram.Toml

namespace Reader

/-- Take a number of exactly so many decimal digits. -/
def decimal (digits : Nat) : Reader Nat := do
  let chars ← (List.replicate digits ()).mapM fun () => charOf Char.isDigit
  pure (chars.foldl (fun value char => value * 10 + (char.toNat - 0x30)) 0)

/-- Take a number of two digits that is at most `bound`. -/
def twoDigits (bound : Nat) : Reader Nat := do
  let value ← decimal 2
  if value ≤ bound then pure value else failure

end Reader

namespace Date

/-- Whether a year has a leap day. -/
def isLeap (year : Nat) : Bool := year % 4 == 0 && (year % 100 != 0 || year % 400 == 0)

/-- The number of days of a month. -/
def daysIn (year month : Nat) : Nat :=
  if month = 2 then if isLeap year then 29 else 28
  else if month = 4 ∨ month = 6 ∨ month = 9 ∨ month = 11 then 30
  else 31

/-- Take a day. -/
def read : Reader Date := do
  let year ← Reader.decimal 4
  Reader.char '-'
  let month ← Reader.twoDigits 12
  Reader.char '-'
  let day ← Reader.twoDigits (daysIn year month)
  if month = 0 ∨ day = 0 then failure else pure ⟨year, month, day⟩

end Date

namespace TimeOfDay

/-- Take the fraction of a second, if there is one. -/
def readFraction : Reader (List Char) := do
  if ← Reader.accept '.' then
    let first ← Reader.charOf Char.isDigit
    return first :: (← Reader.takeWhile Char.isDigit)
  else pure []

/-- Take a time.  Seconds may be left out, and a second may be a leap second. -/
def read : Reader TimeOfDay := do
  let hour ← Reader.twoDigits 23
  Reader.char ':'
  let minute ← Reader.twoDigits 59
  if ← Reader.accept ':' then
    let second ← Reader.twoDigits 60
    return ⟨hour, minute, second, ← readFraction⟩
  else pure ⟨hour, minute, 0, []⟩

end TimeOfDay

namespace Offset

/-- Take the distance to universal time. -/
def read : Reader Offset := do
  let sign ← Reader.charOf fun char => char ∈ ['Z', 'z', '+', '-']
  if sign = 'Z' ∨ sign = 'z' then pure universal
  else
    let hours ← Reader.twoDigits 23
    Reader.char ':'
    let minutes ← Reader.twoDigits 59
    let ahead : Int := hours * 60 + minutes
    pure (.minutes (if sign = '-' then -ahead else ahead))

end Offset

namespace Moment

/-- Whether a character parts a day from a time. -/
def isSeparator (char : Char) : Bool := char == 'T' || char == 't' || char == ' '

/-- Take what follows a day. -/
def readAfter (day : Date) : Reader Moment := do
  match ← Reader.peek with
  | none => pure (.date day)
  | some _ =>
      let _ ← Reader.charOf isSeparator
      let clock ← TimeOfDay.read
      match ← Reader.peek with
      | none => pure (.unzoned day clock)
      | some _ => return .zoned day clock (← Offset.read)

/-- The moment that the characters spell. -/
def ofChars? (chars : List Char) : Option Moment :=
  match Date.read chars with
  | some (day, rest) => Reader.readAll (readAfter day) rest
  | none => (Reader.readAll TimeOfDay.read chars).map .time

end Moment

end ReliableDatagram.Toml
