import ReliableDatagram.Toml.Value

/-!
# Numbers

The written forms of integers and of floating-point numbers.

Digits may be set apart by single underscores, each of them between two digits.
A decimal integer starts with no zero unless it is zero; `0x`, `0o` and `0b`
start an integer to another base, which has no sign.  A floating-point number has
a fraction or an exponent, or both, with digits on both sides of the point.

What is written like an integer need not spell one: `isIntegerLike` looks at the
underscores and the digits in front of them, and `integer?` at all characters.
-/

namespace ReliableDatagram.Toml.Number

/-- The digits of a group with its underscores taken out, if these stand between
digits. -/
def ungroup (isDigit : Char → Bool) : List Char → Option (List Char)
  | [] => none
  | [char] => if isDigit char then some [char] else none
  | char :: '_' :: rest => if isDigit char then (ungroup isDigit rest).map (char :: ·) else none
  | char :: rest => if isDigit char then (ungroup isDigit rest).map (char :: ·) else none

/-- The value of a digit, of whatever base. -/
def digitValue (char : Char) : Nat :=
  if char.isDigit then char.toNat - 0x30 else char.toLower.toNat - 0x61 + 10

/-- Whether a character is a digit to a base of at most 16. -/
def isDigitOf (base : Nat) (char : Char) : Bool :=
  (char.isDigit || ('a' ≤ char.toLower && char.toLower ≤ 'f')) && digitValue char < base

/-- The number that digits spell. -/
def ofDigits (base : Nat) (digits : List Char) : Nat :=
  digits.foldl (fun value digit => value * base + digitValue digit) 0

/-- The number that grouped digits spell. -/
def natural? (base : Nat) (chars : List Char) : Option Nat :=
  (ungroup (isDigitOf base) chars).map (ofDigits base)

/-- Whether there are several digits and the first is a zero. -/
def hasLeadingZero : List Char → Bool
  | '0' :: _ :: _ => true
  | _ => false

/-- Whether the sign in front of a number is a minus, and the rest. -/
def splitSign : List Char → Bool × List Char
  | '-' :: rest => (true, rest)
  | '+' :: rest => (false, rest)
  | chars => (false, chars)

/-! ## Integers -/

/-- The integer that the characters spell. -/
def integer? (chars : List Char) : Option Int :=
  match chars with
  | '0' :: 'x' :: digits => (natural? 16 digits).map Int.ofNat
  | '0' :: 'o' :: digits => (natural? 8 digits).map Int.ofNat
  | '0' :: 'b' :: digits => (natural? 2 digits).map Int.ofNat
  | _ =>
      let (negative, digits) := splitSign chars
      if hasLeadingZero digits then none
      else
        (natural? 10 digits).map fun value =>
          if negative then -Int.ofNat value else Int.ofNat value

/-- Whether every underscore stands between two digits to base 16. -/
def areGroups : List Char → Bool
  | [] => true
  | [char] => char != '_'
  | char :: next :: rest =>
      (char != '_' || isDigitOf 16 next) && (next != '_' || isDigitOf 16 char) &&
        areGroups (next :: rest)

/-- Whether characters are written like digits to a base: they are grouped digits,
or there are none. -/
def isRadixLike (base : Nat) (digits : List Char) : Bool :=
  digits.isEmpty || (ungroup (isDigitOf base) digits).isSome

/-- The characters that no integer contains, however it is misspelt. -/
def nonIntegerMarks : List Char := ['.', 'e', 'E', ' ']

/-- Whether characters without a sign are written like decimal digits: they are all
digits, or an underscore ends the digits in front and what follows has neither
point, exponent nor space. -/
def isDecimalLike (digits : List Char) : Bool :=
  match digits.dropWhile Char.isDigit with
  | [] => !digits.isEmpty
  | mark :: rest =>
      digits.head?.any Char.isDigit && mark == '_' &&
        rest.all (fun char => !nonIntegerMarks.contains char) && areGroups digits

/-- Whether characters are written like an integer. -/
def isIntegerLike (chars : List Char) : Bool :=
  match chars with
  | '0' :: 'x' :: digits => isRadixLike 16 digits
  | '0' :: 'o' :: digits => isRadixLike 8 digits
  | '0' :: 'b' :: digits => isRadixLike 2 digits
  | _ =>
      let (_, digits) := splitSign chars
      !hasLeadingZero digits && isDecimalLike digits

/-! ## Floating-point numbers -/

/-- Whether a character is a decimal digit or an underscore. -/
def isGrouped (char : Char) : Bool := char.isDigit || char == '_'

/-- The digits after a point, if there is a point, and the rest. -/
def splitFraction : List Char → Option (List Char × List Char)
  | '.' :: rest =>
      (ungroup Char.isDigit (rest.takeWhile isGrouped)).map fun digits =>
        (digits, rest.dropWhile isGrouped)
  | chars => some ([], chars)

/-- The exponent that the characters spell, which is zero when there are none. -/
def exponent? : List Char → Option Int
  | [] => some 0
  | mark :: rest =>
      if mark = 'e' ∨ mark = 'E' then
        let (negative, digits) := splitSign rest
        (natural? 10 digits).map fun value => if negative then -value else value
      else none

/-- The finite floating-point number that unsigned characters spell. -/
def finite? (negative : Bool) (chars : List Char) : Option FloatLiteral := do
  let whole := chars.takeWhile isGrouped
  let rest := chars.dropWhile isGrouped
  if hasLeadingZero whole || rest.isEmpty then none
  else do
    let wholeDigits ← ungroup Char.isDigit whole
    let (fraction, rest) ← splitFraction rest
    let exponent ← exponent? rest
    some (.finite negative (ofDigits 10 (wholeDigits ++ fraction)) (exponent - fraction.length))

/-- The floating-point number that the characters spell. -/
def float? (chars : List Char) : Option FloatLiteral :=
  let (negative, rest) := splitSign chars
  if rest = ['i', 'n', 'f'] then some (.infinite negative)
  else if rest = ['n', 'a', 'n'] then some .notANumber
  else finite? negative rest

end ReliableDatagram.Toml.Number
