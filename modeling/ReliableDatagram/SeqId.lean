/-!
# Sequence ids

Items and transmissions are named by 16-bit identifiers that wrap around.  Two
identifiers are ordered by forward distance and not by numeric value: `a` is
before `b` when fewer than `2 ^ 15` steps lead from `a` to `b`.  Identifiers
exactly half the space apart have no order, so `SeqId.compare` answers `none`
for them.

The order is not transitive across the whole space, and no `Ord` instance is
given.  `SeqId.compareRaw` is the numeric order; sorted containers use it and
nothing else does.

The main facts are that `advance` and `distanceTo` invert one another
(`advance_distanceTo`, `distanceTo_advance`).
-/

namespace ReliableDatagram

/-- A wrapping 16-bit identifier. -/
structure SeqId where
  /-- The identifier as a machine word. -/
  raw : UInt16
  deriving DecidableEq, Repr, Hashable, Inhabited

namespace SeqId

/-- The number of distinct identifiers. -/
def space : Nat := 65536

/-- Half of `space`.  Identifiers this far apart are unordered. -/
def halfSpace : Nat := 32768

/-- The identifier that a natural number names, modulo `space`. -/
def ofNat (value : Nat) : SeqId := ⟨UInt16.ofNat value⟩

/-- The identifier as a number below `space`. -/
def toNat (id : SeqId) : Nat := id.raw.toNat

/-- The identifier `steps` places after this one. -/
def advance (id : SeqId) (steps : Nat) : SeqId := ⟨id.raw + UInt16.ofNat steps⟩

/-- The identifier `steps` places before this one. -/
def retreat (id : SeqId) (steps : Nat) : SeqId := ⟨id.raw - UInt16.ofNat steps⟩

/-- The identifier right after this one. -/
def next (id : SeqId) : SeqId := id.advance 1

/-- The identifier right before this one. -/
def previous (id : SeqId) : SeqId := id.retreat 1

/-- The number of forward steps that lead from `start` to `target`, below
`space`. -/
def distanceTo (start target : SeqId) : Nat := (target.raw - start.raw).toNat

/-- The signed difference `newer - older`, positive when `newer` is newer.  At
exactly half the space, where the sign is ambiguous, it is `-2 ^ 15`. -/
def diff (newer older : SeqId) : Int :=
  Int.bmod ((newer.toNat : Int) - older.toNat) space

/-- How `left` stands to `right` in the wrapping order, or `none` when they are
half the space apart. -/
def compare (left right : SeqId) : Option Ordering :=
  let ahead := right.distanceTo left
  if ahead = 0 then some .eq
  else if ahead < halfSpace then some .gt
  else if ahead = halfSpace then none
  else some .lt

/-- Whether `left` comes strictly before `right`. -/
def isBefore (left right : SeqId) : Bool := left.compare right == some .lt

/-- Whether `left` comes strictly after `right`. -/
def isAfter (left right : SeqId) : Bool := left.compare right == some .gt

/-- Whether `left` is `right` or comes before it. -/
def isAtOrBefore (left right : SeqId) : Bool :=
  left.compare right == some .lt || left.compare right == some .eq

/-- The newer of two identifiers.  Where neither is newer the first is kept. -/
def newest (left right : SeqId) : SeqId := if right.isAfter left then right else left

/-- The identifier in decimal. -/
def decimal (id : SeqId) : String := toString id.toNat

/-- The decimal text, filled on the left with `fill` up to `width` characters. -/
def alignRight (id : SeqId) (fill : Char) (width : Nat) : String :=
  "".pushn fill (width - id.decimal.length) ++ id.decimal

/-- The decimal text, filled on the right with `fill` up to `width` characters. -/
def alignLeft (id : SeqId) (fill : Char) (width : Nat) : String :=
  id.decimal.pushn fill (width - id.decimal.length)

instance : ToString SeqId := ⟨decimal⟩

/-! ## Arithmetic -/

theorem toNat_lt (id : SeqId) : id.toNat < space := id.raw.toNat_lt

theorem ext_toNat {left right : SeqId} (equal : left.toNat = right.toNat) :
    left = right := by
  cases left
  cases right
  simpa [toNat, UInt16.toNat_inj] using equal

@[simp] theorem toNat_ofNat (value : Nat) : (ofNat value).toNat = value % space := by
  simp [ofNat, toNat, space]

@[simp] theorem ofNat_toNat (id : SeqId) : ofNat id.toNat = id := by
  cases id
  simp [ofNat, toNat]

theorem toNat_advance (id : SeqId) (steps : Nat) :
    (id.advance steps).toNat = (id.toNat + steps) % space := by
  simp [advance, toNat, space]

theorem toNat_retreat (id : SeqId) (steps : Nat) :
    (id.retreat steps).toNat = (id.toNat + (space - steps % space)) % space := by
  simp only [retreat, toNat, space, UInt16.toNat_sub, UInt16.toNat_ofNat']
  omega

theorem distanceTo_eq (start target : SeqId) :
    start.distanceTo target = (target.toNat + (space - start.toNat)) % space := by
  simp only [distanceTo, toNat, space, UInt16.toNat_sub]
  omega

theorem distanceTo_lt (start target : SeqId) : start.distanceTo target < space :=
  (target.raw - start.raw).toNat_lt

@[simp] theorem distanceTo_self (id : SeqId) : id.distanceTo id = 0 := by
  simp [distanceTo]

/-- Walking the distance to `target` arrives there. -/
@[simp] theorem advance_distanceTo (start target : SeqId) :
    start.advance (start.distanceTo target) = target := by
  apply ext_toNat
  have startLt := toNat_lt start
  have targetLt := toNat_lt target
  rw [toNat_advance, distanceTo_eq]
  simp only [space] at *
  omega

/-- The distance to an identifier reached by walking is the number of steps,
modulo the space. -/
@[simp] theorem distanceTo_advance (start : SeqId) (steps : Nat) :
    start.distanceTo (start.advance steps) = steps % space := by
  have startLt := toNat_lt start
  rw [distanceTo_eq, toNat_advance]
  simp only [space] at *
  omega

/-- From a fixed start, the distance tells identifiers apart. -/
theorem distanceTo_injective {start left right : SeqId}
    (equal : start.distanceTo left = start.distanceTo right) : left = right := by
  rw [← advance_distanceTo start left, equal, advance_distanceTo]

/-! ## Numeric order -/

/-- The numeric order of identifiers, for sorted containers. -/
def compareRaw (left right : SeqId) : Ordering := Ord.compare left.raw right.raw

instance : Std.TransCmp compareRaw where
  eq_swap := Std.OrientedOrd.eq_swap
  isLE_trans := Std.TransOrd.isLE_trans

instance : Std.LawfulEqCmp compareRaw where
  compare_self := Std.ReflOrd.compare_self
  eq_of_compare {left right} equal := by
    cases left
    cases right
    simpa [compareRaw] using equal

theorem compareRaw_eq_lt {left right : SeqId} :
    compareRaw left right = .lt ↔ left.toNat < right.toNat := by
  simp [compareRaw, toNat, Std.compare_eq_lt, UInt16.lt_iff_toNat_lt]

/-! ## Consecutive identifiers -/

/-- A source of consecutive identifiers. -/
structure Generator where
  /-- The identifier that the next draw yields. -/
  upcoming : SeqId
  deriving DecidableEq, Repr, Inhabited

namespace Generator

/-- The upcoming identifier, and the source after it was drawn. -/
def draw (source : Generator) : SeqId × Generator :=
  (source.upcoming, ⟨source.upcoming.next⟩)

/-- The next `count` identifiers in drawing order, and the source after them. -/
def take (source : Generator) (count : Nat) : List SeqId × Generator :=
  ((List.range count).map source.upcoming.advance, ⟨source.upcoming.advance count⟩)

end Generator

end SeqId

end ReliableDatagram
