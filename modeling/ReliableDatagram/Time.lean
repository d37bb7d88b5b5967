/-!
# Time

Durations and instants in whole nanoseconds.  Nothing in this library reads a
clock: every operation that depends on the time takes the current instant as an
argument, and successive instants may go backwards.
-/

namespace ReliableDatagram

/-- A length of time. -/
structure Duration where
  /-- The length in nanoseconds. -/
  nanoseconds : Nat
  deriving DecidableEq, Repr, Inhabited

namespace Duration

/-- The duration of that many microseconds. -/
def ofMicros (count : Nat) : Duration := ⟨count * 1000⟩

/-- The duration of that many milliseconds. -/
def ofMillis (count : Nat) : Duration := ⟨count * 1000000⟩

/-- The duration of that many seconds. -/
def ofSeconds (count : Nat) : Duration := ⟨count * 1000000000⟩

/-- The number of whole microseconds. -/
def micros (duration : Duration) : Nat := duration.nanoseconds / 1000

instance : LE Duration := ⟨fun shorter longer => shorter.nanoseconds ≤ longer.nanoseconds⟩

instance : LT Duration := ⟨fun shorter longer => shorter.nanoseconds < longer.nanoseconds⟩

instance (shorter longer : Duration) : Decidable (shorter ≤ longer) :=
  inferInstanceAs (Decidable (shorter.nanoseconds ≤ longer.nanoseconds))

instance (shorter longer : Duration) : Decidable (shorter < longer) :=
  inferInstanceAs (Decidable (shorter.nanoseconds < longer.nanoseconds))

instance : Max Duration := ⟨fun left right => if left ≤ right then right else left⟩

instance : Min Duration := ⟨fun left right => if left ≤ right then left else right⟩

theorem le_def {shorter longer : Duration} :
    shorter ≤ longer ↔ shorter.nanoseconds ≤ longer.nanoseconds := Iff.rfl

theorem lt_def {shorter longer : Duration} :
    shorter < longer ↔ shorter.nanoseconds < longer.nanoseconds := Iff.rfl

@[simp] theorem nanoseconds_max (left right : Duration) :
    (max left right).nanoseconds = max left.nanoseconds right.nanoseconds := by
  change (if left ≤ right then right else left).nanoseconds = _
  split <;> simp_all only [le_def] <;> omega

@[simp] theorem nanoseconds_min (left right : Duration) :
    (min left right).nanoseconds = min left.nanoseconds right.nanoseconds := by
  change (if left ≤ right then left else right).nanoseconds = _
  split <;> simp_all only [le_def] <;> omega

/-- The duration as seconds with nine decimals. -/
def decimal (duration : Duration) : String :=
  let fraction := toString (duration.nanoseconds % 1000000000)
  toString (duration.nanoseconds / 1000000000) ++ "." ++
    "".pushn '0' (9 - fraction.length) ++ fraction

end Duration

/-- A point in time, as the time that has passed since a fixed origin. -/
structure Instant where
  /-- Nanoseconds since the origin. -/
  nanoseconds : Nat
  deriving DecidableEq, Repr, Inhabited

namespace Instant

/-- The time that has passed at `now` since `earlier`, or `none` when `earlier`
lies in the future. -/
def since? (now earlier : Instant) : Option Duration :=
  if earlier.nanoseconds ≤ now.nanoseconds then
    some ⟨now.nanoseconds - earlier.nanoseconds⟩
  else none

/-- The time that has passed at `now` since `earlier`, and no time at all when
`earlier` lies in the future. -/
def since (now earlier : Instant) : Duration := ⟨now.nanoseconds - earlier.nanoseconds⟩

end Instant

end ReliableDatagram
