import Mathlib.Data.List.Nodup
import ReliableDatagram.SeqId

/-!
# The order of sequence ids as distances

Forward distances turn the wrapping order of sequence ids into arithmetic on
numbers below `SeqId.space`.  Each comparison is a bound on one distance
(`isBefore_iff`, `isAfter_iff`, `isAtOrBefore_iff`, `compare_isNone_iff`), and
distances add up along a way modulo the space (`distanceTo_trans`).
-/

namespace ReliableDatagram

namespace SeqId

/-! ## Distances -/

/-- The distance along a way is the sum of the distances of its parts. -/
theorem distanceTo_trans (start middle target : SeqId) :
    start.distanceTo target =
      (start.distanceTo middle + middle.distanceTo target) % space := by
  have startLt := toNat_lt start
  have middleLt := toNat_lt middle
  have targetLt := toNat_lt target
  rw [distanceTo_eq, distanceTo_eq, distanceTo_eq]
  simp only [space] at *
  omega

/-- There and back again is no distance, modulo the space. -/
theorem distanceTo_comm (left right : SeqId) :
    left.distanceTo right = (space - right.distanceTo left) % space := by
  have around := distanceTo_trans left right left
  have leftLt := distanceTo_lt left right
  have rightLt := distanceTo_lt right left
  rw [distanceTo_self] at around
  simp only [space] at *
  omega

@[simp] theorem advance_zero (id : SeqId) : id.advance 0 = id :=
  congrArg SeqId.mk (UInt16.add_zero _)

@[simp] theorem advance_space (id : SeqId) : id.advance space = id := by
  have idLt := id.toNat_lt
  apply ext_toNat
  rw [toNat_advance]
  simp only [space] at *
  omega

@[simp] theorem retreat_zero (id : SeqId) : id.retreat 0 = id :=
  congrArg SeqId.mk (UInt16.sub_zero _)

@[simp] theorem advance_advance (id : SeqId) (first second : Nat) :
    (id.advance first).advance second = id.advance (first + second) := by
  apply ext_toNat
  rw [toNat_advance, toNat_advance, toNat_advance]
  simp only [space]
  omega

@[simp] theorem retreat_advance (id : SeqId) (steps : Nat) :
    (id.retreat steps).advance steps = id := by
  have idLt := toNat_lt id
  apply ext_toNat
  rw [toNat_advance, toNat_retreat]
  simp only [space] at *
  omega

/-- Going back is going forward by what is left of the space. -/
theorem retreat_eq_advance (id : SeqId) {steps : Nat} (within : steps ≤ space) :
    id.retreat steps = id.advance (space - steps) := by
  apply ext_toNat
  rw [toNat_advance, toNat_retreat]
  simp only [space] at *
  omega

@[simp] theorem previous_next (id : SeqId) : id.previous.next = id :=
  retreat_advance id 1

theorem previous_advance (id : SeqId) (steps : Nat) :
    (id.advance (steps + 1)).previous = id.advance steps := by
  have idLt := toNat_lt id
  apply ext_toNat
  rw [previous, toNat_retreat, toNat_advance, toNat_advance]
  simp only [space] at *
  omega

theorem advance_previous (id : SeqId) (steps : Nat) :
    id.previous.advance (steps + 1) = id.advance steps := by
  have back := id.previous_next
  rw [next] at back
  rw [Nat.add_comm, ← advance_advance, back]

theorem advance_previous_comm (id : SeqId) (steps : Nat) :
    id.previous.advance steps = (id.advance steps).previous := by
  cases steps with
  | zero => rw [advance_zero, advance_zero]
  | succ steps => rw [advance_previous, previous_advance]

theorem advance_injective {id : SeqId} {first second : Nat} (firstLt : first < space)
    (secondLt : second < space) (equal : id.advance first = id.advance second) :
    first = second := by
  have distances := congrArg id.distanceTo equal
  rw [distanceTo_advance, distanceTo_advance] at distances
  rwa [Nat.mod_eq_of_lt firstLt, Nat.mod_eq_of_lt secondLt] at distances

theorem distanceTo_advance_of_lt (id : SeqId) {steps : Nat} (within : steps < space) :
    id.distanceTo (id.advance steps) = steps := by
  rw [distanceTo_advance, Nat.mod_eq_of_lt within]

theorem distanceTo_between (id : SeqId) {first second : Nat} (ordered : first ≤ second)
    (within : second - first < space) :
    (id.advance first).distanceTo (id.advance second) = second - first := by
  have way : id.advance second = (id.advance first).advance (second - first) := by
    rw [advance_advance, Nat.add_sub_cancel' ordered]
  rw [way, distanceTo_advance_of_lt _ within]

/-- After some steps that many are left less, modulo the space. -/
theorem distanceTo_of_advance (start id : SeqId) {steps : Nat} (within : steps < space) :
    start.distanceTo id = ((start.advance steps).distanceTo id + steps) % space := by
  rw [distanceTo_trans start (start.advance steps) id, distanceTo_advance_of_lt start within,
    Nat.add_comm]

theorem distanceTo_next {start id : SeqId} (ahead : 0 < start.distanceTo id) :
    start.next.distanceTo id + 1 = start.distanceTo id := by
  have left := distanceTo_of_advance start id (by decide : 1 < space)
  have near := distanceTo_lt start.next id
  rw [next] at near ⊢
  simp only [space] at *
  omega

/-- There are no more different ids between two distances than the distances leave room
for. -/
theorem length_le_of_between {origin : SeqId} {ids : List SeqId} {low high : Nat}
    (distinct : ids.Nodup)
    (between : ∀ id ∈ ids, low < origin.distanceTo id ∧ origin.distanceTo id ≤ high) :
    ids.length ≤ high - low := by
  let places := ids.map fun id => origin.distanceTo id - (low + 1)
  have apart : places.Nodup := by
    refine List.Nodup.map_on ?_ distinct
    intro left leftMem right rightMem same
    have leftFar := (between left leftMem).1
    have rightFar := (between right rightMem).1
    have equal : origin.distanceTo left = origin.distanceTo right := by omega
    exact distanceTo_injective equal
  have inside : places ⊆ List.range (high - low) := by
    intro place member
    rcases List.mem_map.mp member with ⟨id, listed, rfl⟩
    have near := between id listed
    exact List.mem_range.mpr (by omega)
  have fits := apart.length_le_of_subset inside
  rwa [List.length_map, List.length_range] at fits

/-! ## Comparisons -/

/-- The four answers of a comparison, by the distance from the second id to the
first. -/
theorem compare_cases (left right : SeqId) :
    (right.distanceTo left = 0 ∧ left.compare right = some .eq) ∨
      (0 < right.distanceTo left ∧ right.distanceTo left < halfSpace ∧
        left.compare right = some .gt) ∨
      (right.distanceTo left = halfSpace ∧ left.compare right = none) ∨
      (halfSpace < right.distanceTo left ∧ left.compare right = some .lt) := by
  simp only [compare]
  split
  · next same => exact .inl ⟨same, rfl⟩
  split
  · next different near =>
    exact .inr (.inl ⟨Nat.pos_of_ne_zero different, near, rfl⟩)
  split
  · next half => exact .inr (.inr (.inl ⟨half, rfl⟩))
  · next near half =>
    exact .inr (.inr (.inr ⟨by omega, rfl⟩))

theorem isBefore_iff {left right : SeqId} :
    left.isBefore right ↔
      0 < left.distanceTo right ∧ left.distanceTo right < halfSpace := by
  have swap := distanceTo_comm left right
  have aheadLt := distanceTo_lt right left
  have cases := compare_cases left right
  simp only [space, halfSpace] at swap aheadLt cases ⊢
  rcases cases with ⟨ahead, answer⟩ | ⟨_, ahead, answer⟩ |
    ⟨ahead, answer⟩ | ⟨ahead, answer⟩
  all_goals simp only [isBefore, answer, beq_iff_eq, Option.some.injEq, reduceCtorEq,
    false_iff, true_iff]
  all_goals omega

theorem isAfter_iff {left right : SeqId} :
    left.isAfter right ↔
      0 < right.distanceTo left ∧ right.distanceTo left < halfSpace := by
  have cases := compare_cases left right
  simp only [halfSpace] at cases ⊢
  rcases cases with ⟨ahead, answer⟩ | ⟨_, ahead, answer⟩ |
    ⟨ahead, answer⟩ | ⟨ahead, answer⟩
  all_goals simp only [isAfter, answer, beq_iff_eq, Option.some.injEq, reduceCtorEq,
    false_iff, true_iff]
  all_goals omega

theorem isAtOrBefore_iff {left right : SeqId} :
    left.isAtOrBefore right ↔ left.distanceTo right < halfSpace := by
  have swap := distanceTo_comm left right
  have aheadLt := distanceTo_lt right left
  have cases := compare_cases left right
  simp only [space, halfSpace] at swap aheadLt cases ⊢
  rcases cases with ⟨ahead, answer⟩ | ⟨_, ahead, answer⟩ |
    ⟨ahead, answer⟩ | ⟨ahead, answer⟩
  all_goals simp only [isAtOrBefore, answer, Bool.or_eq_true, beq_iff_eq,
    Option.some.injEq, reduceCtorEq, or_false, or_true, false_iff, true_iff]
  all_goals omega

theorem compare_isNone_iff {left right : SeqId} :
    (left.compare right).isNone ↔ left.distanceTo right = halfSpace := by
  have swap := distanceTo_comm left right
  have aheadLt := distanceTo_lt right left
  have cases := compare_cases left right
  simp only [space, halfSpace] at swap aheadLt cases ⊢
  rcases cases with ⟨ahead, answer⟩ | ⟨_, ahead, answer⟩ |
    ⟨ahead, answer⟩ | ⟨ahead, answer⟩
  all_goals simp only [answer, Option.isNone_none, Option.isNone_some, reduceCtorEq,
    false_iff, true_iff]
  all_goals omega

end SeqId

end ReliableDatagram
