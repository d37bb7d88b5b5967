import ReliableDatagram.SeqId
import Std.Data.ExtTreeMap

/-!
# Maps keyed by sequence id

A `SeqMap` is a finite map from sequence ids, stored in numeric order.  Because
ids wrap, a reader is seldom interested in numeric order itself: `entriesFrom`
lists a map in the order in which the ids are met when one walks forward from a
given id, and `first?` finds the first of them past a given distance.

`mem_entriesFrom` says that the walk meets exactly the entries of the map, and
`pairwise_entriesFrom` that it meets them at increasing distance.
-/

namespace ReliableDatagram

/-- A finite map from sequence ids. -/
abbrev SeqMap (α : Type) : Type := Std.ExtTreeMap SeqId α SeqId.compareRaw

namespace SeqMap

variable {α : Type}

/-- The entries in the order in which a forward walk from `origin` meets them. -/
def entriesFrom (map : SeqMap α) (origin : SeqId) : List (SeqId × α) :=
  map.toList.filter (fun entry => origin.toNat ≤ entry.1.toNat) ++
    map.toList.filter (fun entry => entry.1.toNat < origin.toNat)

/-- The first entry that lies at least `distance` steps after `origin`. -/
def first? (map : SeqMap α) (origin : SeqId) (distance : Nat) : Option (SeqId × α) :=
  (entriesFrom map origin).find? (fun entry => distance ≤ origin.distanceTo entry.1)

/-- A walk meets exactly the entries of the map. -/
theorem mem_entriesFrom {map : SeqMap α} {origin id : SeqId} {value : α} :
    (id, value) ∈ entriesFrom map origin ↔ map[id]? = some value := by
  simp only [entriesFrom, List.mem_append, List.mem_filter,
    Std.ExtTreeMap.mem_toList_iff_getElem?_eq_some, decide_eq_true_eq]
  constructor
  · rintro (⟨found, _⟩ | ⟨found, _⟩) <;> exact found
  · intro found
    rcases Nat.lt_or_ge id.toNat origin.toNat with before | after
    · exact .inr ⟨found, before⟩
    · exact .inl ⟨found, after⟩

/-- A map is stored in increasing numeric order. -/
theorem pairwise_toList (map : SeqMap α) :
    map.toList.Pairwise fun left right => left.1.toNat < right.1.toNat :=
  (Std.ExtTreeMap.ordered_keys_toList (t := map)).imp SeqId.compareRaw_eq_lt.mp

/-- A walk meets the entries at increasing distance from its origin. -/
theorem pairwise_entriesFrom (map : SeqMap α) (origin : SeqId) :
    (entriesFrom map origin).Pairwise fun left right =>
      origin.distanceTo left.1 < origin.distanceTo right.1 := by
  have originLt := origin.toNat_lt
  refine List.pairwise_append.mpr ⟨?_, ?_, ?_⟩
  · refine List.Pairwise.imp_of_mem ?_ ((pairwise_toList map).filter _)
    intro left right leftMem rightMem less
    have leftLt := left.1.toNat_lt
    have rightLt := right.1.toNat_lt
    simp only [List.mem_filter, decide_eq_true_eq] at leftMem rightMem
    rw [SeqId.distanceTo_eq, SeqId.distanceTo_eq]
    simp only [SeqId.space] at *
    omega
  · refine List.Pairwise.imp_of_mem ?_ ((pairwise_toList map).filter _)
    intro left right leftMem rightMem less
    have leftLt := left.1.toNat_lt
    have rightLt := right.1.toNat_lt
    simp only [List.mem_filter, decide_eq_true_eq] at leftMem rightMem
    rw [SeqId.distanceTo_eq, SeqId.distanceTo_eq]
    simp only [SeqId.space] at *
    omega
  · intro left leftMem right rightMem
    have leftLt := left.1.toNat_lt
    have rightLt := right.1.toNat_lt
    simp only [List.mem_filter, decide_eq_true_eq] at leftMem rightMem
    rw [SeqId.distanceTo_eq, SeqId.distanceTo_eq]
    simp only [SeqId.space] at *
    omega

end SeqMap

end ReliableDatagram
