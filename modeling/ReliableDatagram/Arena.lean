import Std.Data.ExtTreeMap

/-!
# Arenas

An arena keeps values in numbered slots.  A value stays in its slot until it is
removed, and the slot of a removed value is used again: a new value takes the
slot that was freed last, and a slot never used before only when none is free.

Which slots are free is part of the type, so a fresh slot is always vacant
(`get?_fresh`) and an allocation disturbs no other slot (`get?_allocate`).
-/

namespace ReliableDatagram

/-- Values in numbered slots. -/
structure Arena (α : Type) where
  /-- The occupied slots. -/
  entries : Std.ExtTreeMap Nat α
  /-- The freed slots, the one freed last first. -/
  vacant : List Nat
  /-- All slots ever used lie below this number. -/
  bound : Nat
  /-- A slot is occupied when it was used and is not free now. -/
  mem_entries_iff : ∀ slot, slot ∈ entries ↔ slot < bound ∧ slot ∉ vacant
  /-- A free slot was used before. -/
  vacant_lt : ∀ slot ∈ vacant, slot < bound
  /-- No slot is freed twice. -/
  vacant_nodup : vacant.Nodup

namespace Arena

variable {α : Type}

/-- The arena without values. -/
def empty : Arena α where
  entries := ∅
  vacant := []
  bound := 0
  mem_entries_iff := by simp
  vacant_lt := by simp
  vacant_nodup := List.nodup_nil

instance : EmptyCollection (Arena α) := ⟨empty⟩

/-- The value in a slot. -/
def get? (arena : Arena α) (slot : Nat) : Option α := arena.entries[slot]?

/-- The number of values. -/
def size (arena : Arena α) : Nat := arena.entries.size

/-- The values with their slots, in the order of the slots. -/
def toList (arena : Arena α) : List (Nat × α) := arena.entries.toList

/-- The slot that the next new value takes. -/
def fresh (arena : Arena α) : Nat := arena.vacant.headD arena.bound

/-- Store a new value in the slot `fresh`. -/
def allocate (arena : Arena α) (value : α) : Arena α where
  entries := arena.entries.insert arena.fresh value
  vacant := arena.vacant.tail
  bound := if arena.vacant.isEmpty then arena.bound + 1 else arena.bound
  mem_entries_iff slot := by
    have known := arena.mem_entries_iff slot
    have distinct := arena.vacant_nodup
    have used := arena.vacant_lt
    cases free : arena.vacant with
    | nil =>
        have here : slot ∈ arena.entries ↔ slot < arena.bound := by simpa [free] using known
        simp only [fresh, free, List.headD_nil, List.tail_nil, List.isEmpty_nil, if_true,
          Std.ExtTreeMap.mem_insert, Std.compare_eq_eq_iff_eq, here, List.not_mem_nil,
          not_false_eq_true, and_true]
        omega
    | cons head rest =>
        rw [free] at distinct used known
        have headLt := used head List.mem_cons_self
        have headNotMem := (List.nodup_cons.mp distinct).1
        by_cases same : head = slot
        · subst same
          simp [fresh, free, headLt, headNotMem]
        · have other : slot ≠ head := fun equal => same equal.symm
          simpa [fresh, free, same, other] using known
  vacant_lt slot member := by
    have lt := arena.vacant_lt slot (List.mem_of_mem_tail member)
    split <;> omega
  vacant_nodup := arena.vacant_nodup.tail

/-- Change the value in a slot.  A vacant slot stays vacant. -/
def modify (arena : Arena α) (slot : Nat) (change : α → α) : Arena α :=
  match found : arena.entries[slot]? with
  | none => arena
  | some value =>
      { arena with
        entries := arena.entries.insert slot (change value)
        mem_entries_iff other := by
          have known := arena.mem_entries_iff other
          have member : slot ∈ arena.entries :=
            Std.ExtTreeMap.mem_iff_isSome_getElem?.mpr (by simp [found])
          rw [Std.ExtTreeMap.mem_insert, ← known]
          constructor
          · rintro (same | there)
            · rwa [← Std.LawfulEqCmp.eq_of_compare same]
            · exact there
          · exact .inr }

/-- Take the value out of a slot.  A vacant slot stays vacant. -/
def remove (arena : Arena α) (slot : Nat) : Arena α :=
  if member : slot ∈ arena.entries then
    { arena with
      entries := arena.entries.erase slot
      vacant := slot :: arena.vacant
      mem_entries_iff other := by
        have known := arena.mem_entries_iff other
        rw [Std.ExtTreeMap.mem_erase, known, List.mem_cons]
        constructor
        · rintro ⟨different, used, occupied⟩
          refine ⟨used, ?_⟩
          rintro (same | free)
          · exact different (Std.compare_eq_eq_iff_eq.mpr same.symm)
          · exact occupied free
        · rintro ⟨used, occupied⟩
          refine ⟨fun same => ?_, used, fun free => occupied (.inr free)⟩
          exact occupied (.inl (Std.compare_eq_eq_iff_eq.mp same).symm)
      vacant_lt other free := by
        rcases List.mem_cons.mp free with same | free
        · exact same ▸ ((arena.mem_entries_iff slot).mp member).1
        · exact arena.vacant_lt other free
      vacant_nodup :=
        List.nodup_cons.mpr ⟨((arena.mem_entries_iff slot).mp member).2, arena.vacant_nodup⟩ }
  else arena

/-! ## Look-up -/

theorem get?_fresh (arena : Arena α) : arena.get? arena.fresh = none := by
  have vacant : arena.fresh ∉ arena.entries := by
    rw [arena.mem_entries_iff, fresh]
    rintro ⟨used, occupied⟩
    cases free : arena.vacant with
    | nil => simp [free] at used
    | cons head rest => simp [free] at occupied
  exact Std.ExtTreeMap.getElem?_eq_none vacant

theorem get?_empty (slot : Nat) : (∅ : Arena α).get? slot = none :=
  Std.ExtTreeMap.getElem?_empty

theorem get?_allocate (arena : Arena α) (value : α) (slot : Nat) :
    (arena.allocate value).get? slot =
      if slot = arena.fresh then some value else arena.get? slot := by
  simp [get?, allocate, Std.ExtTreeMap.getElem?_insert, @eq_comm Nat slot]

theorem get?_modify (arena : Arena α) (target : Nat) (change : α → α) (slot : Nat) :
    (arena.modify target change).get? slot =
      if slot = target then (arena.get? slot).map change else arena.get? slot := by
  unfold modify
  split
  · next found =>
    split
    · next same => simp [get?, same, found]
    · rfl
  · next value found =>
    simp only [get?, Std.ExtTreeMap.getElem?_insert, Std.compare_eq_eq_iff_eq,
      @eq_comm Nat slot]
    split
    · next same => simp [← same, found]
    · rfl

theorem get?_remove (arena : Arena α) (target slot : Nat) :
    (arena.remove target).get? slot = if slot = target then none else arena.get? slot := by
  unfold remove
  split
  · simp [get?, Std.ExtTreeMap.getElem?_erase, @eq_comm Nat slot]
  · next absent =>
    split
    · next same => exact same ▸ Std.ExtTreeMap.getElem?_eq_none absent
    · rfl

theorem mem_toList {arena : Arena α} {slot : Nat} {value : α} :
    (slot, value) ∈ arena.toList ↔ arena.get? slot = some value :=
  Std.ExtTreeMap.mem_toList_iff_getElem?_eq_some

end Arena

end ReliableDatagram
