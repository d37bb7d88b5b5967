import ReliableDatagram.Proofs.Sender.Tracing
import ReliableDatagram.Proofs.Table.Consistency

/-!
# What a sender transmits can be framed

A pending item carries no more bytes than a segment may, and it is filed under no more keys
than a segment may list (`Bounded`).  Each move keeps these bounds, and the segment that it
puts out is within them (`Bounded.move`).  So a frame has no reason to refuse what a call
answers (`Bounded.performs`).
-/

namespace ReliableDatagram

namespace Sender

variable {config : Config}

/-- The pending items fit into segments. -/
structure Bounded (sender : Sender config) : Prop where
  consistent : sender.pending.Consistent
  payload_le : ∀ {slot record}, sender.pending.record? slot = some record →
    record.value.payload.length ≤ Capacity.payloadBytes

theorem bounded_start (config : Config) : (start config).Bounded where
  consistent := Table.consistent_empty
  payload_le {slot record} found := by simp [start, Table.record?_empty] at found

namespace Bounded

variable {sender after : Sender config}

/-! ## Pending items -/

theorem payload_of_register {pending : Table PendingItem} {id : SeqId} {slot other : Nat}
    {displaced : Option Nat} {record : Record PendingItem} {before : Table PendingItem}
    (registered : before.register id slot = .ok (pending, displaced))
    (found : pending.record? other = some record) :
    ∃ earlier, before.record? other = some earlier ∧
      record.value.payload = earlier.value.payload := by
  rcases Table.record?_register registered found with ⟨earlier, there, changed⟩
  refine ⟨earlier, there, ?_⟩
  rcases changed with rfl | rfl | ⟨_, rfl⟩
  · rfl
  · rfl
  · rfl

theorem payload_of_move (bounded : sender.Bounded) {outputs : List Output}
    (move : Move sender outputs after) {slot : Nat} {record : Record PendingItem}
    (found : after.pending.record? slot = some record) :
    record.value.payload.length ≤ Capacity.payloadBytes := by
  cases move with
  | giveUp reason present =>
      rw [giveUp_of_found present, Table.record?_remove] at found
      split at found
      · cases found
      · exact bounded.payload_le found
  | confirm now holder present =>
      rw [pending_confirm holder present now, Table.record?_remove] at found
      split at found
      · cases found
      · exact bounded.payload_le found
  | release holder superseded =>
      rw [Table.record?_release holder] at found
      split at found
      · rcases Option.map_eq_some_iff.mp found with ⟨before, there, rfl⟩
        have kept := bounded.payload_le there
        exact kept
      · exact bounded.payload_le found
  | takeOn fits registered =>
      rcases payload_of_register registered found with ⟨before, there, same⟩
      rw [same]
      rw [Table.record?_create] at there
      split at there
      · cases there
        exact fits
      · exact bounded.payload_le there
  | again now present allowed registered filed =>
      rw [record?_repeated] at found
      split at found
      · rcases Option.map_eq_some_iff.mp found with ⟨stored, there, rfl⟩
        rcases payload_of_register registered there with ⟨before, older, same⟩
        exact same ▸ bounded.payload_le older
      · rcases payload_of_register registered found with ⟨before, older, same⟩
        exact same ▸ bounded.payload_le older
  | forfeit present allowed refused => exact bounded.payload_le found

theorem consistent_move (bounded : sender.Bounded) {outputs : List Output}
    (move : Move sender outputs after) : after.pending.Consistent := by
  have consistent := bounded.consistent
  cases move with
  | giveUp reason found =>
      rw [giveUp_of_found found]
      exact consistent.remove _
  | confirm now holder found =>
      rw [pending_confirm holder found now]
      exact consistent.remove _
  | release holder superseded => exact consistent.release _
  | takeOn fits registered => exact (consistent.create _ _ _).register registered
  | again now found allowed registered filed =>
      refine Table.Consistent.modify ?_ _ _ fun _ => rfl
      exact (consistent.register registered).modify _ _ fun _ => rfl
  | forfeit found allowed refused => exact consistent

/-! ## Segments -/

/-- The segment that a move puts out lists an id, and no more of them than it may. -/
theorem inBounds_move (bounded : sender.Bounded) {outputs : List Output}
    (move : Move sender outputs after) :
    ∀ segment ∈ transmitted outputs, segment.InBounds := by
  cases move with
  | giveUp reason found => nofun
  | confirm now holder found => nofun
  | release holder superseded => nofun
  | takeOn fits registered =>
      intro segment member
      rw [List.mem_singleton.mp member]
      have single : 1 ≤ Capacity.keysPerRecord := by decide
      exact ⟨Nat.le_refl 1, single, fits⟩
  | again now found allowed registered filed =>
      intro segment member
      rw [List.mem_singleton.mp member]
      rcases payload_of_register registered filed with ⟨before, there, same⟩
      refine ⟨?_, (bounded.consistent.register registered).keys_le filed, ?_⟩
      · exact List.length_pos_of_mem (bounded.consistent.mem_keys_of_register registered filed)
      · exact same ▸ bounded.payload_le there
  | forfeit found allowed refused => nofun

theorem move (bounded : sender.Bounded) {outputs : List Output}
    (move : Move sender outputs after) : after.Bounded where
  consistent := bounded.consistent_move move
  payload_le := bounded.payload_of_move move

theorem moves (bounded : sender.Bounded) {outputs : List Output}
    (moves : Moves sender outputs after) :
    after.Bounded ∧ ∀ segment ∈ transmitted outputs, segment.InBounds := by
  induction moves with
  | none => exact ⟨bounded, nofun⟩
  | next first _ ih =>
      rcases ih (bounded.move first) with ⟨kept, later⟩
      refine ⟨kept, ?_⟩
      rw [transmitted_append]
      exact List.forall_mem_append.mpr ⟨bounded.inBounds_move first, later⟩

/-- Whatever a call transmits is within bounds, and what stays pending is. -/
theorem performs (bounded : sender.Bounded) {outputs : List Output}
    (performs : Performs sender outputs after) :
    after.Bounded ∧ ∀ segment ∈ transmitted outputs, segment.InBounds := by
  rcases performs with ⟨actual, moves, alike⟩
  have kept := bounded.moves moves
  rwa [transmitted, alike.segments] at kept

end Bounded

end Sender

end ReliableDatagram
