import ReliableDatagram.Proofs.Sender.Runs
import ReliableDatagram.Proofs.Table.Agreement

/-!
# The moves that a run consists of

Each call does many things to the table of pending items, but only of six kinds:
it gives an item up, confirms one, forgets a superseded transmission id, takes a
new item on, sends an item again, or draws a transmission id in vain.  `Move`
lists these with all that is known when they happen, and `run_performs` takes
every run apart into moves.  What each move keeps is therefore kept by every run.
-/

namespace ReliableDatagram

namespace Sender

variable {config : Config}

/-! ## Moves -/

/-- The sender after a new item was filed in `pending`. -/
def admitted (sender : Sender config) (payload : Payload) (pending : Table PendingItem) :
    Sender config :=
  { sender with
    pending
    dataIds := sender.dataIds.draw.2
    transmissionIds := sender.transmissionIds.draw.2
    counters := { sender.counters with
      itemsSent := sender.counters.itemsSent + 1
      transmissions := sender.counters.transmissions + 1
      bytesSent := sender.counters.bytesSent + payload.length } }

/-- The sender after the next transmission id was drawn and `pending` filed an item
under it. -/
def filed (sender : Sender config) (pending : Table PendingItem) : Sender config :=
  { sender with
    pending
    transmissionIds := sender.transmissionIds.draw.2 }

/-- The sender after the retransmission of the item in `slot` was noted. -/
def repeated (sender : Sender config) (now : Instant) (slot : Nat) : Sender config :=
  { sender with
    pending := (sender.pending.touch slot now).update slot fun item =>
      { item with retransmissions := item.retransmissions + 1 }
    counters := { sender.counters with
      retransmissions := sender.counters.retransmissions + 1
      transmissions := sender.counters.transmissions + 1 } }

/-- The least that a sender does at once. -/
inductive Move : Sender config → List Output → Sender config → Prop where
  | giveUp {sender : Sender config} {slot : Nat} {record : Record PendingItem}
      (reason : GiveUpReason) (found : sender.pending.record? slot = some record) :
      Move sender [.resolved (.unacked record.primary record.value.payload reason)]
        (giveUp reason sender slot).1
  | confirm {sender : Sender config} {id : SeqId} {slot : Nat} {record : Record PendingItem}
      (now : Instant) (holder : sender.pending.holder? id = some slot)
      (found : sender.pending.record? slot = some record) :
      Move sender [.resolved (.acked record.primary record.value.payload)]
        (confirm now sender id).1
  | release {sender : Sender config} {id : SeqId} {slot : Nat}
      (holder : sender.pending.holder? id = some slot)
      (superseded : sender.pending.isLatest id slot = false) :
      Move sender [] { sender with pending := sender.pending.release id }
  | takeOn {sender : Sender config} {payload : Payload} {now : Instant}
      {pending : Table PendingItem} {displaced : Option Nat}
      (fits : payload.length ≤ Capacity.payloadBytes)
      (registered : (sender.pending.create sender.nextDataId ⟨payload, 0, now⟩ now).register
        sender.nextTransmissionId sender.pending.freshSlot = .ok (pending, displaced)) :
      Move sender [.sent ⟨sender.nextDataId, [sender.nextTransmissionId], payload⟩]
        (sender.admitted payload pending)
  | again {sender : Sender config} {slot : Nat} {before after : Record PendingItem}
      {pending : Table PendingItem} {displaced : Option Nat} (now : Instant)
      (found : sender.pending.record? slot = some before)
      (allowed : before.value.retransmissions < config.retransmitLimit)
      (registered : sender.pending.register sender.nextTransmissionId slot =
        .ok (pending, displaced))
      (filed : pending.record? slot = some after) :
      Move sender [.resent ⟨after.primary, after.keys, after.value.payload⟩]
        ((sender.filed pending).repeated now slot)
  | forfeit {sender : Sender config} {slot : Nat} {record : Record PendingItem}
      {error : CapacityError} (found : sender.pending.record? slot = some record)
      (allowed : record.value.retransmissions < config.retransmitLimit)
      (refused : sender.pending.register sender.nextTransmissionId slot = .error error) :
      Move sender [] (sender.filed sender.pending)

/-- Any number of moves, with their outputs in order. -/
inductive Moves : Sender config → List Output → Sender config → Prop where
  | none (sender : Sender config) : Moves sender [] sender
  | next {before middle after : Sender config} {outputs more : List Output}
      (first : Move before outputs middle) (rest : Moves middle more after) :
      Moves before (outputs ++ more) after

theorem Move.moves {before after : Sender config} {outputs : List Output}
    (move : Move before outputs after) : Moves before outputs after := by
  have single := Moves.next move (.none after)
  rwa [List.append_nil] at single

theorem Moves.trans {before middle after : Sender config} {outputs more : List Output}
    (first : Moves before outputs middle) (second : Moves middle more after) :
    Moves before (outputs ++ more) after := by
  induction first with
  | none => exact second
  | next move _ ih =>
      rw [List.append_assoc]
      exact .next move (ih second)

/-- What each move keeps of a state and all outputs so far, moves keep. -/
theorem Moves.preserve {property : Sender config → List Output → Prop}
    (kept : ∀ {before after : Sender config} {outputs past : List Output},
      property before past → Move before outputs after → property after (past ++ outputs))
    {before after : Sender config} {outputs : List Output}
    (moves : Moves before outputs after) {past : List Output}
    (initial : property before past) : property after (past ++ outputs) := by
  induction moves generalizing past with
  | none => rwa [List.append_nil]
  | next move _ ih =>
      rw [← List.append_assoc]
      exact ih (kept initial move)

/-! ## What the parts of a call do -/

theorem giveUp_of_found {sender : Sender config} {slot : Nat} {record : Record PendingItem}
    (found : sender.pending.record? slot = some record) (reason : GiveUpReason) :
    giveUp reason sender slot =
      ({ sender with
          pending := sender.pending.remove slot
          counters := sender.counters.countUnacked reason },
        [.unacked record.primary record.value.payload reason]) := by
  simp [giveUp, found]

theorem giveUp_of_vacant {sender : Sender config} {slot : Nat}
    (vacant : sender.pending.record? slot = none) (reason : GiveUpReason) :
    giveUp reason sender slot = (sender, []) := by
  simp [giveUp, vacant]

theorem pending_confirm {sender : Sender config} {id : SeqId} {slot : Nat}
    {record : Record PendingItem} (holder : sender.pending.holder? id = some slot)
    (found : sender.pending.record? slot = some record) (now : Instant) :
    (confirm now sender id).1.pending = sender.pending.remove slot := by
  simp only [confirm, holder, found, sampleRoundTrip]
  repeat' split
  all_goals rfl

theorem outputs_confirm {sender : Sender config} {id : SeqId} {slot : Nat}
    {record : Record PendingItem} (holder : sender.pending.holder? id = some slot)
    (found : sender.pending.record? slot = some record) (now : Instant) :
    (confirm now sender id).2 = [.acked record.primary record.value.payload] := by
  simp [confirm, holder, found]

theorem ids_confirm (now : Instant) (sender : Sender config) (id : SeqId) :
    (confirm now sender id).1.dataIds = sender.dataIds ∧
      (confirm now sender id).1.transmissionIds = sender.transmissionIds := by
  simp only [confirm, sampleRoundTrip]
  repeat' split
  all_goals exact ⟨rfl, rfl⟩

theorem ids_giveUp (reason : GiveUpReason) (sender : Sender config) (slot : Nat) :
    (giveUp reason sender slot).1.dataIds = sender.dataIds ∧
      (giveUp reason sender slot).1.transmissionIds = sender.transmissionIds := by
  simp only [giveUp]
  split
  all_goals exact ⟨rfl, rfl⟩

theorem giveUp_moves (reason : GiveUpReason) (sender : Sender config) (slot : Nat) :
    Moves sender ((giveUp reason sender slot).2.map .resolved)
      (giveUp reason sender slot).1 := by
  cases found : sender.pending.record? slot with
  | none =>
      rw [giveUp_of_vacant found]
      exact .none sender
  | some record =>
      have move := (Move.giveUp reason found).moves
      rw [giveUp_of_found found] at move ⊢
      exact move

theorem giveUpOrphan_moves (sender : Sender config) (displaced : Option Nat) :
    Moves sender ((sender.giveUpOrphan displaced).2.map .resolved)
      (sender.giveUpOrphan displaced).1 := by
  cases displaced with
  | none => exact .none sender
  | some slot =>
      simp only [giveUpOrphan]
      split
      · exact giveUp_moves .outOfWindow sender slot
      · exact .none sender

theorem confirm_moves (now : Instant) (sender : Sender config) (id : SeqId) :
    Moves sender ((confirm now sender id).2.map .resolved) (confirm now sender id).1 := by
  cases holder : sender.pending.holder? id with
  | none =>
      have nothing : confirm now sender id = (sender, []) := by simp [confirm, holder]
      rw [nothing]
      exact .none sender
  | some slot =>
      cases found : sender.pending.record? slot with
      | none =>
          have nothing : confirm now sender id = (sender, []) := by
            simp [confirm, holder, found]
          rw [nothing]
          exact .none sender
      | some record =>
          rw [outputs_confirm holder found]
          exact (Move.confirm now holder found).moves

/-! ## Moves with the answer of a call -/

/-- Moves that give these outputs, up to interleaving. -/
def Performs (before : Sender config) (outputs : List Output) (after : Sender config) :
    Prop :=
  ∃ actual, Moves before actual after ∧ Alike actual outputs

theorem Moves.performs {before after : Sender config} {outputs : List Output}
    (moves : Moves before outputs after) : Performs before outputs after :=
  ⟨outputs, moves, .refl outputs⟩

theorem Performs.trans {before middle after : Sender config} {outputs more : List Output}
    (first : Performs before outputs middle) (second : Performs middle more after) :
    Performs before (outputs ++ more) after := by
  rcases first with ⟨actual, moves, alike⟩
  rcases second with ⟨others, further, likewise⟩
  exact ⟨actual ++ others, moves.trans further, alike.append likewise⟩

theorem Performs.of_alike {before after : Sender config} {outputs others : List Output}
    (performs : Performs before outputs after) (alike : Alike outputs others) :
    Performs before others after := by
  rcases performs with ⟨actual, moves, likewise⟩
  exact ⟨actual, moves, likewise.trans alike⟩

/-- A transition that consists of moves still does when it is fed many inputs. -/
theorem performs_run {ι β : Type} {transition : Transition (Sender config) ι β}
    {label : β → Output}
    (each : ∀ sender input, Performs sender ((transition sender input).2.map label)
      (transition sender input).1)
    (sender : Sender config) (inputs : List ι) :
    Performs sender ((Transition.run transition sender inputs).2.map label)
      (Transition.run transition sender inputs).1 := by
  induction inputs generalizing sender with
  | nil => exact (Moves.none sender).performs
  | cons input rest ih =>
      rw [Transition.run_cons, List.map_append]
      exact (each sender input).trans (ih _)

/-! ## Every call consists of moves -/

theorem evictOldest_performs (sender : Sender config) (input : Unit) :
    Performs sender ((evictOldest sender input).2.map .resolved)
      (evictOldest sender input).1 := by
  unfold evictOldest
  cases sender.oldest? with
  | none => exact (Moves.none sender).performs
  | some slot => exact (giveUp_moves .queueOverflow sender slot).performs

theorem makeRoom_performs (sender : Sender config) :
    Performs sender (sender.makeRoom.2.map .resolved) sender.makeRoom.1 :=
  performs_run evictOldest_performs sender _

/-- An item that is not too long is filed under a fresh record, and that never
fails. -/
theorem send_eq_ok (sender : Sender config) {payload : Payload}
    (fits : payload.length ≤ Capacity.payloadBytes) (now : Instant) :
    ∃ pending displaced,
      (sender.makeRoom.1.pending.create sender.makeRoom.1.nextDataId ⟨payload, 0, now⟩
        now).register sender.makeRoom.1.nextTransmissionId
          sender.makeRoom.1.pending.freshSlot = .ok (pending, displaced) ∧
      sender.send payload now =
        .ok (((sender.makeRoom.1.admitted payload pending).giveUpOrphan displaced).1,
          ⟨sender.makeRoom.1.nextDataId, [sender.makeRoom.1.nextTransmissionId], payload⟩,
          sender.makeRoom.2 ++
            ((sender.makeRoom.1.admitted payload pending).giveUpOrphan displaced).2) := by
  have found := sender.makeRoom.1.pending.record?_create sender.makeRoom.1.nextDataId
    ⟨payload, 0, now⟩ now sender.makeRoom.1.pending.freshSlot
  rw [if_pos rfl] at found
  rcases Table.register_isOk
      sender.makeRoom.1.nextTransmissionId found (Nat.zero_lt_succ 255) with
    ⟨pending, displaced, registered⟩
  refine ⟨pending, displaced, registered, ?_⟩
  simp only [nextDataId, nextTransmissionId] at registered
  simp only [send, if_neg (Nat.not_lt_of_le fits), SeqId.Generator.draw, registered]
  rfl

theorem send_isOk_iff {sender : Sender config} {payload : Payload} {now : Instant} :
    (∃ answer, sender.send payload now = .ok answer) ↔
      payload.length ≤ Capacity.payloadBytes := by
  constructor
  · intro condition
    rcases condition with ⟨answer, accepted⟩
    unfold send at accepted
    split at accepted
    · cases accepted
    · next fits => exact Nat.le_of_not_lt fits
  · intro fits
    rcases sender.send_eq_ok fits now with ⟨pending, displaced, _, accepted⟩
    exact ⟨_, accepted⟩

theorem send_performs {sender after : Sender config} {payload : Payload} {now : Instant}
    {segment : Segment} {events : List SendEvent}
    (accepted : sender.send payload now = .ok (after, segment, events)) :
    Performs sender (.sent segment :: events.map .resolved) after := by
  have fits := send_isOk_iff.mp ⟨_, accepted⟩
  rcases sender.send_eq_ok fits now with ⟨pending, displaced, registered, equal⟩
  rw [accepted] at equal
  simp only [Except.ok.injEq, Prod.mk.injEq] at equal
  rcases equal with ⟨rfl, rfl, rfl⟩
  have taken := (Move.takeOn fits registered).moves.performs
  have orphan := (giveUpOrphan_moves (sender.makeRoom.1.admitted payload pending)
    displaced).performs
  apply ((sender.makeRoom_performs.trans taken).trans orphan).of_alike
  rw [List.map_append]
  exact (alike_segment_first rfl sender.makeRoom.2).append (.refl _)

theorem payload_of_send {sender after : Sender config} {payload : Payload} {now : Instant}
    {segment : Segment} {events : List SendEvent}
    (accepted : sender.send payload now = .ok (after, segment, events)) :
    segment.payload = payload := by
  have fits := send_isOk_iff.mp ⟨_, accepted⟩
  rcases sender.send_eq_ok fits now with ⟨_, _, _, equal⟩
  rw [accepted] at equal
  simp only [Except.ok.injEq, Prod.mk.injEq] at equal
  rw [equal.2.1]

theorem holder?_of_mem_idsBefore {sender : Sender config} {threshold id : SeqId} {slot : Nat}
    (member : (id, slot) ∈ sender.idsBefore threshold) :
    sender.pending.holder? id = some slot :=
  SeqMap.mem_entriesFrom.mp ((List.takeWhile_sublist _).subset member)

theorem ordered_idsBefore (sender : Sender config) (threshold : SeqId) :
    (sender.idsBefore threshold).Pairwise fun left right =>
      (threshold.advance (SeqId.halfSpace + 1)).distanceTo left.1 <
        (threshold.advance (SeqId.halfSpace + 1)).distanceTo right.1 :=
  (SeqMap.pairwise_entriesFrom sender.pending.index _).sublist (List.takeWhile_sublist _)

theorem pairwise_idsBefore (sender : Sender config) (threshold : SeqId) :
    (sender.idsBefore threshold).Pairwise fun left right => left.1 ≠ right.1 := by
  apply (ordered_idsBefore sender threshold).imp
  intro left right less same
  rw [same] at less
  exact Nat.lt_irrefl _ less

/-- Superseded ids are forgotten one by one.  Forgetting one leaves the others in
place and superseded. -/
theorem release_preserves (property : Sender config → Prop)
    (kept : ∀ {sender : Sender config} {id : SeqId} {slot : Nat},
      sender.pending.holder? id = some slot → sender.pending.isLatest id slot = false →
      property sender → property { sender with pending := sender.pending.release id })
    (superseded : List (SeqId × Nat)) (sender : Sender config)
    (distinct : superseded.Pairwise fun left right => left.1 ≠ right.1)
    (held : ∀ entry ∈ superseded, sender.pending.holder? entry.1 = some entry.2 ∧
      sender.pending.isLatest entry.1 entry.2 = false)
    (initial : property sender) :
    property { sender with
      pending := superseded.foldl (fun table entry => table.release entry.1)
        sender.pending } := by
  induction superseded generalizing sender with
  | nil => exact initial
  | cons entry rest ih =>
      rcases List.pairwise_cons.mp distinct with ⟨others, distinct⟩
      rcases held entry List.mem_cons_self with ⟨holder, late⟩
      refine ih { sender with pending := sender.pending.release entry.1 } distinct ?_
        (kept holder late initial)
      intro other member
      rcases held other (List.mem_cons_of_mem _ member) with ⟨otherHolder, otherLate⟩
      constructor
      · rw [Table.holder?_release, if_neg (others other member).symm]
        exact otherHolder
      · rw [Table.isLatest_release holder late]
        exact otherLate

theorem release_moves (superseded : List (SeqId × Nat)) (sender : Sender config)
    (distinct : superseded.Pairwise fun left right => left.1 ≠ right.1)
    (held : ∀ entry ∈ superseded, sender.pending.holder? entry.1 = some entry.2 ∧
      sender.pending.isLatest entry.1 entry.2 = false) :
    Moves sender []
      { sender with
        pending := superseded.foldl (fun table entry => table.release entry.1)
          sender.pending } := by
  apply release_preserves (Moves sender []) _ superseded sender distinct held (.none sender)
  intro before id slot holder late moves
  exact moves.trans (Move.release holder late).moves

theorem pruneBefore_performs (sender : Sender config) (threshold : SeqId) :
    Performs sender ((sender.pruneBefore threshold).2.map .resolved)
      (sender.pruneBefore threshold).1 := by
  have released := release_moves
    ((sender.idsBefore threshold).filter fun entry =>
      !sender.pending.isLatest entry.1 entry.2) sender
    ((pairwise_idsBefore sender threshold).filter _) (by
      intro entry member
      rcases List.mem_filter.mp member with ⟨listed, late⟩
      exact ⟨holder?_of_mem_idsBefore listed, by simpa using late⟩)
  exact released.performs.trans
    (performs_run (fun sender slot => (giveUp_moves .outOfWindow sender slot).performs) _ _)

theorem acknowledge_performs (sender : Sender config) (ack : Acknowledgment)
    (now : Instant) :
    Performs sender ((sender.acknowledge ack now).2.map .resolved)
      (sender.acknowledge ack now).1 := by
  unfold acknowledge
  split
  · rw [List.map_append]
    exact (performs_run (fun sender id => (confirm_moves now sender id).performs) _ _).trans
      (pruneBefore_performs _ _)
  · exact (Moves.none sender).performs

/-- The records after a retransmission: that of the item is touched and counts one
retransmission more. -/
theorem record?_repeated (sender : Sender config) (now : Instant) (slot other : Nat) :
    (sender.repeated now slot).pending.record? other =
      if other = slot then (sender.pending.record? slot).map fun record =>
        { record with
          touchedAt := now
          value := { record.value with
            retransmissions := record.value.retransmissions + 1 } }
      else sender.pending.record? other := by
  simp only [repeated, Table.update, Table.touch]
  rw [Table.record?_modify, Table.record?_modify]
  split
  · next same =>
    rw [same, Option.map_map]
    rfl
  · rfl

/-- An item can be given up on before or after the retransmission of another one is
noted. -/
theorem giveUp_repeated (sender : Sender config) (now : Instant) {slot other : Nat}
    (different : other ≠ slot) (reason : GiveUpReason) :
    giveUp reason (sender.repeated now slot) other =
      ((giveUp reason sender other).1.repeated now slot, (giveUp reason sender other).2) := by
  have same := sender.record?_repeated now slot other
  rw [if_neg different] at same
  cases found : sender.pending.record? other with
  | none =>
      rw [giveUp_of_vacant found, giveUp_of_vacant (same.trans found)]
  | some record =>
      rw [giveUp_of_found found, giveUp_of_found (same.trans found)]
      simp only [repeated, Table.update, Table.touch]
      rw [Table.remove_modify _ different, Table.remove_modify _ different]
      cases reason <;> rfl

theorem giveUpOrphan_repeated (sender : Sender config) (now : Instant) {slot : Nat}
    {displaced : Option Nat} (different : displaced ≠ some slot) :
    (sender.repeated now slot).giveUpOrphan displaced =
      ((sender.giveUpOrphan displaced).1.repeated now slot,
        (sender.giveUpOrphan displaced).2) := by
  cases displaced with
  | none => rfl
  | some other =>
      have apart : other ≠ slot := fun same => different (congrArg some same)
      have same := sender.record?_repeated now slot other
      rw [if_neg apart] at same
      simp only [giveUpOrphan, same]
      split
      · exact sender.giveUp_repeated now apart .outOfWindow
      · rfl

theorem record?_giveUpOrphan (sender : Sender config) {slot : Nat}
    {displaced : Option Nat} (different : displaced ≠ some slot) :
    (sender.giveUpOrphan displaced).1.pending.record? slot =
      sender.pending.record? slot := by
  cases displaced with
  | none => rfl
  | some other =>
      have apart : slot ≠ other := fun same => different (congrArg some same.symm)
      simp only [giveUpOrphan]
      split
      · cases found : sender.pending.record? other with
        | none => rw [giveUp_of_vacant found]
        | some record =>
            rw [giveUp_of_found found]
            exact (sender.pending.record?_remove other slot).trans (if_neg apart)
      · rfl

/-- A retransmission that can be registered.  An orphan that it makes is given up
on. -/
theorem sendAgain_eq_of_ok {sender : Sender config} {slot : Nat}
    {after : Record PendingItem} {pending : Table PendingItem} {displaced : Option Nat}
    (registered : sender.pending.register sender.nextTransmissionId slot =
      .ok (pending, displaced))
    (found : pending.record? slot = some after) (different : displaced ≠ some slot)
    (now : Instant) :
    sendAgain now sender slot =
      ((((sender.filed pending).repeated now slot).giveUpOrphan displaced).1,
        (((sender.filed pending).repeated now slot).giveUpOrphan displaced).2.map .inr ++
          [.inl ⟨after.primary, after.keys, after.value.payload⟩]) := by
  have kept := (sender.filed pending).record?_giveUpOrphan different
  have noted := ((sender.filed pending).giveUpOrphan displaced).1.record?_repeated now slot slot
  rw [if_pos rfl, kept] at noted
  rw [giveUpOrphan_repeated _ now different]
  simp only [nextTransmissionId] at registered
  simp only [repeated, filed, SeqId.Generator.draw, found, Option.map_some] at noted ⊢
  simp only [sendAgain, SeqId.Generator.draw, registered, noted]

/-- What a visit to a slot can do.  Either there is nothing to do yet, or the item is given up
on, or it is sent again.  That it cannot be registered does not happen in a run. -/
inductive Visit (timeout : Duration) (now : Instant) (sender : Sender config) (slot : Nat) :
    Sender config × List (Segment ⊕ SendEvent) → Prop where
  | idle (early : ∀ {record}, sender.pending.record? slot = some record →
        now.since record.touchedAt < timeout) :
      Visit timeout now sender slot (sender, [])
  | giveUp {record : Record PendingItem} (reason : GiveUpReason)
      (found : sender.pending.record? slot = some record) :
      Visit timeout now sender slot
        ((giveUp reason sender slot).1, (giveUp reason sender slot).2.map .inr)
  | forfeit {record : Record PendingItem} {error : CapacityError}
      (found : sender.pending.record? slot = some record)
      (allowed : record.value.retransmissions < config.retransmitLimit)
      (refused : sender.pending.register sender.nextTransmissionId slot = .error error) :
      Visit timeout now sender slot
        ((Sender.giveUp .retransmitLimit (sender.filed sender.pending) slot).1,
          (Sender.giveUp .retransmitLimit (sender.filed sender.pending) slot).2.map .inr)
  | again {before after : Record PendingItem} {pending : Table PendingItem}
      {displaced : Option Nat} (found : sender.pending.record? slot = some before)
      (waited : timeout ≤ now.since before.touchedAt)
      (allowed : before.value.retransmissions < config.retransmitLimit)
      (registered : sender.pending.register sender.nextTransmissionId slot =
        .ok (pending, displaced))
      (filed : pending.record? slot = some after) (different : displaced ≠ some slot) :
      Visit timeout now sender slot
        ((((sender.filed pending).repeated now slot).giveUpOrphan displaced).1,
          (((sender.filed pending).repeated now slot).giveUpOrphan displaced).2.map .inr ++
            [.inl ⟨after.primary, after.keys, after.value.payload⟩])

theorem revisit_cases (timeout : Duration) (now : Instant) (sender : Sender config)
    (slot : Nat) : Visit timeout now sender slot (revisit timeout now sender slot) := by
  cases found : sender.pending.record? slot with
  | none =>
      simp only [revisit, found]
      refine .idle fun there => ?_
      cases found.symm.trans there
  | some record =>
      simp only [revisit, found]
      split
      · exact .giveUp .queueTimeout found
      split
      · next early =>
        refine .idle fun there => ?_
        cases found.symm.trans there
        exact early
      split
      · exact .giveUp .retransmitLimit found
      next early often =>
      have waited := Nat.le_of_not_lt early
      have allowed := Nat.lt_of_not_le often
      cases registered : sender.pending.register sender.nextTransmissionId slot with
      | error error =>
          have forfeit : Visit timeout now sender slot _ := .forfeit found allowed registered
          simp only [nextTransmissionId] at registered
          simp only [sendAgain, SeqId.Generator.draw, registered]
          exact forfeit
      | ok answer =>
          rcases answer with ⟨pending, displaced⟩
          rcases Table.record?_filed registered found with ⟨after, filed, different⟩
          rw [sendAgain_eq_of_ok registered filed different now]
          exact .again found waited allowed registered filed different

theorem revisit_performs (timeout : Duration) (now : Instant) (sender : Sender config)
    (slot : Nat) :
    Performs sender
      ((revisit timeout now sender slot).2.map (Sum.elim Output.resent Output.resolved))
      (revisit timeout now sender slot).1 := by
  have visit := revisit_cases timeout now sender slot
  generalize revisit timeout now sender slot = answer at visit ⊢
  cases visit with
  | idle early => exact (Moves.none sender).performs
  | giveUp reason found =>
      rw [List.map_map]
      exact (giveUp_moves reason sender slot).performs
  | forfeit found allowed refused =>
      have forfeit := (Move.forfeit found allowed refused).moves.performs
      have given := (giveUp_moves .retransmitLimit (sender.filed sender.pending) slot).performs
      rw [List.map_map]
      exact forfeit.trans given
  | @again _ _ pending displaced found waited allowed registered filed different =>
      have again := (Move.again now found allowed registered filed).moves.performs
      have orphan := (giveUpOrphan_moves ((sender.filed pending).repeated now slot)
        displaced).performs
      rw [List.map_append, List.map_map]
      exact (again.trans orphan).of_alike (alike_segment_first rfl _).symm

theorem retransmit_performs (sender : Sender config) (now : Instant) :
    Performs sender
      ((sender.retransmit now).2.1.map .resent ++ (sender.retransmit now).2.2.map .resolved)
      (sender.retransmit now).1 :=
  (performs_run (revisit_performs sender.timeout now) sender sender.oldestFirst).of_alike
    (alike_parts _)

/-- A call consists of moves. -/
theorem step_performs (sender : Sender config) (call : Call) :
    Performs sender (step sender call).2 (step sender call).1 := by
  cases call with
  | send payload now =>
      simp only [step]
      split
      · exact (Moves.none sender).performs
      · next accepted => exact send_performs accepted
  | acknowledge ack now => exact acknowledge_performs sender ack now
  | retransmit now => exact retransmit_performs sender now

theorem run_performs (sender : Sender config) (calls : List Call) :
    Performs sender (Transition.run step sender calls).2
      (Transition.run step sender calls).1 := by
  have each : ∀ (sender : Sender config) call,
      Performs sender ((step sender call).2.map id) (step sender call).1 := by
    intro sender call
    rw [List.map_id]
    exact step_performs sender call
  have performs := performs_run each sender calls
  rwa [List.map_id] at performs

/-! ## Agreement of the pending items -/

theorem Move.agrees {before after : Sender config} {outputs : List Output}
    (agrees : before.pending.Agrees) (move : Move before outputs after) :
    after.pending.Agrees := by
  cases move with
  | giveUp reason found =>
      rw [giveUp_of_found found]
      exact agrees.remove _
  | confirm now holder found =>
      rw [pending_confirm holder found now]
      exact agrees.remove _
  | release holder superseded => exact agrees.release _
  | takeOn fits registered => exact (agrees.create _ _ _).register registered
  | again now found allowed registered filed =>
      refine Table.Agrees.modify ?_ _ _ fun _ => rfl
      exact (agrees.register registered).modify _ _ fun _ => rfl
  | forfeit found allowed refused => exact agrees

theorem Moves.agrees {before after : Sender config} {outputs : List Output}
    (moves : Moves before outputs after) (agrees : before.pending.Agrees) :
    after.pending.Agrees := by
  induction moves with
  | none => exact agrees
  | next move _ ih => exact ih (move.agrees agrees)

/-- In every state that a run reaches, the index of transmission ids and the pending
items agree. -/
theorem agrees_reached (config : Config) (calls : List Call) :
    (reached config calls).pending.Agrees := by
  rcases run_performs (start config) calls with ⟨actual, moves, _⟩
  exact moves.agrees Table.agrees_empty

end Sender

end ReliableDatagram
