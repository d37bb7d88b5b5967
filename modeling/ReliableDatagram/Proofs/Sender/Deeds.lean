import ReliableDatagram.Proofs.Sender.Effect
import ReliableDatagram.Proofs.Sender.Naming

/-!
# Deeds: what a call does, and to which slot

An answer names items by their ids, and these start over.  While an item is pending, its slot
is its own, so `entries` repeats the answer to a call with the slot of the item that each part
is about.

A call consists of deeds, as it consists of moves (`deeds_step`).  A `Deed` is a move with its
slot and with what only the call knows: which id confirms an item, and that no item is sent
again before the shortest timeout has passed.  What each deed keeps, a call keeps.
-/

namespace ReliableDatagram

namespace Sender

variable {config : Config} {sender middle after : Sender config} {call : Call}

/-! ## Answers with slots -/

/-- When a call is made. -/
def Call.time : Call → Instant
  | send _ now => now
  | acknowledge _ now => now
  | retransmit now => now

/-- A part of an answer with the slot of the item that it is about. -/
abbrev Entry : Type := Nat × Output

/-- What became of the item in a slot. -/
def about (slot : Nat) (events : List SendEvent) : List Entry :=
  events.map fun event => (slot, .resolved event)

theorem outputs_about (slot : Nat) (events : List SendEvent) :
    (about slot events).map Prod.snd = events.map .resolved := by
  simp [about, Function.comp_def]

/-- A transition that tells the slot of the item that it resolves. -/
def located {ι : Type} (place : Sender config → ι → Option Nat)
    (transition : Transition (Sender config) ι SendEvent) : Transition (Sender config) ι Entry :=
  fun sender input =>
    match transition sender input with
    | (after, events) => (after, about ((place sender input).getD 0) events)

/-- Give up on the item in a slot. -/
def abandon (reason : GiveUpReason) : Transition (Sender config) Nat Entry :=
  located (fun _ slot => some slot) (giveUp reason)

/-- Give up on the oldest item. -/
def evict : Transition (Sender config) Unit Entry :=
  located (fun sender () => sender.oldest?) evictOldest

/-- Resolve the item that holds an acknowledged id. -/
def settle (now : Instant) : Transition (Sender config) SeqId Entry :=
  located (fun sender id => sender.pending.holder? id) (confirm now)

/-- Decide what to do with the item in a slot.  If it goes out again then what is resolved is
the item that held the new id before. -/
def visit (timeout : Duration) (now : Instant) : Transition (Sender config) Nat Entry :=
  fun sender slot =>
    match revisit timeout now sender slot with
    | (after, outputs) =>
        let segments := outputs.filterMap Sum.getLeft?
        let loser :=
          if segments.isEmpty then slot
          else (sender.pending.holder? sender.nextTransmissionId).getD 0
        (after, segments.map (fun segment => (slot, .resent segment)) ++
          about loser (outputs.filterMap Sum.getRight?))

/-- The sender once it has forgotten the superseded ids before a threshold. -/
def released (sender : Sender config) (threshold : SeqId) : Sender config :=
  { sender with
    pending := (sender.supersededBefore threshold).foldl Table.release sender.pending }

/-- Give up on every item whose latest id is before a threshold. -/
def prune (sender : Sender config) (threshold : SeqId) : Sender config × List Entry :=
  Transition.run (abandon .outOfWindow) (sender.released threshold)
    ((sender.condemned threshold).map Prod.fst)

/-- The answer to a call with the slots of the items.  What a call does to one item comes in
the order in which it happens. -/
def entries (sender : Sender config) : Call → List Entry
  | .send payload now =>
      match sender.send payload now with
      | .error _ => []
      | .ok (_, segment, events) =>
          let room := sender.makeRoom.1
          let surplus := sender.pendingCount + 1 - config.queueLimit
          let loser := (room.pending.holder? room.nextTransmissionId).getD 0
          (Transition.run evict sender (List.replicate surplus ())).2 ++
            ([(room.pending.freshSlot, .sent segment)] ++
              about loser (events.drop sender.makeRoom.2.length))
  | .acknowledge ack now =>
      if ack.newest.isAtOrBefore sender.nextTransmissionId.previous then
        let settled := Transition.run (settle now) sender (reportedIds ack)
        settled.2 ++ (settled.1.prune (ack.newest.retreat Acknowledgment.width)).2
      else []
  | .retransmit now => (Transition.run (visit sender.timeout now) sender sender.oldestFirst).2

/-! ## Deeds -/

/-- The least that a call does at once. -/
inductive Deed : Call → Sender config → List Entry → Sender config → Prop where
  | giveUp {call : Call} {sender : Sender config} {slot : Nat} {record : Record PendingItem}
      (reason : GiveUpReason) (found : sender.pending.record? slot = some record) :
      Deed call sender [(slot, .resolved (lossOf reason record))] (giveUp reason sender slot).1
  | confirm {ack : Acknowledgment} {now : Instant} {sender : Sender config} {offset slot : Nat}
      {record : Record PendingItem} (accepted : sender.Accepts ack)
      (reports : ack.Reports offset)
      (nearest : ∀ nearer < offset, ack.Reports nearer →
        sender.pending.holder? (ack.newest.retreat nearer) = none)
      (holder : sender.pending.holder? (ack.newest.retreat offset) = some slot)
      (found : sender.pending.record? slot = some record) :
      Deed (.acknowledge ack now) sender [(slot, .resolved (ackOf record))]
        (confirm now sender (ack.newest.retreat offset)).1
  | release {call : Call} {sender : Sender config} {id : SeqId} {slot : Nat}
      (holder : sender.pending.holder? id = some slot)
      (superseded : sender.pending.isLatest id slot = false) :
      Deed call sender [] { sender with pending := sender.pending.release id }
  | takeOn {sender : Sender config} {payload : Payload} {now : Instant}
      {pending : Table PendingItem} {displaced : Option Nat}
      (fits : payload.length ≤ Capacity.payloadBytes)
      (registered : (sender.pending.create sender.nextDataId ⟨payload, 0, now⟩ now).register
        sender.nextTransmissionId sender.pending.freshSlot = .ok (pending, displaced)) :
      Deed (.send payload now) sender
        [(sender.pending.freshSlot,
          .sent ⟨sender.nextDataId, [sender.nextTransmissionId], payload⟩)]
        (sender.admitted payload pending)
  | again {now : Instant} {sender : Sender config} {slot : Nat}
      {before after : Record PendingItem} {pending : Table PendingItem}
      {displaced : Option Nat} (found : sender.pending.record? slot = some before)
      (waited : config.minTimeout ≤ now.since before.touchedAt)
      (allowed : before.value.retransmissions < config.retransmitLimit)
      (registered : sender.pending.register sender.nextTransmissionId slot =
        .ok (pending, displaced))
      (filed : pending.record? slot = some after) :
      Deed (.retransmit now) sender
        [(slot, .resent ⟨after.primary, after.keys, after.value.payload⟩)]
        ((sender.filed pending).repeated now slot)
  | forfeit {now : Instant} {sender : Sender config} {slot : Nat} {record : Record PendingItem}
      {error : CapacityError} (found : sender.pending.record? slot = some record)
      (allowed : record.value.retransmissions < config.retransmitLimit)
      (refused : sender.pending.register sender.nextTransmissionId slot = .error error) :
      Deed (.retransmit now) sender [] (sender.filed sender.pending)

theorem Deed.move {entries : List Entry} (deed : Deed call sender entries after) :
    Move sender (entries.map Prod.snd) after := by
  cases deed with
  | giveUp reason found => exact .giveUp reason found
  | confirm _ _ _ holder found => exact .confirm _ holder found
  | release holder superseded => exact .release holder superseded
  | takeOn fits registered => exact .takeOn fits registered
  | again found _ allowed registered filed => exact .again _ found allowed registered filed
  | forfeit found allowed refused => exact .forfeit found allowed refused

/-- Any number of deeds, with their entries in order. -/
inductive Deeds (call : Call) : Sender config → List Entry → Sender config → Prop where
  | none (sender : Sender config) : Deeds call sender [] sender
  | next {before middle after : Sender config} {entries more : List Entry}
      (first : Deed call before entries middle) (rest : Deeds call middle more after) :
      Deeds call before (entries ++ more) after

theorem Deed.deeds {entries : List Entry} (deed : Deed call sender entries after) :
    Deeds call sender entries after := by
  have single := Deeds.next deed (.none after)
  rwa [List.append_nil] at single

namespace Deeds

variable {entries more : List Entry}

theorem trans (first : Deeds call sender entries middle)
    (second : Deeds call middle more after) : Deeds call sender (entries ++ more) after := by
  induction first with
  | none => exact second
  | next deed _ ih =>
      rw [List.append_assoc]
      exact .next deed (ih second)

theorem agrees (deeds : Deeds call sender entries after) (agrees : sender.pending.Agrees) :
    after.pending.Agrees := by
  induction deeds with
  | none => exact agrees
  | next deed _ ih => exact ih (deed.move.agrees agrees)

/-- A transition that consists of deeds still does when it is fed many inputs. -/
theorem run {ι : Type} {transition : Transition (Sender config) ι Entry}
    (each : ∀ sender input,
      Deeds call sender (transition sender input).2 (transition sender input).1)
    (sender : Sender config) (inputs : List ι) :
    Deeds call sender (Transition.run transition sender inputs).2
      (Transition.run transition sender inputs).1 := by
  induction inputs generalizing sender with
  | nil => exact .none sender
  | cons input rest ih =>
      rw [Transition.run_cons]
      exact (each sender input).trans (ih _)

end Deeds

/-! ## Every call consists of deeds -/

theorem deeds_giveUp (call : Call) (reason : GiveUpReason) (sender : Sender config)
    (slot : Nat) :
    Deeds call sender (abandon reason sender slot).2 (abandon reason sender slot).1 := by
  simp only [abandon, located, Option.getD_some]
  cases found : sender.pending.record? slot with
  | none =>
      rw [giveUp_of_vacant found]
      exact .none sender
  | some record =>
      have deed : Deed call sender _ _ := .giveUp reason found
      rw [giveUp_of_found found] at deed ⊢
      exact deed.deeds

theorem deeds_giveUpOrphan (call : Call) (sender : Sender config) (displaced : Option Nat) :
    Deeds call sender (about (displaced.getD 0) (sender.giveUpOrphan displaced).2)
      (sender.giveUpOrphan displaced).1 := by
  cases displaced with
  | none => exact .none sender
  | some slot =>
      simp only [giveUpOrphan]
      split
      · exact deeds_giveUp call .outOfWindow sender slot
      · exact .none sender

theorem deeds_evict (call : Call) (sender : Sender config) (input : Unit) :
    Deeds call sender (evict sender input).2 (evict sender input).1 := by
  simp only [evict, located, evictOldest]
  cases sender.oldest? with
  | none => exact .none sender
  | some slot => exact deeds_giveUp call .queueOverflow sender slot

/-- Slots are told beside what happens, and change nothing of it. -/
theorem run_located {ι : Type} (place : Sender config → ι → Option Nat)
    (transition : Transition (Sender config) ι SendEvent) (sender : Sender config)
    (inputs : List ι) :
    (Transition.run (located place transition) sender inputs).1 =
        (Transition.run transition sender inputs).1 ∧
      (Transition.run (located place transition) sender inputs).2.map Prod.snd =
        (Transition.run transition sender inputs).2.map .resolved := by
  induction inputs generalizing sender with
  | nil => exact ⟨rfl, rfl⟩
  | cons input rest ih =>
      obtain ⟨state, outputs⟩ := ih (transition sender input).1
      rw [Transition.run_cons, Transition.run_cons, List.map_append, List.map_append]
      simp only [located, outputs_about] at state outputs ⊢
      exact ⟨state, congrArg _ outputs⟩

/-- A new item comes after those that are given up on to make room, and before the one that
loses its last id to it. -/
theorem entries_send (agrees : sender.pending.Agrees) {payload : Payload}
    (fits : payload.length ≤ Capacity.payloadBytes) (now : Instant) :
    ∃ pending displaced,
      (sender.makeRoom.1.pending.create sender.makeRoom.1.nextDataId ⟨payload, 0, now⟩
        now).register sender.makeRoom.1.nextTransmissionId
          sender.makeRoom.1.pending.freshSlot = .ok (pending, displaced) ∧
      sender.send payload now =
        .ok (((sender.makeRoom.1.admitted payload pending).giveUpOrphan displaced).1,
          ⟨sender.makeRoom.1.nextDataId, [sender.makeRoom.1.nextTransmissionId], payload⟩,
          sender.makeRoom.2 ++
            ((sender.makeRoom.1.admitted payload pending).giveUpOrphan displaced).2) ∧
      sender.entries (.send payload now) =
        (Transition.run evict sender
          (List.replicate (sender.pendingCount + 1 - config.queueLimit) ())).2 ++
        ([(sender.makeRoom.1.pending.freshSlot,
          .sent ⟨sender.makeRoom.1.nextDataId, [sender.makeRoom.1.nextTransmissionId], payload⟩)] ++
        about (displaced.getD 0)
          ((sender.makeRoom.1.admitted payload pending).giveUpOrphan displaced).2) := by
  obtain ⟨pending, displaced, registered, accepted⟩ := sender.send_eq_ok fits now
  have room : sender.makeRoom.1.pending.Agrees := by
    obtain ⟨_, moves, _⟩ := sender.makeRoom_performs
    exact moves.agrees agrees
  obtain ⟨_, _, holder⟩ := room.register_create registered
  refine ⟨pending, displaced, registered, accepted, ?_⟩
  simp only [entries, accepted, List.drop_left, holder]

theorem deeds_send (agrees : sender.pending.Agrees) {payload : Payload}
    (fits : payload.length ≤ Capacity.payloadBytes) (now : Instant) :
    Deeds (.send payload now) sender (sender.entries (.send payload now))
      (step sender (.send payload now)).1 := by
  obtain ⟨pending, displaced, registered, accepted, listed⟩ := entries_send agrees fits now
  have evicted := Deeds.run (deeds_evict (.send payload now)) sender
    (List.replicate (sender.pendingCount + 1 - config.queueLimit) ())
  have same := (run_located (fun sender () => sender.oldest?) evictOldest sender
    (List.replicate (sender.pendingCount + 1 - config.queueLimit) ())).1
  change _ = sender.makeRoom.1 at same
  rw [evict, same] at evicted
  simp only [step, accepted, listed]
  have taken := (Deed.takeOn fits registered).deeds
  exact evicted.trans (taken.trans (deeds_giveUpOrphan _ _ displaced))

/-- The reported ids are met newest first, so an id confirms an item only if no newer
reported id is in use. -/
theorem deeds_settle {ack : Acknowledgment} (now : Instant) (accepted : sender.Accepts ack)
    (agrees : sender.pending.Agrees) {offsets : List Nat}
    (increasing : offsets.Pairwise (· < ·)) (reports : ∀ offset ∈ offsets, ack.Reports offset)
    (met : ∀ offset, ack.Reports offset → offset ∉ offsets →
      sender.pending.holder? (ack.newest.retreat offset) = none) :
    Deeds (.acknowledge ack now) sender
      (Transition.run (settle now) sender (offsets.map ack.newest.retreat)).2
      (Transition.run (settle now) sender (offsets.map ack.newest.retreat)).1 := by
  induction offsets generalizing sender with
  | nil => exact .none sender
  | cons offset rest ih =>
      obtain ⟨farther, increasing⟩ := List.pairwise_cons.mp increasing
      obtain ⟨reported, reports⟩ := List.forall_mem_cons.mp reports
      have nearest : ∀ nearer < offset, ack.Reports nearer →
          sender.pending.holder? (ack.newest.retreat nearer) = none := by
        intro nearer less reported
        apply met nearer reported
        intro member
        cases member with
        | head => exact Nat.lt_irrefl _ less
        | tail _ later => exact Nat.lt_asymm less (farther nearer later)
      rw [List.map_cons, Transition.run_cons]
      cases holder : sender.pending.holder? (ack.newest.retreat offset) with
      | none =>
          have nothing : settle now sender (ack.newest.retreat offset) = (sender, []) := by
            simp [settle, located, confirm, holder, about]
          rw [nothing]
          refine ih accepted agrees increasing reports fun other reported absent => ?_
          by_cases here : other = offset
          · rwa [here]
          · exact met other reported (List.not_mem_cons_of_ne_of_not_mem here absent)
      | some slot =>
          obtain ⟨record, found, listed⟩ := agrees.holder?_eq_some_iff.mp holder
          have deed : Deed (.acknowledge ack now) sender _ _ :=
            .confirm accepted reported nearest holder found
          have settled : settle now sender (ack.newest.retreat offset) =
              ((confirm now sender (ack.newest.retreat offset)).1,
                [(slot, .resolved (ackOf record))]) := by
            simp only [settle, located, holder, Option.getD_some, outputs_confirm holder found]
            rfl
          rw [settled]
          refine deed.deeds.trans (ih ?_ (agrees_confirm agrees now _) increasing reports ?_)
          · rwa [Accepts, nextTransmissionId, (ids_confirm now sender _).2]
          · intro other reported absent
            rw [pending_confirm holder found now, Table.holder?_remove found]
            split
            · rfl
            · next unlisted =>
              have apart : other ≠ offset := fun same => unlisted (same ▸ listed)
              exact met other reported (List.not_mem_cons_of_ne_of_not_mem apart absent)

theorem deeds_released (call : Call) (sender : Sender config) (threshold : SeqId) :
    Deeds call sender [] (sender.released threshold) := by
  rw [released, supersededBefore, List.foldl_map]
  apply release_preserves (Deeds call sender []) _ _ sender
    ((pairwise_idsBefore sender threshold).filter _) _ (.none sender)
  · intro before id slot holder late deeds
    exact deeds.trans (Deed.release holder late).deeds
  · intro entry member
    obtain ⟨listed, late⟩ := List.mem_filter.mp member
    exact ⟨holder?_of_mem_idsBefore listed, by simpa using late⟩

theorem prune_eq (sender : Sender config) (threshold : SeqId) :
    (sender.prune threshold).1 = (sender.pruneBefore threshold).1 ∧
      (sender.prune threshold).2.map Prod.snd =
        (sender.pruneBefore threshold).2.map .resolved := by
  rw [pruneBefore_eq]
  exact run_located _ _ _ _

theorem deeds_prune (call : Call) (sender : Sender config) (threshold : SeqId) :
    Deeds call sender (sender.prune threshold).2 (sender.prune threshold).1 := by
  have given := Deeds.run (deeds_giveUp call .outOfWindow) (sender.released threshold)
    ((sender.condemned threshold).map Prod.fst)
  exact (deeds_released call sender threshold).trans given

theorem entries_acknowledge {ack : Acknowledgment} (accepted : sender.Accepts ack)
    (now : Instant) :
    sender.entries (.acknowledge ack now) =
      (Transition.run (settle now) sender (reportedIds ack)).2 ++
        ((Transition.run (settle now) sender (reportedIds ack)).1.prune
          (ack.newest.retreat Acknowledgment.width)).2 :=
  if_pos accepted

theorem run_settle (now : Instant) (sender : Sender config) (ids : List SeqId) :
    (Transition.run (settle now) sender ids).1 =
        (Transition.run (confirm now) sender ids).1 ∧
      (Transition.run (settle now) sender ids).2.map Prod.snd =
        (Transition.run (confirm now) sender ids).2.map .resolved :=
  run_located _ _ _ _

theorem deeds_acknowledge (agrees : sender.pending.Agrees) (ack : Acknowledgment)
    (now : Instant) :
    Deeds (.acknowledge ack now) sender (sender.entries (.acknowledge ack now))
      (sender.acknowledge ack now).1 := by
  by_cases accepted : sender.Accepts ack
  · have settled := deeds_settle now accepted agrees ack.pairwise_offsets
      (fun _ member => Acknowledgment.mem_offsets.mp member)
      fun _ reports absent => absurd (Acknowledgment.mem_offsets.mpr reports) absent
    rw [← reportedIds_eq] at settled
    rw [entries_acknowledge accepted, acknowledge_of_accepts accepted,
      ← (run_settle now sender (reportedIds ack)).1, ← (prune_eq _ _).1]
    exact settled.trans (deeds_prune _ _ _)
  · have none : sender.entries (.acknowledge ack now) = [] := if_neg accepted
    rw [none, acknowledge_of_not_accepts accepted]
    exact .none sender

theorem filterMap_getRight?_inr (events : List SendEvent) :
    (events.map (Sum.inr : SendEvent → Segment ⊕ SendEvent)).filterMap Sum.getRight? =
      events := by
  simp [List.filterMap_map, Function.comp_def]

theorem visit_of_events {timeout : Duration} {now : Instant} {slot : Nat}
    {events : List SendEvent}
    (revisited : revisit timeout now sender slot = (after, events.map .inr)) :
    visit timeout now sender slot = (after, about slot events) := by
  simp only [visit, revisited, filterMap_getLeft?_inr, filterMap_getRight?_inr]
  rfl

theorem visit_of_segment {timeout : Duration} {now : Instant} {slot : Nat}
    {events : List SendEvent} {segment : Segment}
    (revisited : revisit timeout now sender slot = (after, events.map .inr ++ [.inl segment])) :
    visit timeout now sender slot = (after, [(slot, .resent segment)] ++
      about ((sender.pending.holder? sender.nextTransmissionId).getD 0) events) := by
  have left : ([.inl segment] : List (Segment ⊕ SendEvent)).filterMap Sum.getLeft? =
    [segment] := rfl
  have right : ([.inl segment] : List (Segment ⊕ SendEvent)).filterMap Sum.getRight? = [] := rfl
  simp only [visit, revisited, List.filterMap_append, filterMap_getLeft?_inr,
    filterMap_getRight?_inr, left, right, List.nil_append, List.append_nil]
  rfl

/-- An item is sent again only when it has waited.  One that cannot be is given up on. -/
theorem deeds_visit {timeout : Duration} (patient : config.minTimeout ≤ timeout) (now : Instant)
    (sender : Sender config) (slot : Nat) :
    Deeds (.retransmit now) sender (visit timeout now sender slot).2
      (visit timeout now sender slot).1 := by
  have visit := revisit_cases timeout now sender slot
  generalize revisited : revisit timeout now sender slot = answer at visit
  cases visit with
  | idle early =>
      have nothing : revisit timeout now sender slot = (sender, ([] : List SendEvent).map .inr) :=
        revisited
      rw [visit_of_events nothing]
      exact .none sender
  | giveUp reason found =>
      rw [visit_of_events revisited]
      exact deeds_giveUp (.retransmit now) reason sender slot
  | forfeit found allowed refused =>
      have forfeit : Deed (.retransmit now) sender [] _ := .forfeit found allowed refused
      rw [visit_of_events revisited]
      exact forfeit.deeds.trans
        (deeds_giveUp (.retransmit now) .retransmitLimit (sender.filed sender.pending) slot)
  | @again _ _ pending displaced found waited allowed registered filed different =>
      have again : Deed (.retransmit now) sender _ _ :=
        .again found (Nat.le_trans patient waited) allowed registered filed
      have orphan := deeds_giveUpOrphan (.retransmit now)
        ((sender.filed pending).repeated now slot) displaced
      rw [visit_of_segment revisited]
      refine again.deeds.trans ?_
      obtain ⟨_, _, rfl⟩ | ⟨_, _, _, _, _, rfl⟩ := Table.register_eq_ok registered
      · exact .none _
      · exact orphan

theorem alike_visit (timeout : Duration) (now : Instant) (sender : Sender config) (slot : Nat) :
    Alike ((visit timeout now sender slot).2.map Prod.snd)
      ((revisit timeout now sender slot).2.map (Sum.elim .resent .resolved)) := by
  have parts := alike_parts (revisit timeout now sender slot).2
  simp only [visit, List.map_append, outputs_about, List.map_map, Function.comp_def]
  exact parts.symm

theorem run_visit (timeout : Duration) (now : Instant) (sender : Sender config)
    (slots : List Nat) :
    (Transition.run (visit timeout now) sender slots).1 =
        (Transition.run (revisit timeout now) sender slots).1 ∧
      Alike ((Transition.run (visit timeout now) sender slots).2.map Prod.snd)
        ((Transition.run (revisit timeout now) sender slots).2.map
          (Sum.elim .resent .resolved)) := by
  induction slots generalizing sender with
  | nil => exact ⟨rfl, .refl []⟩
  | cons slot rest ih =>
      obtain ⟨state, alike⟩ := ih (revisit timeout now sender slot).1
      rw [Transition.run_cons, Transition.run_cons, List.map_append, List.map_append]
      exact ⟨state, (alike_visit timeout now sender slot).append alike⟩

theorem deeds_step (ordered : config.minTimeout ≤ config.maxTimeout)
    (agrees : sender.pending.Agrees) (call : Call) :
    Deeds call sender (sender.entries call) (step sender call).1 := by
  cases call with
  | send payload now =>
      by_cases fits : payload.length ≤ Capacity.payloadBytes
      · exact deeds_send agrees fits now
      · have refused : sender.send payload now = .error _ := if_pos (Nat.lt_of_not_le fits)
        simp only [entries, step, refused]
        exact .none sender
  | acknowledge ack now => exact deeds_acknowledge agrees ack now
  | retransmit now =>
      have patient := RoundTrip.minTimeout_le_timeout config sender.roundTrip ordered
      have visited := Deeds.run (deeds_visit patient now) sender sender.oldestFirst
      rw [(run_visit _ now sender sender.oldestFirst).1] at visited
      exact visited

/-- The entries of a call are its answer, up to interleaving. -/
theorem alike_entries (agrees : sender.pending.Agrees) (call : Call) :
    Alike ((sender.entries call).map Prod.snd) (step sender call).2 := by
  cases call with
  | send payload now =>
      by_cases fits : payload.length ≤ Capacity.payloadBytes
      · obtain ⟨pending, displaced, _, accepted, listed⟩ := entries_send agrees fits now
        have evicted := (run_located (fun sender () => sender.oldest?) evictOldest sender
          (List.replicate (sender.pendingCount + 1 - config.queueLimit) ())).2
        change (Transition.run evict _ _).2.map _ = sender.makeRoom.2.map _ at evicted
        rw [listed, List.map_append, List.map_append, evicted, outputs_about]
        simp only [step, accepted, List.map_append]
        rw [← List.append_assoc]
        exact (alike_segment_first rfl sender.makeRoom.2).append (.refl _)
      · have refused : sender.send payload now = .error _ := if_pos (Nat.lt_of_not_le fits)
        simp only [entries, step, refused]
        exact .refl []
  | acknowledge ack now =>
      by_cases accepted : sender.Accepts ack
      · have settled := run_settle now sender (reportedIds ack)
        have pruned := prune_eq (Transition.run (confirm now) sender (reportedIds ack)).1
          (ack.newest.retreat Acknowledgment.width)
        simp only [step, entries_acknowledge accepted, acknowledge_of_accepts accepted,
          List.map_append, settled, pruned]
        exact .refl _
      · have none : sender.entries (.acknowledge ack now) = [] := if_neg accepted
        simp only [none, step, acknowledge_of_not_accepts accepted]
        exact .refl []
  | retransmit now =>
      exact (run_visit sender.timeout now sender sender.oldestFirst).2.trans (alike_parts _)

end Sender

end ReliableDatagram
