import ReliableDatagram.Proofs.Peer.Runs

/-!
# What fails leaves no trace

An operation of a peer can fail at three depths: a datagram holds no unit, an item has no
bytes or too many of them, or the link refuses a datagram in the middle of a flush.  A failure
leaves the peer as it was, but for the count of malformed datagrams and the segments that
left in the datagrams before (`failures_leave_no_trace`).

`send` answers with a new state only when it succeeds.  `attempt` does the same work in place and
keeps what was done before a failure: the items given up on and the ids drawn for an item that
cannot be filed.  That it never has to is `attempt_eq`.
-/

namespace ReliableDatagram

/-! ## Refusals -/

namespace Link

/-- The cause for which the datagram after the next `index` ones will be refused, if it will. -/
def refusing? (link : Link) (index : Nat) : Option String := link.refusals[index]?.join

theorem refusal?_eq_some {refusals : List (Option String)} {count index : Nat} {cause : String}
    (less : index < count) (willing : ∀ earlier < index, refusals[earlier]?.join = none)
    (refused : refusals[index]?.join = some cause) :
    refusal? refusals count = some (index, cause) := by
  induction count generalizing refusals index with
  | zero => cases less
  | succ count ih =>
      rw [refusal?, List.head?_eq_getElem?]
      cases index with
      | zero => rw [refused]
      | succ index =>
          have later : refusal? refusals.tail count = some (index, cause) := by
            refine ih (Nat.lt_of_succ_lt_succ less) (fun earlier before => ?_) ?_
            · rw [List.getElem?_tail]
              exact willing (earlier + 1) (Nat.succ_lt_succ before)
            · rwa [List.getElem?_tail]
          rw [willing 0 (Nat.zero_lt_succ index), later]
          rfl

theorem refusal?_eq_none {refusals : List (Option String)} {count : Nat}
    (willing : ∀ index < count, refusals[index]?.join = none) :
    refusal? refusals count = none := by
  induction count generalizing refusals with
  | zero => rfl
  | succ count ih =>
      have later : refusal? refusals.tail count = none := by
        refine ih fun index less => ?_
        rw [List.getElem?_tail]
        exact willing (index + 1) (Nat.succ_lt_succ less)
      rw [refusal?, List.head?_eq_getElem?, willing 0 (Nat.zero_lt_succ count), later]
      rfl

end Link

/-! ## Attempts to send -/

namespace Sender

variable {config : Config}

/-- Take on an item in place.  When its record cannot be filed it is removed again, but the
items that were given up on for it are gone and the two ids are drawn. -/
def attempt (sender : Sender config) (payload : Payload) (now : Instant) :
    Sender config × Except CapacityError (Segment × List SendEvent) :=
  if Capacity.payloadBytes < payload.length then
    (sender, .error (.payloadTooLarge payload.length Capacity.payloadBytes))
  else
    let (sender, evicted) := sender.makeRoom
    let (dataId, dataIds) := sender.dataIds.draw
    let (transmissionId, transmissionIds) := sender.transmissionIds.draw
    let slot := sender.pending.freshSlot
    let created := sender.pending.create dataId ⟨payload, 0, now⟩ now
    match created.register transmissionId slot with
    | .error error =>
        ({ sender with pending := created.remove slot, dataIds, transmissionIds }, .error error)
    | .ok (pending, displaced) =>
        let (sender, orphaned) := (sender.admitted payload pending).giveUpOrphan displaced
        (sender, .ok (⟨dataId, [transmissionId], payload⟩, evicted ++ orphaned))

/-- An item that is too long is refused before anything is done for it. -/
theorem attempt_of_long (sender : Sender config) {payload : Payload}
    (long : Capacity.payloadBytes < payload.length) (now : Instant) :
    sender.attempt payload now =
      (sender, .error (.payloadTooLarge payload.length Capacity.payloadBytes)) :=
  if_pos long

/-- An item that is not too long is filed, for a fresh record has room for its first id. -/
theorem attempt_of_fits (sender : Sender config) {payload : Payload}
    (fits : payload.length ≤ Capacity.payloadBytes) (now : Instant) :
    ∃ after segment events, sender.send payload now = .ok (after, segment, events) ∧
      sender.attempt payload now = (after, .ok (segment, events)) := by
  obtain ⟨pending, displaced, registered, accepted⟩ := sender.send_eq_ok fits now
  refine ⟨_, _, _, accepted, ?_⟩
  simp only [nextDataId, nextTransmissionId] at registered ⊢
  simp only [attempt, if_neg (Nat.not_lt_of_le fits), SeqId.Generator.draw, registered]

end Sender

namespace Peer

variable {Item : Type} {config : Config} {codec : PayloadCodec Item}

/-- Take on an item in place. -/
def attempt (peer : Peer config codec) (item : Item) (now : Instant) :
    Peer config codec × Except PeerError SeqId :=
  match codec.encode item with
  | .error cause => (peer, .error (.codec cause))
  | .ok payload =>
      match peer.sender.attempt payload now with
      | (sender, .error error) => ({ peer with sender }, .error (.capacity error))
      | (sender, .ok (segment, resolved)) =>
          ({ peer with
              sender
              outbox := peer.outbox ++ [segment]
              events := peer.events ++ resolved.filterMap (ofSendEvent codec) },
            .ok segment.dataId)

theorem attempt_of_unencodable (peer : Peer config codec) {item : Item} {cause : String}
    (unencodable : codec.encode item = .error cause) (now : Instant) :
    peer.attempt item now = (peer, .error (.codec cause)) := by
  simp only [attempt, unencodable]

theorem attempt_of_long (peer : Peer config codec) {item : Item} {payload : Payload}
    (encoded : codec.encode item = .ok payload)
    (long : Capacity.payloadBytes < payload.length) (now : Instant) :
    peer.attempt item now =
      (peer, .error (.capacity (.payloadTooLarge payload.length Capacity.payloadBytes))) := by
  simp only [attempt, encoded, peer.sender.attempt_of_long long now]

theorem attempt_of_fits (peer : Peer config codec) {item : Item} {payload : Payload}
    (encoded : codec.encode item = .ok payload)
    (fits : payload.length ≤ Capacity.payloadBytes) (now : Instant) :
    ∃ after dataId, peer.send item now = .ok (after, dataId) ∧
      peer.attempt item now = (after, .ok dataId) := by
  obtain ⟨sender, segment, events, sent, attempted⟩ := peer.sender.attempt_of_fits fits now
  simp only [send, attempt, encoded, sent, attempted]
  exact ⟨_, _, rfl, rfl⟩

/-- An attempt comes to what `send` answers, and to nothing when it fails. -/
theorem attempt_eq (peer : Peer config codec) (item : Item) (now : Instant) :
    peer.attempt item now =
      match peer.send item now with
      | .ok (after, dataId) => (after, .ok dataId)
      | .error error => (peer, .error error) := by
  cases encoded : codec.encode item with
  | error cause => simp only [peer.attempt_of_unencodable encoded now, send, encoded]
  | ok payload =>
      by_cases long : Capacity.payloadBytes < payload.length
      · simp only [peer.attempt_of_long encoded long now, send, encoded, Sender.send, if_pos long]
      · obtain ⟨after, dataId, sent, attempted⟩ :=
          peer.attempt_of_fits encoded (Nat.le_of_not_lt long) now
        rw [sent, attempted]

/-! ## All operations -/

/-- What a peer does when an operation fails, and that the other operations do not. -/
structure FailsCleanly (peer : Peer config codec) : Prop where
  /-- A datagram that holds no unit is counted and changes nothing else. -/
  malformed : ∀ {datagram error}, WireUnit.decode datagram = .error error → ∀ now,
    peer.receive datagram now =
      ({ peer with
          receiver := { peer.receiver with
            counters := { peer.receiver.counters with
              malformedUnits := peer.receiver.counters.malformedUnits + 1 } } },
        .error (.malformed error))
  received : ∀ {datagram unit}, WireUnit.decode datagram = .ok unit → ∀ now,
    ∃ count, (peer.receive datagram now).2 = .ok count
  /-- An item without bytes changes nothing. -/
  unencodable : ∀ {item cause}, codec.encode item = .error cause → ∀ now,
    peer.attempt item now = (peer, .error (.codec cause))
  /-- An item that is too long changes nothing, even if the queue is full. -/
  long : ∀ {item payload}, codec.encode item = .ok payload →
    Capacity.payloadBytes < payload.length → ∀ now,
      peer.attempt item now =
        (peer, .error (.capacity (.payloadTooLarge payload.length Capacity.payloadBytes)))
  sent : ∀ {item payload}, codec.encode item = .ok payload →
    payload.length ≤ Capacity.payloadBytes → ∀ now, ∃ answer, peer.send item now = .ok answer
  /-- An attempt in place comes to what `send` answers. -/
  attempted : ∀ item now,
    peer.attempt item now =
      match peer.send item now with
      | .ok (after, dataId) => (after, .ok dataId)
      | .error error => (peer, .error error)
  /-- When the link refuses a datagram, the segments of those before it have left the outbox.
  The peer does not change in any other way, so what it owes it still owes. -/
  refused : ∀ (link : Link) {index cause}, index < peer.datagramsDue →
    (∀ earlier < index, link.refusing? earlier = none) → link.refusing? index = some cause →
      peer.flush link =
        ({ peer with outbox := peer.outbox.drop (index * config.segmentsPerUnit) },
          link.after ((peer.framesDue index).map WireUnit.encode) (index + 1),
          .error (.transport cause))
  flushed : ∀ (link : Link), (∀ index < peer.datagramsDue, link.refusing? index = none) →
    (peer.flush link).2.2 = .ok peer.datagramsDue

theorem failsCleanly_of_bounded (valid : config.Valid) {peer : Peer config codec}
    (bounded : ∀ segment ∈ peer.outbox, segment.InBounds) : peer.FailsCleanly where
  malformed malformed now := by simp only [receive, Receiver.ingestDatagram, malformed]
  received decoded now := by
    simp only [receive, Receiver.ingestDatagram, decoded]
    exact ⟨_, rfl⟩
  unencodable := peer.attempt_of_unencodable
  long := peer.attempt_of_long
  sent encoded fits now := by
    obtain ⟨_, _, sent, _⟩ := peer.attempt_of_fits encoded fits now
    exact ⟨_, sent⟩
  attempted := peer.attempt_eq
  refused link index cause less willing refused := by
    rw [flush_eq valid bounded, Link.refusal?_eq_some less willing refused]
  flushed link willing := by
    rw [flush_eq valid bounded, Link.refusal?_eq_none willing]

/-- In every state that a run over a link reaches, an operation that fails leaves the peer as it
was, but for the count of malformed datagrams and for the segments that left in the datagrams
before the one that the link refused. -/
theorem failures_leave_no_trace {peer : Peer config codec}
    (started : start config codec = .ok peer) (refusals : List (Option String))
    (operations : List (Operation Item)) :
    (Transition.run step (peer, ⟨[], refusals⟩) operations).1.1.FailsCleanly := by
  obtain ⟨valid, rfl⟩ := start_eq_ok started
  exact failsCleanly_of_bounded valid
    ((conveys_initial config codec refusals).run valid operations).waiting

/-- Settings that keep two items in flight and send one segment in a datagram. -/
def single : Config := { queueLimit := 2, segmentsPerUnit := 1 }

/-- Bytes of which there is at least one. -/
def nonempty : PayloadCodec Payload where
  encode item := if item.isEmpty then .error "empty" else .ok item
  decode := .ok

/-- Two items, with which the queue is full. -/
def filled : List (Operation Payload) := [.send [1] ⟨0⟩, .send [2] ⟨0⟩]

theorem failures_leave_no_trace_filled :
    start single nonempty = .ok (initial single nonempty) ∧
      let full := (Transition.run step (initial single nonempty, ⟨[], []⟩) filled).1.1
      full.sender.pendingCount = single.queueLimit ∧
        (full.receive [0] ⟨1⟩).1 =
          { full with
            receiver := { full.receiver with
              counters := { full.receiver.counters with malformedUnits := 1 } } } ∧
        full.attempt [] ⟨1⟩ = (full, .error (.codec "empty")) ∧
        full.attempt (List.replicate 65536 0) ⟨1⟩ =
          (full, .error (.capacity (.payloadTooLarge 65536 65535))) ∧
        (full.flush ⟨[], [none, some "down"]⟩).1 =
          { full with outbox := full.outbox.drop 1 } := by
  have started : start single nonempty = .ok (initial single nonempty) := rfl
  have clean := failures_leave_no_trace started [] filled
  obtain ⟨_, malformed⟩ : ∃ error, WireUnit.decode [0] = .error error := ⟨_, rfl⟩
  have long : (List.replicate 65536 (0 : UInt8)).length = 65536 := List.length_replicate
  have encoded : nonempty.encode (List.replicate 65536 0) = .ok (List.replicate 65536 0) := rfl
  have refused : Link.refusing? ⟨[], [none, some "down"]⟩ 1 = some "down" := rfl
  refine ⟨started, by decide +kernel, ?_, clean.unencodable rfl ⟨1⟩, ?_, ?_⟩
  · rw [clean.malformed malformed]
    rfl
  · have answer := clean.long encoded (by rw [long]; decide) ⟨1⟩
    rwa [long] at answer
  · rw [clean.refused _ (by decide +kernel) (by decide) refused]
    rfl

end Peer

end ReliableDatagram
