import ReliableDatagram.Proofs.Peer.Outbox
import ReliableDatagram.Proofs.Transition

/-!
# Runs of a peer over a link

A run interleaves everything that can be asked of a peer, over a link that refuses whichever
datagrams it will.  What the sender gives to the outbox in a run leaves it in order: the
accepted datagrams carry the front of it, and the rest still waits (`Conveys`).

The sender gives segments within bounds only, so no flush fails for a segment that cannot be
framed, and `flush_eq` describes each of them.
-/

namespace ReliableDatagram

namespace Peer

variable {Item : Type} {config : Config} {codec : PayloadCodec Item}

/-! ## Runs -/

/-- Something asked of a peer. -/
inductive Operation (Item : Type) where
  | send (item : Item) (now : Instant)
  | tick (now : Instant)
  | flush
  | receive (datagram : Datagram) (now : Instant)
  | drain

/-- The peer and its link after an operation. -/
def perform : Peer config codec × Link → Operation Item → Peer config codec × Link
  | (peer, link), .send item now =>
      match peer.send item now with
      | .error _ => (peer, link)
      | .ok (after, _) => (after, link)
  | (peer, link), .tick now => ((peer.tick now).1, link)
  | (peer, link), .flush => ((peer.flush link).1, (peer.flush link).2.1)
  | (peer, link), .receive datagram now => ((peer.receive datagram now).1, link)
  | (peer, link), .drain => (peer.drain.1, link)

/-- The segments that the sender of a peer answers with when an operation is performed. -/
def segmentsGiven (peer : Peer config codec) : Operation Item → List Segment
  | .send item now =>
      match codec.encode item with
      | .error _ => []
      | .ok payload =>
          match peer.sender.send payload now with
          | .error _ => []
          | .ok (_, segment, _) => [segment]
  | .tick now => (peer.sender.retransmit now).2.1
  | .flush => []
  | .receive _ _ => []
  | .drain => []

/-- An operation as a step of a run. -/
def step : Transition (Peer config codec × Link) (Operation Item) Segment :=
  fun state operation => (perform state operation, state.1.segmentsGiven operation)

/-! ## What the datagrams carry -/

/-- The accepted datagrams carry the segments that were given, up to those that still
wait. -/
structure Conveys (peer : Peer config codec) (link : Link) (given : List Segment) : Prop where
  sender : peer.sender.Bounded
  waiting : ∀ segment ∈ peer.outbox, segment.InBounds
  carried : ∃ units : List WireUnit, link.accepted = units.map WireUnit.encode ∧
    (∀ unit ∈ units, unit.InBounds ∧ unit.segments.length ≤ config.segmentsPerUnit) ∧
    given = units.flatMap (·.segments) ++ peer.outbox

theorem conveys_initial (config : Config) (codec : PayloadCodec Item)
    (refusals : List (Option String)) :
    (initial config codec).Conveys ⟨[], refusals⟩ [] where
  sender := Sender.bounded_start config
  waiting := nofun
  carried := ⟨[], rfl, nofun, rfl⟩

namespace Conveys

variable {peer : Peer config codec} {link : Link} {given : List Segment}

theorem append (conveys : peer.Conveys link given) {after : Peer config codec}
    {more : List Segment} (sender : after.sender.Bounded)
    (joined : after.outbox = peer.outbox ++ more)
    (bounded : ∀ segment ∈ more, segment.InBounds) :
    after.Conveys link (given ++ more) where
  sender := sender
  waiting := by
    rw [joined]
    exact List.forall_mem_append.mpr ⟨conveys.waiting, bounded⟩
  carried := by
    rcases conveys.carried with ⟨units, accepted, framed, rfl⟩
    exact ⟨units, accepted, framed, by rw [joined, List.append_assoc]⟩

/-- Segments leave the outbox at its front, in frames. -/
theorem sendFrames (conveys : peer.Conveys link given) (valid : config.Valid)
    {after : Peer config codec} (count offered : Nat) (sender : after.sender = peer.sender)
    (left : after.outbox = peer.outbox.drop (count * config.segmentsPerUnit)) :
    after.Conveys (link.after ((peer.framesDue count).map WireUnit.encode) offered) given where
  sender := sender ▸ conveys.sender
  waiting segment member := by
    rw [left] at member
    exact conveys.waiting segment (List.mem_of_mem_drop member)
  carried := by
    rcases conveys.carried with ⟨units, accepted, framed, rfl⟩
    refine ⟨units ++ peer.framesDue count, ?_, ?_, ?_⟩
    · rw [Link.after, accepted, List.map_append]
    · refine List.forall_mem_append.mpr ⟨framed, ?_⟩
      intro unit member
      exact ⟨inBounds_of_mem_framesDue valid conveys.waiting member, (of_mem_frames member).2.1⟩
    · rw [left, List.flatMap_append, List.append_assoc, framesDue, flatMap_frames]

theorem send (conveys : peer.Conveys link given) (item : Item) (now : Instant) :
    (perform (peer, link) (.send item now)).1.Conveys link
      (given ++ peer.segmentsGiven (.send item now)) := by
  simp only [perform, Peer.send, segmentsGiven]
  cases codec.encode item with
  | error cause => simpa using conveys
  | ok payload =>
      cases accepted : peer.sender.send payload now with
      | error error => simpa [accepted] using conveys
      | ok answer =>
          rcases answer with ⟨sender, segment, resolved⟩
          rcases conveys.sender.performs (Sender.send_performs accepted) with ⟨kept, bounded⟩
          rw [Sender.transmitted_sent] at bounded
          simp only [accepted]
          exact conveys.append kept rfl bounded

theorem tick (conveys : peer.Conveys link given) (now : Instant) :
    (peer.tick now).1.Conveys link (given ++ (peer.sender.retransmit now).2.1) := by
  rcases conveys.sender.performs (peer.sender.retransmit_performs now) with ⟨kept, bounded⟩
  rw [Sender.transmitted_resent] at bounded
  exact conveys.append kept rfl bounded

theorem flush (conveys : peer.Conveys link given) (valid : config.Valid) :
    (peer.flush link).1.Conveys (peer.flush link).2.1 given := by
  rw [flush_eq valid conveys.waiting]
  cases Link.refusal? link.refusals peer.datagramsDue with
  | some first => exact conveys.sendFrames valid _ _ rfl rfl
  | none =>
      exact conveys.sendFrames valid _ _ rfl (drop_datagramsDue valid peer).symm

theorem receive (conveys : peer.Conveys link given) (datagram : Datagram) (now : Instant) :
    (peer.receive datagram now).1.Conveys link given := by
  have same : (peer.receive datagram now).1.outbox = peer.outbox ++ [] ∧
      (peer.receive datagram now).1.sender.Bounded := by
    rw [List.append_nil]
    simp only [Peer.receive]
    split
    · exact ⟨rfl, conveys.sender⟩
    · next incoming _ =>
      exact ⟨rfl, (conveys.sender.performs
        (peer.sender.acknowledge_performs incoming.ack now)).1⟩
  have kept := conveys.append same.2 same.1 nofun
  rwa [List.append_nil] at kept

theorem step (conveys : peer.Conveys link given) (valid : config.Valid)
    (operation : Operation Item) :
    (Peer.step (peer, link) operation).1.1.Conveys (Peer.step (peer, link) operation).1.2
      (given ++ (Peer.step (peer, link) operation).2) := by
  cases operation with
  | send item now =>
      have sent := conveys.send item now
      simp only [Peer.step]
      have same : (perform (peer, link) (.send item now)).2 = link := by
        simp only [perform]
        split
        · rfl
        · rfl
      rwa [same]
  | tick now => exact conveys.tick now
  | flush =>
      simp only [Peer.step, perform, segmentsGiven, List.append_nil]
      exact conveys.flush valid
  | receive datagram now =>
      simp only [Peer.step, perform, segmentsGiven, List.append_nil]
      exact conveys.receive datagram now
  | drain =>
      have kept : peer.drain.1.Conveys link given :=
        ⟨conveys.sender, conveys.waiting, conveys.carried⟩
      simpa only [Peer.step, perform, segmentsGiven, List.append_nil] using kept

theorem run (conveys : peer.Conveys link given) (valid : config.Valid)
    (operations : List (Operation Item)) :
    (Transition.run Peer.step (peer, link) operations).1.1.Conveys
      (Transition.run Peer.step (peer, link) operations).1.2
      (given ++ (Transition.run Peer.step (peer, link) operations).2) := by
  have each : ∀ {state : Peer config codec × Link} {past : List Segment}
      (operation : Operation Item), state.1.Conveys state.2 past →
        (Peer.step state operation).1.1.Conveys (Peer.step state operation).1.2
          (past ++ (Peer.step state operation).2) :=
    fun operation kept => kept.step valid operation
  exact Transition.run_keeps
    (fun (state : Peer config codec × Link) past => state.1.Conveys state.2 past) each
    operations conveys

/-- The datagrams can be read, and carry the segments in order. -/
theorem read (conveys : peer.Conveys link given) :
    ∃ units : List WireUnit, link.accepted.map WireUnit.decode = units.map .ok ∧
      (∀ unit ∈ units, unit.segments.length ≤ config.segmentsPerUnit) ∧
      given = units.flatMap (·.segments) ++ peer.outbox := by
  rcases conveys.carried with ⟨units, accepted, framed, split⟩
  refine ⟨units, ?_, fun unit member => (framed unit member).2, split⟩
  rw [accepted, List.map_map]
  apply List.map_congr_left
  intro unit member
  exact WireUnit.decode_encode (framed unit member).1

end Conveys

theorem start_eq_ok {peer : Peer config codec} (started : start config codec = .ok peer) :
    config.Valid ∧ peer = initial config codec := by
  unfold start at started
  cases validated : config.validate with
  | error error =>
      rw [validated] at started
      cases started
  | ok =>
      rw [validated] at started
      cases started
      exact ⟨Config.validate_eq_ok_iff.mp validated, rfl⟩

/-- What a flush comes to. -/
structure Settles (peer : Peer config codec) (link : Link) : Prop where
  /-- When the link refuses none of the datagrams that are due, they are sent and nothing
  waits any longer. -/
  sent : Link.refusal? link.refusals peer.datagramsDue = none →
    (peer.flush link).2.2 = .ok peer.datagramsDue ∧
      (peer.flush link).2.1.accepted =
        link.accepted ++ (peer.framesDue peer.datagramsDue).map WireUnit.encode ∧
      (peer.framesDue peer.datagramsDue).length = peer.datagramsDue ∧
      (peer.flush link).1.outbox = []
  /-- When it refuses one, those before it are sent and the other segments wait. -/
  refused : ∀ {index cause},
    Link.refusal? link.refusals peer.datagramsDue = some (index, cause) →
      (peer.flush link).2.2 = .error (.transport cause) ∧
        (peer.flush link).2.1.accepted =
          link.accepted ++ (peer.framesDue index).map WireUnit.encode ∧
        (peer.flush link).1.outbox = peer.outbox.drop (index * config.segmentsPerUnit)
  /-- The rounds suffice, for any more of them change nothing. -/
  finished : ∀ more, sendOutbox peer.receiver.acknowledgment config.segmentsPerUnit
      (max 1 peer.outbox.length + more) peer.outbox link 0 =
    sendOutbox peer.receiver.acknowledgment config.segmentsPerUnit
      (max 1 peer.outbox.length) peer.outbox link 0

theorem Conveys.settles {peer : Peer config codec} {link : Link} {given : List Segment}
    (conveys : peer.Conveys link given) (valid : config.Valid) (other : Link) :
    peer.Settles other where
  sent willing := by
    rw [flush_eq valid conveys.waiting, willing]
    exact ⟨rfl, rfl, length_frames _ _ _ _, rfl⟩
  refused stopped := by
    rw [flush_eq valid conveys.waiting, stopped]
    exact ⟨rfl, rfl, rfl⟩
  finished more := sendOutbox_add_rounds valid.segmentsPerUnit_pos valid.segmentsPerUnit_le
    conveys.waiting _ more other 0

/-- Whatever is asked of a peer and whichever datagrams the link refuses, the segments that
its sender gives leave in order, each once and as they are, and what the accepted datagrams
do not carry still waits.  No datagram carries more segments than it may.  Each flush ends,
with all datagrams that are due or at the first that the link refuses. -/
theorem segments_leave_in_order {peer : Peer config codec}
    (started : start config codec = .ok peer) (refusals : List (Option String))
    (operations : List (Operation Item)) :
    let reached := Transition.run step (peer, ⟨[], refusals⟩) operations
    (∃ units : List WireUnit,
      reached.1.2.accepted.map WireUnit.decode = units.map .ok ∧
      (∀ unit ∈ units, unit.segments.length ≤ config.segmentsPerUnit) ∧
      reached.2 = units.flatMap (·.segments) ++ reached.1.1.outbox) ∧
    ∀ link, reached.1.1.Settles link := by
  rcases start_eq_ok started with ⟨valid, rfl⟩
  have conveys := (conveys_initial config codec refusals).run valid operations
  exact ⟨conveys.read, conveys.settles valid⟩

/-- Three items, of which a flush sends the first, because the link refuses the second. -/
def interrupted : List (Operation Payload) :=
  [.send [1] ⟨0⟩, .send [2] ⟨0⟩, .send [3] ⟨0⟩, .flush]

theorem segments_leave_in_order_interrupted :
    start { segmentsPerUnit := 1 } .raw = .ok (initial { segmentsPerUnit := 1 } .raw) ∧
      let reached := Transition.run step
        (initial { segmentsPerUnit := 1 } .raw, ⟨[], [none, some "down"]⟩) interrupted
      reached.1.2.accepted.length = 1 ∧ reached.1.1.outbox.map (·.payload) = [[2], [3]] ∧
        (∃ units : List WireUnit,
          reached.1.2.accepted.map WireUnit.decode = units.map .ok ∧
          (∀ unit ∈ units, unit.segments.length ≤ 1) ∧
          reached.2 = units.flatMap (·.segments) ++ reached.1.1.outbox) ∧
        ∀ link, reached.1.1.Settles link := by
  refine ⟨rfl, by decide, by decide, ?_⟩
  exact segments_leave_in_order rfl [none, some "down"] interrupted

end Peer

end ReliableDatagram
