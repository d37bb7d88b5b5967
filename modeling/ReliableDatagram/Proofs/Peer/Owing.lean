import ReliableDatagram.Proofs.Peer.Runs
import ReliableDatagram.Proofs.Receiver.Consecutive

/-!
# Acknowledgments that are owed

A peer owes an acknowledgment from the moment a segment arrives until a flush succeeds.  In
between the flag, the window and the link change in different operations.  What ties them
together is that a peer which heard something and owes nothing has reported all of it with
its last datagram (`Answers`).  Only a unit with segments changes what there is to report,
and it makes the report due again, also when all its segments were seen before.
-/

namespace ReliableDatagram

/-- Whether a datagram carries an acknowledgment. -/
def Acknowledgment.IsCarriedBy (ack : Acknowledgment) (datagram : Datagram) : Prop :=
  ∃ unit : WireUnit, WireUnit.decode datagram = .ok unit ∧ unit.ack = ack

/-- Whether the last datagram that a link took carries an acknowledgment. -/
def Link.Reports (link : Link) (ack : Acknowledgment) : Prop :=
  ∃ datagram, link.accepted.getLast? = some datagram ∧ ack.IsCarriedBy datagram

namespace Receiver

variable {config : Config}

theorem acknowledgment_congr {receiver other : Receiver config}
    (transmissions : other.transmissions = receiver.transmissions) :
    other.acknowledgment = receiver.acknowledgment := by
  rw [acknowledgment, acknowledgment, transmissions]

/-- A unit makes an acknowledgment due, unless it has no segments and leaves nothing new to
acknowledge.  Each segment that can be read lists a transmission, whether or not its item is
new. -/
theorem owes_ingestUnit (receiver : Receiver config) {unit : WireUnit}
    (inBounds : unit.InBounds) :
    (receiver.ingestUnit unit).1.ackDue = true ∨
      unit.segments = [] ∧ (receiver.ingestUnit unit).1.ackDue = receiver.ackDue ∧
        (receiver.ingestUnit unit).1.acknowledgment = receiver.acknowledgment := by
  rw [ackDue_ingestUnit]
  cases carried : unit.segments with
  | nil =>
      right
      have transmissions := transmissions_ingestUnit receiver unit
      rw [carried] at transmissions
      exact ⟨rfl, Bool.or_false _, acknowledgment_congr transmissions⟩
  | cons segment rest =>
      left
      have first : segment ∈ unit.segments := carried ▸ List.mem_cons_self
      have named : segment.transmissionIds.isEmpty = false := by
        rw [List.isEmpty_eq_false_iff, ← List.length_pos_iff]
        exact (inBounds.2 segment first).1
      rw [List.any_cons, named, Bool.not_false, Bool.true_or, Bool.or_true]

end Receiver

namespace Peer

variable {Item : Type} {config : Config} {codec : PayloadCodec Item}
variable {peer : Peer config codec} {link : Link} {given arrived : List Segment}

/-! ## What arrives -/

/-- The segments that an operation brings. -/
def Operation.segments : Operation Item → List Segment
  | .send _ _ => []
  | .tick _ => []
  | .flush => []
  | .receive datagram _ =>
      match WireUnit.decode datagram with
      | .error _ => []
      | .ok unit => unit.segments
  | .drain => []

/-- The segments that arrive in a run. -/
def heard (operations : List (Operation Item)) : List Segment :=
  operations.flatMap Operation.segments

theorem heard_concat (operations : List (Operation Item)) (last : Operation Item) :
    heard (operations ++ [last]) = heard operations ++ last.segments := by
  rw [heard, List.flatMap_append, List.flatMap_singleton, heard]

/-! ## What is sent -/

theorem isCarriedBy_of_mem_framesDue (valid : config.Valid)
    (bounded : ∀ segment ∈ peer.outbox, segment.InBounds) {count : Nat} {datagram : Datagram}
    (member : datagram ∈ (peer.framesDue count).map WireUnit.encode) :
    peer.receiver.acknowledgment.IsCarriedBy datagram := by
  rcases List.mem_map.mp member with ⟨unit, framed, rfl⟩
  exact ⟨unit, WireUnit.decode_encode (inBounds_of_mem_framesDue valid bounded framed),
    (of_mem_frames framed).1⟩

/-- After some frames the link reports the acknowledgment.  When there are none, it must have
done so before. -/
theorem reports_after (valid : config.Valid)
    (bounded : ∀ segment ∈ peer.outbox, segment.InBounds) (count offered : Nat)
    (before : count = 0 → link.Reports peer.receiver.acknowledgment) :
    (link.after ((peer.framesDue count).map WireUnit.encode) offered).Reports
      peer.receiver.acknowledgment := by
  cases last : ((peer.framesDue count).map WireUnit.encode).getLast? with
  | none =>
      have nothing := List.getLast?_eq_none_iff.mp last
      have length := congrArg List.length nothing
      rw [List.length_map, framesDue, length_frames] at length
      rw [nothing]
      rcases before length with ⟨datagram, reported⟩
      exact ⟨datagram, by rwa [Link.after, List.append_nil]⟩
  | some datagram =>
      refine ⟨datagram, ?_, isCarriedBy_of_mem_framesDue valid bounded (List.mem_of_getLast? last)⟩
      rw [Link.after, List.getLast?_append, last, Option.some_or]

/-! ## What is owed -/

/-- Whether a peer that heard something and owes no acknowledgment has reported it with its
last datagram. -/
def Answers (peer : Peer config codec) (link : Link) (arrived : List Segment) : Prop :=
  arrived ≠ [] → peer.receiver.ackDue = false → link.Reports peer.receiver.acknowledgment

namespace Answers

theorem congr (answers : peer.Answers link arrived) {after : Peer config codec}
    (receiver : after.receiver = peer.receiver) : after.Answers link arrived := by
  rw [Answers, receiver]
  exact answers

theorem receive (answers : peer.Answers link arrived) (datagram : Datagram) (now : Instant) :
    (peer.receive datagram now).1.Answers link
      (arrived ++ (Operation.receive datagram now : Operation Item).segments) := by
  cases decoded : WireUnit.decode datagram with
  | error error =>
      simp only [Peer.receive, Receiver.ingestDatagram, Operation.segments, decoded,
        List.append_nil]
      exact answers
  | ok unit =>
      have inBounds := (WireUnit.decode_eq_ok_iff.mp decoded).1
      simp only [Peer.receive, Receiver.ingestDatagram, Operation.segments, decoded]
      intro some settled
      rcases peer.receiver.owes_ingestUnit inBounds with owed | ⟨none, due, same⟩
      · exact absurd (settled.symm.trans owed) Bool.false_ne_true
      · rw [none, List.append_nil] at some
        exact same ▸ answers some (due.symm.trans settled)

/-- A flush that stops halfway either sent the acknowledgment already or sent nothing. -/
theorem flush (answers : peer.Answers link arrived) (valid : config.Valid)
    (bounded : ∀ segment ∈ peer.outbox, segment.InBounds) :
    (peer.flush link).1.Answers (peer.flush link).2.1 arrived := by
  rw [flush_eq valid bounded]
  cases Link.refusal? link.refusals peer.datagramsDue with
  | some first => exact fun some settled =>
      reports_after valid bounded _ _ fun _ => answers some settled
  | none =>
      intro some settled
      simp only at settled ⊢
      split at settled
      · next idle =>
        rw [if_pos idle]
        exact reports_after valid bounded _ _ fun _ => answers some settled
      · next due =>
        rw [if_neg due]
        exact reports_after valid bounded _ _ fun idle => absurd idle due

theorem step (answers : peer.Answers link arrived) (conveys : peer.Conveys link given)
    (valid : config.Valid) (operation : Operation Item) :
    (Peer.step (peer, link) operation).1.1.Answers (Peer.step (peer, link) operation).1.2
      (arrived ++ operation.segments) := by
  cases operation with
  | send item now =>
      simp only [Peer.step, perform, Operation.segments, List.append_nil, Peer.send]
      cases codec.encode item with
      | error cause => exact answers
      | ok payload =>
          simp only
          cases peer.sender.send payload now with
          | error error => exact answers
          | ok answer => exact answers.congr rfl
  | tick now =>
      simp only [Peer.step, perform, Operation.segments, List.append_nil]
      exact answers.congr rfl
  | flush =>
      simp only [Peer.step, perform, Operation.segments, List.append_nil]
      exact answers.flush valid conveys.waiting
  | receive datagram now => exact answers.receive datagram now
  | drain =>
      simp only [Peer.step, perform, Operation.segments, List.append_nil]
      exact answers.congr rfl

theorem run (valid : config.Valid) (refusals : List (Option String))
    (operations : List (Operation Item)) :
    let reached := (Transition.run Peer.step (initial config codec, ⟨[], refusals⟩) operations).1
    reached.1.Answers reached.2 (heard operations) := by
  induction operations using List.reverseRecOn with
  | nil => exact fun some => absurd rfl some
  | append_singleton earlier last ih =>
      have conveys := (conveys_initial config codec refusals).run valid earlier
      simp only [Transition.run_concat, heard_concat]
      exact Answers.step ih conveys valid last

end Answers

/-- What a flush comes to when an acknowledgment is owed. -/
structure Pays (peer : Peer config codec) (link : Link) : Prop where
  /-- When it succeeds, it sent at least one datagram.  Each of them carries the
  acknowledgment, and nothing is owed any longer. -/
  sent : ∀ {count}, (peer.flush link).2.2 = .ok count →
    0 < count ∧ (peer.flush link).1.receiver.ackDue = false ∧
      ∃ datagrams : List Datagram, datagrams.length = count ∧
        (peer.flush link).2.1.accepted = link.accepted ++ datagrams ∧
        ∀ datagram ∈ datagrams, peer.receiver.acknowledgment.IsCarriedBy datagram
  /-- When it fails, the acknowledgment is owed as before. -/
  failed : ∀ {error}, (peer.flush link).2.2 = .error error →
    (peer.flush link).1.receiver = peer.receiver

theorem datagramsDue_pos (valid : config.Valid) (owed : peer.receiver.ackDue = true) :
    0 < peer.datagramsDue := by
  rw [datagramsDue_eq valid (by simp [owed])]
  exact Nat.le_max_left _ _

theorem pays_of_owed (valid : config.Valid)
    (bounded : ∀ segment ∈ peer.outbox, segment.InBounds)
    (owed : peer.receiver.ackDue = true) (link : Link) : peer.Pays link := by
  have due := datagramsDue_pos valid owed
  constructor
  · intro count sent
    rw [flush_eq valid bounded] at sent ⊢
    cases stopped : Link.refusal? link.refusals peer.datagramsDue with
    | some first =>
        rw [stopped] at sent
        cases sent
    | none =>
        rw [stopped] at sent
        cases sent
        refine ⟨due, ?_, (peer.framesDue peer.datagramsDue).map WireUnit.encode, ?_, rfl,
          fun datagram => isCarriedBy_of_mem_framesDue valid bounded⟩
        · simp only [if_neg (Nat.ne_of_gt due)]
          rfl
        · rw [List.length_map, framesDue, length_frames]
  · intro error failed
    rw [flush_eq valid bounded] at failed ⊢
    cases stopped : Link.refusal? link.refusals peer.datagramsDue with
    | some first => rfl
    | none =>
        rw [stopped] at failed
        cases failed

/-- Whatever is asked of a peer and whichever datagrams the link refuses, no acknowledgment is
forgotten.  Once a segment has arrived, the last datagram that was sent carries the current
acknowledgment, or the acknowledgment is owed.  One that is owed goes out with each datagram
of the next flush, and stays owed if that flush fails. -/
theorem acknowledgment_never_forgotten {peer : Peer config codec}
    (started : start config codec = .ok peer) (refusals : List (Option String))
    (operations : List (Operation Item)) :
    let reached := (Transition.run step (peer, ⟨[], refusals⟩) operations).1
    (heard operations ≠ [] → reached.1.receiver.ackDue = false →
      reached.2.Reports reached.1.receiver.acknowledgment) ∧
    (reached.1.receiver.ackDue = true → ∀ link, reached.1.Pays link) := by
  rcases start_eq_ok started with ⟨valid, rfl⟩
  have conveys := (conveys_initial config codec refusals).run valid operations
  exact ⟨Answers.run valid refusals operations, pays_of_owed valid conveys.waiting⟩

/-- A segment arrives, and the flush that should report it is refused halfway. -/
def reportedHalfway : List (Operation Payload) :=
  [.receive (WireUnit.encode ⟨⟨.ofNat 65535, 0#32⟩, [⟨.ofNat 0, [.ofNat 0], [7]⟩]⟩) ⟨0⟩,
    .send [1] ⟨0⟩, .send [2] ⟨0⟩, .flush]

theorem acknowledgment_never_forgotten_halfway :
    start { segmentsPerUnit := 1 } .raw = .ok (initial { segmentsPerUnit := 1 } .raw) ∧
      let run := Transition.run step
        (initial { segmentsPerUnit := 1 } .raw, ⟨[], [none, some "down"]⟩)
      let stopped := (run reportedHalfway).1
      let finished := (run (reportedHalfway ++ [.flush])).1
      (stopped.2.accepted.length = 1 ∧ stopped.1.receiver.ackDue = true ∧
          ∀ link, stopped.1.Pays link) ∧
        finished.2.accepted.length = 2 ∧ finished.1.receiver.ackDue = false ∧
          finished.2.Reports finished.1.receiver.acknowledgment := by
  have started : start { segmentsPerUnit := 1 } .raw =
      .ok (initial { segmentsPerUnit := 1 } .raw) := rfl
  have stopped := (acknowledgment_never_forgotten started [none, some "down"]
    reportedHalfway).2
  have finished := (acknowledgment_never_forgotten started [none, some "down"]
    (reportedHalfway ++ [.flush])).1
  exact ⟨started, ⟨by decide, by decide, stopped (by decide)⟩, by decide, by decide,
    finished (by decide) (by decide)⟩

end Peer

end ReliableDatagram
