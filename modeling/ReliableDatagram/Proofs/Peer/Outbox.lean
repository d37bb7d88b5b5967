import Mathlib.Algebra.Order.Floor.Div
import ReliableDatagram.Peer
import ReliableDatagram.Proofs.Sender.Bounds
import ReliableDatagram.Proofs.WireUnit.Canonical

/-!
# The outbox is a queue

Segments within bounds fill units to the limit, so a flush cuts the outbox into `frames` and
hands them over one by one until all are sent or one is refused.  `sendOutbox_eq` says what
becomes of the outbox, the link and the answer in each case, and `flush_eq` what becomes of
the peer.
-/

namespace ReliableDatagram

namespace Link

/-- The first of the next `count` datagrams that will be refused, with the cause. -/
def refusal? (refusals : List (Option String)) : (count : Nat) → Option (Nat × String)
  | 0 => none
  | count + 1 =>
      match refusals.head?.join with
      | some cause => some (0, cause)
      | none => (refusal? refusals.tail count).map fun first => (first.1 + 1, first.2)

theorem refusal?_nil (count : Nat) : refusal? [] count = none := by
  induction count with
  | zero => rfl
  | succ count ih =>
      change (refusal? [] count).map _ = none
      rw [ih, Option.map_none]

/-- The link after it took some datagrams and was offered `count`. -/
def after (link : Link) (taken : List Datagram) (count : Nat) : Link :=
  ⟨link.accepted ++ taken, link.refusals.drop count⟩

theorem offer_of_refused {link : Link} {cause : String}
    (refused : link.refusals.head?.join = some cause) (datagram : Datagram) :
    link.offer datagram = (some cause, link.after [] 1) := by
  rcases link with ⟨accepted, _ | ⟨_ | _, rest⟩⟩
  · cases refused
  · cases refused
  · cases refused
    simp [offer, after]

theorem offer_of_willing {link : Link} (willing : link.refusals.head?.join = none)
    (datagram : Datagram) : link.offer datagram = (none, link.after [datagram] 1) := by
  rcases link with ⟨accepted, _ | ⟨_ | _, rest⟩⟩
  · simp [offer, after]
  · simp [offer, after]
  · cases willing

end Link

namespace Peer

/-! ## Filling units -/

/-- Segments within bounds fill a unit up to its limit. -/
theorem fill_eq {outbox : List Segment} (bounded : ∀ segment ∈ outbox, segment.InBounds)
    (builder : WireUnit.Builder) :
    fill builder outbox =
      ({ builder with unit := { builder.unit with
          segments := builder.unit.segments ++ outbox.take builder.room } },
        outbox.drop builder.room, none) := by
  induction outbox generalizing builder with
  | nil => simp [fill]
  | cons segment rest ih =>
      rcases List.forall_mem_cons.mp bounded with ⟨first, others⟩
      rw [fill]
      split
      · next full =>
        have none : builder.room = 0 := by
          simp only [WireUnit.Builder.isFull, decide_eq_true_eq] at full
          exact Nat.sub_eq_zero_of_le full
        simp [none]
      · next vacancy =>
        have vacant : 0 < builder.room := by
          simp only [WireUnit.Builder.isFull, decide_eq_true_eq] at vacancy
          exact Nat.sub_pos_of_lt (Nat.lt_of_not_le vacancy)
        have fewer : builder.room = (builder.room - 1) + 1 := (Nat.sub_add_cancel vacant).symm
        simp only [WireUnit.Builder.push_eq_ok_iff.mpr ⟨vacant, first, rfl⟩, ih others]
        rw [fewer, List.take_succ_cons, List.drop_succ_cons]
        simp [WireUnit.Builder.room, WireUnit.Builder.size, Nat.sub_sub]

/-- The units that an outbox is cut into. -/
def frames (ack : Acknowledgment) (limit : Nat) : (count : Nat) → List Segment → List WireUnit
  | 0, _ => []
  | count + 1, outbox => ⟨ack, outbox.take limit⟩ :: frames ack limit count (outbox.drop limit)

theorem length_frames (ack : Acknowledgment) (limit count : Nat) (outbox : List Segment) :
    (frames ack limit count outbox).length = count := by
  induction count generalizing outbox with
  | zero => rfl
  | succ count ih => exact congrArg Nat.succ (ih _)

theorem flatMap_frames (ack : Acknowledgment) (limit count : Nat) (outbox : List Segment) :
    (frames ack limit count outbox).flatMap (·.segments) ++ outbox.drop (count * limit) =
      outbox := by
  induction count generalizing outbox with
  | zero => simp [frames]
  | succ count ih =>
      have rest := ih (outbox.drop limit)
      rw [List.drop_drop, Nat.add_comm, ← Nat.succ_mul] at rest
      rw [frames, List.flatMap_cons, List.append_assoc, rest, List.take_append_drop]

theorem of_mem_frames {ack : Acknowledgment} {limit count : Nat} {outbox : List Segment}
    {unit : WireUnit} (member : unit ∈ frames ack limit count outbox) :
    unit.ack = ack ∧ unit.segments.length ≤ limit ∧ unit.segments ⊆ outbox := by
  induction count generalizing outbox with
  | zero => cases member
  | succ count ih =>
      rcases List.mem_cons.mp member with rfl | later
      · exact ⟨rfl, List.length_take_le _ _, List.take_subset _ _⟩
      · rcases ih later with ⟨same, few, subset⟩
        exact ⟨same, few, List.Subset.trans subset (List.drop_subset _ _)⟩

/-! ## Sending the outbox -/

/-- The number of datagrams that take some segments, or none in a bare acknowledgment. -/
def datagrams (limit count : Nat) : Nat := max 1 (count ⌈/⌉ limit)

theorem datagrams_of_le {limit count : Nat} (few : count ≤ limit) :
    datagrams limit count = 1 := by
  apply Nat.max_eq_left
  rcases Nat.eq_zero_or_pos limit with rfl | positive
  · simp [Nat.le_zero.mp few]
  · exact (ceilDiv_le_iff_le_mul positive).mpr (by omega)

theorem datagrams_of_lt {limit count : Nat} (positive : 0 < limit) (many : limit < count) :
    datagrams limit count = datagrams limit (count - limit) + 1 := by
  have later : 0 < count - limit := Nat.sub_pos_of_lt many
  have step : count ⌈/⌉ limit = (count - limit) ⌈/⌉ limit + 1 := by
    rw [Nat.ceilDiv_eq_add_pred_div, Nat.ceilDiv_eq_add_pred_div,
      ← Nat.add_div_right _ positive]
    congr 1
    omega
  have some : 1 ≤ (count - limit) ⌈/⌉ limit := by
    rw [Nat.ceilDiv_eq_add_pred_div]
    exact (Nat.one_le_div_iff positive).mpr (by omega)
  rw [datagrams, datagrams, step, Nat.max_eq_right some, Nat.max_eq_right (by omega)]

section Sending

variable {limit : Nat} {outbox : List Segment}

/-- One round sends as many segments as a unit may hold. -/
theorem sendOutbox_succ (few : limit ≤ Capacity.segmentsPerUnit)
    (bounded : ∀ segment ∈ outbox, segment.InBounds) (ack : Acknowledgment) (rounds : Nat)
    (link : Link) (sent : Nat) :
    sendOutbox ack limit (rounds + 1) outbox link sent =
      match link.offer (⟨ack, outbox.take limit⟩ : WireUnit).encode with
      | (some cause, link) => ⟨outbox, link, .error (.transport cause)⟩
      | (none, link) =>
          if (outbox.drop limit).isEmpty then ⟨[], link, .ok (sent + 1)⟩
          else sendOutbox ack limit rounds (outbox.drop limit) link (sent + 1) := by
  have room : (WireUnit.Builder.withLimit ack limit).room = limit := Nat.min_eq_left few
  rw [sendOutbox, fill_eq bounded, room]
  rcases offered : link.offer (⟨ack, outbox.take limit⟩ : WireUnit).encode with
    ⟨_ | cause, taken⟩
  · simp only [WireUnit.Builder.withLimit, WireUnit.ackOnly, List.nil_append, offered]
  · simp only [WireUnit.Builder.withLimit, WireUnit.ackOnly, List.nil_append, offered,
      List.take_append_drop]

/-- What becomes of an outbox whose segments are within bounds.  All of it is sent, or a
refusal stops the attempt.  What a round leaves is an outbox of its own, with one round and
one refusal less to come. -/
theorem sendOutbox_eq (positive : 0 < limit) (few : limit ≤ Capacity.segmentsPerUnit)
    (bounded : ∀ segment ∈ outbox, segment.InBounds) (ack : Acknowledgment) {rounds : Nat}
    (enough : max 1 outbox.length ≤ rounds) (link : Link) (sent : Nat) :
    sendOutbox ack limit rounds outbox link sent =
      match Link.refusal? link.refusals (datagrams limit outbox.length) with
      | none =>
          ⟨[], link.after ((frames ack limit (datagrams limit outbox.length) outbox).map
              WireUnit.encode) (datagrams limit outbox.length),
            .ok (sent + datagrams limit outbox.length)⟩
      | some (index, cause) =>
          ⟨outbox.drop (index * limit),
            link.after ((frames ack limit index outbox).map WireUnit.encode) (index + 1),
            .error (.transport cause)⟩ := by
  induction rounds generalizing outbox link sent with
  | zero => omega
  | succ rounds ih =>
      have needed : ∃ later, datagrams limit outbox.length = later + 1 :=
        ⟨_, (Nat.sub_add_cancel (Nat.le_max_left _ _)).symm⟩
      rw [sendOutbox_succ few bounded]
      cases refused : link.refusals.head?.join with
      | some cause =>
          rcases needed with ⟨later, needed⟩
          simp only [Link.offer_of_refused refused, needed, Link.refusal?, refused]
          simp [frames]
      | none =>
          simp only [Link.offer_of_willing refused]
          split
          · next finished =>
            have last : outbox.length ≤ limit :=
              List.drop_eq_nil_iff.mp (List.isEmpty_iff.mp finished)
            simp only [datagrams_of_le last, Link.refusal?, refused, Option.map_none]
            rfl
          · next unfinished =>
            have many : limit < outbox.length := by
              apply Nat.lt_of_not_le
              intro last
              exact unfinished (List.isEmpty_iff.mpr (List.drop_eq_nil_iff.mpr last))
            have others : ∀ segment ∈ outbox.drop limit, segment.InBounds :=
              fun segment member => bounded segment (List.mem_of_mem_drop member)
            rw [ih others (by rw [List.length_drop]; omega), List.length_drop,
              datagrams_of_lt positive many]
            simp only [Link.refusal?, refused, Link.after, List.drop_one]
            cases Link.refusal? link.refusals.tail (datagrams limit (outbox.length - limit)) with
            | none => simp [frames, Nat.add_assoc, Nat.add_comm 1]
            | some first => simp [frames, Nat.succ_mul, Nat.add_comm limit]

/-- An attempt is over after as many rounds as there are segments.  More rounds change
nothing. -/
theorem sendOutbox_add_rounds (positive : 0 < limit) (few : limit ≤ Capacity.segmentsPerUnit)
    (bounded : ∀ segment ∈ outbox, segment.InBounds) (ack : Acknowledgment) (more : Nat)
    (link : Link) (sent : Nat) :
    sendOutbox ack limit (max 1 outbox.length + more) outbox link sent =
      sendOutbox ack limit (max 1 outbox.length) outbox link sent := by
  rw [sendOutbox_eq positive few bounded ack (Nat.le_add_right _ _),
    sendOutbox_eq positive few bounded ack (Nat.le_refl _)]

end Sending

theorem le_datagrams_mul {limit : Nat} (positive : 0 < limit) (count : Nat) :
    count ≤ datagrams limit count * limit := by
  have whole : count ≤ limit * (count ⌈/⌉ limit) :=
    (ceilDiv_le_iff_le_mul positive).mp (Nat.le_refl _)
  rw [Nat.mul_comm] at whole
  exact Nat.le_trans whole (Nat.mul_le_mul_right limit (Nat.le_max_right _ _))

/-! ## Flushing -/

section Flush

variable {Item : Type} {config : Config} {codec : PayloadCodec Item}

/-- The number of datagrams that a flush sends when none is refused. -/
def datagramsDue (peer : Peer config codec) : Nat :=
  if peer.outbox.isEmpty then
    if peer.receiver.ackDue then 1 else 0
  else peer.outbox.length ⌈/⌉ config.segmentsPerUnit

/-- The first `count` units that a flush sends.  With nothing queued they carry the
acknowledgment alone. -/
def framesDue (peer : Peer config codec) (count : Nat) : List WireUnit :=
  frames peer.receiver.acknowledgment config.segmentsPerUnit count peer.outbox

/-- A flush that has something to send sends at least one datagram. -/
theorem datagramsDue_eq (valid : config.Valid) {peer : Peer config codec}
    (due : ¬ (peer.outbox.isEmpty && !peer.receiver.ackDue)) :
    peer.datagramsDue = datagrams config.segmentsPerUnit peer.outbox.length := by
  have positive := valid.segmentsPerUnit_pos
  unfold datagramsDue
  split
  · next vacant =>
    have owed : peer.receiver.ackDue := by simpa [vacant] using due
    rw [if_pos owed, List.isEmpty_iff.mp vacant]
    exact (datagrams_of_le (Nat.zero_le _)).symm
  · next waiting =>
    have some : 0 < peer.outbox.length :=
      List.length_pos_iff.mpr (mt List.isEmpty_iff.mpr waiting)
    have least : 1 ≤ peer.outbox.length ⌈/⌉ config.segmentsPerUnit := by
      rw [Nat.ceilDiv_eq_add_pred_div]
      exact (Nat.one_le_div_iff positive).mpr (by omega)
    exact (Nat.max_eq_right least).symm

theorem drop_datagramsDue (valid : config.Valid) (peer : Peer config codec) :
    peer.outbox.drop (peer.datagramsDue * config.segmentsPerUnit) = [] := by
  apply List.drop_eq_nil_iff.mpr
  by_cases vacant : peer.outbox = []
  · rw [vacant]
    exact Nat.zero_le _
  · have due : ¬ (peer.outbox.isEmpty && !peer.receiver.ackDue) := by simp [vacant]
    rw [datagramsDue_eq valid due]
    exact le_datagrams_mul valid.segmentsPerUnit_pos _

theorem flatMap_framesDue (valid : config.Valid) (peer : Peer config codec) :
    (peer.framesDue peer.datagramsDue).flatMap (·.segments) = peer.outbox := by
  have cut := flatMap_frames peer.receiver.acknowledgment config.segmentsPerUnit
    peer.datagramsDue peer.outbox
  rwa [drop_datagramsDue valid peer, List.append_nil] at cut

theorem inBounds_of_mem_framesDue (valid : config.Valid) {peer : Peer config codec}
    (bounded : ∀ segment ∈ peer.outbox, segment.InBounds) {count : Nat} {unit : WireUnit}
    (member : unit ∈ peer.framesDue count) : unit.InBounds := by
  rcases of_mem_frames member with ⟨_, few, subset⟩
  exact ⟨Nat.le_trans few valid.segmentsPerUnit_le,
    fun segment inside => bounded segment (subset inside)⟩

/-- What becomes of a peer whose outbox holds segments within bounds when it flushes. -/
theorem flush_eq (valid : config.Valid) {peer : Peer config codec}
    (bounded : ∀ segment ∈ peer.outbox, segment.InBounds) (link : Link) :
    peer.flush link =
      match Link.refusal? link.refusals peer.datagramsDue with
      | none =>
          ({ peer with
              outbox := []
              receiver := if peer.datagramsDue = 0 then peer.receiver else peer.receiver.ackSent },
            link.after ((peer.framesDue peer.datagramsDue).map WireUnit.encode) peer.datagramsDue,
            .ok peer.datagramsDue)
      | some (index, cause) =>
          ({ peer with outbox := peer.outbox.drop (index * config.segmentsPerUnit) },
            link.after ((peer.framesDue index).map WireUnit.encode) (index + 1),
            .error (.transport cause)) := by
  unfold flush
  split
  · next idle =>
    rcases Bool.and_eq_true_iff.mp idle with ⟨vacant, settled⟩
    have none : peer.datagramsDue = 0 := by
      rw [datagramsDue, if_pos vacant, if_neg (by simpa using settled)]
    have empty : peer.outbox = [] := List.isEmpty_iff.mp vacant
    rcases peer with ⟨sender, receiver, outbox, events⟩
    cases empty
    simp [none, Link.refusal?, Link.after, framesDue, frames]
  · next due =>
    have positive := valid.segmentsPerUnit_pos
    have needed := datagramsDue_eq valid due
    have some : peer.datagramsDue ≠ 0 :=
      needed ▸ Nat.ne_of_gt (Nat.le_max_left 1 _)
    simp only [sendOutbox_eq positive valid.segmentsPerUnit_le bounded _ (Nat.le_refl _),
      ← needed, if_neg some, framesDue]
    cases Link.refusal? link.refusals peer.datagramsDue with
    | none => simp
    | some first => rfl

end Flush

end Peer

end ReliableDatagram
