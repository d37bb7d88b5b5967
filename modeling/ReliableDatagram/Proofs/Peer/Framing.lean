import ReliableDatagram.Peer
import ReliableDatagram.Proofs.WireUnit

/-!
# What a flush hands to the link

Every datagram that leaves in a flush carries the acknowledgment of the receiver and
segments from the outbox, and it can be read again (`flush_spec`).  What stays in the
outbox was there before.  A datagram that the link refuses was handed to it as well
(`handedOver`).
-/

namespace ReliableDatagram

namespace Peer

/-- Whether a datagram carries an acknowledgment and segments of an outbox. -/
def Frames (ack : Acknowledgment) (outbox : List Segment) (datagram : Datagram) : Prop :=
  ∃ unit : WireUnit, WireUnit.decode datagram = .ok unit ∧ unit.ack = ack ∧
    unit.segments ⊆ outbox

theorem Frames.mono {ack : Acknowledgment} {outbox more : List Segment}
    {datagram : Datagram} (frames : Frames ack outbox datagram) (subset : outbox ⊆ more) :
    Frames ack more datagram := by
  rcases frames with ⟨unit, decoded, same, segments⟩
  exact ⟨unit, decoded, same, List.Subset.trans segments subset⟩

/-- Filling a unit moves segments and makes none. -/
theorem fill_spec (outbox : List Segment) {builder : WireUnit.Builder}
    (limited : builder.limit ≤ Capacity.segmentsPerUnit)
    (inBounds : builder.unit.InBounds) :
    (fill builder outbox).1.unit.InBounds ∧
      (fill builder outbox).1.unit.ack = builder.unit.ack ∧
      (fill builder outbox).1.unit.segments ++ (fill builder outbox).2.1 ⊆
        builder.unit.segments ++ outbox := by
  induction outbox generalizing builder with
  | nil => exact ⟨inBounds, rfl, List.Subset.refl _⟩
  | cons segment rest ih =>
      rw [fill]
      split
      · exact ⟨inBounds, rfl, List.Subset.refl _⟩
      · cases pushed : builder.push segment with
        | error error =>
            exact ⟨inBounds, rfl, List.append_subset.mpr ⟨List.subset_append_left _ _,
              List.Subset.trans (List.subset_cons_self _ _) (List.subset_append_right _ _)⟩⟩
        | ok after =>
            rcases WireUnit.Builder.inBounds_push limited inBounds pushed with
              ⟨kept, sameLimit, sameAck, segments⟩
            have filled := ih (sameLimit ▸ limited) kept
            rw [sameAck, segments, List.append_assoc] at filled
            exact filled

theorem mem_accepted_offer {link : Link} {datagram other : Datagram}
    (member : other ∈ (link.offer datagram).2.accepted) :
    other ∈ link.accepted ∨ other = datagram := by
  unfold Link.offer at member
  split at member
  · exact .inl member
  · exact (List.mem_append.mp member).imp_right List.mem_singleton.mp
  · exact (List.mem_append.mp member).imp_right List.mem_singleton.mp

/-- Each datagram that is sent frames a part of the outbox, and the rest stays there. -/
theorem sendOutbox_spec (ack : Acknowledgment) (limit rounds : Nat) (outbox : List Segment)
    (link : Link) (sent : Nat) :
    (sendOutbox ack limit rounds outbox link sent).outbox ⊆ outbox ∧
      ∀ datagram ∈ (sendOutbox ack limit rounds outbox link sent).link.accepted,
        datagram ∈ link.accepted ∨ Frames ack outbox datagram := by
  induction rounds generalizing outbox link sent with
  | zero => exact ⟨List.Subset.refl _, fun _ member => .inl member⟩
  | succ rounds ih =>
      have filled := fill_spec outbox (Nat.min_le_right limit Capacity.segmentsPerUnit)
        (WireUnit.Builder.inBounds_withLimit ack limit)
      rw [sendOutbox]
      generalize fill (.withLimit ack limit) outbox = filling at filled ⊢
      rcases filling with ⟨builder, rest, failure⟩
      rcases filled with ⟨inBounds, sameAck, moved⟩
      have subset : builder.unit.segments ++ rest ⊆ outbox := moved
      have framed : Frames ack outbox builder.unit.encode :=
        ⟨builder.unit, WireUnit.decode_encode inBounds, sameAck,
          (List.append_subset.mp subset).1⟩
      cases failure with
      | some error => exact ⟨subset, fun _ member => .inl member⟩
      | none =>
          have offered : ∀ datagram ∈ (link.offer builder.unit.encode).2.accepted,
              datagram ∈ link.accepted ∨ Frames ack outbox datagram := by
            intro datagram member
            rcases mem_accepted_offer member with older | rfl
            · exact .inl older
            · exact .inr framed
          simp only
          generalize link.offer builder.unit.encode = offer at offered ⊢
          rcases offer with ⟨cause, taken⟩
          cases cause with
          | some cause => exact ⟨subset, offered⟩
          | none =>
              simp only
              split
              · exact ⟨List.nil_subset _, offered⟩
              · rcases ih rest taken (sent + 1) with ⟨left, more⟩
                have fewer := (List.append_subset.mp subset).2
                refine ⟨List.Subset.trans left fewer, ?_⟩
                intro datagram member
                rcases more datagram member with older | later
                · exact offered datagram older
                · exact .inr (later.mono fewer)

/-! ## Refusals -/

theorem accepted_prefix_offer (link : Link) (datagram : Datagram) :
    link.accepted <+: (link.offer datagram).2.accepted := by
  unfold Link.offer
  split
  · exact List.prefix_refl _
  · exact List.prefix_append _ _
  · exact List.prefix_append _ _

theorem accepted_prefix_sendOutbox (ack : Acknowledgment) (limit rounds : Nat)
    (outbox : List Segment) (link : Link) (sent : Nat) :
    link.accepted <+: (sendOutbox ack limit rounds outbox link sent).link.accepted := by
  induction rounds generalizing outbox link sent with
  | zero => exact List.prefix_refl _
  | succ rounds ih =>
      rw [sendOutbox]
      rcases fill (.withLimit ack limit) outbox with ⟨builder, rest, failure⟩
      cases failure with
      | some error => exact List.prefix_refl _
      | none =>
          have offered := accepted_prefix_offer link builder.unit.encode
          simp only
          generalize link.offer builder.unit.encode = offer at offered ⊢
          rcases offer with ⟨cause, taken⟩
          cases cause with
          | some cause => exact offered
          | none =>
              simp only
              split
              · exact offered
              · exact List.IsPrefix.trans offered (ih rest taken (sent + 1))

/-- A link that refuses accepts no others than one that never does. -/
theorem accepted_sendOutbox_prefix (ack : Acknowledgment) (limit rounds : Nat)
    (outbox : List Segment) (accepted : List Datagram) (refusals : List (Option String))
    (sent : Nat) :
    (sendOutbox ack limit rounds outbox ⟨accepted, refusals⟩ sent).link.accepted <+:
      (sendOutbox ack limit rounds outbox ⟨accepted, []⟩ sent).link.accepted := by
  induction rounds generalizing outbox accepted refusals sent with
  | zero => exact List.prefix_refl _
  | succ rounds ih =>
      have willing := accepted_prefix_sendOutbox ack limit (rounds + 1) outbox ⟨accepted, []⟩ sent
      rw [sendOutbox] at willing
      rw [sendOutbox, sendOutbox]
      generalize fill (.withLimit ack limit) outbox = filling at willing ⊢
      rcases filling with ⟨builder, rest, failure⟩
      cases failure with
      | some error => exact List.prefix_refl _
      | none =>
          cases refusals with
          | nil => exact List.prefix_refl _
          | cons first others =>
              cases first with
              | some cause => exact willing
              | none =>
                  simp only [Link.offer]
                  split
                  · exact List.prefix_refl _
                  · exact ih rest (accepted ++ [builder.unit.encode]) others (sent + 1)

section Flush

variable {Item : Type} {config : Config} {codec : PayloadCodec Item}

/-- A flush hands over datagrams that frame the outbox, and changes nothing else that the
other side can learn of. -/
theorem flush_spec (peer : Peer config codec) (link : Link) :
    (peer.flush link).1.sender = peer.sender ∧
      (peer.flush link).1.events = peer.events ∧
      ((peer.flush link).1.receiver = peer.receiver ∨
        (peer.flush link).1.receiver = peer.receiver.ackSent) ∧
      (peer.flush link).1.outbox ⊆ peer.outbox ∧
      ∀ datagram ∈ (peer.flush link).2.1.accepted,
        datagram ∈ link.accepted ∨
          Frames peer.receiver.acknowledgment peer.outbox datagram := by
  unfold flush
  split
  · exact ⟨rfl, rfl, .inl rfl, List.Subset.refl _, fun _ member => .inl member⟩
  · rcases sendOutbox_spec peer.receiver.acknowledgment
        config.segmentsPerUnit (max 1 peer.outbox.length) peer.outbox link 0 with
      ⟨left, framed⟩
    refine ⟨rfl, rfl, ?_, left, framed⟩
    simp only
    split
    · exact .inr rfl
    · exact .inl rfl

/-- The datagrams that a peer hands to a link in a flush, after those that were handed over
before.  One that the link refuses is among them, for it may have left all the same. -/
def handedOver (peer : Peer config codec) (earlier : List Datagram)
    (refusals : List (Option String)) : List Datagram :=
  (peer.flush ⟨earlier, []⟩).2.1.accepted.take
    ((peer.flush ⟨earlier, refusals⟩).2.1.accepted.length + 1)

/-- What the link accepts was handed over, and at most one datagram besides. -/
theorem accepted_prefix_handedOver (peer : Peer config codec) (earlier : List Datagram)
    (refusals : List (Option String)) :
    (peer.flush ⟨earlier, refusals⟩).2.1.accepted <+: peer.handedOver earlier refusals ∧
      (peer.handedOver earlier refusals).length ≤
        (peer.flush ⟨earlier, refusals⟩).2.1.accepted.length + 1 := by
  constructor
  · apply List.prefix_take_iff.mpr
    refine ⟨?_, Nat.le_succ _⟩
    unfold flush
    split
    · exact List.prefix_refl _
    · exact accepted_sendOutbox_prefix _ _ _ _ _ _ _
  · exact List.length_take_le _ _

theorem frames_of_mem_handedOver (peer : Peer config codec) (earlier : List Datagram)
    (refusals : List (Option String)) {datagram : Datagram}
    (member : datagram ∈ peer.handedOver earlier refusals) :
    datagram ∈ earlier ∨ Frames peer.receiver.acknowledgment peer.outbox datagram :=
  (flush_spec peer ⟨earlier, []⟩).2.2.2.2 datagram (List.mem_of_mem_take member)

end Flush

end Peer

end ReliableDatagram
