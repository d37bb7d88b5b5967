import ReliableDatagram.Proofs.Network.Runs
import ReliableDatagram.Proofs.Peer.Operations
import ReliableDatagram.Proofs.Receiver.Following

/-!
# What the two sides know of each other

Whatever happens between two peers, each side stands to the histories as it should
(`Sound`): its sender can be traced back to what it queued (`Sends`), its receiver follows
the items of the other side (`Hears`), and the datagrams under way carry only what was
queued and acknowledge only what arrived (`Genuine`).
-/

namespace ReliableDatagram

namespace Network

variable {config : Config}

/-! ## Views of the events of a peer -/

theorem announced_resolved (resolved : List SendEvent) :
    announced ((resolved.filterMap (Peer.ofSendEvent .raw)).map .emitted) = [] := by
  induction resolved with
  | nil => rfl
  | cons event rest ih =>
      cases event with
      | acked dataId payload => exact ih
      | unacked dataId payload reason => exact ih

theorem announced_received (fresh delivered : List Delivery) :
    announced (((fresh.map ReceiveEvent.unordered ++
      delivered.map ReceiveEvent.ordered).filterMap (Peer.ofReceiveEvent .raw)).map
        .emitted) = fresh := by
  induction fresh with
  | cons delivery rest ih => exact congrArg (delivery :: ·) ih
  | nil =>
      induction delivered with
      | nil => rfl
      | cons delivery rest ih => exact ih

/-! ## Sending halves -/

/-- The sending half of a peer, in the light of its diary. -/
structure Sends (peer : Peer config .raw) (own : List Entry) : Prop where
  traced : Sender.Traced peer.sender (items own) (segments own)
  outbox : peer.outbox ⊆ segments own
  counted : (items own).length ≤ (segments own).length

theorem sends_initial (config : Config) : Sends (.initial config .raw) [] where
  traced := Sender.traced_start config
  outbox := List.Subset.refl []
  counted := Nat.le_refl 0

theorem Sends.extend {peer after : Peer config .raw} {own entries : List Entry}
    {outputs : List Sender.Output} (sends : Sends peer own)
    (room : config.retransmitLimit < Capacity.keysPerRecord)
    (performs : Sender.Performs peer.sender outputs after.sender)
    (newItems : items entries = Sender.itemsSent outputs)
    (newSegments : segments entries = Sender.transmitted outputs)
    (outbox : after.outbox ⊆ peer.outbox ++ segments entries) :
    Sends after (own ++ entries) := by
  constructor
  · rw [items_append, segments_append, newItems, newSegments]
    exact sends.traced.performs room performs
  · rw [segments_append]
    intro segment member
    rcases List.mem_append.mp (outbox member) with older | newer
    · exact List.mem_append_left _ (sends.outbox older)
    · exact List.mem_append_right _ newer
  · rw [items_append, segments_append, List.length_append, List.length_append, newItems,
      newSegments]
    exact Nat.add_le_add sends.counted (Sender.length_itemsSent_le outputs)

/-! ## Receiving halves -/

/-- The items of a diary as they will be delivered. -/
def deliveries (diary : List Entry) : List Delivery :=
  (items diary).map fun item => ⟨item.1, item.2⟩

theorem deliveries_append (diary more : List Entry) :
    deliveries (diary ++ more) = deliveries diary ++ deliveries more := by
  rw [deliveries, items_append, List.map_append]
  rfl

theorem numbered_deliveries {sender : Sender config} {diary : List Entry}
    (traced : Sender.Traced sender (items diary) (segments diary)) :
    Receiver.Numbered config (deliveries diary) := by
  intro index item found
  rw [deliveries, List.getElem?_map, Option.map_eq_some_iff] at found
  rcases found with ⟨taken, there, rfl⟩
  exact traced.numbered there

/-- The receiving half of a peer, in the light of its diary and that of the other side. -/
structure Hears (receiver : Receiver config) (own others : List Entry) : Prop where
  copies_subset : copies own ⊆ segments others
  receipts : Receiver.Backed (Receiver.Lists (copies own)) receiver.transmissions
  follows : (segments others).length < SeqId.halfSpace →
    ∃ passed, Receiver.Follows receiver (deliveries others) (copies own) (announced own)
      (Missed own) passed

theorem hears_start (config : Config) : Hears (Receiver.start config) [] [] where
  copies_subset := List.Subset.refl []
  receipts := nofun
  follows _ := ⟨0, Receiver.follows_start config _⟩

/-- Nothing that the other side does is unheard of. -/
theorem Hears.grow {receiver : Receiver config} {own others : List Entry}
    (hears : Hears receiver own others) (more : List Entry) :
    Hears receiver own (others ++ more) where
  copies_subset := by
    rw [segments_append]
    exact List.subset_append_of_subset_left _ hears.copies_subset
  receipts := hears.receipts
  follows few := by
    rw [segments_append, List.length_append] at few
    rcases hears.follows (Nat.lt_of_le_of_lt (Nat.le_add_right _ _) few) with
      ⟨passed, follows⟩
    rw [deliveries_append]
    exact ⟨passed, follows.append _⟩

/-- What the sending half writes is no news to the receiving half. -/
theorem Hears.write {receiver : Receiver config} {own others entries : List Entry}
    (hears : Hears receiver own others) (noCopies : copies entries = [])
    (noNews : announced entries = []) : Hears receiver (own ++ entries) others := by
  constructor
  · rw [copies_append, noCopies, List.append_nil]
    exact hears.copies_subset
  · rw [copies_append, noCopies, List.append_nil]
    exact hears.receipts
  · intro few
    rcases hears.follows few with ⟨passed, follows⟩
    rw [copies_append, noCopies, List.append_nil, announced_append, noNews, List.append_nil]
    exact ⟨passed, follows.mono fun _ missed => missed.append entries⟩

theorem Hears.ackSent {receiver : Receiver config} {own others : List Entry}
    (hears : Hears receiver own others) : Hears receiver.ackSent own others where
  copies_subset := hears.copies_subset
  receipts := hears.receipts
  follows few := by
    rcases hears.follows few with ⟨passed, follows⟩
    exact ⟨passed, follows.congr rfl rfl rfl⟩

/-- An item is missed when a skip passes it and no copy of it was handed over. -/
theorem missed_arrival {receiver : Receiver config} {own : List Entry} {datagram : Datagram}
    {unit : WireUnit} {dataId : SeqId} (decoded : WireUnit.decode datagram = .ok unit)
    (ahead : 0 < receiver.cursor.distanceTo dataId)
    (within : receiver.cursor.distanceTo dataId ≤ (receiver.gather unit).1.skipped)
    (unseen : ∀ segment ∈ copies own ++ unit.segments, segment.dataId ≠ dataId)
    (events : List (PeerEvent Payload)) :
    Missed (own ++ arrival receiver datagram events) dataId := by
  have cursor : (receiver.gather unit).1.cursor = receiver.cursor :=
    Receiver.cursor_run_ingest receiver.counted unit.segments
  cases due : (receiver.gather unit).1.skipTarget? with
  | none =>
      simp only [Receiver.skipped, due, Option.map_none, Option.getD_none] at within
      omega
  | some target =>
      simp only [Receiver.skipped, due, Option.map_some, Option.getD_some, cursor] at within
      refine ⟨own ++ [.handed datagram], receiver.cursor, target, events.map .emitted, ?_,
        ahead, within, ?_⟩
      · simp [arrival, skips, decoded, due, cursor]
      · simpa [copies, Entry.copies, decoded] using unseen

/-- The receiver follows on when a datagram is handed over that the other side framed. -/
theorem Hears.deliver {receiver : Receiver config} {own others : List Entry}
    {datagram : Datagram} {unit : WireUnit} {events : List (PeerEvent Payload)}
    (hears : Hears receiver own others)
    (numbered : Receiver.Numbered config (deliveries others))
    (fewer : (items others).length ≤ (segments others).length)
    (known : ∀ segment ∈ segments others, (segment.dataId, segment.payload) ∈ items others)
    (decoded : WireUnit.decode datagram = .ok unit)
    (carried : unit.segments ⊆ segments others)
    (news : announced (events.map .emitted) = (receiver.gather unit).2) :
    Hears (receiver.ingestUnit unit).1 (own ++ arrival receiver datagram events) others := by
  rcases views_arrival receiver decoded events with ⟨_, _, copied, told⟩
  constructor
  · rw [copies_append, copied]
    exact List.append_subset.mpr ⟨hears.copies_subset, carried⟩
  · rw [copies_append, copied]
    exact Receiver.backed_ingestUnit unit hears.receipts
  · intro few
    rcases hears.follows few with ⟨passed, follows⟩
    rw [copies_append, copied, announced_append, told, news]
    have short : (deliveries others).length < SeqId.halfSpace := by
      rw [deliveries, List.length_map]
      exact Nat.lt_of_le_of_lt fewer few
    apply follows.ingestUnit numbered short
    · intro segment member
      exact List.mem_map_of_mem (known segment (carried member))
    · exact fun _ missed => missed.append _
    · intro dataId ahead within unseen
      exact missed_arrival decoded ahead within unseen events

/-! ## Datagrams under way -/

/-- Whether a datagram carries segments that its side transmitted, and acknowledges what its
side was handed, or nothing. -/
def Genuine (config : Config) (own : List Entry) (datagram : Datagram) : Prop :=
  ∃ unit : WireUnit, WireUnit.decode datagram = .ok unit ∧ unit.segments ⊆ segments own ∧
    ∀ id ∈ Sender.reportedIds unit.ack,
      id = config.initialTransmissionId.previous ∨ Receiver.Lists (copies own) id

theorem Genuine.append {own : List Entry} {datagram : Datagram}
    (genuine : Genuine config own datagram) (more : List Entry) :
    Genuine config (own ++ more) datagram := by
  rcases genuine with ⟨unit, decoded, carried, reported⟩
  rw [Genuine, segments_append, copies_append]
  refine ⟨unit, decoded, List.subset_append_of_subset_left _ carried, ?_⟩
  intro id listed
  exact (reported id listed).imp_right (Receiver.Lists.mono (List.subset_append_left _ _))

theorem Genuine.of_frames {peer : Peer config .raw} {own others : List Entry}
    {datagram : Datagram} (sends : Sends peer own) (hears : Hears peer.receiver own others)
    (frames : Peer.Frames peer.receiver.acknowledgment peer.outbox datagram) :
    Genuine config own datagram := by
  rcases frames with ⟨unit, decoded, acked, framed⟩
  refine ⟨unit, decoded, List.Subset.trans framed sends.outbox, ?_⟩
  intro id listed
  rw [acked] at listed
  exact Receiver.mem_observed_acknowledgment hears.receipts listed

/-! ## The whole network -/

/-- How a network stands to its history. -/
structure Sound (network : Network config) (past : History) : Prop where
  drained : ∀ side, (network.peer side).events = []
  sends : ∀ side, Sends (network.peer side) (diary side past)
  hears : ∀ side, Hears (network.peer side).receiver (diary side past)
    (diary side.other past)
  genuine : ∀ side, ∀ datagram ∈ network.wire side,
    Genuine config (diary side past) datagram

theorem sound_start (config : Config) : Sound (start config) [] where
  drained _ := rfl
  sends _ := sends_initial config
  hears _ := hears_start config
  genuine _ := nofun

namespace Sound

variable {network : Network config} {past : History}

theorem setPeer (sound : Sound network past) {side : Side} {after : Peer config .raw}
    {entries : List Entry} (drained : after.events = [])
    (sends : Sends after (diary side past ++ entries))
    (hears : Hears after.receiver (diary side past ++ entries) (diary side.other past)) :
    Sound (network.setPeer side after) (past ++ entries.map (side, ·)) := by
  have own : diary side (past ++ entries.map (side, ·)) = diary side past ++ entries := by
    rw [diary_append, diary_own]
  have others : diary side.other (past ++ entries.map (side, ·)) = diary side.other past := by
    rw [diary_append, diary_elsewhere side.other_ne.symm, List.append_nil]
  have mine : (network.setPeer side after).peer side = after := if_pos rfl
  have theirs : (network.setPeer side after).peer side.other = network.peer side.other :=
    if_neg side.other_ne
  constructor
  · intro here
    rcases here.eq_or_eq_other side with rfl | rfl
    · rw [mine]
      exact drained
    · rw [theirs]
      exact sound.drained _
  · intro here
    rcases here.eq_or_eq_other side with rfl | rfl
    · rw [mine, own]
      exact sends
    · rw [theirs, others]
      exact sound.sends _
  · intro here
    rcases here.eq_or_eq_other side with rfl | rfl
    · rw [mine, own, others]
      exact hears
    · have known := sound.hears side.other
      rw [Side.other_other] at known ⊢
      rw [theirs, others, own]
      exact known.grow entries
  · intro here datagram member
    rcases here.eq_or_eq_other side with rfl | rfl
    · rw [own]
      exact (sound.genuine _ datagram member).append entries
    · rw [others]
      exact sound.genuine _ datagram member

theorem setWire (sound : Sound network past) {side : Side} {datagrams : List Datagram}
    (genuine : ∀ datagram ∈ datagrams, Genuine config (diary side past) datagram) :
    Sound (network.setWire side datagrams) past where
  drained := sound.drained
  sends := sound.sends
  hears := sound.hears
  genuine here datagram member := by
    simp only [Network.setWire] at member
    split at member
    · next same =>
      rw [same]
      exact genuine datagram member
    · exact sound.genuine here datagram member

/-! ## Every action keeps the network sound -/

theorem send (sound : Sound network past)
    (room : config.retransmitLimit < Capacity.keysPerRecord) (side : Side) (item : Payload)
    (now : Instant) :
    Sound (network.act side (.send item now)).1
      (past ++ (network.act side (.send item now)).2.map (side, ·)) := by
  simp only [Network.act]
  cases accepted : (network.peer side).send item now with
  | error error => rwa [List.map_nil, List.append_nil]
  | ok answer =>
      rcases answer with ⟨after, dataId⟩
      rcases Peer.send_eq_ok accepted with ⟨sender, segment, resolved, taken, rfl, rfl⟩
      have carried := Sender.payload_of_send taken
      simp only [Peer.drain, sound.drained side, List.nil_append, queued, List.drop_left,
        List.map_cons, List.map_nil]
      rcases views_emitted (resolved.filterMap (Peer.ofSendEvent .raw)) with
        ⟨noItems, noSegments, noCopies⟩
      have transmitted := congrArg (segment :: ·) noSegments
      apply sound.setPeer rfl
      · apply (sound.sends side).extend room (Sender.send_performs taken)
        · rw [Sender.itemsSent_sent, carried]
          exact congrArg ((segment.dataId, item) :: ·) noItems
        · rw [Sender.transmitted_sent]
          exact transmitted
        · have outbox := congrArg ((network.peer side).outbox ++ ·) transmitted
          exact outbox ▸ List.Subset.refl _
      · exact (sound.hears side).write noCopies (announced_resolved resolved)

theorem tick (sound : Sound network past)
    (room : config.retransmitLimit < Capacity.keysPerRecord) (side : Side) (now : Instant) :
    Sound (network.act side (.tick now)).1
      (past ++ (network.act side (.tick now)).2.map (side, ·)) := by
  have performs := Sender.retransmit_performs (network.peer side).sender now
  rcases answer : (network.peer side).sender.retransmit now with ⟨sender, resent, resolved⟩
  rw [answer] at performs
  simp only [Network.act, Peer.tick, answer, Peer.drain, sound.drained side, List.nil_append,
    queued, List.drop_left]
  rcases views_emitted (resolved.filterMap (Peer.ofSendEvent .raw)) with
    ⟨noItems, noSegments, noCopies⟩
  rcases views_transmitted resent with
    ⟨resentItems, resentSegments, resentCopies, resentNews⟩
  apply sound.setPeer rfl
  · apply (sound.sends side).extend room performs
    · rw [Sender.itemsSent_resent, items_append, resentItems, noItems, List.append_nil]
    · rw [Sender.transmitted_resent, segments_append, resentSegments, noSegments,
        List.append_nil]
    · rw [segments_append, resentSegments, noSegments, List.append_nil]
      exact List.Subset.refl _
  · apply (sound.hears side).write
    · rw [copies_append, resentCopies, noCopies, List.append_nil]
    · rw [announced_append, resentNews, announced_resolved, List.append_nil]

theorem flush (sound : Sound network past) (side : Side) (refusals : List (Option String)) :
    Sound (network.act side (.flush refusals)).1
      (past ++ (network.act side (.flush refusals)).2.map (side, ·)) := by
  have spec := Peer.flush_spec (network.peer side) ⟨network.wire side, refusals⟩
  rcases answer : (network.peer side).flush ⟨network.wire side, refusals⟩ with
    ⟨after, link, result⟩
  rw [answer] at spec
  rcases spec with ⟨sameSender, sameEvents, acked, left, _⟩
  have sends := sound.sends side
  have hears := sound.hears side
  simp only [Network.act, answer]
  apply setWire
  · apply sound.setPeer (sameEvents.trans (sound.drained side))
    · rw [List.append_nil]
      exact ⟨sameSender ▸ sends.traced, List.Subset.trans left sends.outbox, sends.counted⟩
    · rw [List.append_nil]
      rcases acked with same | same
      · rw [same]
        exact hears
      · rw [same]
        exact hears.ackSent
  · intro datagram member
    rw [List.map_nil, List.append_nil]
    rcases Peer.frames_of_mem_handedOver _ _ _ member with older | now
    · exact sound.genuine side datagram older
    · exact .of_frames sends hears now

theorem deliver (sound : Sound network past)
    (room : config.retransmitLimit < Capacity.keysPerRecord) (side : Side) (position : Nat)
    (now : Instant) :
    Sound (network.act side (.deliver position now)).1
      (past ++ (network.act side (.deliver position now)).2.map (side, ·)) := by
  simp only [Network.act]
  cases arrived : (network.wire side.other)[position]? with
  | none => rwa [List.map_nil, List.append_nil]
  | some datagram =>
      rcases sound.genuine side.other datagram (List.mem_of_getElem? arrived) with
        ⟨unit, decoded, carried, _⟩
      have others := sound.sends side.other
      simp only [Peer.drain, Peer.receive_of_decode _ decoded, sound.drained side,
        List.nil_append]
      rcases views_arrival (network.peer side).receiver decoded
          ((((network.peer side).receiver.ingestUnit unit).2.filterMap
          (Peer.ofReceiveEvent .raw)) ++
          ((network.peer side).sender.acknowledge unit.ack now).2.filterMap
          (Peer.ofSendEvent .raw)) with ⟨noItems, noSegments, _, _⟩
      apply sound.setPeer rfl
      · refine (sound.sends side).extend room
          (Sender.acknowledge_performs (network.peer side).sender unit.ack now) ?_ ?_ ?_
        · rw [Sender.itemsSent_resolved, noItems]
        · rw [Sender.transmitted_resolved, noSegments]
        · rw [noSegments, List.append_nil]
          exact List.Subset.refl _
      · refine (sound.hears side).deliver ?_ others.counted ?_ decoded carried ?_
        · exact numbered_deliveries others.traced
        · exact fun segment member => (others.traced.segments segment member).item
        · rw [List.map_append, announced_append, announced_resolved, List.append_nil,
            Receiver.ingestUnit_eq, announced_received]

theorem act (sound : Sound network past) (valid : config.Valid) (side : Side)
    (action : Action) :
    Sound (network.act side action).1 (past ++ (network.act side action).2.map (side, ·)) := by
  cases action with
  | send item now => exact sound.send valid.retransmitLimit_lt side item now
  | tick now => exact sound.tick valid.retransmitLimit_lt side now
  | flush refusals => exact sound.flush side refusals
  | deliver position now => exact sound.deliver valid.retransmitLimit_lt side position now

end Sound

/-- Whatever happens between two peers with valid settings, the network is sound. -/
theorem sound_run (valid : config.Valid) (actions : List (Side × Action)) :
    Sound (Transition.run step (start config) actions).1 (history config actions) :=
  Transition.run_keeps Sound (fun action sound => sound.act valid action.1 action.2) actions
    (sound_start config)

end Network

end ReliableDatagram
