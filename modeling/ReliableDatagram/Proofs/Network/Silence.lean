import ReliableDatagram.Proofs.Network.Confirmations
import ReliableDatagram.Proofs.Sender.HalfSpace
import ReliableDatagram.Proofs.Sender.Reach

/-!
# Two peers of which one hears nothing

A side that has received nothing reports so, with every datagram that it sends, by naming
the id just before the first transmission (`silence`).  This is an id like any other.  The
sender on the other side draws it for its last transmission before the ids start over, and
from then on the report confirms the item that went out under it, if it is still pending
(`acked_mem_act_iff`).  Before that nothing is confirmed (`acked_unheard`).
-/

namespace ReliableDatagram

namespace Network

variable {config : Config} {network : Network config} {past : History}

/-! ## The report of a side that has received nothing -/

/-- What a side reports that has received nothing. -/
def silence (config : Config) : Acknowledgment := ⟨config.initialTransmissionId.previous, 0#32⟩

theorem mem_reportedIds_silence {id : SeqId} :
    id ∈ Sender.reportedIds (silence config) ↔ id = config.initialTransmissionId.previous := by
  constructor
  · intro reported
    rcases ReceiptWindow.mem_observed_ofAcknowledgment.mp reported with
      ⟨offset, rfl | ⟨bit, set, _⟩, same⟩
    · exact same.trans (SeqId.retreat_zero _)
    · simp [silence] at set
  · rintro rfl
    exact Sender.newest_mem_reportedIds (silence config)

theorem acknowledgment_of_silent {receiver : Receiver config}
    (silent : receiver.transmissions = none) : receiver.acknowledgment = silence config := by
  simp only [Receiver.acknowledgment, silent]
  rfl

/-! ## What a side can change -/

/-- No action changes the peer of the other side, or what it has handed over. -/
theorem act_other (network : Network config) (side : Side) (action : Action) :
    (network.act side action).1.peer side.other = network.peer side.other ∧
      (network.act side action).1.wire side.other = network.wire side.other := by
  have elsewhere := side.other_ne
  cases action with
  | send item now =>
      simp only [act]
      split
      · exact ⟨rfl, rfl⟩
      · exact ⟨if_neg elsewhere, rfl⟩
  | tick now => exact ⟨if_neg elsewhere, rfl⟩
  | flush refusals => exact ⟨if_neg elsewhere, if_neg elsewhere⟩
  | deliver position now =>
      simp only [act]
      split
      · exact ⟨rfl, rfl⟩
      · exact ⟨if_neg elsewhere, rfl⟩

/-- Whether a side has received nothing, and reports nothing but that. -/
structure Silent (network : Network config) (side : Side) : Prop where
  transmissions : (network.peer side).receiver.transmissions = none
  reports : ∀ datagram ∈ network.wire side,
    ∃ unit, WireUnit.decode datagram = .ok unit ∧ unit.ack = silence config

namespace Silent

variable {side : Side}

theorem start (config : Config) (side : Side) : Silent (start config) side where
  transmissions := rfl
  reports := nofun

/-- A side that receives nothing stays silent when it acts. -/
theorem act_own (silent : Silent network side) {action : Action}
    (unreached : ∀ position now, action ≠ .deliver position now) :
    Silent (network.act side action).1 side := by
  cases action with
  | send item now =>
      simp only [Network.act]
      cases accepted : (network.peer side).send item now with
      | error error => exact silent
      | ok answer =>
          rcases answer with ⟨after, dataId⟩
          rcases Peer.send_eq_ok accepted with ⟨_, _, _, _, rfl, _⟩
          refine ⟨?_, silent.reports⟩
          simp only [setPeer, if_pos]
          exact silent.transmissions
  | tick now =>
      refine ⟨?_, silent.reports⟩
      simp only [Network.act, setPeer, if_pos]
      exact silent.transmissions
  | flush refusals =>
      rcases Peer.flush_spec (network.peer side) ⟨network.wire side, refusals⟩ with
        ⟨_, _, receiver, _, _⟩
      constructor
      · simp only [Network.act, setWire, setPeer, if_pos]
        rcases receiver with same | same
        · rw [same]
          exact silent.transmissions
        · rw [same]
          exact silent.transmissions
      · intro datagram member
        simp only [Network.act, setWire, if_pos] at member
        rcases Peer.frames_of_mem_handedOver (network.peer side) _ _ member with
          before | ⟨unit, decoded, acked, _⟩
        · exact silent.reports datagram before
        · exact ⟨unit, decoded, acked.trans (acknowledgment_of_silent silent.transmissions)⟩
  | deliver position now => exact absurd rfl (unreached position now)

theorem step (silent : Silent network side) {action : Side × Action}
    (unreached : ∀ position now, action ≠ (side, .deliver position now)) :
    Silent (step network action).1 side := by
  rcases action with ⟨here, action⟩
  rcases side.eq_or_eq_other here with rfl | rfl
  · apply silent.act_own
    intro position now same
    exact unreached position now (congrArg _ same)
  · rcases act_other network here action with ⟨peer, wire⟩
    constructor
    · rw [step, peer]
      exact silent.transmissions
    · rw [step, wire]
      exact silent.reports

theorem run (silent : Silent network side) {actions : List (Side × Action)}
    (unreached : ∀ position now, (side, .deliver position now) ∉ actions) :
    Silent (Transition.run Network.step network actions).1 side := by
  induction actions generalizing network with
  | nil => exact silent
  | cons action rest ih =>
      rw [Transition.run_cons]
      apply ih
      · exact silent.step fun position now same =>
          unreached position now (same ▸ List.mem_cons_self)
      · exact fun position now later => unreached position now (List.mem_cons_of_mem _ later)

end Silent

/-! ## What silence confirms -/

/-- A pending item that a silent side confirms: it went out under the id that silence names. -/
def Mistaken (sender : Sender config) (dataId : SeqId) (item : Payload) : Prop :=
  sender.Accepts (silence config) ∧
    ∃ slot record, sender.pending.record? slot = some record ∧
      Sender.itemOf record = (dataId, item) ∧ config.initialTransmissionId.previous ∈ record.keys

theorem emitted_mem_arrival {receiver : Receiver config} {datagram : Datagram}
    {events : List (PeerEvent Payload)} {event : PeerEvent Payload} (member : event ∈ events) :
    .emitted event ∈ arrival receiver datagram events :=
  List.mem_cons_of_mem _ (List.mem_append_right _ (List.mem_map_of_mem member))

/-- What arrives from a silent side confirms the items that are filed under the id that silence
names, and no other ones. -/
theorem acked_mem_act_iff (sound : Sound network past) {side : Side}
    (silent : Silent network side.other) {action : Action} {dataId : SeqId} {item : Payload} :
    .emitted (.acked dataId item) ∈ (network.act side action).2 ↔
      (∃ position now, action = .deliver position now ∧
        position < (network.wire side.other).length) ∧
      Mistaken (network.peer side).sender dataId item := by
  have agrees := (sound.sends side).traced.agrees
  constructor
  · intro member
    cases action with
    | send payload now => exact absurd member (acked_notMem_act_send sound.drained)
    | tick now => exact absurd member (acked_notMem_act_tick sound.drained)
    | flush refusals => cases member
    | deliver position now =>
        simp only [Network.act] at member
        cases arrived : (network.wire side.other)[position]? with
        | none =>
            rw [arrived] at member
            cases member
        | some datagram =>
            rcases silent.reports datagram (List.mem_of_getElem? arrived) with
              ⟨unit, decoded, acked⟩
            simp only [arrived, Peer.drain, Peer.receive_of_decode _ decoded, sound.drained side,
              List.nil_append] at member
            rcases List.mem_append.mp (mem_of_emitted_mem_arrival member) with received | resolved
            · exact absurd received Peer.acked_notMem_received
            · have confirmed := Peer.acked_mem_resolved resolved
              rw [acked] at confirmed
              refine ⟨⟨position, now, rfl, (List.getElem?_eq_some_iff.mp arrived).1⟩, ?_, ?_⟩
              · by_contra ignored
                rw [Sender.acknowledge_of_not_accepts ignored] at confirmed
                cases confirmed
              · rcases Sender.pending_of_acked agrees confirmed with
                  ⟨slot, record, found, same, id, reported, listed⟩
                rw [mem_reportedIds_silence.mp reported] at listed
                exact ⟨slot, record, found, same, listed⟩
  · intro condition
    rcases condition with
      ⟨⟨position, now, rfl, inside⟩, accepted, slot, record, found, same, listed⟩
    rcases silent.reports _ (List.getElem_mem inside) with ⟨unit, decoded, acked⟩
    have reported : Sender.Reported (Sender.reportedIds (silence config)) record :=
      ⟨_, mem_reportedIds_silence.mpr rfl, listed⟩
    have confirmed := (Sender.acked_mem_acknowledge agrees accepted now found reported).1
    rcases Prod.mk.inj same with ⟨rfl, rfl⟩
    simp only [Network.act, List.getElem?_eq_getElem inside, Peer.drain,
      Peer.receive_of_decode _ decoded, sound.drained side, List.nil_append, acked]
    apply emitted_mem_arrival
    exact List.mem_append_right _ (List.mem_filterMap.mpr ⟨_, confirmed, rfl⟩)

/-- A transmission that went out under the id that silence names is the last one before the
ids start over. -/
theorem mod_space_of_previous {id : SeqId} {index : Nat} (same : id.previous = id.advance index) :
    index % SeqId.space = SeqId.space - 1 := by
  have distances := congrArg id.distanceTo same
  rw [SeqId.previous, SeqId.retreat_eq_advance id (by decide), SeqId.distanceTo_advance,
    SeqId.distanceTo_advance] at distances
  exact distances.symm

theorem transmitted_of_mistaken (sound : Sound network past) {side : Side} {dataId : SeqId}
    {item : Payload} (mistaken : Mistaken (network.peer side).sender dataId item) :
    ∃ (index : Nat) (segment : Segment), (segments (diary side past))[index]? = some segment ∧
      index % SeqId.space = SeqId.space - 1 ∧
      (segment.dataId, segment.payload) = (dataId, item) := by
  rcases mistaken with ⟨_, slot, record, found, same, listed⟩
  rcases ((sound.sends side).traced.records found).ids _ listed with
    ⟨index, segment, there, drawn, carried⟩
  exact ⟨index, segment, there, mod_space_of_previous drawn, carried.trans same⟩

/-- While one side receives nothing, all that it hands over says so.  To the other side this
confirms the items that went out last before the ids started over, if they are pending still,
and no other ones. -/
theorem acked_unheard (valid : config.validate = .ok ()) {side : Side}
    {actions : List (Side × Action)}
    (unheard : ∀ position now, (side.other, .deliver position now) ∉ actions) :
    (∀ datagram ∈ (Transition.run step (start config) actions).1.wire side.other,
      ∃ unit, WireUnit.decode datagram = .ok unit ∧ unit.ack = silence config) ∧
    (∀ action dataId item,
      .emitted (.acked dataId item) ∈
          ((Transition.run step (start config) actions).1.act side action).2 ↔
        (∃ position now, action = .deliver position now ∧
          position < ((Transition.run step (start config) actions).1.wire side.other).length) ∧
        Mistaken ((Transition.run step (start config) actions).1.peer side).sender dataId item) ∧
    ∀ before after dataId item,
      history config actions = before ++ (side, .emitted (.acked dataId item)) :: after →
      ∃ (index : Nat) (segment : Segment), (segments (diary side before))[index]? = some segment ∧
        index % SeqId.space = SeqId.space - 1 ∧
        (segment.dataId, segment.payload) = (dataId, item) := by
  have honoured := Config.validate_eq_ok_iff.mp valid
  have silent := (Silent.start config side.other).run unheard
  refine ⟨silent.reports, fun action dataId item =>
    acked_mem_act_iff (sound_run honoured actions) silent, ?_⟩
  intro before after dataId item split
  rcases Transition.run_eq_append split with ⟨first, action, rest, rfl, member, part⟩
  rcases List.mem_map.mp member with ⟨entry, noticed, same⟩
  cases same
  have sound := sound_run honoured first
  have early := (Silent.start config action.1.other).run fun position now listed =>
    unheard position now (List.mem_append_left _ listed)
  rcases transmitted_of_mistaken sound ((acked_mem_act_iff sound early).mp noticed).2 with
    ⟨index, segment, there, last, carried⟩
  rcases part with ⟨more, rfl⟩
  refine ⟨index, segment, ?_, last, carried⟩
  rw [diary_append, segments_append]
  exact (List.getElem?_append_left (List.getElem?_eq_some_iff.mp there).1).trans there

/-- Two items pass each other, and only one of them arrives. -/
def unanswered : List (Side × Action) :=
  [(.left, .send [7] ⟨0⟩), (.left, .flush []), (.right, .send [8] ⟨0⟩), (.right, .flush [])]

theorem acked_unheard_unanswered :
    Config.validate {} = .ok () ∧
      (∀ position now, (Side.left.other, .deliver position now) ∉ unanswered) ∧
      (∀ datagram ∈ (Transition.run step (start {}) unanswered).1.wire .right,
        ∃ unit, WireUnit.decode datagram = .ok unit ∧ unit.ack = silence {}) ∧
      (∀ action dataId item,
        .emitted (.acked dataId item) ∈
            ((Transition.run step (start {}) unanswered).1.act .left action).2 ↔
          (∃ position now, action = .deliver position now ∧
            position < ((Transition.run step (start {}) unanswered).1.wire .right).length) ∧
          Mistaken ((Transition.run step (start {}) unanswered).1.peer .left).sender dataId item) ∧
      ∀ before after dataId item,
        history {} unanswered = before ++ (.left, .emitted (.acked dataId item)) :: after →
        ∃ (index : Nat) (segment : Segment),
          (segments (diary .left before))[index]? = some segment ∧
          index % SeqId.space = SeqId.space - 1 ∧
          (segment.dataId, segment.payload) = (dataId, item) := by
  have unheard : ∀ position now, (Side.left.other, .deliver position now) ∉ unanswered := by
    intro position now
    simp [unanswered]
  exact ⟨rfl, unheard, acked_unheard rfl unheard⟩

/-! ## A confirmation that nobody gave -/

/-- One side hands over an item, and then the other side sends a number of items, of which
only the last is pending. -/
def talkedOver (count : Nat) : List (Side × Action) :=
  [(.right, .send [] ⟨0⟩), (.right, .flush [])] ++ List.replicate count (.left, .send [] ⟨0⟩)

theorem talkedOver_succ (count : Nat) :
    talkedOver (count + 1) = talkedOver count ++ [(.left, .send [] ⟨0⟩)] := by
  rw [talkedOver, List.replicate_succ', ← List.append_assoc]
  rfl

theorem run_talkedOver (count : Nat) :
    ((Transition.run step (start Sender.singleItem) (talkedOver count)).1.peer .left).sender =
        Sender.flooded count ∧
      ((Transition.run step (start Sender.singleItem) (talkedOver count)).1.wire
        .right).length = 1 := by
  induction count with
  | zero =>
      have first := act_other (start Sender.singleItem) .right (.send [] ⟨0⟩)
      have second := act_other ((start Sender.singleItem).act .right (.send [] ⟨0⟩)).1 .right
        (.flush [])
      exact ⟨congrArg Peer.sender (second.1.trans first.1), by decide +kernel⟩
  | succ count ih =>
      rw [talkedOver_succ, Transition.run_concat]
      generalize (Transition.run step (start Sender.singleItem) (talkedOver count)).1 = network
        at ih ⊢
      rcases ih with ⟨sender, handed⟩
      constructor
      · have fits : ([] : Payload).length ≤ Capacity.payloadBytes := Nat.zero_le _
        rcases (Sender.flooded count).send_eq_ok fits ⟨0⟩ with ⟨_, _, _, accepted⟩
        rw [Sender.flooded_succ]
        simp only [step, act, Peer.send, PayloadCodec.raw, sender, accepted, Sender.step, setPeer,
          Peer.drain]
        exact congrArg Peer.sender (if_pos trivial)
      · have same : (step network (.left, .send [] ⟨0⟩)).1.wire .right = network.wire .right :=
          (act_other network .left (.send [] ⟨0⟩)).2
        rw [same, handed]

theorem deliver_notMem_talkedOver (count position : Nat) (now : Instant) :
    (Side.right, .deliver position now) ∉ talkedOver count := by
  simp [talkedOver]

/-- The report of the side that hears nothing confirms what is mistaken for reported. -/
theorem acked_talkedOver {count : Nat} {dataId : SeqId} {item : Payload}
    (mistaken : Mistaken (Sender.flooded count) dataId item) :
    (.left, .emitted (.acked dataId item)) ∈
      history Sender.singleItem (talkedOver count ++ [(.left, .deliver 0 ⟨0⟩)]) := by
  have valid : Sender.singleItem.Valid := Config.fault?_eq_none_iff.mp (by decide)
  have sound := sound_run valid (talkedOver count)
  have silent : Silent (Transition.run step (start Sender.singleItem) (talkedOver count)).1
      Side.left.other :=
    (Silent.start Sender.singleItem .right).run (deliver_notMem_talkedOver count)
  rcases run_talkedOver count with ⟨sender, handed⟩
  have acked := (acked_mem_act_iff sound silent).mpr
    ⟨⟨0, ⟨0⟩, rfl, Nat.lt_of_lt_of_eq Nat.one_pos handed.symm⟩, sender ▸ mistaken⟩
  rw [history, Transition.run_append]
  apply List.mem_append_right
  rw [Transition.run_cons, Transition.run_nil, List.append_nil]
  exact List.mem_map_of_mem acked

/-- After 65536 transmissions the report that nothing has arrived confirms the last of them. -/
theorem silence_confirms :
    Sender.singleItem.validate = .ok () ∧
      (∀ position now, (Side.left.other, .deliver position now) ∉
        talkedOver 65536 ++ [(.left, .deliver 0 ⟨0⟩)]) ∧
      (.left, .emitted (.acked (.ofNat 65535) [])) ∈
        history Sender.singleItem (talkedOver 65536 ++ [(.left, .deliver 0 ⟨0⟩)]) := by
  rcases Sender.record?_flooded 65535 with ⟨slot, only⟩
  have found := only slot
  rw [if_pos rfl] at found
  have mistaken : Mistaken (Sender.flooded 65536) (.ofNat 65535) [] := by
    refine ⟨?_, slot, _, found, by decide, by decide⟩
    rw [Sender.Accepts, Sender.nextTransmissionId_flooded]
    decide
  refine ⟨rfl, ?_, acked_talkedOver mistaken⟩
  intro position now member
  rcases List.mem_append.mp member with before | last
  · exact deliver_notMem_talkedOver 65536 position now before
  · cases List.mem_singleton.mp last

end Network

end ReliableDatagram
