import ReliableDatagram.Proofs.Network.Standing

/-!
# What a confirmation is worth

Between two peers with the same valid settings, a side that transmitted fewer times than
half the space may trust a confirmation: the item is the one that it sent under the id, the
other side was handed it, and the other side announced it, unless a skip had passed it
before (`acked_earned`).
-/

namespace ReliableDatagram

namespace Network

variable {config : Config} {network : Network config} {past : History}

/-! ## Confirmed items -/

/-- What stands behind the confirmation of an item, in what happened before. -/
structure Earned (past : History) (side : Side) (dataId : SeqId) (item : Payload) : Prop where
  sent : (side, .sent dataId item) ∈ past
  arrived : ∃ datagram unit segment, (side.other, .handed datagram) ∈ past ∧
    WireUnit.decode datagram = .ok unit ∧ segment ∈ unit.segments ∧
    segment.dataId = dataId ∧ segment.payload = item
  announced : (side.other, .emitted (.unordered dataId item)) ∈ past ∨
    Missed (diary side.other past) dataId

theorem Earned.mono {more : History} {side : Side} {dataId : SeqId} {item : Payload}
    (earned : Earned past side dataId item) (part : past <+: more) :
    Earned more side dataId item := by
  rcases part with ⟨rest, rfl⟩
  rcases earned with ⟨sent, ⟨datagram, unit, segment, handed, carried⟩, announced⟩
  refine ⟨List.mem_append_left _ sent,
    ⟨datagram, unit, segment, List.mem_append_left _ handed, carried⟩, ?_⟩
  rcases announced with before | missed
  · exact .inl (List.mem_append_left _ before)
  · rw [diary_append]
    exact .inr (missed.append _)

theorem previous_ne_advance (id : SeqId) {index : Nat} (within : index < SeqId.halfSpace) :
    id.previous ≠ id.advance index := by
  intro same
  rw [SeqId.previous, SeqId.retreat_eq_advance id (by decide)] at same
  have equal := SeqId.advance_injective (by decide) (Nat.lt_trans within (by decide)) same
  rw [← equal] at within
  exact absurd within (by decide)

/-- An item of which one transmission id was reported has earned its confirmation.  The id
leads to one transmission, and the copy that listed it is a copy of the same item. -/
theorem Sound.earned (sound : Sound network past) {side : Side}
    (few : (segments (diary side past)).length < SeqId.halfSpace) {slot : Nat}
    {record : Record PendingItem} {dataId id : SeqId} {item : Payload}
    (found : (network.peer side).sender.pending.record? slot = some record)
    (same : Sender.itemOf record = (dataId, item)) (listed : id ∈ record.keys)
    (reported : id = config.initialTransmissionId.previous ∨
      Receiver.Lists (copies (diary side.other past)) id) :
    Earned past side dataId item := by
  have traced := (sound.sends side).traced
  have hears := sound.hears side.other
  rw [Side.other_other] at hears
  rcases (traced.records found).ids id listed with ⟨index, first, there, drawn, firstItem⟩
  have inside := Nat.lt_trans (List.getElem?_eq_some_iff.mp there).1 few
  rcases reported with sentinel | ⟨copy, copied, copyLists⟩
  · exact absurd (sentinel.symm.trans drawn) (previous_ne_advance _ inside)
  · have transmitted := hears.copies_subset copied
    rcases (traced.segments copy transmitted).ids id copyLists with
      ⟨position, second, here, drawnToo, secondItem⟩
    have insideToo := Nat.lt_trans (List.getElem?_eq_some_iff.mp here).1 few
    have once : index = position :=
      SeqId.advance_injective (Nat.lt_trans inside (by decide))
        (Nat.lt_trans insideToo (by decide)) (drawn.symm.trans drawnToo)
    rw [once, here] at there
    cases there
    have copyItem : (copy.dataId, copy.payload) = (dataId, item) :=
      secondItem.symm.trans (firstItem.trans same)
    cases copyItem
    have taken := (traced.records found).item
    rw [same] at taken
    rcases mem_copies.mp copied with ⟨datagram, unit, handed, decoded, carried⟩
    rcases hears.follows few with ⟨passed, follows⟩
    refine ⟨mem_diary.mp (mem_items.mp taken),
      ⟨datagram, unit, copy, mem_diary.mp handed, decoded, carried, rfl, rfl⟩, ?_⟩
    rcases follows.settled copy copied with known | missed
    · exact .inl (mem_diary.mp (mem_announced.mp known))
    · exact .inr missed

/-! ## Confirming actions -/

theorem mem_of_emitted_mem_map {events : List (PeerEvent Payload)} {event : PeerEvent Payload}
    (member : .emitted event ∈ events.map Entry.emitted) : event ∈ events := by
  rcases List.mem_map.mp member with ⟨other, listed, same⟩
  rwa [← Entry.emitted.inj same]

theorem emitted_notMem_queued {before after : Peer config .raw} {event : PeerEvent Payload} :
    .emitted event ∉ queued before after := by
  intro member
  rcases List.mem_map.mp member with ⟨segment, _, same⟩
  cases same

theorem emitted_notMem_skips {receiver : Receiver config} {datagram : Datagram}
    {event : PeerEvent Payload} : .emitted event ∉ skips receiver datagram := by
  unfold skips
  split
  · exact List.not_mem_nil
  · split
    · exact List.not_mem_nil
    · intro member
      cases List.mem_singleton.mp member

/-- What is announced when a datagram arrives, the peer announced. -/
theorem mem_of_emitted_mem_arrival {receiver : Receiver config} {datagram : Datagram}
    {events : List (PeerEvent Payload)} {event : PeerEvent Payload}
    (member : .emitted event ∈ arrival receiver datagram events) : event ∈ events := by
  rw [arrival, List.cons_append, List.mem_cons] at member
  rcases member with same | later
  · cases same
  · rcases List.mem_append.mp later with skip | announced
    · exact absurd skip emitted_notMem_skips
    · exact mem_of_emitted_mem_map announced

theorem acked_notMem_act_send (drained : ∀ side, (network.peer side).events = [])
    {side : Side} {payload : Payload} {now : Instant} {dataId : SeqId} {item : Payload} :
    .emitted (.acked dataId item) ∉ (network.act side (.send payload now)).2 := by
  intro member
  simp only [act] at member
  cases accepted : (network.peer side).send payload now with
  | error error =>
      rw [accepted] at member
      cases member
  | ok answer =>
      rcases answer with ⟨after, taken⟩
      rcases Peer.send_eq_ok accepted with ⟨sender, segment, resolved, answered, rfl, rfl⟩
      simp only [accepted, Peer.drain, drained side, List.nil_append, List.cons_append,
        List.mem_cons] at member
      rcases member with same | later
      · cases same
      · rcases List.mem_append.mp later with transmitted | announced
        · exact emitted_notMem_queued transmitted
        · have confirmed := Peer.acked_mem_resolved (mem_of_emitted_mem_map announced)
          exact Sender.not_isAcked_of_mem_send answered confirmed rfl

theorem acked_notMem_act_tick (drained : ∀ side, (network.peer side).events = [])
    {side : Side} {now : Instant} {dataId : SeqId} {item : Payload} :
    .emitted (.acked dataId item) ∉ (network.act side (.tick now)).2 := by
  intro member
  simp only [act, Peer.tick, Peer.drain, drained side, List.nil_append] at member
  rcases List.mem_append.mp member with transmitted | announced
  · exact emitted_notMem_queued transmitted
  · have confirmed := Peer.acked_mem_resolved (mem_of_emitted_mem_map announced)
    exact Sender.not_isAcked_of_mem_retransmit confirmed rfl

/-- An action that announces a confirmation is the arrival of a datagram that reports a
transmission of the item. -/
theorem Sound.earned_of_mem_act (sound : Sound network past) {side : Side}
    (few : (segments (diary side past)).length < SeqId.halfSpace) {action : Action}
    {dataId : SeqId} {item : Payload}
    (member : .emitted (.acked dataId item) ∈ (network.act side action).2) :
    Earned past side dataId item := by
  cases action with
  | send payload now => exact absurd member (acked_notMem_act_send sound.drained)
  | tick now => exact absurd member (acked_notMem_act_tick sound.drained)
  | flush refusals => cases member
  | deliver position now =>
      simp only [Network.act] at member
      cases arrived : (network.wire side.other)[position]? with
      | none =>
          rw [arrived] at member
          cases member
      | some datagram =>
          rcases sound.genuine side.other datagram (List.mem_of_getElem? arrived) with
            ⟨unit, decoded, _, reported⟩
          simp only [arrived, Peer.drain, Peer.receive_of_decode _ decoded, sound.drained side,
            List.nil_append] at member
          rcases List.mem_append.mp (mem_of_emitted_mem_arrival member) with received | resolved
          · exact absurd received Peer.acked_notMem_received
          · rcases Sender.pending_of_acked
                (sound.sends side).traced.agrees (Peer.acked_mem_resolved resolved) with
              ⟨slot, record, found, same, id, listed, held⟩
            exact sound.earned few found same held (reported id listed)

theorem Sound.sent_unique (sound : Sound network past) {side : Side}
    (few : (segments (diary side past)).length < SeqId.halfSpace) {dataId : SeqId}
    {item other : Payload} (sent : (side, .sent dataId item) ∈ past)
    (sentToo : (side, .sent dataId other) ∈ past) : other = item := by
  have sends := sound.sends side
  have short : (deliveries (diary side past)).length < SeqId.halfSpace := by
    rw [deliveries, List.length_map]
    exact Nat.lt_of_le_of_lt sends.counted few
  have taken : ∀ payload, (side, .sent dataId payload) ∈ past →
      ⟨dataId, payload⟩ ∈ deliveries (diary side past) := by
    intro payload member
    have listed : (dataId, payload) ∈ items (diary side past) :=
      mem_items.mpr (mem_diary.mpr member)
    exact List.mem_map_of_mem (f := fun item => (⟨item.1, item.2⟩ : Delivery)) listed
  have same := Receiver.Numbered.unique (numbered_deliveries sends.traced) short
    (taken other sentToo) (taken item sent) rfl
  exact congrArg Delivery.payload same

/-- A confirmation is earned, and no other item was ever sent under its id. -/
theorem acked_earned (valid : config.validate = .ok ()) (actions : List (Side × Action))
    {side : Side}
    (few : (segments (diary side (history config actions))).length ≤ 32767)
    {before after : History} {dataId : SeqId} {item : Payload}
    (acked : history config actions =
      before ++ (side, .emitted (.acked dataId item)) :: after) :
    Earned before side dataId item ∧
      ∀ other, (side, .sent dataId other) ∈ history config actions → other = item := by
  have honoured := Config.validate_eq_ok_iff.mp valid
  have bounded := Nat.lt_succ_of_le few
  rcases Transition.run_eq_append acked with ⟨first, action, rest, split, member, part⟩
  rcases List.mem_map.mp member with ⟨entry, noticed, same⟩
  cases same
  have short : (segments (diary action.1 (history config first))).length < SeqId.halfSpace := by
    rcases part with ⟨more, grown⟩
    rw [acked, ← grown, diary_append, diary_append, segments_append, segments_append,
      List.length_append, List.length_append] at bounded
    change (segments (diary action.1 (history config first))).length + _ + _ < _ at bounded
    exact Nat.lt_of_le_of_lt (Nat.le_trans (Nat.le_add_right _ _) (Nat.le_add_right _ _)) bounded
  have earned := ((sound_run honoured first).earned_of_mem_act short noticed).mono part
  refine ⟨earned, ?_⟩
  intro other sent
  have listed : (action.1, .sent dataId item) ∈ history config actions := by
    rw [acked]
    exact List.mem_append_left _ earned.sent
  exact (sound_run honoured actions).sent_unique bounded listed sent

/-! ## Two runs -/

/-- The link refuses a datagram, and its item goes out again with the next one.  The refused
datagram arrives all the same, between two copies of the other. -/
def refusedOnce : List (Side × Action) :=
  [(.left, .send [7] ⟨0⟩), (.left, .flush [some "down"]), (.left, .send [8] ⟨0⟩),
    (.left, .flush []), (.right, .deliver 1 ⟨0⟩), (.right, .deliver 0 ⟨0⟩),
    (.right, .deliver 1 ⟨0⟩), (.right, .flush []), (.left, .deliver 0 ⟨0⟩)]

theorem acked_earned_refusedOnce :
    Config.validate {} = .ok () ∧
      (segments (diary .left (history {} refusedOnce))).length ≤ 32767 ∧
      history {} refusedOnce = (history {} refusedOnce).dropLast ++
        [(.left, .emitted (.acked (.ofNat 0) [7]))] ∧
      Earned (history {} refusedOnce).dropLast .left (.ofNat 0) [7] ∧
      ∀ other, (.left, .sent (.ofNat 0) other) ∈ history {} refusedOnce → other = [7] := by
  have few : (segments (diary .left (history {} refusedOnce))).length ≤ 32767 := by decide
  have acked : history {} refusedOnce = (history {} refusedOnce).dropLast ++
      [(.left, .emitted (.acked (.ofNat 0) [7]))] := by decide
  exact ⟨rfl, few, acked, acked_earned rfl refusedOnce few acked⟩

/-- The third of three items arrives first, and then the first. -/
def overtaken : List (Side × Action) :=
  [(.left, .send [1] ⟨0⟩), (.left, .flush []), (.left, .send [2] ⟨0⟩), (.left, .flush []),
    (.left, .send [3] ⟨0⟩), (.left, .flush []), (.right, .deliver 2 ⟨0⟩),
    (.right, .deliver 0 ⟨0⟩), (.right, .flush []), (.left, .deliver 0 ⟨0⟩)]

-- The exception is real: an item that a skip has passed is confirmed but never announced.
example :
    (.left, .emitted (.acked (.ofNat 0) [1])) ∈ history { offsetLimit := 1 } overtaken ∧
      (.right, .emitted (.unordered (.ofNat 0) [1])) ∉
        history { offsetLimit := 1 } overtaken := by
  decide

end Network

end ReliableDatagram
