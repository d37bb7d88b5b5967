import ReliableDatagram.Proofs.Peer.Runs

/-!
# Payloads that an application does not know

A codec may know all payloads that are sent but refuse some of those that come back.  A peer
with such a codec does everything that it would do if it knew them all, and only keeps the
refused payloads from the application.  To hide them is to filter the queue of events
(`hide`), and it makes no difference whether this is done before an operation or after it
(`perform_hide`).  So a whole run with the stricter codec is the plain run with events hidden
(`run_hide`).
-/

namespace ReliableDatagram

/-- The codec of an application whose items are bytes, but which refuses some of them when
they come back. -/
def PayloadCodec.rejecting (refuse : Payload → Option String) : PayloadCodec Payload where
  encode := .ok
  decode payload :=
    match refuse payload with
    | some cause => .error cause
    | none => .ok payload

/-- The item that an event is about. -/
def PeerEvent.item {Item : Type} : PeerEvent Item → Item
  | .ordered _ item => item
  | .unordered _ item => item
  | .acked _ item => item
  | .unacked _ item _ => item

namespace Peer

variable {config : Config} {refuse : Payload → Option String}

/-! ## Events -/

/-- Whether an event is about a payload that is not refused. -/
def shown (refuse : Payload → Option String) (event : PeerEvent Payload) : Bool :=
  (refuse event.item).isNone

theorem item?_rejecting (refuse : Payload → Option String) (payload : Payload) :
    item? (.rejecting refuse) payload =
      (item? .raw payload).filter fun item => (refuse item).isNone := by
  have known : item? .raw payload = some payload := rfl
  rw [known, Option.filter_some]
  simp only [item?, PayloadCodec.rejecting]
  cases refuse payload with
  | none => rfl
  | some cause => rfl

/-- A refused payload takes its own event away, whichever constructor carries it. -/
theorem map_item?_rejecting (refuse : Payload → Option String) (payload : Payload)
    {event : Payload → PeerEvent Payload} (about : ∀ item, (event item).item = item) :
    (item? (.rejecting refuse) payload).map event =
      ((item? .raw payload).map event).filter (shown refuse) := by
  rw [item?_rejecting, Option.filter_map]
  congr 2
  funext item
  exact congrArg (fun item => (refuse item).isNone) (about item).symm

theorem ofSendEvent_rejecting (refuse : Payload → Option String) (event : SendEvent) :
    ofSendEvent (.rejecting refuse) event = (ofSendEvent .raw event).filter (shown refuse) := by
  cases event with
  | acked dataId payload => exact map_item?_rejecting refuse payload fun _ => rfl
  | unacked dataId payload reason => exact map_item?_rejecting refuse payload fun _ => rfl

theorem ofReceiveEvent_rejecting (refuse : Payload → Option String) (event : ReceiveEvent) :
    ofReceiveEvent (.rejecting refuse) event =
      (ofReceiveEvent .raw event).filter (shown refuse) := by
  cases event with
  | ordered delivery => exact map_item?_rejecting refuse delivery.payload fun _ => rfl
  | unordered delivery => exact map_item?_rejecting refuse delivery.payload fun _ => rfl

theorem filterMap_ofSendEvent_rejecting (refuse : Payload → Option String)
    (events : List SendEvent) :
    events.filterMap (ofSendEvent (.rejecting refuse)) =
      (events.filterMap (ofSendEvent .raw)).filter (shown refuse) := by
  rw [List.filter_filterMap]
  exact List.filterMap_congr fun event _ => ofSendEvent_rejecting refuse event

theorem filterMap_ofReceiveEvent_rejecting (refuse : Payload → Option String)
    (events : List ReceiveEvent) :
    events.filterMap (ofReceiveEvent (.rejecting refuse)) =
      (events.filterMap (ofReceiveEvent .raw)).filter (shown refuse) := by
  rw [List.filter_filterMap]
  exact List.filterMap_congr fun event _ => ofReceiveEvent_rejecting refuse event

/-! ## Operations -/

/-- The peer as it would be if it had refused some payloads all along. -/
def hide (refuse : Payload → Option String) (peer : Peer config .raw) :
    Peer config (.rejecting refuse) where
  sender := peer.sender
  receiver := peer.receiver
  outbox := peer.outbox
  events := peer.events.filter (shown refuse)

theorem hide_initial (config : Config) (refuse : Payload → Option String) :
    hide refuse (initial config .raw) = initial config (.rejecting refuse) := rfl

variable (peer : Peer config .raw)

theorem send_hide (item : Payload) (now : Instant) :
    (hide refuse peer).send item now =
      (peer.send item now).map fun answer => (hide refuse answer.1, answer.2) := by
  have plain : PayloadCodec.raw.encode item = .ok item := rfl
  have strict : (PayloadCodec.rejecting refuse).encode item = .ok item := rfl
  have same : (hide refuse peer).sender = peer.sender := rfl
  simp only [send, plain, strict, same]
  cases peer.sender.send item now with
  | error error => rfl
  | ok answer =>
      simp only [filterMap_ofSendEvent_rejecting, Except.map, hide, List.filter_append]

theorem tick_hide (now : Instant) :
    (hide refuse peer).tick now = (hide refuse (peer.tick now).1, (peer.tick now).2) := by
  simp only [tick, hide, filterMap_ofSendEvent_rejecting, List.filter_append]

theorem flush_hide (link : Link) :
    (hide refuse peer).flush link = (hide refuse (peer.flush link).1, (peer.flush link).2) := by
  have sameOutbox : (hide refuse peer).outbox = peer.outbox := rfl
  have sameReceiver : (hide refuse peer).receiver = peer.receiver := rfl
  simp only [flush, sameOutbox, sameReceiver]
  by_cases idle : peer.outbox.isEmpty && !peer.receiver.ackDue
  · simp only [if_pos idle]
  · simp only [if_neg idle]
    rfl

/-- What arrives is ingested in full, and the confirmation that comes with it as well. -/
theorem receive_hide (datagram : Datagram) (now : Instant) :
    ((hide refuse peer).receive datagram now).1 = hide refuse (peer.receive datagram now).1 ∧
      ((hide refuse peer).receive datagram now).2.map (fun _ => ()) =
        (peer.receive datagram now).2.map fun _ => () := by
  simp only [receive, hide]
  rcases peer.receiver.ingestDatagram datagram with ⟨receiver, error | incoming⟩
  · exact ⟨rfl, rfl⟩
  · refine ⟨?_, rfl⟩
    simp only [filterMap_ofSendEvent_rejecting, filterMap_ofReceiveEvent_rejecting,
      List.filter_append]

/-! ## Runs -/

/-- Each operation does the same to a peer that hides payloads, and to its link. -/
theorem perform_hide (link : Link) (operation : Operation Payload) :
    perform (hide refuse peer, link) operation =
      (hide refuse (perform (peer, link) operation).1, (perform (peer, link) operation).2) := by
  cases operation with
  | send item now =>
      simp only [perform, send_hide]
      cases peer.send item now <;> rfl
  | tick now => simp only [perform, tick_hide]
  | flush => simp only [perform, flush_hide]
  | receive datagram now => simp only [perform, (receive_hide peer datagram now).1]
  | drain => rfl

theorem segmentsGiven_hide (operation : Operation Payload) :
    (hide refuse peer).segmentsGiven operation = peer.segmentsGiven operation := by
  cases operation <;> rfl

/-- A run of a peer that hides payloads is a run of the plain peer with payloads hidden. -/
theorem run_hide (link : Link) (operations : List (Operation Payload)) :
    let plain := Transition.run step (peer, link) operations
    Transition.run step (hide refuse peer, link) operations =
      ((hide refuse plain.1.1, plain.1.2), plain.2) := by
  induction operations generalizing peer link with
  | nil => rfl
  | cons operation rest ih =>
      have later := ih (perform (peer, link) operation).1 (perform (peer, link) operation).2
      simp only [Transition.run_cons, step, perform_hide, segmentsGiven_hide] at later ⊢
      rw [later]

/-! ## What the application sees -/

/-- A peer whose codec refuses some payloads beside one whose codec knows all of them.  They
are the same and answer the same, but for the events about refused payloads. -/
structure Hides (refuse : Payload → Option String) (plain : Peer config .raw)
    (strict : Peer config (.rejecting refuse)) : Prop where
  sender : strict.sender = plain.sender
  receiver : strict.receiver = plain.receiver
  outbox : strict.outbox = plain.outbox
  events : strict.events = plain.events.filter (shown refuse)
  /-- Either both take on an item, under one id, or both refuse it for one reason. -/
  sent : ∀ item now, (strict.send item now).map Prod.snd = (plain.send item now).map Prod.snd
  ticked : ∀ now, (strict.tick now).2 = (plain.tick now).2
  /-- The link is left in the same state, and the same datagrams are counted as sent. -/
  flushed : ∀ link, (strict.flush link).2 = (plain.flush link).2
  /-- A datagram is malformed for both or for neither. -/
  received : ∀ datagram now, (strict.receive datagram now).2.map (fun _ => ()) =
    (plain.receive datagram now).2.map fun _ => ()
  drained : strict.drain.2 = plain.drain.2.filter (shown refuse)

theorem hides_hide (peer : Peer config .raw) : Hides refuse peer (hide refuse peer) where
  sender := rfl
  receiver := rfl
  outbox := rfl
  events := rfl
  sent item now := by
    rw [send_hide]
    cases peer.send item now <;> rfl
  ticked now := by rw [tick_hide]
  flushed link := by rw [flush_hide]
  received datagram now := (receive_hide peer datagram now).2
  drained := rfl

/-- Payloads that cannot be decoded hide their own events and do nothing else.  Whatever is
asked of a peer and whichever datagrams its link refuses, a codec that refuses payloads leaves
both halves, the outbox, the link and the segments given as they would be without it.  Of the
events exactly those about a refused payload are missing, and the others keep their order. -/
theorem rejected_payloads_hide_events (config : Config) (refuse : Payload → Option String)
    (refusals : List (Option String)) (operations : List (Operation Payload)) :
    let plain := Transition.run step (initial config .raw, ⟨[], refusals⟩) operations
    let strict := Transition.run step (initial config (.rejecting refuse), ⟨[], refusals⟩)
      operations
    Hides refuse plain.1.1 strict.1.1 ∧ strict.1.2 = plain.1.2 ∧ strict.2 = plain.2 := by
  intro plain strict
  have same : strict = ((hide refuse plain.1.1, plain.1.2), plain.2) := by
    simp only [strict, ← hide_initial]
    exact run_hide _ _ operations
  rw [same]
  exact ⟨hides_hide plain.1.1, rfl, rfl⟩

/-- The other side confirms two items.  One of them is refused when it is decoded, and the
application hears of the other one only, while the sender is done with both. -/
example :
    let refuse := fun payload : Payload => if payload = [1] then some "unknown" else none
    let confirmation := (WireUnit.ackOnly ⟨.ofNat 1, 1⟩).encode
    let peer := (Transition.run step (initial {} (.rejecting refuse), ⟨[], []⟩)
      [.send [1] ⟨0⟩, .send [2] ⟨0⟩, .receive confirmation ⟨1⟩]).1.1
    peer.events = [.acked (.ofNat 1) [2]] ∧ peer.sender.pending.size = 0 := by
  decide

end Peer

end ReliableDatagram
