import ReliableDatagram.Link
import ReliableDatagram.Receiver
import ReliableDatagram.Sender

/-!
# Peers

A peer is one end of a connection: a sender and a receiver, joined over a codec
for the items of the application and an outbox of segments that wait to be sent.

* `send` encodes an item and puts its first segment into the outbox.
* `tick` puts the segments of due retransmissions there.
* `flush` frames the outbox, together with the acknowledgment of the receiver,
  and hands the datagrams to a link.
* `receive` takes in a datagram of the other side.

All of them queue events for the application, which `drain` hands out.
-/

namespace ReliableDatagram

/-- How items of an application travel as bytes. -/
structure PayloadCodec (Item : Type) where
  /-- The bytes of an item, or why it has none. -/
  encode : Item → Except String Payload
  /-- The item that bytes stand for, or why they stand for none. -/
  decode : Payload → Except String Item

namespace PayloadCodec

/-- The codec of an application whose items are bytes. -/
def raw : PayloadCodec Payload := ⟨.ok, .ok⟩

end PayloadCodec

/-- An event for the application. -/
inductive PeerEvent (Item : Type) where
  /-- The item has arrived, with every predecessor. -/
  | ordered (dataId : SeqId) (item : Item)
  /-- The item has arrived, possibly ahead of a gap. -/
  | unordered (dataId : SeqId) (item : Item)
  /-- The other side has confirmed the item. -/
  | acked (dataId : SeqId) (item : Item)
  /-- The item was given up on. -/
  | unacked (dataId : SeqId) (item : Item) (reason : GiveUpReason)
  deriving DecidableEq, Repr

/-- An operation of a peer failed. -/
inductive PeerError where
  /-- An item or a segment is out of bounds. -/
  | capacity (error : CapacityError)
  /-- A datagram holds no wire unit. -/
  | malformed (error : WireError)
  /-- The codec has no bytes for an item. -/
  | codec (cause : String)
  /-- The link refused a datagram. -/
  | transport (cause : String)
  deriving DecidableEq, Repr

namespace PeerError

/-- The text shown for the error. -/
def message : PeerError → String
  | capacity error => error.message
  | malformed error => "malformed wire unit: " ++ error.message
  | codec cause => "payload codec failed: " ++ cause
  | transport cause => "transport send failed: " ++ cause

end PeerError

/-- One end of a connection. -/
structure Peer {Item : Type} (config : Config) (codec : PayloadCodec Item) where
  /-- The sending half. -/
  sender : Sender config
  /-- The receiving half. -/
  receiver : Receiver config
  /-- The segments that wait for the next flush, in order. -/
  outbox : List Segment
  /-- The events that wait for the application, in order. -/
  events : List (PeerEvent Item)

namespace Peer

variable {Item : Type} {config : Config} {codec : PayloadCodec Item}

/-- The peer before anything was sent or received. -/
def initial (config : Config) (codec : PayloadCodec Item) : Peer config codec :=
  ⟨Sender.start config, Receiver.start config, [], []⟩

/-- The peer before anything was sent or received, if the settings can be
honoured. -/
def start (config : Config) (codec : PayloadCodec Item) :
    Except ConfigError (Peer config codec) :=
  config.validate.map fun _ => initial config codec

/-! ## Events -/

/-- The item that a payload stands for, if the codec knows it. -/
def item? (codec : PayloadCodec Item) (payload : Payload) : Option Item :=
  (codec.decode payload).toOption

/-- The application's view of what became of a sent item. -/
def ofSendEvent (codec : PayloadCodec Item) : SendEvent → Option (PeerEvent Item)
  | .acked dataId payload => (item? codec payload).map (.acked dataId)
  | .unacked dataId payload reason =>
      (item? codec payload).map fun item => .unacked dataId item reason

/-- The application's view of an arrival. -/
def ofReceiveEvent (codec : PayloadCodec Item) : ReceiveEvent → Option (PeerEvent Item)
  | .ordered delivery => (item? codec delivery.payload).map (.ordered delivery.dataId)
  | .unordered delivery => (item? codec delivery.payload).map (.unordered delivery.dataId)

/-- Hand the queued events to the application. -/
def drain (peer : Peer config codec) : Peer config codec × List (PeerEvent Item) :=
  ({ peer with events := [] }, peer.events)

/-! ## Sending -/

/-- Take on an item and queue its first segment.  The answer is the id of the
item.  An item that is refused changes nothing. -/
def send (peer : Peer config codec) (item : Item) (now : Instant) :
    Except PeerError (Peer config codec × SeqId) :=
  match codec.encode item with
  | .error cause => .error (.codec cause)
  | .ok payload =>
      match peer.sender.send payload now with
      | .error error => .error (.capacity error)
      | .ok (sender, segment, resolved) =>
          .ok ({ peer with
                  sender
                  outbox := peer.outbox ++ [segment]
                  events := peer.events ++ resolved.filterMap (ofSendEvent codec) },
                segment.dataId)

/-- Queue the segments of due retransmissions.  The answer is their number. -/
def tick (peer : Peer config codec) (now : Instant) : Peer config codec × Nat :=
  let (sender, segments, resolved) := peer.sender.retransmit now
  ({ peer with
      sender
      outbox := peer.outbox ++ segments
      events := peer.events ++ resolved.filterMap (ofSendEvent codec) },
    segments.length)

/-! ## Flushing -/

/-- What is left after an attempt to send the segments of an outbox. -/
structure Flushed where
  /-- The segments that still wait, in order. -/
  outbox : List Segment
  /-- The link after the attempt. -/
  link : Link
  /-- The number of datagrams sent, or why the attempt stopped. -/
  result : Except PeerError Nat

/-- Move segments from the front of an outbox into a unit until it is full.  A
segment that the unit cannot hold at all is dropped, and its error is part of
the answer. -/
def fill (builder : WireUnit.Builder) :
    List Segment → WireUnit.Builder × List Segment × Option CapacityError
  | [] => (builder, [], none)
  | segment :: rest =>
      if builder.isFull then (builder, segment :: rest, none)
      else
        match builder.push segment with
        | .error error => (builder, rest, some error)
        | .ok builder => fill builder rest

/-- Send the segments of an outbox in at most `rounds` datagrams.  When one is
not sent, its segments stay at the front of the outbox. -/
def sendOutbox (ack : Acknowledgment) (limit : Nat) :
    (rounds : Nat) → List Segment → Link → (sent : Nat) → Flushed
  | 0, outbox, link, sent => ⟨outbox, link, .ok sent⟩
  | rounds + 1, outbox, link, sent =>
      match fill (.withLimit ack limit) outbox with
      | (builder, rest, some error) =>
          ⟨builder.unit.segments ++ rest, link, .error (.capacity error)⟩
      | (builder, rest, none) =>
          match link.offer builder.unit.encode with
          | (some cause, link) =>
              ⟨builder.unit.segments ++ rest, link, .error (.transport cause)⟩
          | (none, link) =>
              if rest.isEmpty then ⟨[], link, .ok (sent + 1)⟩
              else sendOutbox ack limit rounds rest link (sent + 1)

/-- Send all queued segments, each datagram with the current acknowledgment.
With nothing queued, an acknowledgment that is due goes out alone.  The answer
is the number of datagrams sent.

When the link refuses a datagram its segments stay queued and the
acknowledgment stays due.  Every datagram but a bare acknowledgment takes at
least one segment, so the outbox bounds the number of datagrams. -/
def flush (peer : Peer config codec) (link : Link) :
    Peer config codec × Link × Except PeerError Nat :=
  if peer.outbox.isEmpty && !peer.receiver.ackDue then (peer, link, .ok 0)
  else
    let flushed := sendOutbox peer.receiver.acknowledgment config.segmentsPerUnit
      (max 1 peer.outbox.length) peer.outbox link 0
    let receiver :=
      match flushed.result with
      | .ok _ => peer.receiver.ackSent
      | .error _ => peer.receiver
    ({ peer with outbox := flushed.outbox, receiver }, flushed.link, flushed.result)

/-! ## Receiving -/

/-- Take in a datagram of the other side.  The answer is the number of new
events. -/
def receive (peer : Peer config codec) (datagram : Datagram) (now : Instant) :
    Peer config codec × Except PeerError Nat :=
  match peer.receiver.ingestDatagram datagram with
  | (receiver, .error error) => ({ peer with receiver }, .error (.malformed error))
  | (receiver, .ok incoming) =>
      let (sender, resolved) := peer.sender.acknowledge incoming.ack now
      let fresh := incoming.events.filterMap (ofReceiveEvent codec) ++
        resolved.filterMap (ofSendEvent codec)
      ({ peer with sender, receiver, events := peer.events ++ fresh }, .ok fresh.length)

end Peer

end ReliableDatagram
