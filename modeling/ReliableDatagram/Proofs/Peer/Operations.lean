import ReliableDatagram.Peer
import ReliableDatagram.Proofs.Sender.Confirming

/-!
# What a peer passes on

A peer adds little to its two halves.  It queues the segments of its sender
(`send_eq_ok`) and shows both halves what arrives (`receive_of_decode`).  A confirmation
that it announces is one of its sender (`acked_mem_resolved`).
-/

namespace ReliableDatagram

namespace Peer

/-! ## Operations -/

/-- An item that a peer takes on, its sender takes on. -/
theorem send_eq_ok {config : Config} {peer after : Peer config .raw} {item : Payload}
    {now : Instant} {dataId : SeqId} (accepted : peer.send item now = .ok (after, dataId)) :
    ∃ sender segment resolved,
      peer.sender.send item now = .ok (sender, segment, resolved) ∧
      after = { peer with
        sender
        outbox := peer.outbox ++ [segment]
        events := peer.events ++ resolved.filterMap (ofSendEvent .raw) } ∧
      dataId = segment.dataId := by
  simp only [send, PayloadCodec.raw] at accepted
  cases taken : peer.sender.send item now with
  | error error =>
      rw [taken] at accepted
      cases accepted
  | ok answer =>
      rcases answer with ⟨sender, segment, resolved⟩
      rw [taken] at accepted
      cases accepted
      exact ⟨sender, segment, resolved, rfl, rfl, rfl⟩

theorem receive_of_decode {config : Config} (peer : Peer config .raw) {datagram : Datagram}
    {unit : WireUnit} (decoded : WireUnit.decode datagram = .ok unit) (now : Instant) :
    (peer.receive datagram now).1 =
      { peer with
        sender := (peer.sender.acknowledge unit.ack now).1
        receiver := (peer.receiver.ingestUnit unit).1
        events := peer.events ++
          ((peer.receiver.ingestUnit unit).2.filterMap (ofReceiveEvent .raw) ++
            (peer.sender.acknowledge unit.ack now).2.filterMap (ofSendEvent .raw)) } := by
  simp only [receive, Receiver.ingestDatagram, decoded]

/-! ## Confirmations -/

theorem acked_mem_resolved {resolved : List SendEvent} {dataId : SeqId} {item : Payload}
    (member : .acked dataId item ∈ resolved.filterMap (ofSendEvent .raw)) :
    .acked dataId item ∈ resolved := by
  rcases List.mem_filterMap.mp member with ⟨event, listed, same⟩
  cases event with
  | acked dataId payload =>
      cases same
      exact listed
  | unacked dataId payload reason => cases same

theorem acked_notMem_received {received : List ReceiveEvent} {dataId : SeqId}
    {item : Payload} :
    .acked dataId item ∉ received.filterMap (ofReceiveEvent .raw) := by
  intro member
  rcases List.mem_filterMap.mp member with ⟨event, _, same⟩
  cases event with
  | unordered delivery => cases same
  | ordered delivery => cases same

end Peer

end ReliableDatagram
