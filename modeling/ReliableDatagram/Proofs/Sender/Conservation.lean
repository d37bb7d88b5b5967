import ReliableDatagram.Proofs.Sender.Tracing
import ReliableDatagram.Proofs.Table.Contents

/-!
# Conservation of items

An item that a sender takes on is pending until it is resolved, and it is
resolved once.  As multisets of ids and payloads, the items handed over in a run are
the items resolved in it together with those still pending at its end.  This
holds for every configuration, with no bound on the length of the run, so ids may
wrap any number of times and one id may stand for many items.

The payload of an item is the one that its call was given (`handedItem?`), and the
first segment of the item carries it (`itemsSent_run`).
-/

namespace ReliableDatagram

namespace Sender

variable {config : Config}

/-- The items that a run took on. -/
def sentItems (outputs : List Output) : Multiset (SeqId × Payload) :=
  ↑((outputs.filterMap Output.sent?).map fun segment => (segment.dataId, segment.payload))

/-- The item that a call hands over: the payload that it is given, under the id that it
returns.  A call that is refused hands over nothing. -/
def handedItem? (sender : Sender config) : Call → Option (SeqId × Payload)
  | .send payload now =>
      match sender.send payload now with
      | .error _ => none
      | .ok (_, segment, _) => some (segment.dataId, payload)
  | .acknowledge _ _ => none
  | .retransmit _ => none

/-- The items that the calls of a run hand over. -/
def handedItems (sender : Sender config) : List Call → List (SeqId × Payload)
  | [] => []
  | call :: rest =>
      (sender.handedItem? call).toList ++ handedItems (step sender call).1 rest

/-- The items that a run resolved. -/
def resolvedItems (outputs : List Output) : Multiset (SeqId × Payload) :=
  ↑((outputs.filterMap Output.event?).map fun event => (event.dataId, event.payload))

/-- The id and the payload of a pending item. -/
def pendingItem (record : Record PendingItem) : SeqId × Payload :=
  (record.primary, record.value.payload)

/-- The items that await acknowledgment. -/
def pendingItems (sender : Sender config) : Multiset (SeqId × Payload) :=
  sender.pending.contents pendingItem

theorem sentItems_append (outputs more : List Output) :
    sentItems (outputs ++ more) = sentItems outputs + sentItems more := by
  simp [sentItems, List.filterMap_append]

theorem resolvedItems_append (outputs more : List Output) :
    resolvedItems (outputs ++ more) = resolvedItems outputs + resolvedItems more := by
  simp [resolvedItems, List.filterMap_append]

/-! ## What is handed over -/

theorem itemsSent_step (sender : Sender config) (call : Call) :
    itemsSent (step sender call).2 = (sender.handedItem? call).toList := by
  cases call with
  | send payload now =>
      simp only [step, handedItem?]
      cases accepted : sender.send payload now with
      | error error => rfl
      | ok answer =>
          rcases answer with ⟨after, segment, events⟩
          simp only [itemsSent_sent, payload_of_send accepted, Option.toList_some]
  | acknowledge ack now => exact itemsSent_resolved _
  | retransmit now => exact itemsSent_resent _ _

/-- The first segments of the items carry what the calls hand over, in the same order. -/
theorem itemsSent_run (sender : Sender config) (calls : List Call) :
    itemsSent (Transition.run step sender calls).2 = handedItems sender calls := by
  induction calls generalizing sender with
  | nil => rfl
  | cons call rest ih =>
      rw [Transition.run_cons, itemsSent_append, itemsSent_step, ih, handedItems]

/-! ## What is pending -/

theorem pendingItems_admitted {sender : Sender config} {payload : Payload} {now : Instant}
    {pending : Table PendingItem} {displaced : Option Nat}
    (registered : (sender.pending.create sender.nextDataId ⟨payload, 0, now⟩ now).register
      sender.nextTransmissionId sender.pending.freshSlot = .ok (pending, displaced)) :
    (sender.admitted payload pending).pendingItems =
      (sender.nextDataId, payload) ::ₘ sender.pendingItems := by
  have filed := Table.contents_register pendingItem (fun _ _ => rfl) registered
  rw [Table.contents_create] at filed
  exact filed

theorem pendingItems_repeated {sender : Sender config} {slot : Nat} {now : Instant}
    {pending : Table PendingItem} {displaced : Option Nat}
    (registered : sender.pending.register sender.nextTransmissionId slot =
      .ok (pending, displaced)) :
    ((sender.filed pending).repeated now slot).pendingItems = sender.pendingItems := by
  have filed := Table.contents_register pendingItem (fun _ _ => rfl) registered
  have touched := (pending.contents_modify pendingItem slot
    (fun record => { record with touchedAt := now }) fun _ => rfl).trans filed
  have counted := Table.contents_modify pendingItem (pending.touch slot now) slot
    (fun record => { record with
      value := { record.value with
        retransmissions := record.value.retransmissions + 1 } }) fun _ => rfl
  exact counted.trans touched

/-- The items taken on are accounted for: each is resolved or pending. -/
def Balanced (sender : Sender config) (outputs : List Output) : Prop :=
  sentItems outputs = resolvedItems outputs + sender.pendingItems

theorem Balanced.move {before after : Sender config} {past outputs : List Output}
    (balanced : Balanced before past) (move : Move before outputs after) :
    Balanced after (past ++ outputs) := by
  unfold Balanced at *
  rw [sentItems_append, resolvedItems_append, balanced, add_assoc, add_assoc]
  congr 1
  cases move with
  | giveUp reason found =>
      rw [giveUp_of_found found]
      exact (add_zero _).trans (Table.contents_remove pendingItem found)
  | confirm now holder found =>
      have removed := Table.contents_remove pendingItem found
      rw [← pending_confirm holder found now] at removed
      exact (add_zero _).trans removed
  | release holder superseded =>
      have released := before.pending.contents_release pendingItem (fun _ _ => rfl)
      exact ((add_zero _).trans (released _).symm).trans (zero_add _).symm
  | takeOn fits registered =>
      rw [pendingItems_admitted registered]
      exact (add_comm _ _).trans (zero_add _).symm
  | again now found allowed registered filed =>
      rw [pendingItems_repeated registered]
      exact add_comm _ _
  | forfeit found allowed refused => exact add_comm _ _

/-- Whatever is asked of a sender, the items that its calls hand over are those that it
resolved together with those that are pending.  The first segments that it answers with name
the same items. -/
theorem sentItems_run (config : Config) (calls : List Call) :
    let ran := Transition.run step (start config) calls
    ↑(handedItems (start config) calls) = resolvedItems ran.2 + ran.1.pendingItems ∧
      sentItems ran.2 = resolvedItems ran.2 + ran.1.pendingItems := by
  intro ran
  rcases run_performs (start config) calls with ⟨actual, moves, alike⟩
  have initial : Balanced (start config) [] := rfl
  have balanced := moves.preserve Balanced.move initial
  rw [List.nil_append, Balanced, sentItems, alike.sent, resolvedItems, alike.events] at balanced
  have handed : sentItems ran.2 = ↑(handedItems (start config) calls) :=
    congrArg _ (itemsSent_run (start config) calls)
  exact ⟨handed.symm.trans balanced, balanced⟩

end Sender

end ReliableDatagram
