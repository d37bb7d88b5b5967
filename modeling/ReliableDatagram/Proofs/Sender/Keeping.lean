import ReliableDatagram.Proofs.Sender.Acknowledging
import ReliableDatagram.Proofs.Sender.Bounds
import ReliableDatagram.Proofs.Sender.Conservation
import ReliableDatagram.Proofs.Sender.Room

/-!
# What holds of the pending items between calls

An item loses transmission ids in three ways: an acknowledgment makes the sender forget
superseded ones, ids that start over are taken by other items, and a resolved item goes
with all of its ids.  Between two calls every pending item is nevertheless filed under an
id of its own (`Findable`), for the latest id is never forgotten and an item that loses its
last one is given up on at once.

`Intact` collects this with the bounds on what is pending.  It holds in every state that a
run reaches (`intact_reached`).
-/

namespace ReliableDatagram

namespace Sender

variable {config : Config} {sender after : Sender config}

/-! ## How many items are pending -/

/-- What a call resolves was pending before or was sent by it.  The items pending before it
count as those that some run has just sent. -/
theorem Performs.conserves {outputs : List Output} (performs : Performs sender outputs after) :
    sender.pendingItems + sentItems outputs = resolvedItems outputs + after.pendingItems := by
  rcases performs with ⟨actual, moves, alike⟩
  let past := sender.pending.toList.map fun entry =>
    Output.sent ⟨entry.2.primary, [], entry.2.value.payload⟩
  have sent : sentItems past = sender.pendingItems := by
    simp [sentItems, past, pendingItems, Table.contents, pendingItem, Function.comp_def,
      Output.sent?, List.filterMap_map]
  have resolved : resolvedItems past = 0 := by
    simp [resolvedItems, past, Function.comp_def, Output.event?, List.filterMap_map]
  have initial : Balanced sender past := by rw [Balanced, sent, resolved, zero_add]
  have balanced := moves.preserve Balanced.move initial
  rw [Balanced, sentItems_append, resolvedItems_append, sent, resolved, zero_add] at balanced
  rwa [sentItems, alike.sent, resolvedItems, alike.events] at balanced

theorem card_pendingItems (sender : Sender config) :
    sender.pendingItems.card = sender.pendingCount := by
  rw [pendingItems, Table.contents, Multiset.coe_card, List.length_map, Table.length_toList]
  rfl

theorem Performs.pendingCount_le {outputs : List Output}
    (performs : Performs sender outputs after) :
    after.pendingCount ≤ sender.pendingCount + (itemsSent outputs).length := by
  have counted := congrArg Multiset.card performs.conserves
  rw [Multiset.card_add, Multiset.card_add, card_pendingItems, card_pendingItems] at counted
  have sent : (sentItems outputs).card = (itemsSent outputs).length := Multiset.coe_card _
  omega

theorem pendingCount_send {payload : Payload} {now : Instant} {segment : Segment}
    {events : List SendEvent} (accepted : sender.send payload now = .ok (after, segment, events))
    (positive : 0 < config.queueLimit) : after.pendingCount ≤ config.queueLimit := by
  have fits := send_isOk_iff.mp ⟨_, accepted⟩
  rcases sender.send_eq_ok fits now with ⟨pending, displaced, registered, equal⟩
  rw [accepted] at equal
  simp only [Except.ok.injEq, Prod.mk.injEq] at equal
  rcases equal with ⟨rfl, rfl, rfl⟩
  have room := sender.pendingCount_makeRoom_lt positive
  have taken := (Move.takeOn fits registered).moves.performs
  have orphan := (giveUpOrphan_moves (sender.makeRoom.1.admitted payload pending)
    displaced).performs
  have counted := (taken.trans orphan).pendingCount_le
  rw [itemsSent_append, itemsSent_resolved, List.append_nil] at counted
  exact Nat.le_trans counted room

theorem pendingCount_step (positive : 0 < config.queueLimit) (call : Call)
    (within : sender.pendingCount ≤ config.queueLimit) :
    (step sender call).1.pendingCount ≤ config.queueLimit := by
  have counted := (step_performs sender call).pendingCount_le
  cases call with
  | send payload now =>
      simp only [step]
      split
      · exact within
      · next accepted => exact pendingCount_send accepted positive
  | acknowledge ack now =>
      simp only [step, itemsSent_resolved] at counted ⊢
      exact Nat.le_trans counted within
  | retransmit now =>
      simp only [step, itemsSent_resent] at counted ⊢
      exact Nat.le_trans counted within

/-! ## Items with an id -/

/-- Every pending item is filed under a transmission id. -/
def Findable (sender : Sender config) : Prop :=
  ∀ slot record, sender.pending.record? slot = some record → record.keys ≠ []

theorem findable_start (config : Config) : (start config).Findable := by
  intro slot record found
  simp [start, Table.record?_empty] at found

namespace Findable

theorem of_subset (findable : sender.Findable)
    (subset : ∀ slot record, after.pending.record? slot = some record →
      sender.pending.record? slot = some record) : after.Findable :=
  fun slot record found => findable slot record (subset slot record found)

theorem giveUp (findable : sender.Findable) (reason : GiveUpReason) (slot : Nat) :
    (giveUp reason sender slot).1.Findable := by
  cases found : sender.pending.record? slot with
  | none => rwa [giveUp_of_vacant found]
  | some record =>
      rw [giveUp_of_found found]
      apply findable.of_subset
      intro other kept there
      rw [Table.record?_remove] at there
      split at there
      · cases there
      · exact there

theorem makeRoom (findable : sender.Findable) : sender.makeRoom.1.Findable := by
  apply Transition.run_preserves evictOldest Findable _ sender _ findable
  intro before _ kept
  unfold evictOldest
  cases before.oldest? with
  | none => exact kept
  | some slot => exact kept.giveUp .queueOverflow slot

/-- An item that has lost its last id to another one is given up on. -/
theorem giveUpOrphan {displaced : Option Nat}
    (others : ∀ slot record, sender.pending.record? slot = some record →
      displaced ≠ some slot → record.keys ≠ []) :
    (sender.giveUpOrphan displaced).1.Findable := by
  cases displaced with
  | none => exact fun slot record found => others slot record found (Option.some_ne_none _).symm
  | some orphan =>
      intro slot record found
      simp only [Sender.giveUpOrphan] at found
      split at found
      · next orphaned =>
        cases there : sender.pending.record? orphan with
        | none => simp [there] at orphaned
        | some lost =>
            rw [giveUp_of_found there, Table.record?_remove] at found
            split at found
            · cases found
            · next different =>
              exact others slot record found fun same => different (Option.some.inj same).symm
      · next kept =>
        by_cases same : slot = orphan
        · subst same
          simpa [found] using kept
        · exact others slot record found fun equal => same (Option.some.inj equal).symm

/-- A registration takes its key from one record at most, and gives it to another. -/
theorem register {pending table : Table PendingItem} {id : SeqId} {slot : Nat}
    {displaced : Option Nat} (consistent : table.Consistent)
    (registered : table.register id slot = .ok (pending, displaced))
    (others : ∀ other record, table.record? other = some record → other ≠ slot →
      record.keys ≠ []) :
    ∀ other record, pending.record? other = some record → displaced ≠ some other →
      record.keys ≠ [] := by
  intro other record found apart
  by_cases here : other = slot
  · subst here
    exact List.ne_nil_of_mem (consistent.mem_keys_of_register registered found)
  · rcases Table.register_eq_ok registered with
      ⟨_, rfl, rfl⟩ | ⟨before, there, elsewhere, _, rfl, rfl⟩
    · exact others other record found here
    · rw [Table.record?_refile_of_ne elsewhere, if_neg here, if_neg apart] at found
      exact others other record found here

theorem send (findable : sender.Findable) (bounded : sender.Bounded) {payload : Payload}
    {now : Instant} {segment : Segment} {events : List SendEvent}
    (accepted : sender.send payload now = .ok (after, segment, events)) : after.Findable := by
  have fits := send_isOk_iff.mp ⟨_, accepted⟩
  rcases sender.send_eq_ok fits now with ⟨pending, displaced, registered, equal⟩
  rw [accepted] at equal
  simp only [Except.ok.injEq, Prod.mk.injEq] at equal
  rcases equal with ⟨rfl, rfl, rfl⟩
  have consistent := (bounded.performs sender.makeRoom_performs).1.consistent
  refine giveUpOrphan (register (consistent.create _ _ _) registered ?_)
  intro slot record found older
  rw [Table.record?_create, if_neg older] at found
  exact findable.makeRoom slot record found

theorem revisit (findable : sender.Findable) (consistent : sender.pending.Consistent)
    (timeout : Duration) (now : Instant) (slot : Nat) :
    (revisit timeout now sender slot).1.Findable := by
  have visit := revisit_cases timeout now sender slot
  generalize Sender.revisit timeout now sender slot = answer at visit ⊢
  cases visit with
  | idle early => exact findable
  | giveUp reason found => exact findable.giveUp reason slot
  | forfeit found allowed refused =>
      have kept : (sender.filed sender.pending).Findable := findable
      exact kept.giveUp .retransmitLimit slot
  | again found waited allowed registered filed different =>
      apply giveUpOrphan
      intro other kept here apart
      have listed := register consistent registered (fun other record found _ =>
        findable other record found)
      rw [record?_repeated] at here
      split at here
      · next same =>
        rcases Option.map_eq_some_iff.mp here with ⟨before, older, rfl⟩
        exact listed slot before older different
      · exact listed other kept here apart

theorem retransmit (findable : sender.Findable) (bounded : sender.Bounded) (now : Instant) :
    (sender.retransmit now).1.Findable := by
  refine (Transition.run_preserves (Sender.revisit sender.timeout now)
    (fun before => before.Findable ∧ before.Bounded) ?_ sender sender.oldestFirst
    ⟨findable, bounded⟩).1
  intro before slot kept
  exact ⟨kept.1.revisit kept.2.consistent sender.timeout now slot,
    (kept.2.performs (revisit_performs sender.timeout now before slot)).1⟩

/-- An acknowledgment makes no item forget its latest id, so none is left without an id. -/
theorem acknowledge (findable : sender.Findable) (agrees : sender.pending.Agrees)
    (ack : Acknowledgment) (now : Instant) : (sender.acknowledge ack now).1.Findable := by
  by_cases accepted : sender.Accepts ack
  · intro slot record found empty
    rcases (record?_acknowledge agrees accepted now).mp found with
      ⟨before, there, _, recent, rfl⟩
    have newest := Record.latest?_forgetBefore recent
    rw [Record.latest?, empty] at newest
    exact findable slot before there (List.getLast?_eq_none_iff.mp newest.symm)
  · rwa [acknowledge_of_not_accepts accepted]

theorem step (findable : sender.Findable) (bounded : sender.Bounded) (call : Call) :
    (step sender call).1.Findable := by
  cases call with
  | send payload now =>
      simp only [Sender.step]
      split
      · exact findable
      · next accepted => exact findable.send bounded accepted
  | acknowledge ack now => exact findable.acknowledge bounded.consistent.toAgrees ack now
  | retransmit now => exact findable.retransmit bounded now

end Findable

/-! ## The representation invariant -/

/-- What holds of the record of a pending item. -/
structure IntactRecord (config : Config) (record : Record PendingItem) : Prop where
  keys_pos : 1 ≤ record.keys.length
  keys_le : record.keys.length ≤ record.value.retransmissions + 1
  keys_nodup : record.keys.Nodup
  retransmissions_le : record.value.retransmissions ≤ config.retransmitLimit
  keys_le_keysPerRecord : record.keys.length ≤ Capacity.keysPerRecord
  payload_le : record.value.payload.length ≤ Capacity.payloadBytes

/-- What holds of a sender between calls. -/
structure Intact (sender : Sender config) : Prop where
  isConsistent : sender.pending.isConsistent
  pendingCount_le : sender.pendingCount ≤ config.queueLimit
  records : ∀ {slot record}, sender.pending.record? slot = some record →
    IntactRecord config record

theorem intact_of_traced {items : List Item} {segments : List Segment}
    (traced : Traced sender items segments) (bounded : sender.Bounded)
    (findable : sender.Findable) (within : sender.pendingCount ≤ config.queueLimit) :
    sender.Intact where
  isConsistent := bounded.consistent.isConsistent
  pendingCount_le := within
  records {slot record} found :=
    { keys_pos := List.length_pos_iff.mpr (findable slot record found)
      keys_le := (traced.records found).keys_le
      keys_nodup := traced.agrees.nodup found
      retransmissions_le := (traced.records found).retransmissions_le
      keys_le_keysPerRecord := bounded.consistent.keys_le found
      payload_le := bounded.payload_le found }

/-- In every state that a run reaches, items have ids, and not too many of them. -/
theorem intact_reached (valid : config.Valid) (calls : List Call) :
    (reached config calls).Intact := by
  have kept : (reached config calls).Bounded ∧ (reached config calls).Findable ∧
      (reached config calls).pendingCount ≤ config.queueLimit := by
    apply Transition.run_preserves Sender.step fun sender =>
      sender.Bounded ∧ sender.Findable ∧ sender.pendingCount ≤ config.queueLimit
    · intro sender call kept
      exact ⟨(kept.1.performs (step_performs sender call)).1, kept.2.1.step kept.1 call,
        pendingCount_step valid.queueLimit_pos call kept.2.2⟩
    · exact ⟨bounded_start config, findable_start config, Nat.zero_le _⟩
  exact intact_of_traced (traced_reached valid.retransmitLimit_lt calls) kept.1 kept.2.1 kept.2.2

end Sender

end ReliableDatagram
