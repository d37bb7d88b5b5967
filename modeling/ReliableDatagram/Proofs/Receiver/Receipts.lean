import ReliableDatagram.Proofs.ReceiptWindow
import ReliableDatagram.Proofs.Receiver.Delivery

/-!
# What a receiver reports

A receiver acknowledges only transmissions that arrived.  Before the first of them it
names the id before all transmissions, and no other (`mem_observed_acknowledgment`).
-/

namespace ReliableDatagram

namespace Receiver

variable {config : Config} {receiver : Receiver config}

/-! ## Windows without invented ids -/

/-- Whether all that a window observed, its anchor included, has a property. -/
def Backed (known : SeqId → Prop) (window : Option ReceiptWindow) : Prop :=
  ∀ noted, window = some noted → noted.Anchored ∧ ∀ id ∈ noted.observed, known id

theorem Backed.mono {known more : SeqId → Prop} {window : Option ReceiptWindow}
    (backed : Backed known window) (weaker : ∀ id, known id → more id) :
    Backed more window := by
  intro noted found
  rcases backed noted found with ⟨anchored, observed⟩
  exact ⟨anchored, fun id member => weaker id (observed id member)⟩

theorem Backed.note {known : SeqId → Prop} {window : Option ReceiptWindow}
    (backed : Backed known window) {id : SeqId} (arrived : known id) :
    Backed known (some (note window id)) := by
  intro noted found
  cases found
  cases window with
  | none =>
      refine ⟨ReceiptWindow.anchored_anchoredAt id, ?_⟩
      intro other member
      rw [ReceiptWindow.mem_observed_anchoredAt member]
      exact arrived
  | some older =>
      rcases backed older rfl with ⟨anchored, observed⟩
      refine ⟨anchored.mark id, ?_⟩
      intro other member
      rcases ReceiptWindow.mem_observed_mark member with rfl | before
      · exact arrived
      · exact observed other before

theorem Backed.foldl_note {known : SeqId → Prop} {window : Option ReceiptWindow}
    (backed : Backed known window) {ids : List SeqId} (arrived : ∀ id ∈ ids, known id) :
    Backed known (ids.foldl (fun window id => some (Receiver.note window id)) window) := by
  induction ids generalizing window with
  | nil => exact backed
  | cons id rest ih =>
      rcases List.forall_mem_cons.mp arrived with ⟨first, later⟩
      exact ih (backed.note first) later

/-! ## Transmissions -/

/-- Whether one of the segments lists a transmission id. -/
def Lists (segments : List Segment) (id : SeqId) : Prop :=
  ∃ segment ∈ segments, id ∈ segment.transmissionIds

theorem Lists.mono {segments more : List Segment} (subset : segments ⊆ more) {id : SeqId}
    (lists : Lists segments id) : Lists more id := by
  rcases lists with ⟨segment, member, listed⟩
  exact ⟨segment, subset member, listed⟩

theorem backed_run_ingest {arrived : List Segment} (segments : List Segment)
    (backed : Backed (Lists arrived) receiver.transmissions) :
    Backed (Lists (arrived ++ segments))
      (Transition.run ingest receiver segments).1.transmissions := by
  induction segments generalizing receiver arrived with
  | nil => rwa [List.append_nil]
  | cons segment rest ih =>
      rw [Transition.run_cons, ← List.singleton_append, ← List.append_assoc]
      apply ih
      rw [transmissions_ingest]
      have older := backed.mono fun _ => Lists.mono (List.subset_append_left arrived [segment])
      apply older.foldl_note
      intro id listed
      exact ⟨segment, List.mem_append_right _ (List.mem_singleton.mpr rfl), listed⟩

/-- Delivery in order is no business of the acknowledgment. -/
theorem transmissions_deliverOrdered (receiver : Receiver config) :
    receiver.deliverOrdered.1.transmissions = receiver.transmissions := by
  unfold deliverOrdered
  split
  · rfl
  · rfl

theorem backed_ingestUnit {arrived : List Segment} (unit : WireUnit)
    (backed : Backed (Lists arrived) receiver.transmissions) :
    Backed (Lists (arrived ++ unit.segments)) (receiver.ingestUnit unit).1.transmissions := by
  have counted : Backed (Lists arrived) receiver.counted.transmissions := backed
  rw [ingestUnit_eq, transmissions_deliverOrdered]
  exact backed_run_ingest unit.segments counted

theorem mem_observed_acknowledgment {arrived : List Segment}
    (backed : Backed (Lists arrived) receiver.transmissions) {id : SeqId}
    (reported : id ∈ (ReceiptWindow.ofAcknowledgment receiver.acknowledgment).observed) :
    id = config.initialTransmissionId.previous ∨ Lists arrived id := by
  unfold acknowledgment at reported
  split at reported
  · next window found =>
    rcases backed window found with ⟨anchored, observed⟩
    exact .inr (observed id (ReceiptWindow.observed_acknowledgment anchored reported))
  · rcases ReceiptWindow.mem_observed_ofAcknowledgment.mp reported with
      ⟨offset, rfl | ⟨bit, set, _⟩, same⟩
    · exact .inl (same.trans (SeqId.retreat_zero _))
    · simp at set

end Receiver

end ReliableDatagram
