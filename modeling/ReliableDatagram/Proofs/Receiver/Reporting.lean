import ReliableDatagram.Proofs.ReceiptWindow.Trail
import ReliableDatagram.Proofs.Receiver.Receipts

/-!
# Exactness of acknowledgments

An acknowledgment is a function of the transmission ids that arrived, whatever else was
asked of the receiver.  It names the id at the largest position of their trail, and of the
`Acknowledgment.width` positions before it exactly those at which something arrived
(`acknowledgment_run`).  `mem_observed_acknowledgment` says for any window that none is
invented; here none is missing either, and positions tell repeated ids apart.
-/

namespace ReliableDatagram

namespace Receiver

variable {config : Config} {receiver : Receiver config}

/-! ## Runs -/

/-- A call to a receiver. -/
inductive Call where
  | unit (arrived : WireUnit)
  | datagram (bytes : Datagram)
  | ackSent

namespace Call

/-- The unit that a call brings, if any. -/
def unit? : Call → Option WireUnit
  | unit arrived => some arrived
  | datagram bytes =>
      match WireUnit.decode bytes with
      | .ok arrived => some arrived
      | .error _ => none
  | ackSent => none

/-- The transmission ids that a call brings, as often as it does. -/
def transmissionIds (call : Call) : List SeqId :=
  call.unit?.elim [] fun arrived => arrived.segments.flatMap Segment.transmissionIds

end Call

/-- The state after a call and the events it returns. -/
def step : Transition (Receiver config) Call ReceiveEvent
  | receiver, .unit arrived => receiver.ingestUnit arrived
  | receiver, .datagram bytes =>
      match receiver.ingestDatagram bytes with
      | (after, .ok incoming) => (after, incoming.events)
      | (after, .error _) => (after, [])
  | receiver, .ackSent => (receiver.ackSent, [])

/-- A call takes in a unit.  One without a unit counts a malformed one, or notes that an
acknowledgment went out. -/
theorem step_cases (receiver : Receiver config) (call : Call) :
    (∃ unit, call.unit? = some unit ∧ step receiver call = receiver.ingestUnit unit) ∨
      (call.unit? = none ∧ ∃ ackDue malformedUnits, step receiver call =
        ({ receiver with
            ackDue
            counters := { receiver.counters with malformedUnits } }, [])) := by
  cases call with
  | unit arrived => exact .inl ⟨arrived, rfl, rfl⟩
  | datagram bytes =>
      cases decoded : WireUnit.decode bytes with
      | error error =>
          exact .inr ⟨by simp [Call.unit?, decoded], receiver.ackDue, _,
            by simp only [step, ingestDatagram, decoded]; rfl⟩
      | ok arrived =>
          exact .inl ⟨arrived, by simp [Call.unit?, decoded],
            by simp only [step, ingestDatagram, decoded]⟩
  | ackSent => exact .inr ⟨rfl, false, receiver.counters.malformedUnits, rfl⟩

/-! ## Arrived ids -/

/-- The window after ids arrived one after the other. -/
def noteAll (window : Option ReceiptWindow) (ids : List SeqId) : Option ReceiptWindow :=
  ids.foldl (fun window id => some (note window id)) window

theorem noteAll_append (window : Option ReceiptWindow) (ids more : List SeqId) :
    noteAll window (ids ++ more) = noteAll (noteAll window ids) more :=
  List.foldl_append

theorem noteAll_cons (id : SeqId) (later : List SeqId) :
    noteAll none (id :: later) = some (later.foldl ReceiptWindow.mark (.anchoredAt id)) := by
  suffices marked : ∀ window : ReceiptWindow,
      noteAll (some window) later = some (later.foldl ReceiptWindow.mark window) from
    marked (.anchoredAt id)
  induction later with
  | nil => exact fun _ => rfl
  | cons next rest ih => exact fun window => ih (window.mark next)

theorem transmissions_run_ingest (receiver : Receiver config) (segments : List Segment) :
    (Transition.run ingest receiver segments).1.transmissions =
      noteAll receiver.transmissions (segments.flatMap Segment.transmissionIds) := by
  induction segments generalizing receiver with
  | nil => rfl
  | cons segment rest ih =>
      rw [Transition.run_cons, ih, transmissions_ingest, List.flatMap_cons, noteAll_append]
      rfl

theorem transmissions_ingestUnit (receiver : Receiver config) (unit : WireUnit) :
    (receiver.ingestUnit unit).1.transmissions =
      noteAll receiver.transmissions (unit.segments.flatMap Segment.transmissionIds) := by
  rw [ingestUnit_eq, transmissions_deliverOrdered]
  exact transmissions_run_ingest receiver.counted unit.segments

theorem transmissions_step (receiver : Receiver config) (call : Call) :
    (step receiver call).1.transmissions =
      noteAll receiver.transmissions call.transmissionIds := by
  rcases step_cases receiver call with ⟨unit, brought, taken⟩ | ⟨without, due, malformed, idle⟩
  · rw [taken, Call.transmissionIds, brought]
    exact transmissions_ingestUnit receiver unit
  · rw [idle, Call.transmissionIds, without]
    rfl

theorem transmissions_run (receiver : Receiver config) (calls : List Call) :
    (Transition.run step receiver calls).1.transmissions =
      noteAll receiver.transmissions (calls.flatMap Call.transmissionIds) := by
  induction calls generalizing receiver with
  | nil => rfl
  | cons call rest ih =>
      rw [Transition.run_cons, ih, transmissions_step, List.flatMap_cons, noteAll_append]

/-! ## The acknowledgment -/

/-- The acknowledgment names the id at the largest position, and describes exactly those at
the positions before it that arrived.  Before any id arrived it names the id just before
the first one, and no other. -/
theorem acknowledgment_run (config : Config) (calls : List Call) :
    match calls.flatMap Call.transmissionIds,
      (Transition.run step (start config) calls).1.acknowledgment with
    | [], ack => ack = ⟨config.initialTransmissionId.previous, 0⟩
    | first :: later, ack =>
        let trail := Trail.along first later
        (trail.top, ack.newest) ∈ trail.places ∧
          (∀ place ∈ trail.places, place.1 ≤ trail.top) ∧
          (ReceiptWindow.ofAcknowledgment ack).observed =
            (List.range 33).filterMap fun back => trail.id? (trail.top - (back : Nat)) := by
  have noted := transmissions_run (start config) calls
  cases ids : calls.flatMap Call.transmissionIds with
  | nil =>
      have none : (Transition.run step (start config) calls).1.transmissions = none := by
        rw [noted, ids]
        rfl
      simp only [acknowledgment, none]
      rfl
  | cons first later =>
      have some : (Transition.run step (start config) calls).1.transmissions =
          some (later.foldl ReceiptWindow.mark (.anchoredAt first)) := by
        rw [noted, ids]
        exact noteAll_cons first later
      have shows := Trail.shows_along first later
      simp only [acknowledgment, some]
      refine ⟨?_, fun place member => shows.sound.le_top member, shows.observed_acknowledgment⟩
      rw [ReceiptWindow.acknowledgment, shows.anchor]
      exact shows.sound.anchored

end Receiver

end ReliableDatagram
