import ReliableDatagram.Proofs.Receiver.Reporting
import ReliableDatagram.Proofs.Transition

/-!
# The accounts of a receiver

The counters of a receiver are the figures of one account.  Each segment is a duplicate or
a new item, each new item was delivered in order or waits, and each id that the cursor has
passed was delivered in order or given up on.  Arrival books a segment (`Accounted.ingest`),
and delivery in order books the ids that the cursor passes, as what it delivers and what it
skips (`counters_deliverOrdered`).

`accounted_run` says that the figures agree with one another, with the events and with the
way of the cursor, whatever calls come.  Beside the run it keeps the report, whose gauges
are read only when a unit has been taken in.
-/

namespace ReliableDatagram

namespace ReceiverCounters

/-- The counters after the cursor has passed some ids, of which the given items had
arrived. -/
def passing (counters : ReceiverCounters) (steps : Nat) (delivered : List Delivery) :
    ReceiverCounters :=
  { counters with
    deliveredOrdered := counters.deliveredOrdered + delivered.length
    skipped := counters.skipped + (steps - delivered.length) }

theorem passing_passing (counters : ReceiverCounters) {first second : Nat}
    {delivered more : List Delivery} (within : delivered.length ≤ first)
    (inside : more.length ≤ second) :
    (counters.passing first delivered).passing second more =
      counters.passing (first + second) (delivered ++ more) := by
  have ordered : counters.deliveredOrdered + delivered.length + more.length =
      counters.deliveredOrdered + (delivered.length + more.length) := Nat.add_assoc _ _ _
  have skips : counters.skipped + (first - delivered.length) + (second - more.length) =
      counters.skipped + (first + second - (delivered.length + more.length)) := by omega
  simp only [passing, List.length_append, ordered, skips]

end ReceiverCounters

namespace Receiver

variable {config : Config} {receiver : Receiver config}

/-! ## Delivery in order -/

namespace Advances

variable {after : Receiver config} {steps : Nat} {delivered : List Delivery}

theorem nodup_delivered (advances : Advances receiver steps after delivered) :
    (delivered.map Delivery.dataId).Nodup := by
  refine List.pairwise_map.mpr (advances.ordered.imp ?_)
  intro left right less same
  rw [same] at less
  exact Nat.lt_irrefl _ less

theorem length_le (advances : Advances receiver steps after delivered)
    (orderly : receiver.Orderly) : delivered.length ≤ steps := by
  have between : ∀ id ∈ delivered.map Delivery.dataId,
      0 < receiver.cursor.distanceTo id ∧ receiver.cursor.distanceTo id ≤ steps := by
    intro id member
    rcases List.mem_map.mp member with ⟨delivery, listed, rfl⟩
    rcases advances.mem_delivered.mp listed with ⟨waiting, passed⟩
    exact ⟨(orderly.ahead waiting).1, passed⟩
  have fits := SeqId.length_le_of_between advances.nodup_delivered between
  rwa [List.length_map] at fits

/-- What waited is delivered or waits on. -/
theorem buffered_eq (advances : Advances receiver steps after delivered)
    (orderly : receiver.Orderly) :
    receiver.buffered = delivered.length + after.buffered := by
  have apart : (delivered.map Delivery.dataId).Disjoint after.buffer.keys := by
    intro id gone kept
    rcases List.mem_map.mp gone with ⟨delivery, listed, rfl⟩
    rcases SeqMap.mem_keys.mp kept with ⟨other, found⟩
    rw [advances.buffer, if_pos (advances.mem_delivered.mp listed).2] at found
    cases found
  have distinct := advances.nodup_delivered.append Std.ExtTreeMap.nodup_keys apart
  have shared : (delivered.map Delivery.dataId ++ after.buffer.keys).Perm
      receiver.buffer.keys := by
    refine (List.perm_ext_iff_of_nodup distinct Std.ExtTreeMap.nodup_keys).mpr ?_
    intro id
    rw [List.mem_append, List.mem_map, SeqMap.mem_keys, SeqMap.mem_keys]
    constructor
    · intro either
      rcases either with ⟨delivery, listed, rfl⟩ | ⟨delivery, found⟩
      · exact ⟨delivery, (advances.mem_delivered.mp listed).1⟩
      · rw [advances.buffer] at found
        split at found
        · cases found
        · exact ⟨delivery, found⟩
    · intro condition
      rcases condition with ⟨delivery, found⟩
      rcases Nat.lt_or_ge steps (receiver.cursor.distanceTo id) with far | close
      · exact .inr ⟨delivery, (advances.buffer id).trans
          ((if_neg (Nat.not_le_of_lt far)).trans found)⟩
      · have named := orderly.named found
        subst named
        exact .inl ⟨delivery, advances.mem_delivered.mpr ⟨found, close⟩, rfl⟩
  have counted := shared.length_eq
  rw [List.length_append, List.length_map, Std.ExtTreeMap.length_keys,
    Std.ExtTreeMap.length_keys] at counted
  exact counted.symm

/-- The way of the cursor is as long as the distance that it covers. -/
theorem steps_eq (advances : Advances receiver steps after delivered) :
    steps = receiver.cursor.distanceTo after.cursor := by
  rw [advances.cursor]
  exact (SeqId.distanceTo_advance_of_lt _
    (Nat.lt_trans advances.steps_lt (by decide))).symm

end Advances

theorem counters_skipTo {target : SeqId} (ahead : receiver.IsAhead target) :
    (receiver.skipTo target).1.counters =
      receiver.counters.passing (receiver.cursor.distanceTo target)
        (receiver.skipTo target).2 := by
  have span := SeqId.distanceTo_next ahead.1
  have delivered : (receiver.skipTo target).2.length = (receiver.passedBy target).length :=
    List.length_map _
  rw [ReceiverCounters.passing, delivered, ← span]
  rfl

theorem length_deliverReady (receiver : Receiver config) :
    receiver.deliverReady.2.length = receiver.readyIds.length := by
  apply List.filterMap_length_eq_length.mpr
  intro id member
  exact Option.isSome_iff_exists.mpr (waits_of_mem_readyIds member)

theorem counters_deliverReady (receiver : Receiver config) :
    receiver.deliverReady.1.counters =
      receiver.counters.passing receiver.readyIds.length receiver.deliverReady.2 := by
  rw [ReceiverCounters.passing, ← length_deliverReady, Nat.sub_self]
  rfl

/-- A delivery in order books each id that the cursor passes once. -/
theorem counters_deliverOrdered (orderly : receiver.Orderly) :
    receiver.deliverOrdered.1.counters =
      receiver.counters.passing
        (receiver.cursor.distanceTo receiver.deliverOrdered.1.cursor)
        receiver.deliverOrdered.2 := by
  cases due : receiver.skipTarget? with
  | none =>
      have ready := deliverReady_advances orderly
      simp only [deliverOrdered, due]
      rw [← ready.steps_eq]
      exact counters_deliverReady receiver
  | some target =>
      have ahead := (skipTarget?_eq_some due).1
      have first := skipTo_advances orderly ahead
      have second := deliverReady_advances (first.orderly orderly)
      have short : receiver.cursor.distanceTo target +
          (receiver.skipTo target).1.readyIds.length < SeqId.space :=
        Nat.add_lt_add first.steps_lt second.steps_lt
      have way : receiver.cursor.distanceTo (receiver.skipTo target).1.deliverReady.1.cursor =
          receiver.cursor.distanceTo target + (receiver.skipTo target).1.readyIds.length := by
        rw [second.cursor, first.cursor, SeqId.advance_advance,
          SeqId.distanceTo_advance_of_lt _ short]
      simp only [deliverOrdered, due]
      rw [way, counters_deliverReady, counters_skipTo ahead]
      exact ReceiverCounters.passing_passing _ (first.length_le orderly)
        (second.length_le (first.orderly orderly))

/-! ## The account -/

/-- How the figures of a receiver agree with one another, with the events so far and with
the way that the cursor went. -/
structure Accounted (receiver : Receiver config) (travelled : Nat)
    (events : List ReceiveEvent) : Prop where
  orderly : receiver.Orderly
  /-- A segment is a duplicate or new. -/
  segmentsReceived : receiver.counters.segmentsReceived =
    receiver.counters.duplicates + receiver.counters.deliveredUnordered
  /-- What is new was delivered in order or waits. -/
  deliveredUnordered : receiver.counters.deliveredUnordered =
    receiver.counters.deliveredOrdered + receiver.buffered
  /-- What the cursor passed was delivered in order or given up on. -/
  passed : receiver.counters.deliveredOrdered + receiver.counters.skipped = travelled
  cursor : receiver.cursor = config.initialDataId.previous.advance travelled
  unordered : receiver.counters.deliveredUnordered =
    events.countP fun event => !event.isOrdered
  ordered : receiver.counters.deliveredOrdered = events.countP ReceiveEvent.isOrdered

theorem countP_isOrdered (deliveries : List Delivery) :
    (deliveries.map ReceiveEvent.unordered).countP ReceiveEvent.isOrdered = 0 ∧
      (deliveries.map ReceiveEvent.ordered).countP ReceiveEvent.isOrdered =
        deliveries.length := by
  simp [List.countP_map, Function.comp_def, ReceiveEvent.isOrdered]

theorem countP_not_isOrdered (deliveries : List Delivery) :
    (deliveries.map ReceiveEvent.unordered).countP (fun event => !event.isOrdered) =
        deliveries.length ∧
      (deliveries.map ReceiveEvent.ordered).countP (fun event => !event.isOrdered) = 0 := by
  simp [List.countP_map, Function.comp_def, ReceiveEvent.isOrdered]

theorem counters_ingest_of_duplicate {segment : Segment}
    (seen : receiver.isDuplicate segment.dataId = true) :
    (ingest receiver segment).1.counters = { receiver.counters with
      segmentsReceived := receiver.counters.segmentsReceived + 1
      duplicates := receiver.counters.duplicates + 1 } := by
  have same : (receiver.noteTransmissions segment.transmissionIds).isDuplicate
      segment.dataId = true := seen
  simp only [ingest, same, if_true]
  rfl

theorem counters_ingest_of_new {segment : Segment}
    (fresh : receiver.isDuplicate segment.dataId = false) :
    (ingest receiver segment).1.counters = { receiver.counters with
      segmentsReceived := receiver.counters.segmentsReceived + 1
      bytesReceived := receiver.counters.bytesReceived + segment.payload.length
      deliveredUnordered := receiver.counters.deliveredUnordered + 1 } := by
  have same : (receiver.noteTransmissions segment.transmissionIds).isDuplicate
      segment.dataId = false := fresh
  simp only [ingest, same]
  rfl

namespace Accounted

variable {travelled : Nat} {events : List ReceiveEvent}

theorem start (config : Config) : Accounted (start config) 0 [] where
  orderly := orderly_start config
  segmentsReceived := rfl
  deliveredUnordered := rfl
  passed := rfl
  cursor := (SeqId.advance_zero _).symm
  unordered := rfl
  ordered := rfl

theorem congr {other : Receiver config} {units malformed : Nat}
    (accounted : Accounted receiver travelled events)
    (cursor : other.cursor = receiver.cursor) (buffer : other.buffer = receiver.buffer)
    (counters : other.counters = { receiver.counters with
      unitsReceived := units
      malformedUnits := malformed }) : Accounted other travelled events where
  orderly := accounted.orderly.congr cursor buffer
  segmentsReceived := by
    rw [counters]
    exact accounted.segmentsReceived
  deliveredUnordered := by
    rw [counters, buffered, buffer]
    exact accounted.deliveredUnordered
  passed := by
    rw [counters]
    exact accounted.passed
  cursor := cursor.trans accounted.cursor
  unordered := by
    rw [counters]
    exact accounted.unordered
  ordered := by
    rw [counters]
    exact accounted.ordered

/-- A segment is booked as a duplicate, or as a new item that waits. -/
theorem ingest (accounted : Accounted receiver travelled events) (segment : Segment) :
    Accounted (ingest receiver segment).1 travelled
      (events ++ (ingest receiver segment).2.map .unordered) := by
  have orderly := accounted.orderly.ingest segment
  rcases ingest_cases receiver segment with
    ⟨seen, arrived, cursor, _, buffer⟩ | ⟨fresh, arrived, cursor, _, buffer⟩
  · have counters := counters_ingest_of_duplicate seen
    rw [arrived, List.map_nil, List.append_nil]
    constructor
    · exact orderly
    · rw [counters]
      exact (congrArg (· + 1) accounted.segmentsReceived).trans (Nat.add_right_comm _ _ _)
    · rw [counters, buffered, buffer]
      exact accounted.deliveredUnordered
    · rw [counters]
      exact accounted.passed
    · rw [cursor]
      exact accounted.cursor
    · rw [counters]
      exact accounted.unordered
    · rw [counters]
      exact accounted.ordered
  · have counters := counters_ingest_of_new fresh
    have absent := (isDuplicate_eq_false_iff.mp fresh).2.2
    have grown : (Receiver.ingest receiver segment).1.buffered = receiver.buffered + 1 := by
      rw [buffered, buffer, Std.ExtTreeMap.size_insert, if_neg]
      · rfl
      · rw [Std.ExtTreeMap.contains_eq_isSome_getElem?, absent]
        exact Bool.false_ne_true
    rw [arrived]
    constructor
    · exact orderly
    · rw [counters]
      exact congrArg (· + 1) accounted.segmentsReceived
    · rw [counters, grown]
      exact congrArg (· + 1) accounted.deliveredUnordered
    · rw [counters]
      exact accounted.passed
    · rw [cursor]
      exact accounted.cursor
    · rw [counters, List.countP_append]
      exact congrArg (· + 1) accounted.unordered
    · rw [counters, List.countP_append]
      exact accounted.ordered

theorem gather (accounted : Accounted receiver travelled events) (unit : WireUnit) :
    Accounted (receiver.gather unit).1 travelled
      (events ++ (receiver.gather unit).2.map .unordered) := by
  have each : ∀ {state : Receiver config} {past} (segment : Segment),
      Accounted state travelled (events ++ past.map .unordered) →
        Accounted (Receiver.ingest state segment).1 travelled
          (events ++ (past ++ (Receiver.ingest state segment).2).map .unordered) := by
    intro state past segment kept
    rw [List.map_append, ← List.append_assoc]
    exact kept.ingest segment
  have initial : Accounted receiver.counted travelled
      (events ++ ([] : List Delivery).map .unordered) := by
    rw [List.map_nil, List.append_nil]
    exact accounted.congr rfl rfl rfl
  exact Transition.run_keeps (fun state past =>
    Accounted state travelled (events ++ past.map .unordered)) each unit.segments initial

/-- What the cursor passes is booked as delivered in order or given up on. -/
theorem deliverOrdered (accounted : Accounted receiver travelled events) :
    Accounted receiver.deliverOrdered.1
      (travelled + receiver.cursor.distanceTo receiver.deliverOrdered.1.cursor)
      (events ++ receiver.deliverOrdered.2.map .ordered) := by
  rcases deliverOrdered_advances accounted.orderly with ⟨_, advances, _⟩
  have counters := counters_deliverOrdered accounted.orderly
  have within := advances.length_le accounted.orderly
  have kept := advances.buffered_eq accounted.orderly
  have settled := accounted.deliveredUnordered
  have passed := accounted.passed
  rw [advances.steps_eq] at within
  constructor
  · exact advances.orderly accounted.orderly
  · rw [counters]
    exact accounted.segmentsReceived
  · rw [counters]
    simp only [ReceiverCounters.passing]
    omega
  · rw [counters]
    simp only [ReceiverCounters.passing]
    omega
  · rw [← SeqId.advance_advance, ← accounted.cursor, SeqId.advance_distanceTo]
  · rw [counters, List.countP_append, (countP_not_isOrdered _).2]
    exact accounted.unordered
  · rw [counters, List.countP_append, (countP_isOrdered _).2]
    exact congrArg (· + receiver.deliverOrdered.2.length) accounted.ordered

/-- A unit is booked with its segments, and then with the ids that the cursor passes. -/
theorem ingestUnit (accounted : Accounted receiver travelled events) (unit : WireUnit) :
    Accounted (receiver.ingestUnit unit).1
      (travelled + receiver.cursor.distanceTo (receiver.ingestUnit unit).1.cursor)
      (events ++ (receiver.ingestUnit unit).2) := by
  have still : (receiver.gather unit).1.cursor = receiver.cursor :=
    cursor_run_ingest receiver.counted unit.segments
  have settled := (accounted.gather unit).deliverOrdered
  rw [still, List.append_assoc] at settled
  exact settled

theorem step (accounted : Accounted receiver travelled events) (call : Call) :
    Accounted (step receiver call).1
      (travelled + receiver.cursor.distanceTo (step receiver call).1.cursor)
      (events ++ (step receiver call).2) := by
  rcases step_cases receiver call with ⟨unit, _, taken⟩ | ⟨_, due, malformed, idle⟩
  · rw [taken]
    exact accounted.ingestUnit unit
  · rw [idle, List.append_nil, SeqId.distanceTo_self, Nat.add_zero]
    exact accounted.congr rfl rfl rfl

/-- A skip has no more to take out of the buffer than it has ids to pass. -/
theorem length_passedBy_le (accounted : Accounted receiver travelled events) (unit : WireUnit)
    {target : SeqId} (due : (receiver.gather unit).1.skipTarget? = some target) :
    ((receiver.gather unit).1.passedBy target).length ≤
      (receiver.gather unit).1.cursor.next.distanceTo target + 1 := by
  have orderly := (accounted.gather unit).orderly
  have ahead := (skipTarget?_eq_some due).1
  have fits := (skipTo_advances orderly ahead).length_le orderly
  have span := SeqId.distanceTo_next ahead.1
  have taken : ((receiver.gather unit).1.skipTo target).2.length =
      ((receiver.gather unit).1.passedBy target).length := List.length_map _
  omega

end Accounted

/-! ## The report -/

/-- What is noted beside a receiver. -/
structure Notes where
  /-- How far the cursor has moved in all. -/
  travelled : Nat
  /-- The report.  Its gauges are as they were when a unit was last taken in. -/
  report : ReceiverStats

namespace Notes

def start (config : Config) : Notes where
  travelled := 0
  report := { cursor := config.initialDataId.previous }

/-- The notes after one more call. -/
def add (notes : Notes) (before : Receiver config) (call : Call) : Notes :=
  let after := (step before call).1
  { travelled := notes.travelled + before.cursor.distanceTo after.cursor
    report := match call.unit? with
      | some _ => after.stats
      | none => { notes.report with toReceiverCounters := after.counters } }

end Notes

/-- Between units no gauge moves, so the report is not out of date. -/
theorem report_add {notes : Notes} (current : notes.report = receiver.stats) (call : Call) :
    (notes.add receiver call).report = (step receiver call).1.stats := by
  rcases step_cases receiver call with ⟨unit, brought, _⟩ | ⟨without, due, malformed, idle⟩
  · simp only [Notes.add, brought]
  · simp only [Notes.add, without, idle, current]
    rfl

/-- Whatever calls come, the figures in the report agree with one another, with the events
and with the way of the cursor.  So there is always enough to subtract from: no skip takes
more out of the buffer than it passes, and there are no more duplicates than segments. -/
theorem accounted_run (config : Config) (calls : List Call) :
    match Transition.run (Transition.beside step Notes.add) (start config, .start config)
      calls with
    | ((receiver, notes), events) =>
        (receiver, events) = Transition.run step (start config) calls ∧
          notes.report = receiver.stats ∧
          notes.report.segmentsReceived =
            notes.report.duplicates + notes.report.deliveredUnordered ∧
          notes.report.deliveredUnordered =
            notes.report.deliveredOrdered + receiver.buffered ∧
          notes.report.buffered = receiver.buffered ∧
          notes.report.deliveredOrdered + notes.report.skipped = notes.travelled ∧
          receiver.cursor = config.initialDataId.previous.advance
            (notes.report.deliveredOrdered + notes.report.skipped) ∧
          notes.report.cursor = receiver.cursor ∧
          notes.report.deliveredUnordered = events.countP (fun event => !event.isOrdered) ∧
          notes.report.deliveredOrdered = events.countP ReceiveEvent.isOrdered ∧
          notes.report.duplicates ≤ notes.report.segmentsReceived ∧
          ∀ unit target, (receiver.gather unit).1.skipTarget? = some target →
            ((receiver.gather unit).1.passedBy target).length ≤
              (receiver.gather unit).1.cursor.next.distanceTo target + 1 := by
  rcases Transition.run_beside step Notes.add (start config) (Notes.start config) calls with
    ⟨state, outputs⟩
  let current (state : Receiver config × Notes) (past : List ReceiveEvent) : Prop :=
    Accounted state.1 state.2.travelled past ∧ state.2.report = state.1.stats
  have each : ∀ {state past} (call : Call), current state past →
      current (Transition.beside step Notes.add state call).1
        (past ++ (Transition.beside step Notes.add state call).2) :=
    fun call kept => ⟨kept.1.step call, report_add kept.2 call⟩
  have initial : current (start config, .start config) [] := ⟨.start config, rfl⟩
  have held := Transition.run_keeps current each calls initial
  rw [List.nil_append] at held
  generalize Transition.run (Transition.beside step Notes.add) (start config, .start config)
    calls = reached at state outputs held ⊢
  rcases reached with ⟨⟨receiver, notes⟩, events⟩
  rcases held with ⟨accounted, report⟩
  simp only at state outputs accounted report ⊢
  have fewer : receiver.counters.duplicates ≤ receiver.counters.segmentsReceived :=
    accounted.segmentsReceived ▸ Nat.le_add_right _ _
  have cursor : receiver.cursor = config.initialDataId.previous.advance
      (receiver.counters.deliveredOrdered + receiver.counters.skipped) :=
    accounted.passed ▸ accounted.cursor
  rw [report]
  exact ⟨Prod.ext state outputs, rfl, accounted.segmentsReceived,
    accounted.deliveredUnordered, rfl, accounted.passed, cursor, rfl, accounted.unordered,
    accounted.ordered, fewer, fun unit _ due => accounted.length_passedBy_le unit due⟩

end Receiver

end ReliableDatagram
