import Mathlib.Data.List.Nodup
import ReliableDatagram.Proofs.Receiver.Delivery
import ReliableDatagram.Proofs.Transition

/-!
# Positions behind the wrapping ids

Ids repeat after `SeqId.space` of them, so what a receiver delivers is told apart by
positions: integers that grow by the distance that the cursor moves.  `placeUnit` takes
in a unit and keeps count of them.  Whatever units come, no position arrives twice, the
positions delivered in order increase, and these are at all times the positions that
arrived up to the cursor, while all others that arrived wait (`positioned_run`).
-/

namespace ReliableDatagram

namespace Receiver

variable {config : Config} {receiver : Receiver config}

/-- Events with the positions of their items, counted from the cursor. -/
def placed (receiver : Receiver config) (position : Int) (events : List ReceiveEvent) :
    List (Int × ReceiveEvent) :=
  events.map fun event =>
    (position + receiver.cursor.distanceTo event.delivery.dataId, event)

/-- Take in a unit, with the position of the cursor.  The events are placed from where the
cursor was before the unit. -/
def placeUnit : Transition (Receiver config × Int) WireUnit (Int × ReceiveEvent)
  | (receiver, position), unit =>
      match receiver.ingestUnit unit with
      | (after, events) =>
          ((after, position + receiver.cursor.distanceTo after.cursor),
            receiver.placed position events)

/-- The item of an event on arrival. -/
def arrival? : Int × ReceiveEvent → Option (Int × Delivery)
  | (place, .unordered delivery) => some (place, delivery)
  | (_, .ordered _) => none

/-- The item of an event in order. -/
def turn? : Int × ReceiveEvent → Option (Int × Delivery)
  | (_, .unordered _) => none
  | (place, .ordered delivery) => some (place, delivery)

/-- The items that arrived, with their positions. -/
def arrivals (log : List (Int × ReceiveEvent)) : List (Int × Delivery) :=
  log.filterMap arrival?

/-- The items delivered in order, with their positions. -/
def turns (log : List (Int × ReceiveEvent)) : List (Int × Delivery) :=
  log.filterMap turn?

/-- What a log of events says about a receiver whose cursor is at a position. -/
structure Positioned (receiver : Receiver config) (position : Int)
    (log : List (Int × ReceiveEvent)) : Prop where
  orderly : receiver.Orderly
  /-- No position arrives twice. -/
  distinct : ((arrivals log).map Prod.fst).Nodup
  /-- Delivery in order never goes back. -/
  increasing : ((turns log).map Prod.fst).Pairwise (· < ·)
  /-- What is delivered in order has arrived before. -/
  preceded : ∀ {before after place delivery},
    log = before ++ (place, .ordered delivery) :: after → (place, .unordered delivery) ∈ before
  /-- All that arrived up to the cursor was delivered in order, and nothing else. -/
  delivered : ∀ {place delivery}, (place, delivery) ∈ turns log ↔
    (place, delivery) ∈ arrivals log ∧ place ≤ position
  /-- All that arrived beyond the cursor waits, and nothing else. -/
  waiting : ∀ {place delivery}, (place, delivery) ∈ arrivals log ∧ position < place ↔
    receiver.Waits delivery ∧ place = position + receiver.cursor.distanceTo delivery.dataId

theorem positioned_start (config : Config) : Positioned (start config) (-1) [] where
  orderly := orderly_start config
  distinct := List.nodup_nil
  increasing := .nil
  preceded split := by simp at split
  delivered := by simp [turns, arrivals]
  waiting := by simp [arrivals, Waits, start]

theorem Positioned.congr {other : Receiver config} {position : Int}
    {log : List (Int × ReceiveEvent)} (positioned : Positioned receiver position log)
    (cursor : other.cursor = receiver.cursor) (buffer : other.buffer = receiver.buffer) :
    Positioned other position log where
  orderly := positioned.orderly.congr cursor buffer
  distinct := positioned.distinct
  increasing := positioned.increasing
  preceded := positioned.preceded
  delivered := positioned.delivered
  waiting {place delivery} := by
    rw [Waits, cursor, buffer]
    exact positioned.waiting

theorem arrivals_append (log more : List (Int × ReceiveEvent)) :
    arrivals (log ++ more) = arrivals log ++ arrivals more :=
  List.filterMap_append

theorem turns_append (log more : List (Int × ReceiveEvent)) :
    turns (log ++ more) = turns log ++ turns more :=
  List.filterMap_append

theorem mem_arrivals {log : List (Int × ReceiveEvent)} {place : Int} {delivery : Delivery} :
    (place, delivery) ∈ arrivals log ↔ (place, .unordered delivery) ∈ log := by
  rw [arrivals, List.mem_filterMap]
  constructor
  · intro condition
    rcases condition with ⟨⟨other, event⟩, member, same⟩
    cases event with
    | unordered stored =>
        cases same
        exact member
    | ordered stored => cases same
  · intro member
    exact ⟨_, member, rfl⟩

/-- In an extended log each event in order is a new one, or was in the log. -/
theorem preceded_append {log more : List (Int × ReceiveEvent)}
    (known : ∀ {before after place delivery},
      log = before ++ (place, .ordered delivery) :: after →
        (place, .unordered delivery) ∈ before)
    (fresh : ∀ {place delivery}, (place, .ordered delivery) ∈ more →
      (place, .unordered delivery) ∈ log)
    {before after : List (Int × ReceiveEvent)} {place : Int} {delivery : Delivery}
    (split : log ++ more = before ++ (place, .ordered delivery) :: after) :
    (place, .unordered delivery) ∈ before := by
  rcases List.append_eq_append_iff.mp split with
    ⟨middle, rfl, rest⟩ | ⟨middle, rfl, rest⟩
  · apply List.mem_append_left
    apply fresh
    rw [rest]
    exact List.mem_append_right _ List.mem_cons_self
  · cases middle with
    | nil =>
        rw [List.append_nil] at fresh
        apply fresh
        rw [← List.nil_append more, ← rest]
        exact List.mem_cons_self
    | cons event middle =>
        rcases List.cons.inj rest with ⟨rfl, -⟩
        exact known rfl

theorem arrivals_placed_unordered (receiver : Receiver config) (position : Int)
    (deliveries : List Delivery) :
    arrivals (receiver.placed position (deliveries.map .unordered)) =
      deliveries.map fun delivery =>
        (position + receiver.cursor.distanceTo delivery.dataId, delivery) := by
  simp [arrivals, placed, Function.comp_def, arrival?, ReceiveEvent.delivery]

theorem arrivals_placed_ordered (receiver : Receiver config) (position : Int)
    (deliveries : List Delivery) :
    arrivals (receiver.placed position (deliveries.map .ordered)) = [] := by
  simp [arrivals, placed, Function.comp_def, arrival?]

theorem turns_placed_ordered (receiver : Receiver config) (position : Int)
    (deliveries : List Delivery) :
    turns (receiver.placed position (deliveries.map .ordered)) =
      deliveries.map fun delivery =>
        (position + receiver.cursor.distanceTo delivery.dataId, delivery) := by
  simp [turns, placed, Function.comp_def, turn?, ReceiveEvent.delivery]

/-! ## Arrival -/

theorem Positioned.unoccupied {position : Int} {log : List (Int × ReceiveEvent)}
    {dataId : SeqId} (positioned : Positioned receiver position log)
    (ahead : receiver.IsAhead dataId) (absent : receiver.buffer[dataId]? = none) :
    position + receiver.cursor.distanceTo dataId ∉ (arrivals log).map Prod.fst := by
  intro taken
  rcases List.mem_map.mp taken with ⟨⟨place, other⟩, member, same⟩
  have here : place = position + receiver.cursor.distanceTo dataId := same
  have positive := ahead.1
  rcases positioned.waiting.mp ⟨member, by omega⟩ with ⟨waiting, there⟩
  have distance : receiver.cursor.distanceTo other.dataId =
      receiver.cursor.distanceTo dataId := by omega
  rw [Waits, SeqId.distanceTo_injective distance, absent] at waiting
  cases waiting

/-- A new item takes a position ahead of the cursor at which nothing arrived. -/
theorem Positioned.arrive {after : Receiver config} {position : Int}
    {log : List (Int × ReceiveEvent)} {delivery : Delivery}
    (positioned : Positioned receiver position log) (orderly : after.Orderly)
    (ahead : receiver.IsAhead delivery.dataId)
    (absent : receiver.buffer[delivery.dataId]? = none)
    (cursor : after.cursor = receiver.cursor)
    (buffer : after.buffer = receiver.buffer.insert delivery.dataId delivery) :
    Positioned after position
      (log ++ receiver.placed position ([delivery].map .unordered)) := by
  have arrived : arrivals (log ++ receiver.placed position ([delivery].map .unordered)) =
      arrivals log ++
        [(position + receiver.cursor.distanceTo delivery.dataId, delivery)] := by
    rw [arrivals_append]
    exact congrArg _ (arrivals_placed_unordered receiver position [delivery])
  have turned : turns (log ++ receiver.placed position ([delivery].map .unordered)) =
      turns log := by
    rw [turns_append]
    exact List.append_nil _
  have beyond : position < position + receiver.cursor.distanceTo delivery.dataId := by
    have positive := ahead.1
    omega
  constructor
  · exact orderly
  · rw [arrived, List.map_append]
    apply positioned.distinct.append (List.nodup_singleton _)
    exact List.disjoint_singleton.mpr (positioned.unoccupied ahead absent)
  · rw [turned]
    exact positioned.increasing
  · intro before rest place other split
    apply preceded_append positioned.preceded _ split
    intro place other member
    cases List.mem_singleton.mp member
  · intro place other
    rw [turned, arrived, positioned.delivered, List.mem_append, List.mem_singleton]
    constructor
    · intro condition
      rcases condition with ⟨member, close⟩
      exact ⟨.inl member, close⟩
    · intro condition
      rcases condition with ⟨member | new, close⟩
      · exact ⟨member, close⟩
      · cases new
        omega
  · intro place other
    rw [waits_insert_iff delivery absent buffer, cursor, arrived, List.mem_append,
      List.mem_singleton, or_and_right, or_and_right, positioned.waiting]
    apply or_congr_right
    rw [Prod.mk.injEq]
    constructor
    · intro condition
      rcases condition with ⟨⟨here, same⟩, _⟩
      exact ⟨same, same ▸ here⟩
    · intro condition
      rcases condition with ⟨same, here⟩
      subst same
      exact ⟨⟨here, rfl⟩, here ▸ beyond⟩

theorem Positioned.ingest {position : Int} {log : List (Int × ReceiveEvent)}
    (positioned : Positioned receiver position log) (segment : Segment) :
    Positioned (ingest receiver segment).1 position
      (log ++ receiver.placed position ((ingest receiver segment).2.map .unordered)) := by
  have orderly := positioned.orderly.ingest segment
  rcases ingest_cases receiver segment with
    ⟨_, events, cursor, _, buffer⟩ | ⟨fresh, events, cursor, _, buffer⟩
  · rw [events, placed, List.map_nil, List.map_nil, List.append_nil]
    exact positioned.congr cursor buffer
  · rcases isDuplicate_eq_false_iff.mp fresh with ⟨ahead, _, absent⟩
    rw [events]
    exact positioned.arrive orderly ahead absent cursor buffer

theorem Positioned.run_ingest {position : Int} {log : List (Int × ReceiveEvent)}
    (positioned : Positioned receiver position log) (segments : List Segment) :
    Positioned (Transition.run Receiver.ingest receiver segments).1 position
      (log ++ receiver.placed position
        ((Transition.run Receiver.ingest receiver segments).2.map .unordered)) := by
  induction segments generalizing receiver log with
  | nil =>
      rw [Transition.run_nil, placed, List.map_nil, List.map_nil, List.append_nil]
      exact positioned
  | cons segment rest ih =>
      have later := ih (positioned.ingest segment)
      rw [placed, placed, cursor_ingest, List.append_assoc, ← List.map_append,
        ← List.map_append] at later
      rw [Transition.run_cons]
      exact later

/-! ## Delivery in order -/

/-- What is delivered in order arrived beyond the cursor. -/
theorem Positioned.due {after : Receiver config} {position : Int}
    {log : List (Int × ReceiveEvent)} {steps : Nat} {deliveries : List Delivery}
    (positioned : Positioned receiver position log)
    (advances : Advances receiver steps after deliveries) {delivery : Delivery}
    (member : delivery ∈ deliveries) :
    (position + receiver.cursor.distanceTo delivery.dataId, delivery) ∈ arrivals log ∧
      position < position + receiver.cursor.distanceTo delivery.dataId :=
  positioned.waiting.mpr ⟨(advances.mem_delivered.mp member).1, rfl⟩

theorem turns_delivered (receiver : Receiver config) (position : Int)
    (log : List (Int × ReceiveEvent)) (deliveries : List Delivery) :
    turns (log ++ receiver.placed position (deliveries.map .ordered)) =
      turns log ++ deliveries.map fun delivery =>
        (position + receiver.cursor.distanceTo delivery.dataId, delivery) := by
  rw [turns_append, turns_placed_ordered]

theorem arrivals_delivered (receiver : Receiver config) (position : Int)
    (log : List (Int × ReceiveEvent)) (deliveries : List Delivery) :
    arrivals (log ++ receiver.placed position (deliveries.map .ordered)) = arrivals log := by
  rw [arrivals_append, arrivals_placed_ordered, List.append_nil]

theorem Positioned.increasing_advance {after : Receiver config} {position : Int}
    {log : List (Int × ReceiveEvent)} {steps : Nat} {deliveries : List Delivery}
    (positioned : Positioned receiver position log)
    (advances : Advances receiver steps after deliveries) :
    ((turns (log ++ receiver.placed position (deliveries.map .ordered))).map
      Prod.fst).Pairwise (· < ·) := by
  rw [turns_delivered, List.map_append, List.map_map]
  apply List.pairwise_append.mpr
  refine ⟨positioned.increasing, ?_, ?_⟩
  · apply List.pairwise_map.mpr
    apply advances.ordered.imp
    intro left right less
    change position + _ < position + _
    omega
  · intro old oldMem new newMem
    rcases List.mem_map.mp oldMem with ⟨entry, entryMem, rfl⟩
    rcases List.mem_map.mp newMem with ⟨delivery, member, rfl⟩
    exact Int.lt_of_le_of_lt (positioned.delivered.mp entryMem).2
      (positioned.due advances member).2

theorem Positioned.delivered_advance {after : Receiver config} {position : Int}
    {log : List (Int × ReceiveEvent)} {steps : Nat} {deliveries : List Delivery}
    (positioned : Positioned receiver position log)
    (advances : Advances receiver steps after deliveries) {place : Int}
    {delivery : Delivery} :
    (place, delivery) ∈
        turns (log ++ receiver.placed position (deliveries.map .ordered)) ↔
      (place, delivery) ∈ arrivals log ∧ place ≤ position + steps := by
  rw [turns_delivered, List.mem_append, positioned.delivered, List.mem_map]
  constructor
  · intro either
    rcases either with ⟨member, close⟩ | ⟨stored, member, same⟩
    · exact ⟨member, by omega⟩
    · cases same
      have close := (advances.mem_delivered.mp member).2
      exact ⟨(positioned.due advances member).1, by omega⟩
  · intro condition
    rcases condition with ⟨member, close⟩
    rcases Int.lt_or_le position place with beyond | passed
    · rcases positioned.waiting.mp ⟨member, beyond⟩ with ⟨waiting, here⟩
      refine .inr ⟨delivery, advances.mem_delivered.mpr ⟨waiting, by omega⟩, ?_⟩
      rw [here]
    · exact .inl ⟨member, passed⟩

theorem Positioned.waiting_advance {after : Receiver config} {position : Int}
    {log : List (Int × ReceiveEvent)} {steps : Nat} {deliveries : List Delivery}
    (positioned : Positioned receiver position log)
    (advances : Advances receiver steps after deliveries) {place : Int}
    {delivery : Delivery} :
    (place, delivery) ∈ arrivals log ∧ position + steps < place ↔
      after.Waits delivery ∧
        place = position + steps + after.cursor.distanceTo delivery.dataId := by
  have distance := advances.distanceTo_eq delivery.dataId
  have near := SeqId.distanceTo_lt after.cursor delivery.dataId
  have short := advances.steps_lt
  rw [advances.waits_iff]
  simp only [SeqId.space, SeqId.halfSpace] at distance near short
  constructor
  · intro condition
    rcases condition with ⟨member, beyond⟩
    rcases positioned.waiting.mp ⟨member, by omega⟩ with ⟨waiting, here⟩
    have ahead := (positioned.orderly.ahead waiting).2
    simp only [SeqId.halfSpace] at ahead
    exact ⟨⟨waiting, by omega⟩, by omega⟩
  · intro condition
    rcases condition with ⟨⟨waiting, far⟩, here⟩
    have ahead := (positioned.orderly.ahead waiting).2
    simp only [SeqId.halfSpace] at ahead
    have known := positioned.waiting.mpr ⟨waiting, rfl⟩
    have same : place = position + receiver.cursor.distanceTo delivery.dataId := by omega
    rw [same]
    exact ⟨known.1, by omega⟩

/-- Positions that the cursor passes are delivered in their order. -/
theorem Positioned.advance {after : Receiver config} {position : Int}
    {log : List (Int × ReceiveEvent)} {steps : Nat} {deliveries : List Delivery}
    (positioned : Positioned receiver position log)
    (advances : Advances receiver steps after deliveries) :
    Positioned after (position + steps)
      (log ++ receiver.placed position (deliveries.map .ordered)) := by
  constructor
  · exact advances.orderly positioned.orderly
  · rw [arrivals_delivered]
    exact positioned.distinct
  · exact positioned.increasing_advance advances
  · intro before rest place delivery split
    apply preceded_append positioned.preceded _ split
    intro place delivery member
    rcases List.mem_map.mp member with ⟨event, eventMem, same⟩
    rcases List.mem_map.mp eventMem with ⟨stored, storedMem, rfl⟩
    cases same
    exact mem_arrivals.mp (positioned.due advances storedMem).1
  · rw [arrivals_delivered]
    exact positioned.delivered_advance advances
  · rw [arrivals_delivered]
    exact positioned.waiting_advance advances

/-! ## Units -/

theorem placed_congr {other : Receiver config} (same : other.cursor = receiver.cursor)
    (position : Int) (events : List ReceiveEvent) :
    other.placed position events = receiver.placed position events := by
  rw [placed, placed, same]

theorem Positioned.unit {position : Int} {log : List (Int × ReceiveEvent)}
    (positioned : Positioned receiver position log) (unit : WireUnit) :
    Positioned (placeUnit (receiver, position) unit).1.1
      (placeUnit (receiver, position) unit).1.2
      (log ++ (placeUnit (receiver, position) unit).2) := by
  have counting : Positioned receiver.counted position log := positioned.congr rfl rfl
  have ingested : Positioned (receiver.gather unit).1 position _ :=
    counting.run_ingest unit.segments
  have still : (receiver.gather unit).1.cursor = receiver.cursor :=
    cursor_run_ingest receiver.counted unit.segments
  rcases deliverOrdered_advances ingested.orderly with ⟨ready, advances, _⟩
  have settled := ingested.advance advances
  have way := congrArg receiver.cursor.distanceTo advances.cursor
  have short := advances.steps_lt
  rw [still, SeqId.distanceTo_advance_of_lt _ (Nat.lt_trans short (by decide))] at way
  rw [placed_congr still, List.append_assoc, ← way] at settled
  have joined : ∀ first second : List ReceiveEvent,
      receiver.placed position (first ++ second) =
        receiver.placed position first ++ receiver.placed position second :=
    fun first second => List.map_append
  simp only [placeUnit, ingestUnit, joined]
  exact settled

theorem Positioned.run {position : Int} {log : List (Int × ReceiveEvent)}
    (positioned : Positioned receiver position log) (units : List WireUnit) :
    Positioned (Transition.run placeUnit (receiver, position) units).1.1
      (Transition.run placeUnit (receiver, position) units).1.2
      (log ++ (Transition.run placeUnit (receiver, position) units).2) :=
  Transition.run_keeps (fun (state : Receiver config × Int) past =>
    Positioned state.1 state.2 past) (fun unit positioned => positioned.unit unit) units
    positioned

/-- Positions are counted beside a run and do not change it. -/
theorem run_placeUnit (receiver : Receiver config) (position : Int) (units : List WireUnit) :
    (Transition.run placeUnit (receiver, position) units).1.1 =
        (Transition.run ingestUnit receiver units).1 ∧
      (Transition.run placeUnit (receiver, position) units).2.map Prod.snd =
        (Transition.run ingestUnit receiver units).2 := by
  induction units generalizing receiver position with
  | nil => exact ⟨rfl, rfl⟩
  | cons unit rest ih =>
      have later := ih (receiver.ingestUnit unit).1
        (position + receiver.cursor.distanceTo (receiver.ingestUnit unit).1.cursor)
      have events : (placeUnit (receiver, position) unit).2.map Prod.snd =
          (receiver.ingestUnit unit).2 := by
        simp [placeUnit, placed, Function.comp_def]
      rw [Transition.run_cons, Transition.run_cons, List.map_append, events]
      exact ⟨later.1, congrArg _ later.2⟩

/-- Whatever units a receiver takes in, each position arrives at most once, delivery in
order goes through increasing positions, each of which arrived before, and has at all
times passed those that arrived up to the cursor, while the others wait. -/
theorem positioned_run (config : Config) (units : List WireUnit) :
    (Transition.run placeUnit (start config, -1) units).1.1 =
        (Transition.run ingestUnit (start config) units).1 ∧
      (Transition.run placeUnit (start config, -1) units).2.map Prod.snd =
        (Transition.run ingestUnit (start config) units).2 ∧
      Positioned (Transition.run ingestUnit (start config) units).1
        (Transition.run placeUnit (start config, -1) units).1.2
        (Transition.run placeUnit (start config, -1) units).2 := by
  rcases run_placeUnit (start config) (-1) units with ⟨state, events⟩
  have positioned := (positioned_start config).run units
  rw [List.nil_append, state] at positioned
  exact ⟨state, events, positioned⟩

end Receiver

end ReliableDatagram
