import ReliableDatagram.Proofs.Receiver.Following

/-!
# Delivery without losses

The limit on the lag only matters when more items are under way than it allows.  A receiver
of no more numbered items than that never skips, and what it has done is a function of what
arrived (`Complete`): every item that arrived was announced once, the items up to the first
that did not arrive were delivered in order, and the other ones wait.

`Follows` says that a receiver does not forget what arrived.  Here nothing is missed, so a
dropped segment is one that arrived before, and each gap fill releases all that waits behind
it (`Complete.deliverOrdered`).
-/

namespace ReliableDatagram

/-! ## What units bring and events tell -/

namespace Segment

/-- The item that a segment carries. -/
def delivery (segment : Segment) : Delivery := ⟨segment.dataId, segment.payload⟩

end Segment

namespace ReceiveEvent

/-- The items announced on arrival, in order. -/
def announced (events : List ReceiveEvent) : List Delivery :=
  (events.filter fun event => !event.isOrdered).map delivery

/-- The items delivered in order. -/
def inOrder (events : List ReceiveEvent) : List Delivery :=
  (events.filter isOrdered).map delivery

theorem announced_append (events more : List ReceiveEvent) :
    announced (events ++ more) = announced events ++ announced more := by
  rw [announced, List.filter_append, List.map_append]
  rfl

theorem inOrder_append (events more : List ReceiveEvent) :
    inOrder (events ++ more) = inOrder events ++ inOrder more := by
  rw [inOrder, List.filter_append, List.map_append]
  rfl

/-- A unit announces what is new, and then delivers what is due. -/
theorem announced_unit (arrived delivered : List Delivery) :
    announced (arrived.map unordered ++ delivered.map ordered) = arrived := by
  simp [announced, List.filter_map, Function.comp_def, isOrdered, delivery]

theorem inOrder_unit (arrived delivered : List Delivery) :
    inOrder (arrived.map unordered ++ delivered.map ordered) = delivered := by
  simp [inOrder, List.filter_map, Function.comp_def, isOrdered, delivery]

end ReceiveEvent

namespace Receiver

variable {config : Config} {receiver : Receiver config}

/-- Items with the ids that a sender gives out one after the other. -/
def numberedItems (config : Config) (payloads : List Payload) : List Delivery :=
  payloads.mapIdx fun index payload => ⟨config.initialDataId.advance index, payload⟩

theorem numbered_numberedItems (config : Config) (payloads : List Payload) :
    Numbered config (numberedItems config payloads) := by
  intro index item found
  rw [numberedItems, List.getElem?_mapIdx] at found
  rcases Option.map_eq_some_iff.mp found with ⟨payload, _, rfl⟩
  rfl

/-- The items that units bring, as often as they do. -/
def copies (units : List WireUnit) : List Delivery :=
  units.flatMap fun unit => unit.segments.map Segment.delivery

/-! ## Receivers that miss nothing -/

/-- What a receiver of numbered items knows when it missed none of those that arrived. -/
structure Gathers (receiver : Receiver config) (items : List Delivery)
    (arrived : List Segment) (passed : Nat) : Prop where
  follows : Follows receiver items arrived (arrived.map Segment.delivery).eraseDups
    (fun _ => False) passed
  /-- What arrived beyond the cursor waits. -/
  waits : ∀ {index item}, passed ≤ index → items[index]? = some item →
    item ∈ arrived.map Segment.delivery → receiver.Waits item

namespace Gathers

variable {items : List Delivery} {arrived : List Segment} {passed : Nat}

theorem start (config : Config) (items : List Delivery) :
    Gathers (start config) items [] 0 where
  follows := (follows_start config fun _ => False).append items
  waits _ _ member := nomatch member

theorem arrived_subset (gathers : Gathers receiver items arrived passed) :
    arrived.map Segment.delivery ⊆ items :=
  fun _ member => gathers.follows.seen_subset (List.mem_eraseDups.mpr member)

theorem isDuplicate_iff (gathers : Gathers receiver items arrived passed)
    (numbered : Numbered config items) (few : items.length < SeqId.halfSpace)
    {item : Delivery} (member : item ∈ items) :
    receiver.isDuplicate item.dataId = true ↔ item ∈ arrived.map Segment.delivery := by
  constructor
  · intro dropped
    rcases gathers.follows.settled_of_isDuplicate numbered few member dropped with
      known | missed
    · exact List.mem_eraseDups.mp known
    · cases missed
  · intro known
    cases fresh : receiver.isDuplicate item.dataId with
    | true => rfl
    | false =>
        rcases isDuplicate_eq_false_iff.mp fresh with ⟨ahead, _, absent⟩
        rcases List.mem_iff_getElem?.mp member with ⟨index, found⟩
        have unpassed := (gathers.follows.isAhead_iff numbered few found).mp ahead
        have waiting := gathers.waits unpassed found known
        rw [Waits, absent] at waiting
        cases waiting

theorem eraseDups_concat (known : List Delivery) (item : Delivery) :
    (known ++ [item]).eraseDups = known.eraseDups ++ if item ∈ known then [] else [item] := by
  rw [List.eraseDups_append, List.removeAll]
  split
  · next older => rw [List.filter_cons_of_neg (by simpa using older)]; rfl
  · next newer => rw [List.filter_cons_of_pos (by simpa using newer)]; rfl

theorem outputs_ingest (gathers : Gathers receiver items arrived passed)
    (numbered : Numbered config items) (few : items.length < SeqId.halfSpace)
    {segment : Segment} (member : segment.delivery ∈ items) :
    (arrived.map Segment.delivery).eraseDups ++ (ingest receiver segment).2 =
      ((arrived ++ [segment]).map Segment.delivery).eraseDups := by
  have known := gathers.isDuplicate_iff numbered few member
  have added : ((arrived ++ [segment]).map Segment.delivery).eraseDups =
      (arrived.map Segment.delivery).eraseDups ++
        if segment.delivery ∈ arrived.map Segment.delivery then [] else [segment.delivery] := by
    rw [List.map_append]
    exact eraseDups_concat _ _
  rw [added]
  rcases ingest_cases receiver segment with ⟨dropped, outputs, _⟩ | ⟨fresh, outputs, _⟩
  · rw [outputs, if_pos (known.mp dropped)]
  · have newer : segment.delivery ∉ arrived.map Segment.delivery := by
      intro older
      cases fresh.symm.trans (known.mpr older)
    rw [outputs, if_neg newer]
    rfl

theorem ingest (gathers : Gathers receiver items arrived passed)
    (numbered : Numbered config items) (few : items.length < SeqId.halfSpace)
    {segment : Segment} (member : segment.delivery ∈ items) :
    Gathers (ingest receiver segment).1 items (arrived ++ [segment]) passed where
  follows := by
    rw [← gathers.outputs_ingest numbered few member]
    exact gathers.follows.ingest numbered few member
  waits {index item} unpassed found known := by
    rw [List.map_append, List.mem_append] at known
    rcases ingest_cases receiver segment with
      ⟨dropped, _, _, _, buffer⟩ | ⟨fresh, _, _, _, buffer⟩
    · rw [Waits, buffer]
      apply gathers.waits unpassed found
      rcases known with older | newest
      · exact older
      · rw [List.mem_singleton.mp newest]
        exact (gathers.isDuplicate_iff numbered few member).mp dropped
    · have absent := (isDuplicate_eq_false_iff.mp fresh).2.2
      apply (waits_insert_iff segment.delivery absent buffer).mpr
      rcases known with older | newest
      · exact .inl (gathers.waits unpassed found older)
      · exact .inr (List.mem_singleton.mp newest)

theorem run_ingest (gathers : Gathers receiver items arrived passed)
    (numbered : Numbered config items) (few : items.length < SeqId.halfSpace)
    {segments : List Segment} (members : ∀ segment ∈ segments, segment.delivery ∈ items) :
    Gathers (Transition.run Receiver.ingest receiver segments).1 items (arrived ++ segments)
        passed ∧
      (arrived.map Segment.delivery).eraseDups ++
          (Transition.run Receiver.ingest receiver segments).2 =
        ((arrived ++ segments).map Segment.delivery).eraseDups := by
  induction segments generalizing receiver arrived with
  | nil => simpa using gathers
  | cons segment rest ih =>
      rcases List.forall_mem_cons.mp members with ⟨first, later⟩
      rcases ih (gathers.ingest numbered few first) later with ⟨kept, outputs⟩
      rw [← gathers.outputs_ingest numbered few first, List.append_assoc,
        List.append_assoc] at outputs
      rw [List.append_assoc] at kept
      rw [Transition.run_cons]
      exact ⟨kept, outputs⟩

/-! ## Delivery in order -/

/-- The newest item is not farther ahead than the limit allows. -/
theorem skipTarget?_eq_none (gathers : Gathers receiver items arrived passed)
    (numbered : Numbered config items) (few : items.length < SeqId.halfSpace)
    (allowed : items.length ≤ config.offsetLimit) : receiver.skipTarget? = none := by
  cases due : receiver.skipTarget? with
  | none => rfl
  | some target =>
      exfalso
      rcases skipTarget?_eq_some due with ⟨reached, highest, newest, ahead, distance⟩
      rcases gathers.follows.seen_of_newest newest with ⟨item, known, rfl⟩
      have bound := gathers.follows.distanceTo_add_le numbered few
        (gathers.follows.seen_subset known) ahead
      have positive := reached.1
      omega

/-- What waits right after the cursor are the next items. -/
theorem getElem?_ready (gathers : Gathers receiver items arrived passed)
    (numbered : Numbered config items) (few : items.length < SeqId.halfSpace) {steps : Nat}
    (ready : steps < receiver.readyIds.length) :
    receiver.buffer[receiver.cursor.advance (steps + 1)]? = items[passed + steps]? := by
  rcases waits_of_le_length_readyIds (Nat.succ_pos steps) ready with ⟨delivery, found⟩
  have named := gathers.follows.orderly.named found
  have ahead := gathers.follows.orderly.ahead found
  rw [found]
  rw [← named] at found ahead
  have member := gathers.follows.seen_subset (gathers.follows.waiting found)
  rcases List.mem_iff_getElem?.mp member with ⟨index, listed⟩
  have unpassed := (gathers.follows.isAhead_iff numbered few listed).mp ahead
  have distance := gathers.follows.distanceTo_item numbered few listed unpassed
  have short := length_readyIds_lt gathers.follows.orderly
  rw [named, SeqId.distanceTo_advance_of_lt] at distance
  · have here : index = passed + steps := by omega
    rw [← here, listed]
  · simp only [SeqId.halfSpace, SeqId.space] at *
    omega

theorem filterMap_getElem?_range (items : List Delivery) (count : Nat) :
    (List.range count).filterMap (fun steps => items[steps]?) = items.take count := by
  induction count with
  | zero => rfl
  | succ count ih =>
      rw [List.range_succ, List.filterMap_append, ih, List.take_add_one]
      cases found : items[count]? with
      | none => simp [found]
      | some item => simp [found]

theorem deliverReady_eq (gathers : Gathers receiver items arrived passed)
    (numbered : Numbered config items) (few : items.length < SeqId.halfSpace) :
    receiver.deliverReady.2 = (items.drop passed).take receiver.readyIds.length := by
  have looked : receiver.deliverReady.2 =
      (List.range receiver.readyIds.length).filterMap fun steps =>
        receiver.buffer[receiver.cursor.advance (steps + 1)]? := by
    have listed : receiver.deliverReady.2 =
        receiver.readyIds.filterMap fun id => receiver.buffer[id]? := rfl
    rw [listed, readyIds_eq, List.filterMap_map, List.length_map, List.length_range]
    rfl
  rw [looked, ← filterMap_getElem?_range]
  apply List.filterMap_congr
  intro steps member
  rw [gathers.getElem?_ready numbered few (List.mem_range.mp member), List.getElem?_drop]

/-- Delivery in order goes on to the first item that did not arrive. -/
theorem deliverReady (gathers : Gathers receiver items arrived passed)
    (numbered : Numbered config items) (few : items.length < SeqId.halfSpace)
    (allowed : items.length ≤ config.offsetLimit) :
    Gathers receiver.deliverReady.1 items arrived (passed + receiver.readyIds.length) ∧
      ∀ {item}, items[passed + receiver.readyIds.length]? = some item →
        item ∉ arrived.map Segment.delivery := by
  have follows := gathers.follows
  have advances := deliverReady_advances follows.orderly
  have still : receiver.skipped = 0 := by
    rw [skipped, gathers.skipTarget?_eq_none numbered few allowed]
    rfl
  have whole : Advances receiver (receiver.skipped + receiver.readyIds.length)
      receiver.deliverReady.1 receiver.deliverReady.2 := by rwa [still, Nat.zero_add]
  refine ⟨⟨?_, ?_⟩, ?_⟩
  · have moved := follows.advance numbered few (fun _ missed => missed)
      (by intro id positive within; omega) whole (by
        intro steps positive within
        rw [still] at positive within
        rw [Nat.zero_add] at within
        exact waits_of_le_length_readyIds positive within)
    rwa [still, Nat.zero_add] at moved
  · intro index item unpassed found known
    have before : passed ≤ index := Nat.le_of_add_right_le unpassed
    have distance := follows.distanceTo_item numbered few found before
    exact (advances.waits_iff item).mpr ⟨gathers.waits before found known, by omega⟩
  · -- If the next item had arrived, it would wait right after the ready ones.
    intro item found known
    have waiting := gathers.waits (Nat.le_add_right _ _) found known
    rw [Waits, Follows.dataId_eq numbered found, Nat.add_assoc, ← SeqId.advance_advance,
      ← follows.cursor, getElem?_after_readyIds follows.orderly] at waiting
    cases waiting

end Gathers

/-! ## Runs -/

/-- What units and events say about a receiver that missed nothing. -/
structure Complete (receiver : Receiver config) (items : List Delivery)
    (units : List WireUnit) (events : List ReceiveEvent) (passed : Nat) : Prop where
  gathers : Gathers receiver items (units.flatMap (·.segments)) passed
  announced : ReceiveEvent.announced events = (copies units).eraseDups
  inOrder : ReceiveEvent.inOrder events = items.take passed
  /-- Delivery in order stops at an item that did not arrive. -/
  stopped : ∀ {item}, items[passed]? = some item → item ∉ copies units

namespace Complete

variable {items : List Delivery} {units : List WireUnit} {events : List ReceiveEvent}
  {passed : Nat}

theorem map_delivery_segments (units : List WireUnit) :
    (units.flatMap (·.segments)).map Segment.delivery = copies units :=
  List.map_flatMap

theorem start (config : Config) (items : List Delivery) :
    Complete (start config) items [] [] 0 where
  gathers := .start config items
  announced := rfl
  inOrder := rfl
  stopped _ member := nomatch member

theorem unit (complete : Complete receiver items units events passed)
    (numbered : Numbered config items) (few : items.length < SeqId.halfSpace)
    (allowed : items.length ≤ config.offsetLimit) {unit : WireUnit}
    (members : ∀ segment ∈ unit.segments, segment.delivery ∈ items) :
    ∃ after, Complete (receiver.ingestUnit unit).1 items (units ++ [unit])
      (events ++ (receiver.ingestUnit unit).2) after := by
  have counted : Gathers receiver.counted items (units.flatMap (·.segments)) passed :=
    ⟨complete.gathers.follows.congr rfl rfl rfl, complete.gathers.waits⟩
  have joined : units.flatMap (·.segments) ++ unit.segments =
      (units ++ [unit]).flatMap (·.segments) := by
    rw [List.flatMap_append, List.flatMap_singleton]
  rcases counted.run_ingest numbered few members with ⟨gathered, outputs⟩
  rw [joined] at gathered outputs
  rw [map_delivery_segments, map_delivery_segments] at outputs
  rcases gathered.deliverReady numbered few allowed with ⟨kept, stopped⟩
  have delivered := gathered.deliverReady_eq numbered few
  have ready : (receiver.gather unit).1.deliverOrdered =
      (receiver.gather unit).1.deliverReady := by
    rw [Receiver.deliverOrdered, gather, gathered.skipTarget?_eq_none numbered few allowed]
  rw [map_delivery_segments] at stopped
  rw [ingestUnit_eq, ready]
  refine ⟨_, kept, ?_, ?_, stopped⟩
  · rw [ReceiveEvent.announced_append, ReceiveEvent.announced_unit, complete.announced]
    exact outputs
  · rw [ReceiveEvent.inOrder_append, ReceiveEvent.inOrder_unit, complete.inOrder, List.take_add]
    exact congrArg _ delivered

theorem run (numbered : Numbered config items) (few : items.length < SeqId.halfSpace)
    (allowed : items.length ≤ config.offsetLimit) {more : List WireUnit}
    (members : ∀ unit ∈ more, ∀ segment ∈ unit.segments, segment.delivery ∈ items)
    (complete : Complete receiver items units events passed) :
    ∃ after, Complete (Transition.run ingestUnit receiver more).1 items (units ++ more)
      (events ++ (Transition.run ingestUnit receiver more).2) after := by
  induction more generalizing receiver units events passed with
  | nil => exact ⟨passed, by simpa using complete⟩
  | cons unit rest ih =>
      rcases List.forall_mem_cons.mp members with ⟨first, later⟩
      rcases complete.unit numbered few allowed first with ⟨next, kept⟩
      rcases ih later kept with ⟨after, final⟩
      rw [List.append_assoc, List.append_assoc] at final
      rw [Transition.run_cons]
      exact ⟨after, final⟩

/-- The items that were passed are those up to the first that did not arrive. -/
theorem take_eq_takeWhile (complete : Complete receiver items units events passed) :
    items.take passed = items.takeWhile (· ∈ copies units) := by
  have passedAll : ∀ item ∈ items.take passed, decide (item ∈ copies units) = true := by
    intro item member
    rcases List.mem_take_iff_getElem.mp member with ⟨index, inside, rfl⟩
    have within := Nat.lt_of_lt_of_le inside (Nat.min_le_left _ _)
    rcases complete.gathers.follows.behind within (List.getElem?_eq_getElem _) with
      known | missed
    · rw [List.mem_eraseDups, map_delivery_segments] at known
      exact decide_eq_true known
    · cases missed
  have rest : (items.drop passed).takeWhile (· ∈ copies units) = [] := by
    cases remaining : items.drop passed with
    | nil => rfl
    | cons item others =>
        have next : items[passed]? = some item := by
          rw [← Nat.add_zero passed, ← List.getElem?_drop, remaining]
          rfl
        rw [List.takeWhile_cons_of_neg]
        simpa using complete.stopped next
  have split : (items.take passed ++ items.drop passed).takeWhile (· ∈ copies units) =
      items.take passed ++ (items.drop passed).takeWhile (· ∈ copies units) :=
    List.takeWhile_append_of_pos passedAll
  rw [List.take_append_drop, rest, List.append_nil] at split
  exact split.symm

theorem waits_iff (complete : Complete receiver items units events passed)
    (numbered : Numbered config items) (few : items.length < SeqId.halfSpace)
    {delivery : Delivery} :
    receiver.Waits delivery ↔ delivery ∈ copies units ∧ delivery ∉ items.take passed := by
  have follows := complete.gathers.follows
  rw [← map_delivery_segments]
  constructor
  · intro waiting
    have known := follows.waiting waiting
    refine ⟨List.mem_eraseDups.mp known, ?_⟩
    intro earlier
    rcases List.mem_take_iff_getElem.mp earlier with ⟨index, inside, same⟩
    have within := Nat.lt_of_lt_of_le inside (Nat.min_le_left _ _)
    have found : items[index]? = some delivery := List.getElem?_eq_some_iff.mpr ⟨_, same⟩
    have unpassed := (follows.isAhead_iff numbered few found).mp
      (follows.orderly.ahead waiting)
    exact Nat.not_lt_of_le unpassed within
  · rintro ⟨known, beyond⟩
    rcases List.mem_iff_getElem?.mp (complete.gathers.arrived_subset known) with ⟨index, found⟩
    rcases Nat.lt_or_ge index passed with within | unpassed
    · rcases List.getElem?_eq_some_iff.mp found with ⟨inside, same⟩
      exact absurd (List.mem_take_iff_getElem.mpr ⟨index, by omega, same⟩) beyond
    · exact complete.gathers.waits unpassed found known

theorem cursor_eq (complete : Complete receiver items units events passed)
    (numbered : Numbered config items) :
    receiver.cursor =
      ((items.take passed).getLast?.map (·.dataId)).getD config.initialDataId.previous := by
  have follows := complete.gathers.follows
  rw [follows.cursor, List.getLast?_take]
  cases passed with
  | zero => exact SeqId.advance_zero _
  | succ passed =>
      have last := List.getElem?_eq_getElem (l := items) follows.passed_le
      rw [if_neg (Nat.succ_ne_zero passed), Nat.add_sub_cancel, last, Option.some_or,
        Option.map_some, Option.getD_some, Follows.dataId_eq numbered last]

end Complete

/-! ## The outcome -/

/-- What a receiver has done with the items that arrived. -/
structure Outcome (receiver : Receiver config) (items arrived : List Delivery)
    (events : List ReceiveEvent) : Prop where
  /-- Each item was announced when it arrived first. -/
  announced : ReceiveEvent.announced events = arrived.eraseDups
  /-- The items up to the first that did not arrive were delivered in order. -/
  inOrder : ReceiveEvent.inOrder events = items.takeWhile (· ∈ arrived)
  cursor : receiver.cursor = ((items.takeWhile (· ∈ arrived)).getLast?.map (·.dataId)).getD
    config.initialDataId.previous
  /-- The others wait, each under its own id. -/
  buffer : ∀ {id delivery}, receiver.buffer[id]? = some delivery ↔
    delivery.dataId = id ∧ delivery ∈ arrived ∧ delivery ∉ items.takeWhile (· ∈ arrived)

theorem Complete.outcome {items : List Delivery} {units : List WireUnit}
    {events : List ReceiveEvent} {passed : Nat}
    (complete : Complete receiver items units events passed)
    (numbered : Numbered config items) (few : items.length < SeqId.halfSpace) :
    Outcome receiver items (copies units) events where
  announced := complete.announced
  inOrder := complete.inOrder.trans complete.take_eq_takeWhile
  cursor := complete.take_eq_takeWhile ▸ complete.cursor_eq numbered
  buffer {id delivery} := by
    rw [← complete.take_eq_takeWhile, ← complete.waits_iff numbered few]
    constructor
    · intro found
      have named := complete.gathers.follows.orderly.named found
      rw [← named] at found
      exact ⟨named, found⟩
    · rintro ⟨rfl, waiting⟩
      exact waiting

theorem outcome_run (config : Config) (payloads : List Payload)
    (few : payloads.length ≤ 32767) (allowed : payloads.length ≤ config.offsetLimit)
    {units : List WireUnit}
    (members : ∀ unit ∈ units, ∀ segment ∈ unit.segments,
      segment.delivery ∈ numberedItems config payloads) :
    Outcome (Transition.run ingestUnit (start config) units).1 (numberedItems config payloads)
      (copies units) (Transition.run ingestUnit (start config) units).2 := by
  have numbered : Numbered config (numberedItems config payloads) :=
    numbered_numberedItems config payloads
  have counted : (numberedItems config payloads).length = payloads.length :=
    List.length_mapIdx
  have short : (numberedItems config payloads).length < SeqId.halfSpace := by
    rw [counted]
    exact Nat.lt_succ_of_le few
  rcases (Complete.start config (numberedItems config payloads)).run numbered short
      (counted ▸ allowed) members with ⟨passed, complete⟩
  exact complete.outcome numbered short

/-- What one receiver does with the items that arrived, another one does with the same items,
apart from the order in which it announces them. -/
theorem Outcome.agree {other : Receiver config} {items arrived more : List Delivery}
    {events others : List ReceiveEvent} (outcome : Outcome receiver items arrived events)
    (another : Outcome other items more others) (same : ∀ item, item ∈ more ↔ item ∈ arrived) :
    other.cursor = receiver.cursor ∧ other.buffer = receiver.buffer ∧
      ReceiveEvent.inOrder others = ReceiveEvent.inOrder events := by
  have front : items.takeWhile (· ∈ more) = items.takeWhile (· ∈ arrived) := by
    simp only [same]
  refine ⟨?_, ?_, ?_⟩
  · rw [another.cursor, outcome.cursor, front]
  · apply Std.ExtTreeMap.ext_getElem?
    intro id
    apply Option.ext
    intro delivery
    rw [another.buffer, outcome.buffer, front, same]
  · rw [another.inOrder, outcome.inOrder, front]

/-- When no more items are under way than the limit on the lag allows, the outcome depends
only on which of them arrived: each was announced when it arrived first, the longest front of
them that arrived was delivered in order, up to which the cursor has moved, and the others
wait.  The order in which they came, their copies and how they were framed leave no trace. -/
theorem outcome_of_arrivals (config : Config) (payloads : List Payload)
    (few : payloads.length ≤ 32767) (allowed : payloads.length ≤ config.offsetLimit)
    {units : List WireUnit}
    (members : ∀ unit ∈ units, ∀ segment ∈ unit.segments,
      segment.delivery ∈ numberedItems config payloads) :
    let reached := Transition.run ingestUnit (start config) units
    Outcome reached.1 (numberedItems config payloads) (copies units) reached.2 ∧
      ∀ others : List WireUnit, (∀ item, item ∈ copies others ↔ item ∈ copies units) →
        (Transition.run ingestUnit (start config) others).1.cursor = reached.1.cursor ∧
          (Transition.run ingestUnit (start config) others).1.buffer = reached.1.buffer ∧
          ReceiveEvent.inOrder (Transition.run ingestUnit (start config) others).2 =
            ReceiveEvent.inOrder reached.2 := by
  have outcome := outcome_run config payloads few allowed members
  refine ⟨outcome, ?_⟩
  intro others same
  have subset : ∀ item ∈ copies units, item ∈ numberedItems config payloads := by
    intro item member
    rcases List.mem_flatMap.mp member with ⟨unit, listed, inside⟩
    rcases List.mem_map.mp inside with ⟨segment, carried, rfl⟩
    exact members unit listed segment carried
  have drawn : ∀ unit ∈ others, ∀ segment ∈ unit.segments,
      segment.delivery ∈ numberedItems config payloads := by
    intro unit listed segment carried
    apply subset
    apply (same _).mp
    exact List.mem_flatMap.mpr ⟨unit, listed, List.mem_map.mpr ⟨segment, carried, rfl⟩⟩
  exact outcome.agree (outcome_run config payloads few allowed drawn) same

/-- A receiver whose first item has the last id before the ids wrap. -/
def wrapping : Config := { offsetLimit := 3, initialDataId := .ofNat 65535 }

/-- A unit with segments. -/
def chain (segments : List Segment) : WireUnit := ⟨⟨.ofNat 0, 0#32⟩, segments⟩

/-- The first of three items. -/
def firstOfThree : Segment := ⟨.ofNat 65535, [.ofNat 4], [1]⟩

/-- The last of three items. -/
def lastOfThree : Segment := ⟨.ofNat 1, [.ofNat 6, .ofNat 8], [3]⟩

theorem outcome_of_arrivals_wrapping :
    let units := [chain [lastOfThree], chain [firstOfThree, lastOfThree]]
    let others := [chain [firstOfThree], chain [lastOfThree]]
    let reached := Transition.run ingestUnit (start wrapping) units
    3 ≤ 32767 ∧ 3 ≤ wrapping.offsetLimit ∧
      (∀ unit ∈ units, ∀ segment ∈ unit.segments,
        segment.delivery ∈ numberedItems wrapping [[1], [2], [3]]) ∧
      Outcome reached.1 (numberedItems wrapping [[1], [2], [3]]) (copies units) reached.2 ∧
      (∀ item, item ∈ copies others ↔ item ∈ copies units) ∧
      (Transition.run ingestUnit (start wrapping) others).1.cursor = reached.1.cursor := by
  have members : ∀ unit ∈ [chain [lastOfThree], chain [firstOfThree, lastOfThree]],
      ∀ segment ∈ unit.segments,
        segment.delivery ∈ numberedItems wrapping [[1], [2], [3]] := by decide
  have same : ∀ item, item ∈ copies [chain [firstOfThree], chain [lastOfThree]] ↔
      item ∈ copies [chain [lastOfThree], chain [firstOfThree, lastOfThree]] := by
    intro item
    simp [copies, chain]
    tauto
  rcases outcome_of_arrivals wrapping [[1], [2], [3]] (by decide) (by decide) members with
    ⟨outcome, agree⟩
  exact ⟨by decide, by decide, members, outcome, same, (agree _ same).1⟩

end Receiver

end ReliableDatagram
