import ReliableDatagram.Proofs.Receiver.Accounting
import ReliableDatagram.Proofs.Receiver.Lag

/-!
# The effect of a unit

Between calls, what the window of items remembers lies behind the cursor or waits in the
buffer (`Remembers`), for the window is far shorter than half the space, and what it
remembers never comes to lie ahead again.  So the window never decides what is new: that is
what lies ahead of the cursor and does not wait (`Remembers.isDuplicate_eq_false_iff`).

With the new items the whole effect of a unit is a function of distances from the cursor.
The cursor passes what the limit demands and the consecutive items that follow, what waited
up to there is delivered in order, and the rest waits on (`effect_ingestUnit`).
-/

namespace ReliableDatagram

namespace Receiver

variable {config : Config} {receiver : Receiver config}

/-! ## What the window remembers -/

/-- What the window of items remembers does not lie ahead of the cursor, or it waits. -/
structure Remembers (receiver : Receiver config) : Prop where
  lags : receiver.Lags
  waiting : ∀ {window : ReceiptWindow} {id : SeqId}, receiver.items = some window →
    id ∈ window.observed → receiver.IsAhead id → ∃ delivery, receiver.buffer[id]? = some delivery

theorem remembers_start (config : Config) : (start config).Remembers where
  lags := lags_start config
  waiting {window id} noted := by cases noted

namespace Remembers

theorem congr {other : Receiver config} (remembers : receiver.Remembers)
    (cursor : other.cursor = receiver.cursor) (items : other.items = receiver.items)
    (buffer : other.buffer = receiver.buffer) : other.Remembers where
  lags := remembers.lags.congr cursor items buffer
  waiting {window id} noted member ahead := by
    rw [IsAhead, cursor] at ahead
    rw [buffer]
    exact remembers.waiting (items ▸ noted) member ahead

/-- The window does not decide what is new. -/
theorem isDuplicate_eq_false_iff (remembers : receiver.Remembers) {dataId : SeqId} :
    receiver.isDuplicate dataId = false ↔
      receiver.IsAhead dataId ∧ receiver.buffer[dataId]? = none := by
  rw [Receiver.isDuplicate_eq_false_iff]
  constructor
  · intro fresh
    exact ⟨fresh.1, fresh.2.2⟩
  · intro condition
    rcases condition with ⟨ahead, absent⟩
    refine ⟨ahead, ?_, absent⟩
    cases noted : receiver.items with
    | none => rfl
    | some window =>
        refine Bool.eq_false_iff.mpr fun contained => ?_
        rcases remembers.waiting noted (ReceiptWindow.mem_observed_of_contains contained) ahead
          with ⟨delivery, found⟩
        cases absent.symm.trans found

theorem ingest (remembers : receiver.Remembers) (segment : Segment) :
    (ingest receiver segment).1.Remembers := by
  rcases ingest_cases receiver segment with
    ⟨_, _, cursor, items, buffer⟩ | ⟨_, _, cursor, items, buffer⟩
  · exact remembers.congr cursor items buffer
  · refine ⟨remembers.lags.ingest segment, ?_⟩
    intro window id noted member ahead
    rw [buffer, SeqMap.getElem?_insert]
    split
    · exact ⟨_, rfl⟩
    · next other =>
      rw [items] at noted
      rw [IsAhead, cursor] at ahead
      cases before : receiver.items with
      | none =>
          rw [before] at noted
          rw [← Option.some.inj noted] at member
          exact absurd (ReceiptWindow.mem_observed_anchoredAt member) other
      | some known =>
          rw [before] at noted
          rw [← Option.some.inj noted] at member
          rcases ReceiptWindow.mem_observed_mark member with marked | earlier
          · exact absurd marked other
          · exact remembers.waiting before earlier ahead

theorem gather (remembers : receiver.Remembers) (unit : WireUnit) :
    (receiver.gather unit).1.Remembers :=
  Transition.run_preserves Receiver.ingest Remembers
    (fun _ segment remembers => remembers.ingest segment) receiver.counted unit.segments
    (remembers.congr rfl rfl rfl)

/-- The window is short, so nothing that it remembers comes to lie ahead again when the
cursor moves towards its anchor. -/
theorem advance {after : Receiver config} {steps : Nat} {delivered : List Delivery}
    (remembers : receiver.Remembers) (advances : Advances receiver steps after delivered)
    (within : steps ≤ receiver.lag) (lags : after.Lags) : after.Remembers := by
  refine ⟨lags, ?_⟩
  intro window id noted member ahead
  have before := advances.items.symm.trans noted
  have near := remembers.lags.lag_lt
  have span := advances.distanceTo_eq id
  rw [lag_eq_of_noted before] at within near
  rcases ReceiptWindow.mem_observed.mp member with ⟨offset, inside, _, place⟩
  have back : id.distanceTo window.anchor = offset := by
    have reached : id.advance offset = window.anchor := place ▸ SeqId.retreat_advance _ offset
    rw [← reached, SeqId.distanceTo_advance_of_lt _ (Nat.lt_trans inside (by decide))]
  have whole := SeqId.distanceTo_trans receiver.cursor id window.anchor
  have short := SeqId.distanceTo_lt receiver.cursor id
  rw [IsAhead] at ahead
  have farther : steps < receiver.cursor.distanceTo id ∧ receiver.IsAhead id := by
    rw [IsAhead]
    simp only [SeqId.space, SeqId.halfSpace, ReceiptWindow.capacity] at *
    omega
  rw [advances.buffer, if_neg (Nat.not_le_of_lt farther.1)]
  exact remembers.waiting before member farther.2

theorem ingestUnit (remembers : receiver.Remembers) (unit : WireUnit) :
    (receiver.ingestUnit unit).1.Remembers := by
  have gathered := remembers.gather unit
  rcases gathered.lags.advances with ⟨steps, _, within, advances⟩
  rw [ingestUnit_eq]
  exact gathered.advance advances within gathered.lags.deliverOrdered.1

theorem step (remembers : receiver.Remembers) (call : Call) :
    (step receiver call).1.Remembers := by
  rcases step_cases receiver call with ⟨unit, _, taken⟩ | ⟨_, due, malformed, idle⟩
  · rw [taken]
    exact remembers.ingestUnit unit
  · rw [idle]
    exact remembers.congr rfl rfl rfl

theorem run (config : Config) (calls : List Call) :
    (Transition.run Receiver.step (start config) calls).1.Remembers :=
  Transition.run_preserves Receiver.step Remembers (fun _ call remembers => remembers.step call)
    (start config) calls (remembers_start config)

end Remembers

/-! ## New items -/

/-- The new items among some segments: each lies ahead of the cursor, does not wait, and
was not new already. -/
def newItems (receiver : Receiver config) : List SeqId → List Segment → List Delivery
  | _, [] => []
  | earlier, segment :: rest =>
      if 0 < receiver.cursor.distanceTo segment.dataId ∧
          receiver.cursor.distanceTo segment.dataId < SeqId.halfSpace ∧
          receiver.buffer[segment.dataId]? = none ∧ segment.dataId ∉ earlier then
        ⟨segment.dataId, segment.payload⟩ ::
          receiver.newItems (earlier ++ [segment.dataId]) rest
      else receiver.newItems earlier rest

/-- The items that wait, in any order. -/
def waiting (receiver : Receiver config) : List Delivery :=
  receiver.buffer.toList.map Prod.snd

theorem outputs_run_ingest {before : Receiver config} (remembers : before.Remembers)
    {earlier : List SeqId} (cursor : before.cursor = receiver.cursor)
    (vacant : ∀ id, before.buffer[id]? = none ↔
      receiver.buffer[id]? = none ∧ id ∉ earlier) (segments : List Segment) :
    (Transition.run ingest before segments).2 = receiver.newItems earlier segments := by
  induction segments generalizing before earlier with
  | nil => rfl
  | cons segment rest ih =>
      have fresh : before.isDuplicate segment.dataId = false ↔ _ :=
        remembers.isDuplicate_eq_false_iff
      rw [IsAhead, cursor, vacant, and_assoc] at fresh
      rw [Transition.run_cons, newItems]
      rcases ingest_cases before segment with
        ⟨seen, arrived, still, _, buffer⟩ | ⟨new, arrived, still, _, buffer⟩
      · rw [if_neg fun condition => Bool.false_ne_true ((fresh.mpr condition).symm.trans seen),
          arrived]
        exact ih (remembers.ingest segment) (still.trans cursor)
          fun id => buffer ▸ vacant id
      · rw [if_pos (fresh.mp new), arrived]
        refine congrArg _ (ih (remembers.ingest segment) (still.trans cursor) ?_)
        intro id
        rw [buffer, SeqMap.getElem?_insert, List.mem_append, List.mem_singleton, not_or,
          ← and_assoc, ← vacant]
        split
        · next same => simp [same]
        · next other => simp [other]

/-- A list of all that waits. -/
structure Holds (receiver : Receiver config) (held : List Delivery) : Prop where
  distinct : (held.map Delivery.dataId).Nodup
  waits_iff : ∀ {delivery}, delivery ∈ held ↔ receiver.Waits delivery

theorem holds_waiting (orderly : receiver.Orderly) : Holds receiver receiver.waiting where
  distinct := by
    have named : receiver.waiting.map Delivery.dataId = receiver.buffer.keys := by
      rw [waiting, List.map_map, ← Std.ExtTreeMap.map_fst_toList_eq_keys]
      apply List.map_congr_left
      intro entry member
      exact orderly.named (Std.ExtTreeMap.mem_toList_iff_getElem?_eq_some.mp member)
    rw [named]
    exact Std.ExtTreeMap.nodup_keys
  waits_iff {delivery} := by
    rw [waiting, List.mem_map]
    constructor
    · intro condition
      rcases condition with ⟨⟨id, stored⟩, member, rfl⟩
      have found := Std.ExtTreeMap.mem_toList_iff_getElem?_eq_some.mp member
      have named := orderly.named found
      subst named
      exact found
    · intro waits
      exact ⟨(delivery.dataId, delivery),
        Std.ExtTreeMap.mem_toList_iff_getElem?_eq_some.mpr waits, rfl⟩

namespace Holds

variable {held : List Delivery}

theorem ingest (holds : Holds receiver held) (segment : Segment) :
    Holds (ingest receiver segment).1 (held ++ (ingest receiver segment).2) := by
  rcases ingest_cases receiver segment with
    ⟨_, arrived, _, _, buffer⟩ | ⟨fresh, arrived, _, _, buffer⟩
  · rw [arrived, List.append_nil]
    refine ⟨holds.distinct, ?_⟩
    intro delivery
    rw [Waits, buffer]
    exact holds.waits_iff
  · have absent := (Receiver.isDuplicate_eq_false_iff.mp fresh).2.2
    rw [arrived]
    constructor
    · rw [List.map_append]
      apply holds.distinct.append (List.nodup_singleton _)
      apply List.disjoint_singleton.mpr
      intro taken
      rcases List.mem_map.mp taken with ⟨other, member, same⟩
      have waits := holds.waits_iff.mp member
      rw [Waits, same] at waits
      cases absent.symm.trans waits
    · intro delivery
      rw [List.mem_append, List.mem_singleton, holds.waits_iff]
      exact (waits_insert_iff _ absent buffer).symm

theorem gather (holds : Holds receiver held) (unit : WireUnit) :
    Holds (receiver.gather unit).1 (held ++ (receiver.gather unit).2) := by
  have initial : Holds receiver.counted held := ⟨holds.distinct, holds.waits_iff⟩
  exact Transition.run_keeps Holds (fun segment holds => holds.ingest segment) unit.segments
    initial

theorem nodup_distances (holds : Holds receiver held) :
    (held.map fun delivery => receiver.cursor.distanceTo delivery.dataId).Nodup := by
  have apart := holds.distinct.map (f := receiver.cursor.distanceTo)
    fun _ _ => SeqId.distanceTo_injective
  rwa [List.map_map] at apart

/-- What is delivered is what is held within the way of the cursor. -/
theorem length_delivered {after : Receiver config} {steps : Nat} {delivered : List Delivery}
    (holds : Holds receiver held) (advances : Advances receiver steps after delivered) :
    delivered.length =
      held.countP fun delivery => receiver.cursor.distanceTo delivery.dataId ≤ steps := by
  rw [List.countP_eq_length_filter]
  apply List.Perm.length_eq
  refine (List.perm_ext_iff_of_nodup advances.nodup_delivered.of_map
    (holds.distinct.of_map.filter _)).mpr ?_
  intro delivery
  rw [advances.mem_delivered, List.mem_filter, holds.waits_iff, decide_eq_true_eq]

end Holds

/-! ## What is skipped -/

/-- A skip leads just as far as the limit demands. -/
theorem skipped_eq (near : receiver.lag < SeqId.halfSpace) :
    receiver.skipped = receiver.lag - config.offsetLimit := by
  have limit := lag_sub_skipped_le near
  cases due : receiver.skipTarget? with
  | none =>
      have none : receiver.skipped = 0 := by simp [skipped, due]
      omega
  | some target =>
      have span := (lag_of_due due).2
      omega

/-- Of what a skip passes, all that is not held is given up on. -/
theorem Holds.skipped_deliverOrdered {held : List Delivery} (holds : Holds receiver held)
    (orderly : receiver.Orderly) :
    receiver.deliverOrdered.1.counters.skipped +
        (held.countP fun delivery =>
          receiver.cursor.distanceTo delivery.dataId ≤ receiver.skipped) =
      receiver.counters.skipped + receiver.skipped := by
  cases due : receiver.skipTarget? with
  | none =>
      have none : receiver.skipped = 0 := by simp [skipped, due]
      have ahead : (held.countP fun delivery =>
          receiver.cursor.distanceTo delivery.dataId ≤ 0) = 0 := by
        rw [List.countP_eq_zero]
        intro delivery member
        have positive := (orderly.ahead (holds.waits_iff.mp member)).1
        simpa using Nat.ne_of_gt positive
      rw [none, ahead]
      simp only [deliverOrdered, due]
      rfl
  | some target =>
      have ahead := (skipTarget?_eq_some due).1
      have first := skipTo_advances orderly ahead
      have passed : receiver.skipped = receiver.cursor.distanceTo target := by
        simp [skipped, due]
      have fits := first.length_le orderly
      have counted : (receiver.skipTo target).1.deliverReady.1.counters.skipped =
          receiver.counters.skipped +
            (receiver.cursor.distanceTo target - (receiver.skipTo target).2.length) :=
        congrArg ReceiverCounters.skipped (counters_skipTo ahead)
      rw [passed, ← holds.length_delivered first]
      simp only [deliverOrdered, due]
      omega

/-! ## What is settled -/

/-- What becomes of the items held, by their distances from the cursor.  The cursor passes
what the skip demands, and from there all that is held without a gap. -/
structure Settles (before : Receiver config) (held : List Delivery) (skip reach : Nat)
    (after : Receiver config) (delivered : List Delivery) : Prop where
  skip_le : skip ≤ reach
  consecutive : ∀ {steps}, skip < steps → steps ≤ reach →
    ∃ delivery ∈ held, before.cursor.distanceTo delivery.dataId = steps
  gap : ∀ {delivery}, delivery ∈ held →
    before.cursor.distanceTo delivery.dataId ≠ reach + 1
  cursor : after.cursor = before.cursor.advance reach
  /-- What is held up to there is delivered, nearest first. -/
  mem_delivered : ∀ {delivery}, delivery ∈ delivered ↔
    delivery ∈ held ∧ before.cursor.distanceTo delivery.dataId ≤ reach
  ordered : delivered.Pairwise fun left right =>
    before.cursor.distanceTo left.dataId < before.cursor.distanceTo right.dataId
  /-- The rest waits under its own ids, and nothing else does. -/
  buffer : ∀ {id delivery}, after.buffer[id]? = some delivery ↔
    delivery.dataId = id ∧ delivery ∈ held ∧ reach < before.cursor.distanceTo delivery.dataId
  /-- What the skip passes and is not held is given up on. -/
  skipped : after.counters.skipped +
      (held.countP fun delivery => before.cursor.distanceTo delivery.dataId ≤ skip) =
    before.counters.skipped + skip

theorem Lags.settles (lags : receiver.Lags) {held : List Delivery}
    (holds : Holds receiver held) :
    ∃ reach, Settles receiver held (receiver.lag - config.offsetLimit) reach
      receiver.deliverOrdered.1 receiver.deliverOrdered.2 := by
  have orderly := lags.orderly
  rcases deliverOrdered_advances orderly with ⟨ready, advances, consecutive⟩
  have far : receiver.skipped + ready + 1 < SeqId.space :=
    Nat.lt_of_le_of_lt advances.steps_lt (by decide)
  rw [← skipped_eq lags.lag_lt]
  refine ⟨receiver.skipped + ready, Nat.le_add_right _ _, ?_, ?_, advances.cursor, ?_,
    advances.ordered, ?_, holds.skipped_deliverOrdered orderly⟩
  · intro steps beyond within
    rcases consecutive steps beyond within with ⟨delivery, found⟩
    have named := orderly.named found
    rw [← named] at found
    refine ⟨delivery, holds.waits_iff.mpr found, ?_⟩
    rw [named, SeqId.distanceTo_advance_of_lt _ (Nat.lt_trans (Nat.lt_succ_of_le within) far)]
  · -- The id after the last that was passed does not wait, so it was not held either.
    intro delivery member next
    have missing := getElem?_next_deliverOrdered orderly
    have waits := holds.waits_iff.mp member
    have here : delivery.dataId = receiver.deliverOrdered.1.cursor.next := by
      rw [advances.cursor, SeqId.next, SeqId.advance_advance, ← next,
        SeqId.advance_distanceTo]
    rw [← here, advances.buffer, if_neg (by omega)] at missing
    cases missing.symm.trans waits
  · intro delivery
    rw [holds.waits_iff]
    exact advances.mem_delivered
  · intro id delivery
    rw [holds.waits_iff, ← advances.waits_iff]
    have kept := advances.orderly orderly
    constructor
    · intro found
      have named := kept.named found
      subst named
      exact ⟨rfl, found⟩
    · intro condition
      rcases condition with ⟨rfl, waits⟩
      exact waits

/-- What is settled depends on the cursor and on what was given up on before. -/
theorem Settles.congr {other after : Receiver config} {held delivered : List Delivery}
    {skip reach : Nat} (settles : Settles receiver held skip reach after delivered)
    (cursor : receiver.cursor = other.cursor)
    (skipped : receiver.counters.skipped = other.counters.skipped) :
    Settles other held skip reach after delivered where
  skip_le := settles.skip_le
  consecutive := cursor ▸ settles.consecutive
  gap := cursor ▸ settles.gap
  cursor := cursor ▸ settles.cursor
  mem_delivered := cursor ▸ settles.mem_delivered
  ordered := cursor ▸ settles.ordered
  buffer := cursor ▸ settles.buffer
  skipped := cursor ▸ skipped ▸ settles.skipped

/-! ## Units -/

theorem outputs_gather (remembers : receiver.Remembers) (unit : WireUnit) :
    (receiver.gather unit).2 = receiver.newItems [] unit.segments := by
  have counted : receiver.counted.Remembers := remembers.congr rfl rfl rfl
  have cursor : receiver.counted.cursor = receiver.cursor := rfl
  have vacant : ∀ id, receiver.counted.buffer[id]? = none ↔
      receiver.buffer[id]? = none ∧ id ∉ ([] : List SeqId) :=
    fun id => (and_iff_left List.not_mem_nil).symm
  exact outputs_run_ingest counted cursor vacant unit.segments

theorem skipped_gather (receiver : Receiver config) (unit : WireUnit) :
    (receiver.gather unit).1.counters.skipped = receiver.counters.skipped := by
  apply Transition.run_preserves ingest
    fun after => after.counters.skipped = receiver.counters.skipped
  · intro before segment same
    cases seen : before.isDuplicate segment.dataId with
    | true =>
        rw [counters_ingest_of_duplicate seen]
        exact same
    | false =>
        rw [counters_ingest_of_new seen]
        exact same
  · rfl

/-- In every state that calls lead to, the effect of a unit is given by distances from the
cursor.  Its new items are those ahead that do not wait, whatever the window remembers.
They are announced as they come and are held with what waited.  Then what is held is
settled, where the skip is by how much the newest item lies beyond the limit. -/
theorem effect_ingestUnit (config : Config) (calls : List Call) (unit : WireUnit) :
    match Transition.run step (start config) calls with
    | (receiver, _) =>
        let arrived := receiver.newItems [] unit.segments
        let held := receiver.waiting ++ arrived
        match receiver.ingestUnit unit with
        | (after, events) =>
            let newest := (after.highestDataId.map receiver.cursor.distanceTo).getD 0
            (held.map fun delivery => receiver.cursor.distanceTo delivery.dataId).Nodup ∧
              ∃ (reach : Nat) (delivered : List Delivery),
                events = arrived.map .unordered ++ delivered.map .ordered ∧
                  Settles receiver held (newest - config.offsetLimit) reach after delivered := by
  have remembers := Remembers.run config calls
  generalize Transition.run step (start config) calls = reached at remembers ⊢
  rcases reached with ⟨receiver, events⟩
  change receiver.Remembers at remembers
  have gathered := remembers.gather unit
  have announced := outputs_gather remembers unit
  have still : (receiver.gather unit).1.cursor = receiver.cursor :=
    cursor_run_ingest receiver.counted unit.segments
  have holds := (holds_waiting remembers.lags.orderly).gather unit
  rw [announced] at holds
  have apart := holds.nodup_distances
  rw [still] at apart
  rcases gathered.lags.settles holds with ⟨reach, settles⟩
  have settled := settles.congr still (skipped_gather receiver unit)
  have newest : (receiver.gather unit).1.lag =
      ((receiver.gather unit).1.deliverOrdered.1.highestDataId.map
        receiver.cursor.distanceTo).getD 0 := by
    rcases deliverOrdered_advances gathered.lags.orderly with ⟨_, advances, _⟩
    rw [lag, highestDataId, highestDataId, advances.items, still]
  rw [newest] at settled
  simp only [ingestUnit_eq, announced]
  exact ⟨apart, reach, _, rfl, settled⟩

end Receiver

end ReliableDatagram
