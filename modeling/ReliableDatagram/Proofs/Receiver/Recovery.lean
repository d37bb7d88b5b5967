import ReliableDatagram.Proofs.Receiver.Lag

/-!
# Giving up on gaps

The first item beyond the limit is new to the receiver, so it forces the cursor over the
gap, provided that it lies less than half the space ahead.  With the widest limit that
validation admits it lies exactly half the space ahead: it is dropped, no skip is ever due,
and the cursor waits for the missing item for good (`recovery_run`).
-/

namespace ReliableDatagram

namespace Receiver

variable {config : Config} {receiver : Receiver config}

/-! ## Units of one segment -/

theorem gather_single (receiver : Receiver config) (ack : Acknowledgment) (segment : Segment) :
    receiver.gather ⟨ack, [segment]⟩ = ingest receiver.counted segment := by
  rw [gather, Transition.run_cons, Transition.run_nil, List.append_nil]

theorem Lags.isDuplicate_eq_false (lags : receiver.Lags) {dataId : SeqId}
    (near : receiver.cursor.distanceTo dataId < SeqId.halfSpace)
    (beyond : receiver.lag < receiver.cursor.distanceTo dataId) :
    receiver.isDuplicate dataId = false := by
  refine isDuplicate_eq_false_iff.mpr ⟨⟨Nat.zero_lt_of_lt beyond, near⟩, ?_, ?_⟩
  · cases noted : receiver.items with
    | none => rfl
    | some window =>
        rw [lag_eq_of_noted noted] at beyond
        exact ReceiptWindow.contains_of_beyond near beyond
  · cases found : receiver.buffer[dataId]? with
    | none => rfl
    | some delivery => exact absurd beyond (Nat.not_lt_of_le (lags.within found))

/-- An item beyond the limit is announced, and the cursor moves. -/
theorem Lags.forced (lags : receiver.Lags) (ack : Acknowledgment) (segment : Segment)
    (near : receiver.cursor.distanceTo segment.dataId < SeqId.halfSpace)
    (beyond : receiver.lag < receiver.cursor.distanceTo segment.dataId)
    (far : config.offsetLimit < receiver.cursor.distanceTo segment.dataId) :
    (receiver.ingestUnit ⟨ack, [segment]⟩).2.head? =
        some (.unordered ⟨segment.dataId, segment.payload⟩) ∧
      ∃ steps, 0 < steps ∧ steps ≤ receiver.cursor.distanceTo segment.dataId ∧
        (receiver.ingestUnit ⟨ack, [segment]⟩).1.cursor = receiver.cursor.advance steps := by
  have counted : receiver.counted.Lags := lags.congr rfl rfl rfl
  have fresh : receiver.counted.isDuplicate segment.dataId = false :=
    lags.isDuplicate_eq_false near beyond
  have newest : (Receiver.ingest receiver.counted segment).1.lag =
      max receiver.lag (receiver.cursor.distanceTo segment.dataId) :=
    lag_ingest counted.lag_lt fresh
  have gathered := counted.ingest segment
  have limit := lag_sub_skipped_le gathered.lag_lt
  rcases gathered.advances with ⟨steps, skips, covered, advances⟩
  rw [ingestUnit_eq, gather_single]
  constructor
  · rcases ingest_cases receiver.counted segment with ⟨seen, _⟩ | ⟨_, arrived, _⟩
    · exact absurd (fresh.symm.trans seen) Bool.false_ne_true
    · rw [arrived]
      rfl
  · refine ⟨steps, by omega, by omega, ?_⟩
    rw [advances.cursor, cursor_ingest]
    rfl

/-! ## Waiting for a missing item -/

theorem skipTarget?_eq_none (within : receiver.lag ≤ config.offsetLimit) :
    receiver.skipTarget? = none := by
  cases due : receiver.skipTarget? with
  | none => rfl
  | some target =>
      have exceeds := lag_of_due due
      omega

/-- Without a skip nothing is delivered in order while the next item is missing. -/
theorem deliverOrdered_of_missing (within : receiver.lag ≤ config.offsetLimit)
    (missing : receiver.buffer[receiver.cursor.next]? = none) :
    receiver.deliverOrdered = (receiver, []) := by
  have idle : receiver.readyIds = [] := by
    apply List.eq_nil_of_length_eq_zero
    apply Nat.eq_zero_of_not_pos
    intro some
    rcases waits_of_le_length_readyIds Nat.zero_lt_one some with ⟨delivery, found⟩
    cases missing.symm.trans found
  simp [deliverOrdered, skipTarget?_eq_none within, deliverReady, idle, takeOut]

/-- A unit that holds nothing new leaves the items as they are. -/
theorem Rests.dropped {events : List ReceiveEvent} (rests : Rests receiver events)
    (ack : Acknowledgment) (segment : Segment)
    (seen : receiver.isDuplicate segment.dataId = true) :
    match receiver.ingestUnit ⟨ack, [segment]⟩ with
    | (after, events) => events = [] ∧ after.cursor = receiver.cursor ∧
      after.items = receiver.items ∧ after.buffer = receiver.buffer := by
  rw [ingestUnit_eq, gather_single]
  rcases ingest_cases receiver.counted segment with
    ⟨_, arrived, cursor, items, buffer⟩ | ⟨fresh, _⟩
  · have after := rests.congr cursor items buffer
    rw [deliverOrdered_of_missing after.lag_le after.next_missing, arrived]
    exact ⟨rfl, cursor, items, buffer⟩
  · exact absurd (fresh.symm.trans seen) Bool.false_ne_true

/-! ## Limits out of reach -/

/-- Whether a call brings an item. -/
def Call.Brings (call : Call) (dataId : SeqId) : Prop :=
  ∃ unit, call.unit? = some unit ∧ ∃ segment ∈ unit.segments, segment.dataId = dataId

theorem getElem?_gather {dataId : SeqId} (missing : receiver.buffer[dataId]? = none)
    (unit : WireUnit) (absent : ∀ segment ∈ unit.segments, segment.dataId ≠ dataId) :
    (receiver.gather unit).1.buffer[dataId]? = none := by
  suffices kept : ∀ (segments : List Segment) (before : Receiver config),
      before.buffer[dataId]? = none → (∀ segment ∈ segments, segment.dataId ≠ dataId) →
        (Transition.run ingest before segments).1.buffer[dataId]? = none from
    kept unit.segments receiver.counted missing absent
  intro segments
  induction segments with
  | nil => exact fun before missing _ => missing
  | cons segment rest ih =>
      intro before missing absent
      rw [Transition.run_cons]
      apply ih
      · rcases ingest_cases before segment with ⟨_, _, _, _, buffer⟩ | ⟨_, _, _, _, buffer⟩
        · rw [buffer]
          exact missing
        · have other := (absent segment List.mem_cons_self).symm
          rw [buffer, SeqMap.getElem?_insert, if_neg other]
          exact missing
      · exact fun other member => absent other (List.mem_cons_of_mem _ member)

/-- What holds of a receiver that waits for its next item at a place. -/
structure Waiting (receiver : Receiver config) (place : SeqId) : Prop where
  lags : receiver.Lags
  cursor : receiver.cursor = place
  missing : receiver.buffer[place.next]? = none

namespace Waiting

variable {place : SeqId}

theorem congr {other : Receiver config} (waiting : receiver.Waiting place)
    (cursor : other.cursor = receiver.cursor) (items : other.items = receiver.items)
    (buffer : other.buffer = receiver.buffer) : other.Waiting place where
  lags := waiting.lags.congr cursor items buffer
  cursor := cursor.trans waiting.cursor
  missing := by
    rw [buffer]
    exact waiting.missing

/-- A limit that no item exceeds gives nothing up. -/
theorem ingestUnit (wide : SeqId.halfSpace ≤ config.offsetLimit + 1)
    (waiting : receiver.Waiting place) (unit : WireUnit)
    (absent : ∀ segment ∈ unit.segments, segment.dataId ≠ place.next) :
    (receiver.ingestUnit unit).1.Waiting place := by
  have lags := waiting.lags.gather unit
  have cursor : (receiver.gather unit).1.cursor = place :=
    (cursor_run_ingest receiver.counted unit.segments).trans waiting.cursor
  have missing := getElem?_gather waiting.missing unit absent
  have within : (receiver.gather unit).1.lag ≤ config.offsetLimit := by
    have near := lags.lag_lt
    omega
  have same : (receiver.ingestUnit unit).1 = (receiver.gather unit).1 := by
    rw [ingestUnit_eq, deliverOrdered_of_missing within (by rw [cursor]; exact missing)]
  rw [same]
  exact ⟨lags, cursor, missing⟩

theorem step (wide : SeqId.halfSpace ≤ config.offsetLimit + 1)
    (waiting : receiver.Waiting place) (call : Call) (absent : ¬ call.Brings place.next) :
    (Receiver.step receiver call).1.Waiting place := by
  rcases step_cases receiver call with ⟨unit, brought, taken⟩ | ⟨_, due, malformed, idle⟩
  · rw [taken]
    apply waiting.ingestUnit wide
    exact fun segment member same => absent ⟨unit, brought, segment, member, same⟩
  · rw [idle]
    exact waiting.congr rfl rfl rfl

theorem run (wide : SeqId.halfSpace ≤ config.offsetLimit + 1)
    (waiting : receiver.Waiting place) (calls : List Call)
    (absent : ∀ call ∈ calls, ¬ call.Brings place.next) :
    (Transition.run Receiver.step receiver calls).1.Waiting place := by
  induction calls generalizing receiver with
  | nil => exact waiting
  | cons call rest ih =>
      rw [Transition.run_cons]
      apply ih (waiting.step wide call (absent call List.mem_cons_self))
      exact fun other member => absent other (List.mem_cons_of_mem _ member)

end Waiting

/-! ## The first item beyond the limit -/

/-- In every state that calls lead to, the first item beyond the limit is announced and
forces the cursor forward, unless the limit is the widest one that validation admits.  Then
that item is dropped, and no calls ever move the cursor but those that bring the missing
item. -/
theorem recovery_run (valid : config.Valid) (calls : List Call) (ack : Acknowledgment)
    (ids : List SeqId) (payload : Payload) :
    let receiver := (Transition.run step (start config) calls).1
    let beyond := receiver.cursor.advance (config.offsetLimit + 1)
    match receiver.ingestUnit ⟨ack, [⟨beyond, ids, payload⟩]⟩ with
    | (after, events) =>
        if config.offsetLimit + 1 < SeqId.halfSpace then
          events.head? = some (.unordered ⟨beyond, payload⟩) ∧
            ∃ steps, 0 < steps ∧ steps ≤ config.offsetLimit + 1 ∧
              after.cursor = receiver.cursor.advance steps
        else
          events = [] ∧ after.cursor = receiver.cursor ∧ after.items = receiver.items ∧
            after.buffer = receiver.buffer ∧
            ∀ more : List Call, (∀ call ∈ more, ¬ call.Brings receiver.cursor.next) →
              (Transition.run step after more).1.cursor = receiver.cursor := by
  intro receiver beyond
  have rests : Rests receiver (Transition.run step (start config) calls).2 :=
    Rests.run config calls
  have limit := valid.offsetLimit_lt
  have away : receiver.cursor.distanceTo beyond = config.offsetLimit + 1 := by
    apply SeqId.distanceTo_advance_of_lt
    simp only [SeqId.halfSpace, SeqId.space] at *
    omega
  have lag := rests.lag_le
  split
  next after events reached =>
  split
  · next near =>
    have forced := rests.lags.forced ack ⟨beyond, ids, payload⟩
      (by rw [away]; exact near) (by rw [away]; omega) (by rw [away]; omega)
    rw [reached, away] at forced
    exact forced
  · next half =>
    have seen : receiver.isDuplicate beyond = true := by
      rw [← Bool.not_eq_false, isDuplicate_eq_false_iff, IsAhead, away]
      omega
    have dropped := rests.dropped ack ⟨beyond, ids, payload⟩ seen
    rw [reached] at dropped
    rcases dropped with ⟨silent, cursor, items, buffer⟩
    refine ⟨silent, cursor, items, buffer, ?_⟩
    intro more absent
    have waiting : receiver.Waiting receiver.cursor := ⟨rests.lags, rfl, rests.next_missing⟩
    exact ((waiting.congr cursor items buffer).run (by omega) more absent).cursor

theorem recovery_run_after_gap :
    let config : Config := { offsetLimit := 3 }
    let calls : List Call := [.unit ⟨⟨.ofNat 0, 0#32⟩, [⟨.ofNat 1, [.ofNat 1], [7]⟩]⟩]
    let receiver := (Transition.run step (start config) calls).1
    let beyond := receiver.cursor.advance 4
    let (after, events) := receiver.ingestUnit ⟨⟨.ofNat 0, 0#32⟩, [⟨beyond, [.ofNat 2], [9]⟩]⟩
    config.Valid ∧ events.head? = some (.unordered ⟨beyond, [9]⟩) ∧
      ∃ steps, 0 < steps ∧ steps ≤ 4 ∧ after.cursor = receiver.cursor.advance steps := by
  have valid : Config.Valid { offsetLimit := 3 } := Config.fault?_eq_none_iff.mp (by decide)
  exact ⟨valid, recovery_run valid
    [.unit ⟨⟨.ofNat 0, 0#32⟩, [⟨.ofNat 1, [.ofNat 1], [7]⟩]⟩] ⟨.ofNat 0, 0#32⟩ [.ofNat 2] [9]⟩

/-- Validation admits a limit whose first item beyond it is dropped. -/
theorem dropped_beyond_widest_limit :
    let config : Config := { offsetLimit := 32767 }
    let receiver := start config
    let beyond := receiver.cursor.advance (config.offsetLimit + 1)
    let (after, events) := receiver.ingestUnit ⟨⟨.ofNat 0, 0#32⟩, [⟨beyond, [.ofNat 0], [1]⟩]⟩
    config.validate = .ok () ∧ beyond = .ofNat 32767 ∧ events = [] ∧
      after.cursor = receiver.cursor := by
  decide

end Receiver

end ReliableDatagram
