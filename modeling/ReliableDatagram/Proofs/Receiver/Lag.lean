import ReliableDatagram.Proofs.Receiver.Reporting
import ReliableDatagram.Proofs.Transition

/-!
# The lag of delivery in order

Seen from the cursor, the window of items is anchored at the farthest item that arrived
(`lag_ingest`).  So nothing waits beyond the anchor, and a skip that is due leaves exactly
the limit between cursor and anchor.  Whatever calls come, delivery in order lags behind
the newest item by no more than the limit, and what waits has its place in between
(`lag_run`).
-/

namespace ReliableDatagram

namespace SeqId

/-- Ids less than half the space ahead of the same id differ by their distances from it. -/
theorem diff_of_near {origin newer older : SeqId}
    (newerNear : origin.distanceTo newer < halfSpace)
    (olderNear : origin.distanceTo older < halfSpace) :
    newer.diff older = (origin.distanceTo newer : Int) - origin.distanceTo older := by
  have originLt := origin.toNat_lt
  have newerLt := newer.toNat_lt
  have olderLt := older.toNat_lt
  have newerSpan := distanceTo_eq origin newer
  have olderSpan := distanceTo_eq origin older
  simp only [diff, Int.bmod_def, space, halfSpace] at *
  omega

end SeqId

namespace ReceiptWindow

variable {window : ReceiptWindow} {origin id : SeqId}

/-- Of ids less than half the space ahead of the same id, the farthest is the anchor. -/
theorem distanceTo_anchor_mark (anchorNear : origin.distanceTo window.anchor < SeqId.halfSpace)
    (near : origin.distanceTo id < SeqId.halfSpace) :
    origin.distanceTo (window.mark id).anchor =
      max (origin.distanceTo window.anchor) (origin.distanceTo id) := by
  have offset : window.offsetOf id =
      (origin.distanceTo window.anchor : Int) - origin.distanceTo id :=
    SeqId.diff_of_near anchorNear near
  have ordered : ¬ (window.anchor.compare id).isNone := by
    have whole := SeqId.distanceTo_trans origin window.anchor id
    have apart := SeqId.distanceTo_lt window.anchor id
    rw [SeqId.compare_isNone_iff]
    simp only [SeqId.space, SeqId.halfSpace] at *
    omega
  rw [mark, if_neg ordered]
  cases sign : window.offsetOf id with
  | ofNat older =>
      rw [sign, Int.ofNat_eq_natCast] at offset
      have kept : (window.set (.ofNat older) true).anchor = window.anchor := rfl
      rw [kept]
      exact (Nat.max_eq_left (by omega)).symm
  | negSucc ahead =>
      have newest : (window.set (.negSucc ahead) true).anchor = id := advance_offsetOf sign
      rw [sign, Int.negSucc_eq] at offset
      rw [newest]
      exact (Nat.max_eq_right (by omega)).symm

theorem contains_of_beyond (near : origin.distanceTo id < SeqId.halfSpace)
    (beyond : origin.distanceTo window.anchor < origin.distanceTo id) :
    window.contains id = false := by
  have offset : window.offsetOf id =
      (origin.distanceTo window.anchor : Int) - origin.distanceTo id :=
    SeqId.diff_of_near (Nat.lt_trans beyond near) near
  have uncovered : ¬ 0 ≤ window.offsetOf id := by omega
  rw [contains, covers, decide_eq_false uncovered, Bool.false_and, Bool.false_and]

end ReceiptWindow

namespace Receiver

variable {config : Config} {receiver : Receiver config}

/-! ## The newest item -/

/-- How far ahead of the cursor the newest item lies. -/
def lag (receiver : Receiver config) : Nat :=
  (receiver.highestDataId.map receiver.cursor.distanceTo).getD 0

theorem lag_eq_of_highest {highest : SeqId} (newest : receiver.highestDataId = some highest) :
    receiver.lag = receiver.cursor.distanceTo highest := by
  rw [lag, newest]
  rfl

theorem lag_eq_of_noted {window : ReceiptWindow} (noted : receiver.items = some window) :
    receiver.lag = receiver.cursor.distanceTo window.anchor := by
  apply lag_eq_of_highest
  rw [highestDataId, noted, Option.map_some]

theorem lag_eq_zero (unseen : receiver.items = none) : receiver.lag = 0 := by
  rw [lag, highestDataId, unseen]
  rfl

/-- Every item waits under its own id, ahead of the cursor and not beyond the newest item,
which lies less than half the space ahead. -/
structure Lags (receiver : Receiver config) : Prop where
  orderly : receiver.Orderly
  lag_lt : receiver.lag < SeqId.halfSpace
  within : ∀ {id : SeqId} {delivery : Delivery},
    receiver.buffer[id]? = some delivery → receiver.cursor.distanceTo id ≤ receiver.lag

theorem lags_start (config : Config) : (start config).Lags where
  orderly := orderly_start config
  lag_lt := by
    rw [lag_eq_zero rfl]
    decide
  within {id delivery} found := by simp [start] at found

theorem lag_congr {other : Receiver config} (cursor : other.cursor = receiver.cursor)
    (items : other.items = receiver.items) : other.lag = receiver.lag := by
  rw [lag, lag, highestDataId, highestDataId, cursor, items]

theorem Lags.congr {other : Receiver config} (lags : receiver.Lags)
    (cursor : other.cursor = receiver.cursor) (items : other.items = receiver.items)
    (buffer : other.buffer = receiver.buffer) : other.Lags where
  orderly := lags.orderly.congr cursor buffer
  lag_lt := by
    rw [lag_congr cursor items]
    exact lags.lag_lt
  within {id delivery} found := by
    rw [buffer] at found
    rw [cursor, lag_congr cursor items]
    exact lags.within found

theorem Lags.getElem?_eq_none (lags : receiver.Lags) (unseen : receiver.items = none)
    (id : SeqId) : receiver.buffer[id]? = none := by
  cases found : receiver.buffer[id]? with
  | none => rfl
  | some delivery =>
      have close := lags.within found
      have ahead := (lags.orderly.ahead found).1
      rw [lag_eq_zero unseen] at close
      omega

/-! ## Arrival -/

/-- A new item is the newest one if it lies farther ahead than all before it. -/
theorem lag_ingest {segment : Segment} (near : receiver.lag < SeqId.halfSpace)
    (fresh : receiver.isDuplicate segment.dataId = false) :
    (ingest receiver segment).1.lag =
      max receiver.lag (receiver.cursor.distanceTo segment.dataId) := by
  have ahead := (isDuplicate_eq_false_iff.mp fresh).1
  rcases ingest_cases receiver segment with ⟨seen, _⟩ | ⟨_, _, cursor, items, _⟩
  · exact absurd (fresh.symm.trans seen) Bool.false_ne_true
  · rw [lag_eq_of_noted items, cursor]
    cases noted : receiver.items with
    | none => rw [lag_eq_zero noted, Nat.zero_max, note, ReceiptWindow.anchoredAt]
    | some window =>
        rw [lag_eq_of_noted noted] at near ⊢
        exact ReceiptWindow.distanceTo_anchor_mark near ahead.2

theorem Lags.ingest (lags : receiver.Lags) (segment : Segment) :
    (ingest receiver segment).1.Lags := by
  rcases ingest_cases receiver segment with
    ⟨_, _, cursor, items, buffer⟩ | ⟨fresh, _, cursor, _, buffer⟩
  · exact lags.congr cursor items buffer
  · have ahead := (isDuplicate_eq_false_iff.mp fresh).1
    have newest := lag_ingest lags.lag_lt fresh
    constructor
    · exact lags.orderly.ingest segment
    · rw [newest]
      exact Nat.max_lt.mpr ⟨lags.lag_lt, ahead.2⟩
    · intro id delivery found
      rw [newest, cursor]
      rw [buffer, SeqMap.getElem?_insert] at found
      split at found
      · next same =>
        rw [same]
        exact Nat.le_max_right _ _
      · exact Nat.le_trans (lags.within found) (Nat.le_max_left _ _)

theorem Lags.gather (lags : receiver.Lags) (unit : WireUnit) :
    (receiver.gather unit).1.Lags :=
  Transition.run_preserves Receiver.ingest Lags (fun _ segment lags => lags.ingest segment)
    receiver.counted unit.segments (lags.congr rfl rfl rfl)

/-- When nothing has arrived after a unit, nothing had before and the unit brought nothing. -/
theorem gather_of_unseen (unit : WireUnit)
    (unseen : (receiver.gather unit).1.items = none) :
    receiver.items = none ∧ (receiver.gather unit).2 = [] := by
  let quiet (after : Receiver config) (past : List Delivery) : Prop :=
    after.items = none → receiver.items = none ∧ past = []
  have each : ∀ {after past} (segment : Segment), quiet after past →
      quiet (ingest after segment).1 (past ++ (ingest after segment).2) := by
    intro after past segment kept unseen
    rcases ingest_cases after segment with ⟨_, arrived, _, items, _⟩ | ⟨_, _, _, items, _⟩
    · rw [items] at unseen
      rw [arrived, List.append_nil]
      exact kept unseen
    · rw [items] at unseen
      cases unseen
  have initial : quiet receiver.counted [] := fun unseen => ⟨unseen, rfl⟩
  exact Transition.run_keeps quiet each unit.segments initial unseen

/-! ## Delivery in order -/

/-- A skip that is due moves the cursor, and leaves just the limit to the newest item. -/
theorem lag_of_due {target : SeqId} (due : receiver.skipTarget? = some target) :
    0 < receiver.skipped ∧ receiver.skipped + config.offsetLimit = receiver.lag := by
  rcases skipTarget?_eq_some due with ⟨ahead, highest, newest, _, span⟩
  have passed : receiver.skipped = receiver.cursor.distanceTo target := by
    simp [skipped, due]
  rw [passed, lag_eq_of_highest newest]
  exact ⟨ahead.1, span⟩

theorem lag_sub_skipped_le (near : receiver.lag < SeqId.halfSpace) :
    receiver.lag - receiver.skipped ≤ config.offsetLimit := by
  cases due : receiver.skipTarget? with
  | some target =>
      have left := (lag_of_due due).2
      omega
  | none =>
      cases newest : receiver.highestDataId with
      | none => simp [lag, newest]
      | some highest =>
          rw [lag_eq_of_highest newest] at near ⊢
          apply Nat.le_of_not_lt
          intro far
          have lagging : highest.isAfter receiver.cursor ∧
              config.offsetLimit < receiver.cursor.distanceTo highest := by
            rw [SeqId.isAfter_iff]
            omega
          simp [skipTarget?, newest, lagging] at due

theorem skipped_le_lag (receiver : Receiver config) : receiver.skipped ≤ receiver.lag := by
  cases due : receiver.skipTarget? with
  | none => simp [skipped, due]
  | some target => exact Nat.le_of_add_right_le (Nat.le_of_eq (lag_of_due due).2)

theorem Advances.lag_eq {after : Receiver config} {steps : Nat} {delivered : List Delivery}
    (advances : Advances receiver steps after delivered) (within : steps ≤ receiver.lag) :
    after.lag = receiver.lag - steps := by
  cases noted : receiver.items with
  | none =>
      rw [lag_eq_zero (advances.items.trans noted), lag_eq_zero noted, Nat.zero_sub]
  | some window =>
      have span := advances.distanceTo_eq window.anchor
      have near := SeqId.distanceTo_lt after.cursor window.anchor
      have less := advances.steps_lt
      rw [lag_eq_of_noted noted] at within
      rw [lag_eq_of_noted (advances.items.trans noted), lag_eq_of_noted noted]
      simp only [SeqId.space, SeqId.halfSpace] at *
      omega

/-- No more is delivered in order than the lag. -/
theorem Lags.advances (lags : receiver.Lags) :
    ∃ steps, receiver.skipped ≤ steps ∧ steps ≤ receiver.lag ∧
      Advances receiver steps receiver.deliverOrdered.1 receiver.deliverOrdered.2 := by
  rcases deliverOrdered_advances lags.orderly with ⟨ready, advances, consecutive⟩
  refine ⟨receiver.skipped + ready, Nat.le_add_right _ _, ?_, advances⟩
  rcases Nat.eq_zero_or_pos ready with nothing | something
  · rw [nothing]
    exact receiver.skipped_le_lag
  · -- What is delivered after the skip was waiting, hence not beyond the newest item.
    rcases consecutive _ (Nat.lt_add_of_pos_right something) (Nat.le_refl _) with
      ⟨delivery, found⟩
    have close := lags.within found
    have less := Nat.lt_trans advances.steps_lt (by decide : SeqId.halfSpace < SeqId.space)
    rwa [SeqId.distanceTo_advance_of_lt _ less] at close

theorem Lags.deliverOrdered (lags : receiver.Lags) :
    receiver.deliverOrdered.1.Lags ∧ receiver.deliverOrdered.1.lag ≤ config.offsetLimit := by
  rcases lags.advances with ⟨steps, skips, covered, advances⟩
  have left := advances.lag_eq covered
  have limit := lag_sub_skipped_le lags.lag_lt
  refine ⟨⟨advances.orderly lags.orderly, ?_, ?_⟩, ?_⟩
  · have near := lags.lag_lt
    omega
  · intro id delivery found
    rw [advances.buffer] at found
    split at found
    · cases found
    · have close := lags.within found
      have span := advances.distanceTo_eq id
      have short := SeqId.distanceTo_lt receiver.deliverOrdered.1.cursor id
      have less := advances.steps_lt
      simp only [SeqId.space, SeqId.halfSpace] at *
      omega
  · omega

/-- The id right after the cursor does not wait once what was ready is delivered. -/
theorem getElem?_next_deliverReady (orderly : receiver.Orderly) :
    receiver.deliverReady.1.buffer[receiver.deliverReady.1.cursor.next]? = none := by
  have advances := deliverReady_advances orderly
  rw [advances.buffer, advances.cursor, SeqId.next, SeqId.advance_advance]
  split
  · rfl
  · exact getElem?_after_readyIds orderly

theorem getElem?_next_deliverOrdered (orderly : receiver.Orderly) :
    receiver.deliverOrdered.1.buffer[receiver.deliverOrdered.1.cursor.next]? = none := by
  cases due : receiver.skipTarget? with
  | none =>
      rw [deliverOrdered, due]
      exact getElem?_next_deliverReady orderly
  | some target =>
      have skips := skipTo_advances orderly (skipTarget?_eq_some due).1
      rw [deliverOrdered, due]
      exact getElem?_next_deliverReady (skips.orderly orderly)

/-! ## Runs -/

/-- What holds between calls: the lag is within the limit, the item that comes next is
missing, and before anything arrived there was no event. -/
structure Rests (receiver : Receiver config) (events : List ReceiveEvent) : Prop where
  lags : receiver.Lags
  lag_le : receiver.lag ≤ config.offsetLimit
  next_missing : receiver.buffer[receiver.cursor.next]? = none
  silent : receiver.items = none → events = []

namespace Rests

variable {events : List ReceiveEvent}

theorem start (config : Config) : Rests (start config) [] where
  lags := lags_start config
  lag_le := Nat.zero_le _
  next_missing := by simp [Receiver.start]
  silent _ := rfl

theorem congr {other : Receiver config} (rests : Rests receiver events)
    (cursor : other.cursor = receiver.cursor) (items : other.items = receiver.items)
    (buffer : other.buffer = receiver.buffer) : Rests other events where
  lags := rests.lags.congr cursor items buffer
  lag_le := by
    rw [lag_congr cursor items]
    exact rests.lag_le
  next_missing := by
    rw [cursor, buffer]
    exact rests.next_missing
  silent unseen := rests.silent (items ▸ unseen)

theorem ingestUnit (rests : Rests receiver events) (unit : WireUnit) :
    Rests (receiver.ingestUnit unit).1 (events ++ (receiver.ingestUnit unit).2) := by
  have gathered := rests.lags.gather unit
  rcases gathered.advances with ⟨_, _, _, advances⟩
  rw [ingestUnit_eq]
  constructor
  · exact gathered.deliverOrdered.1
  · exact gathered.deliverOrdered.2
  · exact getElem?_next_deliverOrdered gathered.orderly
  · intro unseen
    have never := advances.items.symm.trans unseen
    rcases gather_of_unseen unit never with ⟨before, nothing⟩
    have idle : (receiver.gather unit).1.deliverOrdered.2 = [] := by
      apply List.eq_nil_iff_forall_not_mem.mpr
      intro delivery member
      have waiting := (advances.mem_delivered.mp member).1
      rw [Waits, gathered.getElem?_eq_none never] at waiting
      cases waiting
    rw [rests.silent before, nothing, idle]
    rfl

theorem step (rests : Rests receiver events) (call : Call) :
    Rests (Receiver.step receiver call).1 (events ++ (Receiver.step receiver call).2) := by
  rcases step_cases receiver call with ⟨unit, _, taken⟩ | ⟨_, due, malformed, idle⟩
  · rw [taken]
    exact rests.ingestUnit unit
  · rw [idle, List.append_nil]
    exact rests.congr rfl rfl rfl

theorem run (config : Config) (calls : List Call) :
    Rests (Transition.run Receiver.step (Receiver.start config) calls).1
      (Transition.run Receiver.step (Receiver.start config) calls).2 := by
  have each : ∀ {receiver : Receiver config} {events} (call : Call), Rests receiver events →
      Rests (Receiver.step receiver call).1 (events ++ (Receiver.step receiver call).2) :=
    fun call rests => rests.step call
  exact Transition.run_keeps Rests each calls (Rests.start config)

theorem one_lt_distanceTo (rests : Rests receiver events) {id : SeqId} {delivery : Delivery}
    (found : receiver.buffer[id]? = some delivery) : 1 < receiver.cursor.distanceTo id := by
  have ahead := (rests.lags.orderly.ahead found).1
  apply Nat.lt_of_not_le
  intro close
  have here : receiver.cursor.next = id := by
    rw [SeqId.next, ← Nat.le_antisymm close ahead]
    exact SeqId.advance_distanceTo receiver.cursor id
  rw [← here, rests.next_missing] at found
  cases found

/-- What waits fits between the missing item and the newest one. -/
theorem buffered_le (rests : Rests receiver events) :
    receiver.buffered ≤ receiver.lag - 1 := by
  rw [buffered, ← Std.ExtTreeMap.length_keys]
  apply SeqId.length_le_of_between Std.ExtTreeMap.nodup_keys
  intro id member
  rcases SeqMap.mem_keys.mp member with ⟨delivery, found⟩
  exact ⟨rests.one_lt_distanceTo found, rests.lags.within found⟩

end Rests

/-- Whatever calls come, unless nothing has arrived yet, delivery in order lags behind the
newest item by no more than the limit.  The id right after the cursor is missing, and what
waits, each item under its own id, has its place beyond that one and up to the newest. -/
theorem lag_run (config : Config) (calls : List Call) :
    match Transition.run step (start config) calls with
    | (receiver, events) =>
        match receiver.highestDataId with
        | none => events = [] ∧ receiver.buffered = 0
        | some highest =>
            receiver.cursor.distanceTo highest ≤ config.offsetLimit ∧
              receiver.buffer[receiver.cursor.next]? = none ∧
              (∀ id delivery, receiver.buffer[id]? = some delivery →
                delivery.dataId = id ∧ id.isAfter receiver.cursor.next ∧
                  id.isAtOrBefore highest ∧
                  receiver.cursor.distanceTo id ≤ receiver.cursor.distanceTo highest) ∧
              receiver.buffered ≤ config.offsetLimit - 1 := by
  have rests := Rests.run config calls
  generalize Transition.run step (start config) calls = reached at rests ⊢
  rcases reached with ⟨receiver, events⟩
  change Rests receiver events at rests
  have size := rests.buffered_le
  have limit := rests.lag_le
  cases newest : receiver.highestDataId with
  | none =>
      have unseen : receiver.items = none := Option.map_eq_none_iff.mp newest
      simp only [newest]
      rw [lag_eq_zero unseen] at size
      exact ⟨rests.silent unseen, Nat.le_zero.mp size⟩
  | some highest =>
      have whole := lag_eq_of_highest newest
      have near := rests.lags.lag_lt
      simp only [newest]
      rw [whole] at size limit near
      refine ⟨limit, rests.next_missing, ?_, by omega⟩
      intro id delivery found
      have beyond := rests.one_lt_distanceTo found
      have close := rests.lags.within found
      have fromNext := SeqId.distanceTo_next (Nat.lt_trans Nat.zero_lt_one beyond)
      have onward := SeqId.distanceTo_trans receiver.cursor id highest
      have short := SeqId.distanceTo_lt id highest
      rw [whole] at close
      rw [SeqId.isAfter_iff, SeqId.isAtOrBefore_iff]
      simp only [SeqId.space, SeqId.halfSpace] at *
      exact ⟨rests.lags.orderly.named found, by omega, by omega, close⟩

end Receiver

end ReliableDatagram
