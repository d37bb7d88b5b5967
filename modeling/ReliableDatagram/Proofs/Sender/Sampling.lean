import ReliableDatagram.Proofs.Sender.Accounting
import ReliableDatagram.Proofs.Sender.Discipline
import ReliableDatagram.Proofs.Sender.Visiting

/-!
# Which confirmations are round-trip samples

An item may have been sent again before it is acknowledged, and an acknowledgment may report
several of its transmissions.  The chronicle tells which confirmations measure a round trip
(`soundings`): those in which the latest segment of the item is reported, by the id that was
new in it.  The estimator has observed just these, in order (`roundTrip_reached`).

The sender goes by the first reported id that it finds.  It finds them newest first, and the ids
of an item are filed in the order in which they are drawn, so if the latest id is reported
then it is found first (`eq_of_nearest`).  This holds until the ids start over.
-/

namespace ReliableDatagram

namespace Acknowledgment

/-- Whether an id is the newest one of a report, or one whose bit is set in it. -/
def mentions (ack : Acknowledgment) (id : SeqId) : Bool :=
  id == ack.newest ||
    (List.range width).any fun bit =>
      ack.bitmap.getLsbD bit && id == ack.newest.retreat (bit + 1)

theorem mentions_iff {ack : Acknowledgment} {id : SeqId} :
    ack.mentions id ↔ ∃ offset, ack.Reports offset ∧ id = ack.newest.retreat offset := by
  simp only [mentions, Bool.or_eq_true, beq_iff_eq, List.any_eq_true, List.mem_range,
    Bool.and_eq_true]
  constructor
  · intro mentioned
    rcases mentioned with rfl | ⟨bit, _, set, rfl⟩
    · exact ⟨0, .inl rfl, (SeqId.retreat_zero _).symm⟩
    · exact ⟨bit + 1, reports_succ.mpr set, rfl⟩
  · intro reported
    obtain ⟨offset, reports, rfl⟩ := reported
    rcases reports with rfl | ⟨bit, set, rfl⟩
    · exact .inl (SeqId.retreat_zero _)
    · exact .inr ⟨bit, BitVec.lt_of_getLsbD set, set, rfl⟩

end Acknowledgment

namespace Sender

variable {config : Config} {sender after : Sender config}

/-! ## The order of the ids -/

/-- Of two ids that were drawn, an acceptable report reaches the later one first. -/
theorem distanceTo_lt_of_reported {origin newest : SeqId} {count nearer farther : Nat}
    (few : count < SeqId.space) (accepted : newest.isAtOrBefore (origin.advance count).previous)
    (within : farther ≤ Acknowledgment.width) (less : nearer < farther)
    (drawn : origin.distanceTo (newest.retreat farther) < count) :
    origin.distanceTo (newest.retreat farther) < origin.distanceTo (newest.retreat nearer) := by
  rw [SeqId.isAtOrBefore_iff] at accepted
  have originLt := origin.toNat_lt
  have newestLt := newest.toNat_lt
  rw [SeqId.distanceTo_eq, SeqId.previous, SeqId.toNat_retreat, SeqId.toNat_advance] at accepted
  rw [SeqId.distanceTo_eq, SeqId.toNat_retreat] at drawn ⊢
  rw [SeqId.distanceTo_eq, SeqId.toNat_retreat]
  simp only [SeqId.space, SeqId.halfSpace, Acknowledgment.width] at *
  omega

/-! ## Pending items and their segments -/

/-- The segments of which the chronicle says that they went out. -/
def segmentsOf (marks : List Mark) : List Segment := transmitted (marks.map Mark.output)

theorem segmentsOf_append (marks more : List Mark) :
    segmentsOf (marks ++ more) = segmentsOf marks ++ segmentsOf more := by
  rw [segmentsOf, List.map_append, transmitted_append]
  rfl

/-- What the segments of an item tell of its record. -/
structure Linked (config : Config) (sent : List (Segment × Instant))
    (record : Record PendingItem) : Prop where
  last : ∃ segment, sent.getLast? = some (segment, record.touchedAt) ∧
    segment.latest? = record.latest?
  /-- The ids are filed in the order in which they were drawn. -/
  ordered : record.keys.Pairwise fun earlier later =>
    config.initialTransmissionId.distanceTo earlier <
      config.initialTransmissionId.distanceTo later

theorem dispatches_of_ne {number : Nat} {mark : Mark} (marks : List Mark)
    (different : mark.item ≠ number) :
    dispatches number (marks ++ [mark]) = dispatches number marks := by
  rw [dispatches, course_append, course_of_ne different, List.append_nil]
  rfl

theorem dispatches_of_event {number : Nat} {mark : Mark} (marks : List Mark) {event : SendEvent}
    (ends : mark.output = .resolved event) :
    dispatches number (marks ++ [mark]) = dispatches number marks := by
  by_cases here : mark.item = number
  · rw [dispatches, course_append, ← here, course_self, List.filterMap_append,
      List.filterMap_cons, Mark.dispatch?_of_event ends, List.filterMap_nil, List.append_nil]
    rfl
  · exact dispatches_of_ne marks here

theorem dispatches_of_segment {mark : Mark} (marks : List Mark) {segment : Segment}
    (sends : mark.output.segment? = some segment) :
    dispatches mark.item (marks ++ [mark]) =
      dispatches mark.item marks ++ [(segment, mark.call.time)] := by
  rw [dispatches, course_append, course_self, List.filterMap_append, List.filterMap_cons,
    Mark.dispatch?_of_segment sends]
  rfl

/-- Whether all pending items are linked to their segments. -/
def AllLinked (sender : Sender config) (roster : Roster) (marks : List Mark) : Prop :=
  ∀ slot record, sender.pending.record? slot = some record →
    Linked config (dispatches (roster.number slot) marks) record

namespace AllLinked

variable {roster : Roster} {marks : List Mark} {slot : Nat} {mark : Mark}

theorem resolve (linked : AllLinked sender roster marks) {event : SendEvent}
    (ends : mark.output = .resolved event)
    (pending : after.pending = sender.pending.remove slot) :
    AllLinked after roster (marks ++ [mark]) := by
  intro other record found
  rw [pending, Table.record?_remove] at found
  rw [dispatches_of_event marks ends]
  split at found
  · cases found
  · exact linked _ _ found

theorem release (linked : AllLinked sender roster marks) {id : SeqId}
    (holder : sender.pending.holder? id = some slot)
    (superseded : sender.pending.isLatest id slot = false)
    (pending : after.pending = sender.pending.release id) : AllLinked after roster marks := by
  intro other record found
  rw [pending, Table.record?_release holder] at found
  split at found
  · next here =>
    obtain ⟨before, there, rfl⟩ := Option.map_eq_some_iff.mp found
    have older : before.latest? ≠ some id := by
      intro newest
      simp [Table.isLatest, ← here, there, newest] at superseded
    obtain ⟨⟨segment, last, same⟩, ordered⟩ := linked _ _ there
    exact ⟨⟨segment, last, same.trans (Record.latest?_dropKey older).symm⟩,
      ordered.sublist List.filter_sublist⟩
  · exact linked _ _ found

theorem takeOn (linked : AllLinked sender roster marks)
    (recorded : Recorded config sender.flight? roster marks) {segment : Segment}
    {record : Record PendingItem} (subject : mark.item = roster.count)
    (sends : mark.output.segment? = some segment) (latest : segment.latest? = record.latest?)
    (single : ∃ id, record.keys = [id]) (touched : record.touchedAt = mark.call.time)
    (changed : ∀ other, after.pending.record? other =
      if other = slot then some record else sender.pending.record? other) :
    AllLinked after (roster.enroll slot) (marks ++ [mark]) := by
  intro other stored found
  rw [changed] at found
  split at found
  · next here =>
    cases found
    obtain ⟨id, keys⟩ := single
    rw [here, roster.number_enroll_self, ← subject, dispatches_of_segment marks sends]
    refine ⟨⟨segment, ?_, latest⟩, keys ▸ List.pairwise_singleton _ _⟩
    rw [List.getLast?_concat, touched]
  · next elsewhere =>
    have older := recorded.number_lt (flight?_of_found found)
    rw [roster.number_enroll_of_ne elsewhere, dispatches_of_ne marks (by omega)]
    exact linked _ _ found

/-- An item that goes out again takes an id that comes after all of its own. -/
theorem again (linked : AllLinked sender roster marks)
    (recorded : Recorded config sender.flight? roster marks) {segment : Segment}
    {before record : Record PendingItem} (there : sender.pending.record? slot = some before)
    (subject : mark.item = roster.number slot) (sends : mark.output.segment? = some segment)
    (latest : segment.latest? = record.latest?) {id : SeqId}
    (keys : record.keys = before.keys ++ [id])
    (newest : ∀ key ∈ before.keys, config.initialTransmissionId.distanceTo key <
      config.initialTransmissionId.distanceTo id)
    (touched : record.touchedAt = mark.call.time)
    (changed : ∀ other, after.pending.record? other =
      if other = slot then some record else sender.pending.record? other) :
    AllLinked after roster (marks ++ [mark]) := by
  intro other stored found
  rw [changed] at found
  split at found
  · next here =>
    cases found
    rw [here, ← subject, dispatches_of_segment marks sends]
    constructor
    · refine ⟨segment, ?_, latest⟩
      rw [List.getLast?_concat, touched]
    · rw [keys]
      refine List.pairwise_append.mpr
        ⟨(linked _ _ there).ordered, List.pairwise_singleton _ _, fun key member other last => ?_⟩
      rw [List.mem_singleton.mp last]
      exact newest key member
  · next elsewhere =>
    have apart : mark.item ≠ roster.number other := by
      intro same
      exact elsewhere (recorded.distinct (flight?_of_found found) (flight?_of_found there)
        (same.symm.trans subject))
    rw [dispatches_of_ne marks apart]
    exact linked _ _ found

end AllLinked

/-! ## Soundings -/

/-- What the confirmation of an item says of the round-trip time, after some marks.  There is a
sample if the latest segment of the item is reported by its latest id, and a void one if this
segment lies in the future. -/
def sounding (past : List Mark) (mark : Mark) : List (Option Duration) :=
  match mark.call, mark.output with
  | .acknowledge ack now, .resolved (.acked _ _) =>
      match (dispatches mark.item past).getLast? with
      | none => []
      | some (segment, sentAt) =>
          if segment.latest?.any ack.mentions then [now.since? sentAt] else []
  | _, _ => []

/-- What all confirmations say of the round-trip time, in order. -/
def soundings (marks : List Mark) : List (Option Duration) :=
  (Transition.run (fun past mark => (past ++ [mark], sounding past mark)) [] marks).2

theorem soundings_concat (marks : List Mark) (mark : Mark) :
    soundings (marks ++ [mark]) = soundings marks ++ sounding marks mark := by
  have read : ∀ past, (Transition.run (fun past mark =>
      (past ++ [mark], sounding past mark)) past marks).1 = past ++ marks := by
    intro past
    induction marks generalizing past with
    | nil => simp
    | cons first rest ih => simp [Transition.run_cons, ih]
  rw [soundings, Transition.outputs_concat, read]
  rfl

theorem sounding_of_segment {mark : Mark} (past : List Mark) {segment : Segment}
    (sends : mark.output.segment? = some segment) : sounding past mark = [] := by
  obtain ⟨item, call, output⟩ := mark
  cases output with
  | resolved event => cases sends
  | sent segment => cases call <;> rfl
  | resent segment => cases call <;> rfl

/-- The estimator is what it is after the samples. -/
structure Sampled (sender : Sender config) (soundings : List (Option Duration)) : Prop where
  roundTrip : sender.roundTrip =
    (soundings.filterMap id).foldl (RoundTrip.observe config) RoundTrip.start
  taken : sender.counters.rttSamples = (soundings.filterMap id).length
  discarded : sender.counters.rttSamplesDiscarded = soundings.countP Option.isNone

namespace Sampled

variable {past : List (Option Duration)}

theorem start (config : Config) : Sampled (start config) [] := ⟨rfl, rfl, rfl⟩

theorem steady (sampled : Sampled sender past) (roundTrip : after.roundTrip = sender.roundTrip)
    (taken : after.counters.rttSamples = sender.counters.rttSamples)
    (discarded : after.counters.rttSamplesDiscarded = sender.counters.rttSamplesDiscarded) :
    Sampled after past :=
  ⟨roundTrip.trans sampled.roundTrip, taken.trans sampled.taken,
    discarded.trans sampled.discarded⟩

theorem giveUp (sampled : Sampled sender past) {slot : Nat} {record : Record PendingItem}
    (reason : GiveUpReason) (found : sender.pending.record? slot = some record) :
    Sampled (giveUp reason sender slot).1 past := by
  obtain ⟨_, _, _, taken, discarded⟩ := sender.counters.kept_countUnacked reason
  rw [giveUp_of_found found]
  exact sampled.steady rfl taken discarded

/-- A confirmation gives a sample if it is by the latest id. -/
theorem confirm (sampled : Sampled sender past) {id : SeqId} {slot : Nat}
    {record : Record PendingItem} (holder : sender.pending.holder? id = some slot)
    (found : sender.pending.record? slot = some record) (now : Instant) :
    Sampled (confirm now sender id).1
      (past ++ if record.latest? = some id then [now.since? record.touchedAt] else []) := by
  obtain ⟨roundTrip, taken, discarded⟩ := sampled
  simp only [Sender.confirm, holder, found, sampleRoundTrip]
  split
  · cases sample : now.since? record.touchedAt with
    | none => exact ⟨by simp [roundTrip], by simp [taken], by simp [discarded]⟩
    | some sample => exact ⟨by simp [roundTrip], by simp [taken], by simp [discarded]⟩
  · exact ⟨by simp [roundTrip], by simp [taken], by simp [discarded]⟩

end Sampled

/-- If the latest id of an item is reported, then it is the first reported id that is found. -/
theorem eq_of_nearest {items : List Item} {segments : List Segment}
    (traced : Traced sender items segments) (few : segments.length < SeqId.space)
    {ack : Acknowledgment} (accepted : sender.Accepts ack) {offset slot : Nat}
    {record : Record PendingItem} (found : sender.pending.record? slot = some record)
    (ordered : record.keys.Pairwise fun earlier later =>
      config.initialTransmissionId.distanceTo earlier <
        config.initialTransmissionId.distanceTo later)
    (listed : ack.newest.retreat offset ∈ record.keys)
    (nearest : ∀ nearer < offset, ack.Reports nearer →
      sender.pending.holder? (ack.newest.retreat nearer) = none)
    {latest : SeqId} (newest : record.latest? = some latest) (mentioned : ack.mentions latest) :
    latest = ack.newest.retreat offset := by
  obtain ⟨other, reports, rfl⟩ := Acknowledgment.mentions_iff.mp mentioned
  have held := traced.agrees.holder?_of_mem found (Record.mem_of_latest? newest)
  rcases Nat.lt_trichotomy offset other with less | same | more
  · -- An id that is reported nearer was drawn later, and then it would be filed later.
    obtain ⟨index, segment, drawn, same, _⟩ :=
      (traced.records found).ids _ (Record.mem_of_latest? newest)
    have early := (List.getElem?_eq_some_iff.mp drawn).1
    have inside : config.initialTransmissionId.distanceTo (ack.newest.retreat other) <
        segments.length := by
      rw [same, SeqId.distanceTo_advance_of_lt _ (Nat.lt_trans early few)]
      exact early
    rw [Accepts, traced.nextTransmissionId] at accepted
    have later := distanceTo_lt_of_reported few accepted reports.le_width less inside
    obtain ⟨front, keys⟩ := List.getLast?_eq_some_iff.mp newest
    rw [keys] at listed ordered
    rcases List.mem_append.mp listed with before | last
    · have sooner := (List.pairwise_append.mp ordered).2.2 _ before _ List.mem_cons_self
      exact absurd sooner (Nat.lt_asymm later)
    · exact (List.mem_singleton.mp last).symm
  · rw [same]
  · rw [nearest other more reports] at held
    cases held

/-! ## Runs -/

/-- What the chronicle tells of a sender until the ids start over. -/
structure Followed (sender : Sender config) (roster : Roster) (marks : List Mark) : Prop where
  traced : Traced sender (itemsOf marks) (segmentsOf marks)
  recorded : Recorded config sender.flight? roster marks
  linked : AllLinked sender roster marks
  sampled : Sampled sender (soundings marks)

namespace Followed

variable {roster : Roster} {marks : List Mark} {call : Call} {entries : List Entry}

theorem start (config : Config) : Followed (Sender.start config) .empty [] where
  traced := traced_start config
  recorded := .start config
  linked slot record found := by simp [Sender.start, Table.record?_empty] at found
  sampled := .start config

theorem traced_deed (room : config.retransmitLimit < Capacity.keysPerRecord)
    (traced : Traced sender (itemsOf marks) (segmentsOf marks))
    (deed : Deed call sender entries after) :
    Traced after (itemsOf (marks ++ (Transition.run (note call) roster entries).2))
      (segmentsOf (marks ++ (Transition.run (note call) roster entries).2)) := by
  have moved := traced.move room deed.move
  rw [itemsOf, segmentsOf, List.map_append, outputs_note, itemsSent_append, transmitted_append]
  exact moved

/-- An item that is confirmed gives the sample that the chronicle tells of. -/
theorem sounding_confirm (followed : Followed sender roster marks)
    (few : (segmentsOf marks).length < SeqId.space) {ack : Acknowledgment} (now : Instant)
    (accepted : sender.Accepts ack) {offset slot : Nat} {record : Record PendingItem}
    (reports : ack.Reports offset)
    (nearest : ∀ nearer < offset, ack.Reports nearer →
      sender.pending.holder? (ack.newest.retreat nearer) = none)
    (holder : sender.pending.holder? (ack.newest.retreat offset) = some slot)
    (found : sender.pending.record? slot = some record) :
    sounding marks ⟨roster.number slot, .acknowledge ack now, .resolved (ackOf record)⟩ =
      if record.latest? = some (ack.newest.retreat offset) then [now.since? record.touchedAt]
      else [] := by
  obtain ⟨⟨segment, last, same⟩, ordered⟩ := followed.linked _ _ found
  obtain ⟨stored, there, listed⟩ := followed.traced.agrees.holder?_eq_some_iff.mp holder
  cases found.symm.trans there
  have first : record.latest?.any ack.mentions ↔
      record.latest? = some (ack.newest.retreat offset) := by
    rw [Option.any_eq_true]
    constructor
    · intro mentioned
      obtain ⟨latest, newest, named⟩ := mentioned
      rw [newest, eq_of_nearest followed.traced few accepted found ordered listed nearest newest
        named]
    · intro newest
      exact ⟨_, newest, Acknowledgment.mentions_iff.mpr ⟨offset, reports, rfl⟩⟩
  simp only [sounding, ackOf, last, same, first]

theorem deed (followed : Followed sender roster marks)
    (room : config.retransmitLimit < Capacity.keysPerRecord)
    (few : (segmentsOf marks).length < SeqId.space) (deed : Deed call sender entries after) :
    Followed after (Transition.run (note call) roster entries).1
      (marks ++ (Transition.run (note call) roster entries).2) := by
  have traced : Traced after
      (itemsOf (marks ++ (Transition.run (note call) roster entries).2))
      (segmentsOf (marks ++ (Transition.run (note call) roster entries).2)) :=
    traced_deed room followed.traced deed
  have recorded := followed.recorded.turn deed.turn
  have unheld := followed.traced.unheld few
  cases deed with
  | @giveUp _ _ slot record reason found =>
      refine ⟨traced, recorded, followed.linked.resolve rfl (by rw [giveUp_of_found found]), ?_⟩
      have silent : sounding marks
          ⟨roster.number slot, call, .resolved (lossOf reason record)⟩ = [] := by
        cases call <;> rfl
      change Sampled _ (soundings (marks ++ [_]))
      rw [soundings_concat, silent, List.append_nil]
      exact followed.sampled.giveUp reason found
  | @confirm ack now _ offset slot record accepted reports nearest holder found =>
      refine ⟨traced, recorded, followed.linked.resolve rfl (pending_confirm holder found _), ?_⟩
      change Sampled _ (soundings (marks ++ [_]))
      rw [soundings_concat, followed.sounding_confirm few now accepted reports nearest holder found]
      exact followed.sampled.confirm holder found now
  | release holder superseded =>
      rw [Transition.run_nil, List.append_nil] at traced recorded ⊢
      exact ⟨traced, recorded, followed.linked.release holder superseded rfl,
        followed.sampled.steady rfl rfl rfl⟩
  | takeOn fits registered =>
      refine ⟨traced, recorded, followed.linked.takeOn followed.recorded rfl rfl rfl ⟨_, rfl⟩ rfl
        (record?_admitted unheld registered), ?_⟩
      change Sampled _ (soundings (marks ++ [_]))
      rw [soundings_concat, sounding_of_segment marks rfl, List.append_nil]
      exact followed.sampled.steady rfl rfl rfl
  | @again now _ slot record again pending _ found waited allowed registered filed =>
      have newest : ∀ key ∈ record.keys, config.initialTransmissionId.distanceTo key <
          config.initialTransmissionId.distanceTo sender.nextTransmissionId := by
        intro key member
        obtain ⟨index, segment, drawn, early, _⟩ := (followed.traced.records found).ids key member
        have before := (List.getElem?_eq_some_iff.mp drawn).1
        rw [early, followed.traced.nextTransmissionId, SeqId.distanceTo_advance_of_lt _ few,
          SeqId.distanceTo_advance_of_lt _ (Nat.lt_trans before few)]
        exact before
      have same : again = record.addKey sender.nextTransmissionId := by
        have stored := Table.record?_register_of_unheld unheld found registered slot
        rw [filed, if_pos rfl] at stored
        exact Option.some.inj stored
      refine ⟨traced, recorded, followed.linked.again followed.recorded found rfl rfl ?_ rfl newest
        rfl (record?_again unheld found registered now), ?_⟩
      · rw [same]
        rfl
      · change Sampled _ (soundings (marks ++ [_]))
        rw [soundings_concat, sounding_of_segment marks rfl, List.append_nil]
        exact followed.sampled.steady rfl rfl rfl
  | forfeit found allowed refused =>
      rw [Transition.run_nil, List.append_nil] at traced recorded ⊢
      exact ⟨traced, recorded, followed.linked, followed.sampled.steady rfl rfl rfl⟩

theorem run (valid : config.Valid) (calls : List Call)
    (few : (segmentsOf (chronicle config calls).2).length < SeqId.space) :
    Followed (chronicle config calls).1.1 (chronicle config calls).1.2
      (chronicle config calls).2 := by
  refine chronicle_keeps valid.minTimeout_le
    (fun sender roster marks => (segmentsOf marks).length < SeqId.space →
      Followed sender roster marks) ?_ Table.agrees_empty (fun _ => start config) calls few
  intro call before after entries roster past deed followed few
  rw [segmentsOf_append, List.length_append] at few
  have earlier := Nat.lt_of_le_of_lt (Nat.le_add_right _ _) few
  exact (followed earlier).deed valid.retransmitLimit_lt earlier deed

end Followed

/-- Until the ids start over, the estimator has observed just the soundings of the chronicle. -/
theorem roundTrip_reached (valid : config.Valid) (calls : List Call)
    (few : (transmitted (Transition.run step (start config) calls).2).length < SeqId.space) :
    Chronicles (chronicle config calls).2 (Transition.run step (start config) calls).2 ∧
      Sampled (reached config calls) (soundings (chronicle config calls).2) := by
  rw [transmitted, ← (alike_chronicle config calls).segments] at few
  have followed := Followed.run valid calls few
  rw [← reached_chronicle]
  exact ⟨chronicles_chronicle valid calls, followed.sampled⟩

/-- The first item is acknowledged by an older id, the second by its latest one, and the third
before it was sent, by the clock. -/
def measuring : List Call :=
  [.send [1] ⟨0⟩, .retransmit ⟨2000000000⟩, .acknowledge ⟨.ofNat 0, 0⟩ ⟨2100000000⟩,
    .send [2] ⟨3000000000⟩, .acknowledge ⟨.ofNat 2, 0⟩ ⟨3500000000⟩,
    .send [3] ⟨9000000000⟩, .acknowledge ⟨.ofNat 3, 0⟩ ⟨1000000000⟩]

theorem roundTrip_reached_measuring :
    ({} : Config).Valid ∧
      (transmitted (Transition.run step (start {}) measuring).2).length < SeqId.space ∧
      soundings (chronicle {} measuring).2 = [some ⟨500000000⟩, none] ∧
      (reached {} measuring).roundTrip = RoundTrip.observe {} RoundTrip.start ⟨500000000⟩ ∧
      (reached {} measuring).counters.rttSamples = 1 ∧
      (reached {} measuring).counters.rttSamplesDiscarded = 1 := by
  have valid : ({} : Config).Valid := Config.fault?_eq_none_iff.mp (by decide)
  have few : (transmitted (Transition.run step (start {}) measuring).2).length <
      SeqId.space := by decide +kernel
  have heard : soundings (chronicle {} measuring).2 = [some ⟨500000000⟩, none] := by
    decide +kernel
  obtain ⟨_, sampled⟩ := roundTrip_reached valid measuring few
  rw [heard] at sampled
  exact ⟨valid, few, heard, sampled.roundTrip, sampled.taken, sampled.discarded⟩

end Sender

end ReliableDatagram
