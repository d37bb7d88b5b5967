import ReliableDatagram.Proofs.Sender.Reach

/-!
# The effect of an acknowledgment

An acknowledgment that is accepted splits the pending items in three.  Those with a
reported transmission are confirmed, in the order of their newest reported ones, because
the reported ids are met newest first (`exists_confirmed`).  Of the others, those whose
latest transmission is too old are given up on, the oldest first, and the rest forget the
transmissions that are too old (`record?_pruneBefore`).

What is left holds no reported id and no old one, so the same acknowledgment has no effect
again (`effect_acknowledge`).
-/

namespace ReliableDatagram

namespace Acknowledgment

/-- Whether the newest reported id of an item is at an offset. -/
@[mk_iff]
structure ReportsAt {α : Type} (ack : Acknowledgment) (record : Record α) (offset : Nat) :
    Prop where
  reports : ack.Reports offset
  listed : ack.newest.retreat offset ∈ record.keys
  nearest : ∀ nearer < offset, ack.Reports nearer → ack.newest.retreat nearer ∉ record.keys

/-- Whether a transmission of an item is reported. -/
def Names {α : Type} (ack : Acknowledgment) (record : Record α) : Prop :=
  ∃ offset, ack.Reports offset ∧ ack.newest.retreat offset ∈ record.keys

/-- The offsets that are reported, in increasing order. -/
def offsets (ack : Acknowledgment) : List Nat :=
  (List.range ReceiptWindow.capacity).filter (ReceiptWindow.ofAcknowledgment ack).get

theorem pairwise_offsets (ack : Acknowledgment) : ack.offsets.Pairwise (· < ·) :=
  List.pairwise_lt_range.filter _

theorem mem_offsets {ack : Acknowledgment} {offset : Nat} :
    offset ∈ ack.offsets ↔ ack.Reports offset := by
  rw [offsets, List.mem_filter, List.mem_range, ReceiptWindow.get_ofAcknowledgment_iff,
    and_iff_right_iff_imp]
  intro reports
  exact Nat.lt_of_le_of_lt reports.le_width (by decide)

end Acknowledgment

namespace Sender

variable {config : Config} {sender : Sender config}

/-! ## Confirmation -/

/-- The announcement that an item was confirmed. -/
def ackOf (record : Record PendingItem) : SendEvent :=
  .acked record.primary record.value.payload

theorem exists_confirm (agrees : sender.pending.Agrees) (now : Instant) (id : SeqId) :
    ∃ confirmed : Option (Nat × Record PendingItem),
      (confirm now sender id).2 = (confirmed.map fun entry => ackOf entry.2).toList ∧
      ∀ {slot record}, confirmed = some (slot, record) ↔
        sender.pending.record? slot = some record ∧ id ∈ record.keys := by
  cases holder : sender.pending.holder? id with
  | none =>
      refine ⟨none, by simp [confirm, holder], ?_⟩
      intro slot record
      constructor
      · intro same
        cases same
      · intro condition
        cases holder.symm.trans (agrees.holder?_of_mem condition.1 condition.2)
  | some place =>
      rcases agrees.holder?_eq_some_iff.mp holder with ⟨stored, there, listed⟩
      refine ⟨some (place, stored), outputs_confirm holder there now, ?_⟩
      intro slot record
      constructor
      · intro same
        cases same
        exact ⟨there, listed⟩
      · intro condition
        rcases condition with ⟨found, member⟩
        have same := agrees.slot_unique found member there listed
        subst same
        rw [Option.some.inj (found.symm.trans there)]

/-- Ids that are met newest first confirm items in the order of their newest ids among
them, each once. -/
theorem exists_confirmed (agrees : sender.pending.Agrees) (now : Instant) (newest : SeqId)
    {offsets : List Nat} (increasing : offsets.Pairwise (· < ·)) :
    ∃ confirmed : List (Nat × Nat × Record PendingItem),
      (Transition.run (confirm now) sender (offsets.map newest.retreat)).2 =
        confirmed.map (fun entry => ackOf entry.2.2) ∧
      confirmed.Pairwise (fun left right => left.1 < right.1) ∧
      ∀ {offset slot record}, (offset, slot, record) ∈ confirmed ↔
        sender.pending.record? slot = some record ∧ offset ∈ offsets ∧
          newest.retreat offset ∈ record.keys ∧
          ∀ nearer < offset, nearer ∈ offsets → newest.retreat nearer ∉ record.keys := by
  induction offsets generalizing sender with
  | nil => exact ⟨[], rfl, .nil, by simp⟩
  | cons first rest ih =>
      rcases List.pairwise_cons.mp increasing with ⟨farther, increasing⟩
      rcases exists_confirm agrees now (newest.retreat first) with ⟨nearest, announced, held⟩
      rcases ih (agrees_confirm agrees now (newest.retreat first)) increasing with
        ⟨others, events, ordered, later⟩
      refine ⟨(nearest.map (first, ·)).toList ++ others, ?_, ?_, ?_⟩
      · rw [List.map_cons, Transition.run_cons, announced, events, List.map_append]
        cases nearest <;> rfl
      · refine List.pairwise_append.mpr ⟨?_, ordered, ?_⟩
        · cases nearest with
          | none => exact .nil
          | some entry => exact List.pairwise_singleton _ _
        · intro left leftMem right rightMem
          rcases Option.map_eq_some_iff.mp (Option.mem_toList.mp leftMem) with ⟨entry, _, rfl⟩
          exact farther _ (later.mp rightMem).2.1
      · intro offset slot record
        rw [List.mem_append, later, record?_confirm agrees now (newest.retreat first)]
        constructor
        · intro either
          rcases either with here | ⟨⟨found, unlisted⟩, member, listed, clear⟩
          · rcases Option.map_eq_some_iff.mp (Option.mem_toList.mp here) with ⟨entry, only, same⟩
            cases same
            rcases held.mp only with ⟨found, listed⟩
            refine ⟨found, List.mem_cons_self, listed, ?_⟩
            intro nearer less reported
            rcases List.mem_cons.mp reported with rfl | beyond
            · exact absurd less (Nat.lt_irrefl _)
            · exact absurd less (Nat.lt_asymm (farther nearer beyond))
          · refine ⟨found, List.mem_cons_of_mem _ member, listed, ?_⟩
            intro nearer less reported
            rcases List.mem_cons.mp reported with rfl | beyond
            · exact unlisted
            · exact clear nearer less beyond
        · intro condition
          rcases condition with ⟨found, member, listed, clear⟩
          rcases List.mem_cons.mp member with rfl | beyond
          · refine .inl (Option.mem_toList.mpr (Option.map_eq_some_iff.mpr ?_))
            exact ⟨(slot, record), held.mpr ⟨found, listed⟩, rfl⟩
          · have unlisted := clear first (farther offset beyond) List.mem_cons_self
            refine .inr ⟨⟨found, unlisted⟩, beyond, listed, ?_⟩
            intro nearer less reported
            exact clear nearer less (List.mem_cons_of_mem _ reported)

/-! ## The three kinds of items -/

theorem reportedIds_eq (ack : Acknowledgment) :
    reportedIds ack = ack.offsets.map ack.newest.retreat := rfl

theorem reported_iff {ack : Acknowledgment} {record : Record PendingItem} :
    Reported (reportedIds ack) record ↔ ack.Names record := by
  constructor
  · intro reported
    rcases reported with ⟨id, member, listed⟩
    rcases ReceiptWindow.mem_observed_ofAcknowledgment.mp member with ⟨offset, reports, rfl⟩
    exact ⟨offset, reports, listed⟩
  · intro names
    rcases names with ⟨offset, reports, listed⟩
    exact ⟨_, ReceiptWindow.mem_observed_ofAcknowledgment.mpr ⟨offset, reports, rfl⟩, listed⟩

/-- What an accepted acknowledgment does to the pending items.  `confirmed` lists those
that it confirms, each with the offset of its newest reported id and with its slot, and
`lost` those that are given up on. -/
structure Resolves (before : Sender config) (ack : Acknowledgment) (after : Sender config)
    (confirmed : List (Nat × Nat × Record PendingItem))
    (lost : List (Nat × Record PendingItem)) : Prop where
  confirms : ∀ {offset slot record}, (offset, slot, record) ∈ confirmed ↔
    before.pending.record? slot = some record ∧ ack.ReportsAt record offset
  nearestFirst : confirmed.Pairwise fun left right => left.1 < right.1
  loses : ∀ {slot record}, (slot, record) ∈ lost ↔
    before.pending.record? slot = some record ∧ ¬ ack.Names record ∧
      ∃ latest, record.latest? = some latest ∧
        latest.isBefore (ack.newest.retreat Acknowledgment.width)
  farthestFirst : lost.Pairwise fun left right =>
    ∃ earlier later, left.2.latest? = some earlier ∧ right.2.latest? = some later ∧
      ((ack.newest.retreat Acknowledgment.width).advance (SeqId.halfSpace + 1)).distanceTo
          earlier <
        ((ack.newest.retreat Acknowledgment.width).advance (SeqId.halfSpace + 1)).distanceTo
          later
  keeps : ∀ {slot record}, after.pending.record? slot = some record ↔
    ∃ former, before.pending.record? slot = some former ∧ ¬ ack.Names former ∧
      (∀ latest, former.latest? = some latest →
        ¬ latest.isBefore (ack.newest.retreat Acknowledgment.width)) ∧
      record = former.forgetBefore (ack.newest.retreat Acknowledgment.width) ∧
      record.latest? = former.latest?
  sameIds : after.dataIds = before.dataIds ∧ after.transmissionIds = before.transmissionIds

theorem resolves_acknowledge (agrees : sender.pending.Agrees) {ack : Acknowledgment}
    (accepted : sender.Accepts ack) (now : Instant) :
    ∃ confirmed lost, Resolves sender ack (sender.acknowledge ack now).1 confirmed lost ∧
      (sender.acknowledge ack now).2 =
        confirmed.map (fun entry => ackOf entry.2.2) ++
          lost.map fun entry => lossOf .outOfWindow entry.2 := by
  rcases exists_confirmed agrees now ack.newest ack.pairwise_offsets with
    ⟨confirmed, announced, ordered, members⟩
  have left := agrees_run_confirm agrees now (reportedIds ack)
  have unresolved : ∀ {slot record},
      (Transition.run (confirm now) sender (reportedIds ack)).1.pending.record? slot =
          some record ↔
        sender.pending.record? slot = some record ∧ ¬ ack.Names record := by
    intro slot record
    rw [record?_run_confirm agrees now, reported_iff]
  have ids := ids_run_confirm now sender (reportedIds ack)
  rw [← reportedIds_eq] at announced
  rw [acknowledge_of_accepts accepted, announced]
  generalize (Transition.run (confirm now) sender (reportedIds ack)).1 = rest at *
  have prunedIds := ids_pruneBefore rest (ack.newest.retreat Acknowledgment.width)
  refine ⟨confirmed, rest.condemned (ack.newest.retreat Acknowledgment.width), ?_,
    congrArg _ (events_pruneBefore left _)⟩
  constructor
  case confirms =>
    intro offset slot record
    simp only [members, Acknowledgment.mem_offsets, Acknowledgment.reportsAt_iff]
  case nearestFirst => exact ordered
  case loses =>
    intro slot record
    rw [mem_condemned left, unresolved, and_assoc]
  case farthestFirst => exact ordered_condemned rest _
  case keeps =>
    intro slot record
    rw [record?_pruneBefore left]
    constructor
    · intro condition
      rcases condition with ⟨former, there, recent, rfl⟩
      rcases unresolved.mp there with ⟨found, unnamed⟩
      exact ⟨former, found, unnamed, recent, rfl, Record.latest?_forgetBefore recent⟩
    · intro condition
      rcases condition with ⟨former, found, unnamed, recent, same, _⟩
      exact ⟨former, unresolved.mpr ⟨found, unnamed⟩, recent, same⟩
  case sameIds => exact ⟨prunedIds.1.trans ids.1, prunedIds.2.trans ids.2⟩

/-- What an acknowledgment has left holds no id that it could resolve or forget. -/
theorem Resolves.again {before after : Sender config} {ack : Acknowledgment}
    {confirmed : List (Nat × Nat × Record PendingItem)} {lost : List (Nat × Record PendingItem)}
    (resolves : Resolves before ack after confirmed lost) (agrees : after.pending.Agrees)
    (later : Instant) : after.acknowledge ack later = (after, []) := by
  have unheld : ∀ id ∈ reportedIds ack, after.pending.holder? id = none := by
    intro id member
    rcases ReceiptWindow.mem_observed_ofAcknowledgment.mp member with ⟨offset, reports, rfl⟩
    cases holder : after.pending.holder? (ack.newest.retreat offset) with
    | none => rfl
    | some slot =>
        rcases agrees.holder?_eq_some_iff.mp holder with ⟨record, found, listed⟩
        rcases resolves.keeps.mp found with ⟨former, _, unnamed, _, rfl, _⟩
        exact absurd ⟨offset, reports, List.mem_of_mem_filter listed⟩ unnamed
  have recent : ∀ id slot, after.pending.holder? id = some slot →
      ¬ id.isBefore (ack.newest.retreat Acknowledgment.width) := by
    intro id slot holder
    rcases agrees.holder?_eq_some_iff.mp holder with ⟨record, found, listed⟩
    rcases resolves.keeps.mp found with ⟨former, _, _, _, rfl, _⟩
    simpa using (List.mem_filter.mp listed).2
  by_cases accepted : after.Accepts ack
  · rw [acknowledge_of_accepts accepted, run_confirm_of_unheld later unheld,
      pruneBefore_of_recent recent]
    rfl
  · exact acknowledge_of_not_accepts accepted later

/-- In every state that calls lead to, an acknowledgment up to the newest transmission
confirms the items that it reports, gives up on the others that are too old, and leaves the
rest without their ids that are too old.  Any other acknowledgment changes nothing, and
neither does a repetition. -/
theorem effect_acknowledge (config : Config) (calls : List Call) (ack : Acknowledgment)
    (now : Instant) :
    let sender := reached config calls
    let after := (sender.acknowledge ack now).1
    (if ack.newest.isAtOrBefore sender.nextTransmissionId.previous then
      ∃ confirmed lost, Resolves sender ack after confirmed lost ∧
        (sender.acknowledge ack now).2 =
          confirmed.map (fun entry => ackOf entry.2.2) ++
            lost.map fun entry => lossOf .outOfWindow entry.2
    else sender.acknowledge ack now = (sender, [])) ∧
    ∀ later, after.acknowledge ack later = (after, []) := by
  intro sender after
  have agrees := agrees_reached config calls
  split
  · next accepted =>
    rcases resolves_acknowledge agrees accepted now with ⟨confirmed, lost, resolves, events⟩
    rcases acknowledge_performs sender ack now with ⟨_, moves, _⟩
    exact ⟨⟨confirmed, lost, resolves, events⟩, resolves.again (moves.agrees agrees)⟩
  · next refused =>
    have ignored := acknowledge_of_not_accepts refused now
    have same : after = sender := congrArg Prod.fst ignored
    refine ⟨ignored, ?_⟩
    intro later
    rw [same]
    exact acknowledge_of_not_accepts refused later

end Sender

end ReliableDatagram
