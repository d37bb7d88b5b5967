import ReliableDatagram.Proofs.SeqOrder
import ReliableDatagram.Proofs.Sender.Moves
import ReliableDatagram.Proofs.Transition

/-!
# What an acknowledgment does to the pending items

An acknowledgment acts in two rounds.  The first resolves each item that has one
of the reported ids among its transmission ids (`record?_run_confirm`).  The
second gives up on each item left whose latest transmission id is before a
threshold (`mem_condemned`), and announces just these (`events_pruneBefore`).  The
others lose their ids before the threshold and nothing else (`record?_pruneBefore`).
-/

namespace ReliableDatagram

namespace Record

variable {α : Type}

/-- The record without its keys before a threshold. -/
def forgetBefore (record : Record α) (threshold : SeqId) : Record α :=
  { record with keys := record.keys.filter fun key => !key.isBefore threshold }

theorem latest?_forgetBefore {record : Record α} {threshold : SeqId}
    (recent : ∀ latest, record.latest? = some latest → ¬ latest.isBefore threshold) :
    (record.forgetBefore threshold).latest? = record.latest? := by
  cases newest : record.latest? with
  | none =>
      have keys : record.keys = [] := List.getLast?_eq_none_iff.mp newest
      simp [latest?, forgetBefore, keys]
  | some latest =>
      rcases List.getLast?_eq_some_iff.mp newest with ⟨front, keys⟩
      have kept := recent latest newest
      simp [latest?, forgetBefore, keys, kept]

end Record

namespace Sender

variable {config : Config} {sender : Sender config}

/-! ## Confirmation -/

/-- Whether one of the ids is a transmission id of the item. -/
def Reported (ids : List SeqId) (record : Record PendingItem) : Prop :=
  ∃ id ∈ ids, id ∈ record.keys

theorem record?_confirm (agrees : sender.pending.Agrees) (now : Instant) (id : SeqId)
    {slot : Nat} {record : Record PendingItem} :
    (confirm now sender id).1.pending.record? slot = some record ↔
      sender.pending.record? slot = some record ∧ id ∉ record.keys := by
  cases holder : sender.pending.holder? id with
  | none =>
      have nothing : confirm now sender id = (sender, []) := by simp [confirm, holder]
      rw [nothing]
      constructor
      · intro found
        refine ⟨found, fun member => ?_⟩
        rw [agrees.holder?_of_mem found member] at holder
        cases holder
      · intro kept
        exact kept.1
  | some place =>
      rcases agrees.holder?_eq_some_iff.mp holder with ⟨resolved, there, listed⟩
      rw [pending_confirm holder there now, Table.record?_remove]
      split
      · next same =>
        subst same
        constructor
        · intro vacant
          cases vacant
        · intro kept
          rw [kept.1] at there
          exact absurd (Option.some.inj there ▸ listed) kept.2
      · next different =>
        constructor
        · intro found
          exact ⟨found, fun member => different (agrees.slot_unique found member there listed)⟩
        · intro kept
          exact kept.1

theorem agrees_confirm (agrees : sender.pending.Agrees) (now : Instant) (id : SeqId) :
    (confirm now sender id).1.pending.Agrees :=
  (confirm_moves now sender id).agrees agrees

theorem agrees_run_confirm (agrees : sender.pending.Agrees) (now : Instant)
    (ids : List SeqId) : (Transition.run (confirm now) sender ids).1.pending.Agrees :=
  Transition.run_preserves (confirm now) (fun sender => sender.pending.Agrees)
    (fun _ id agrees => agrees_confirm agrees now id) sender ids agrees

/-- The items left are those of which no transmission was reported. -/
theorem record?_run_confirm (agrees : sender.pending.Agrees) (now : Instant)
    (ids : List SeqId) {slot : Nat} {record : Record PendingItem} :
    (Transition.run (confirm now) sender ids).1.pending.record? slot = some record ↔
      sender.pending.record? slot = some record ∧ ¬ Reported ids record := by
  induction ids generalizing sender with
  | nil => simp [Reported]
  | cons id rest ih =>
      rw [Transition.run_cons]
      rw [ih (agrees_confirm agrees now id), record?_confirm agrees now id, and_assoc]
      simp [Reported]

theorem ids_run_confirm (now : Instant) (sender : Sender config) (ids : List SeqId) :
    (Transition.run (confirm now) sender ids).1.dataIds = sender.dataIds ∧
      (Transition.run (confirm now) sender ids).1.transmissionIds = sender.transmissionIds := by
  apply Transition.run_preserves (confirm now) fun after =>
    after.dataIds = sender.dataIds ∧ after.transmissionIds = sender.transmissionIds
  · intro before id same
    rcases ids_confirm now before id with ⟨data, transmissions⟩
    exact ⟨data.trans same.1, transmissions.trans same.2⟩
  · exact ⟨rfl, rfl⟩

theorem run_confirm_of_unheld (now : Instant) {ids : List SeqId}
    (unheld : ∀ id ∈ ids, sender.pending.holder? id = none) :
    Transition.run (confirm now) sender ids = (sender, []) := by
  induction ids with
  | nil => rfl
  | cons id rest ih =>
      rcases List.forall_mem_cons.mp unheld with ⟨first, others⟩
      have nothing : confirm now sender id = (sender, []) := by simp [confirm, first]
      rw [Transition.run_cons, nothing, ih others]
      rfl

theorem isAcked_of_mem_run_confirm (now : Instant) (sender : Sender config)
    (ids : List SeqId) :
    ∀ event ∈ (Transition.run (confirm now) sender ids).2, event.isAcked := by
  intro event member
  rcases Transition.mem_run member with ⟨state, id, confirmed⟩
  simp only [confirm] at confirmed
  split at confirmed
  · cases confirmed
  · split at confirmed
    · cases confirmed
    · rw [List.mem_singleton.mp confirmed]
      rfl

/-! ## Giving up -/

/-- The announcement that an item was given up on. -/
def lossOf (reason : GiveUpReason) (record : Record PendingItem) : SendEvent :=
  .unacked record.primary record.value.payload reason

/-- Giving up on different slots announces the item of each. -/
theorem events_run_giveUp (reason : GiveUpReason) (sender : Sender config)
    {slots : List Nat} (distinct : slots.Nodup) :
    (Transition.run (giveUp reason) sender slots).2 =
      slots.filterMap fun slot => (sender.pending.record? slot).map (lossOf reason) := by
  induction slots generalizing sender with
  | nil => rfl
  | cons slot rest ih =>
      rcases List.nodup_cons.mp distinct with ⟨fresh, distinct⟩
      rw [Transition.run_cons, ih _ distinct]
      cases found : sender.pending.record? slot with
      | none =>
          rw [giveUp_of_vacant found]
          simp [found]
      | some record =>
          rw [giveUp_of_found found]
          have others : ∀ other ∈ rest,
              ((sender.pending.remove slot).record? other).map (lossOf reason) =
                (sender.pending.record? other).map (lossOf reason) := by
            intro other member
            rw [Table.record?_remove, if_neg]
            intro same
            exact fresh (same ▸ member)
          rw [List.filterMap_congr others, List.filterMap_cons, found]
          rfl

theorem record?_run_giveUp (reason : GiveUpReason) (sender : Sender config) (slots : List Nat)
    (slot : Nat) :
    (Transition.run (giveUp reason) sender slots).1.pending.record? slot =
      if slot ∈ slots then none else sender.pending.record? slot := by
  induction slots generalizing sender with
  | nil => rfl
  | cons first rest ih =>
      have emptied : (giveUp reason sender first).1.pending.record? slot =
          if slot = first then none else sender.pending.record? slot := by
        cases found : sender.pending.record? first with
        | none =>
            rw [giveUp_of_vacant found]
            split
            · next same => rw [same, found]
            · rfl
        | some record => rw [giveUp_of_found found, Table.record?_remove]
      rw [Transition.run_cons, ih, emptied]
      cases Decidable.em (slot ∈ rest) with
      | inl later => simp [later]
      | inr never => simp [never]

/-! ## Pruning -/

/-- The ids before a threshold are less than half the space away from the farthest of
them. -/
theorem isBefore_eq_decide (id threshold : SeqId) :
    id.isBefore threshold =
      decide ((threshold.advance (SeqId.halfSpace + 1)).distanceTo id <
        SeqId.halfSpace - 1) := by
  have ahead := SeqId.distanceTo_trans (threshold.advance (SeqId.halfSpace + 1)) threshold id
  have back := SeqId.distanceTo_comm (threshold.advance (SeqId.halfSpace + 1)) threshold
  have behind := SeqId.distanceTo_comm threshold id
  have near := SeqId.distanceTo_lt id threshold
  rw [SeqId.distanceTo_advance_of_lt threshold (by decide)] at back
  rw [Bool.eq_iff_iff, SeqId.isBefore_iff, decide_eq_true_eq]
  simp only [SeqId.space, SeqId.halfSpace] at *
  omega

theorem mem_idsBefore {threshold id : SeqId} {slot : Nat} :
    (id, slot) ∈ sender.idsBefore threshold ↔
      sender.pending.holder? id = some slot ∧ id.isBefore threshold := by
  exact SeqMap.mem_takeWhile_entriesFrom fun entry => isBefore_eq_decide entry.1 threshold

/-- The slot and the item that an id leads to, if it is the latest id of the item. -/
def latestHolder? (sender : Sender config) (entry : SeqId × Nat) :
    Option (Nat × Record PendingItem) :=
  if sender.pending.isLatest entry.1 entry.2 then
    (sender.pending.record? entry.2).map (entry.2, ·)
  else none

theorem latestHolder?_eq_some_iff {entry : SeqId × Nat} {slot : Nat}
    {record : Record PendingItem} :
    sender.latestHolder? entry = some (slot, record) ↔
      slot = entry.2 ∧ sender.pending.record? slot = some record ∧
        record.latest? = some entry.1 := by
  simp only [latestHolder?, Table.isLatest]
  constructor
  · intro chosen
    cases found : sender.pending.record? entry.2 with
    | none => simp [found] at chosen
    | some stored =>
        simp only [found, Option.any_some, beq_iff_eq, Option.map_some] at chosen
        split at chosen
        · next newest =>
          cases chosen
          exact ⟨rfl, found, newest⟩
        · cases chosen
  · intro condition
    rcases condition with ⟨rfl, found, newest⟩
    simp [found, newest]

/-- The items whose latest transmission id is before a threshold, in the order of these
ids, with their slots. -/
def condemned (sender : Sender config) (threshold : SeqId) :
    List (Nat × Record PendingItem) :=
  (sender.idsBefore threshold).filterMap sender.latestHolder?

theorem mem_condemned (agrees : sender.pending.Agrees) {threshold : SeqId} {slot : Nat}
    {record : Record PendingItem} :
    (slot, record) ∈ sender.condemned threshold ↔
      sender.pending.record? slot = some record ∧
        ∃ latest, record.latest? = some latest ∧ latest.isBefore threshold := by
  rw [condemned, List.mem_filterMap]
  constructor
  · intro listed
    rcases listed with ⟨⟨id, place⟩, member, chosen⟩
    rcases latestHolder?_eq_some_iff.mp chosen with ⟨_, found, newest⟩
    exact ⟨found, id, newest, (mem_idsBefore.mp member).2⟩
  · intro condition
    rcases condition with ⟨found, latest, newest, before⟩
    have holder := agrees.holder?_of_mem found (Record.mem_of_latest? newest)
    refine ⟨(latest, slot), mem_idsBefore.mpr ⟨holder, before⟩, ?_⟩
    exact latestHolder?_eq_some_iff.mpr ⟨rfl, found, newest⟩

theorem nodup_condemned (sender : Sender config) (threshold : SeqId) :
    ((sender.condemned threshold).map Prod.fst).Nodup := by
  refine List.pairwise_map.mpr
    (List.Pairwise.filterMap _ ?_ (pairwise_idsBefore sender threshold))
  intro left right different chosen chosenLeft other chosenRight same
  apply different
  rcases latestHolder?_eq_some_iff.mp chosenLeft with ⟨_, leftFound, leftLatest⟩
  rcases latestHolder?_eq_some_iff.mp chosenRight with ⟨_, rightFound, rightLatest⟩
  rw [same, rightFound] at leftFound
  rw [← Option.some.inj leftFound, rightLatest] at leftLatest
  exact (Option.some.inj leftLatest).symm

/-- The condemned items come in the order of their latest ids, the farthest one first. -/
theorem ordered_condemned (sender : Sender config) (threshold : SeqId) :
    (sender.condemned threshold).Pairwise fun left right =>
      ∃ earlier later, left.2.latest? = some earlier ∧ right.2.latest? = some later ∧
        (threshold.advance (SeqId.halfSpace + 1)).distanceTo earlier <
          (threshold.advance (SeqId.halfSpace + 1)).distanceTo later := by
  refine List.Pairwise.filterMap _ ?_ (ordered_idsBefore sender threshold)
  intro left right farther chosenLeft chosen chosenRight other
  rcases latestHolder?_eq_some_iff.mp chosen with ⟨_, _, leftLatest⟩
  rcases latestHolder?_eq_some_iff.mp other with ⟨_, _, rightLatest⟩
  exact ⟨left.1, right.1, leftLatest, rightLatest, farther⟩

/-- The ids before a threshold that later transmissions have superseded. -/
def supersededBefore (sender : Sender config) (threshold : SeqId) : List SeqId :=
  ((sender.idsBefore threshold).filter fun entry =>
    !sender.pending.isLatest entry.1 entry.2).map (·.1)

/-- Pruning forgets the superseded ids and gives up on the condemned items. -/
theorem pruneBefore_eq (sender : Sender config) (threshold : SeqId) :
    sender.pruneBefore threshold =
      Transition.run (giveUp .outOfWindow)
        { sender with
          pending := (sender.supersededBefore threshold).foldl Table.release sender.pending }
        ((sender.condemned threshold).map Prod.fst) := by
  have lost : ((sender.idsBefore threshold).filter fun entry =>
      sender.pending.isLatest entry.1 entry.2).map (·.2) =
        (sender.condemned threshold).map Prod.fst := by
    rw [condemned, List.map_filterMap, ← List.filterMap_eq_map, List.filterMap_filter]
    apply List.filterMap_congr
    intro entry _
    rw [latestHolder?]
    split
    · next late =>
      cases found : sender.pending.record? entry.2 with
      | none => simp [Table.isLatest, found] at late
      | some record => rfl
    · rfl
  rw [pruneBefore, supersededBefore, List.foldl_map, ← lost]

theorem events_pruneBefore (agrees : sender.pending.Agrees) (threshold : SeqId) :
    (sender.pruneBefore threshold).2 =
      (sender.condemned threshold).map fun entry => lossOf .outOfWindow entry.2 := by
  rw [pruneBefore_eq, events_run_giveUp _ _ (nodup_condemned sender threshold),
    List.filterMap_map, ← List.filterMap_eq_map]
  apply List.filterMap_congr
  intro entry member
  have released := agrees.record?_foldl_release (sender.supersededBefore threshold) entry.1
  rw [((mem_condemned agrees).mp member).1] at released
  simp only [Function.comp_apply, released, Option.map_some, lossOf, Record.foldl_dropKey]

/-- While an item keeps its latest id, its ids before a threshold are superseded. -/
theorem mem_supersededBefore (agrees : sender.pending.Agrees) {threshold : SeqId} {slot : Nat}
    {record : Record PendingItem} (found : sender.pending.record? slot = some record)
    (recent : ∀ latest, record.latest? = some latest → ¬ latest.isBefore threshold)
    {key : SeqId} (listed : key ∈ record.keys) :
    key ∈ sender.supersededBefore threshold ↔ key.isBefore threshold := by
  rw [supersededBefore, List.mem_map]
  constructor
  · intro superseded
    rcases superseded with ⟨entry, member, rfl⟩
    exact (mem_idsBefore.mp (List.mem_filter.mp member).1).2
  · intro before
    have holder := agrees.holder?_of_mem found listed
    refine ⟨(key, slot), List.mem_filter.mpr ⟨mem_idsBefore.mpr ⟨holder, before⟩, ?_⟩, rfl⟩
    have late : record.latest? ≠ some key := fun newest => recent key newest before
    simp [Table.isLatest, found, late]

/-- What is left after pruning are the items with a recent latest id, each without its ids
before the threshold. -/
theorem record?_pruneBefore (agrees : sender.pending.Agrees) (threshold : SeqId) {slot : Nat}
    {record : Record PendingItem} :
    (sender.pruneBefore threshold).1.pending.record? slot = some record ↔
      ∃ before, sender.pending.record? slot = some before ∧
        (∀ latest, before.latest? = some latest → ¬ latest.isBefore threshold) ∧
        record = before.forgetBefore threshold := by
  have released := agrees.record?_foldl_release (sender.supersededBefore threshold) slot
  have forgotten : ∀ before, sender.pending.record? slot = some before →
      (∀ latest, before.latest? = some latest → ¬ latest.isBefore threshold) →
      (sender.supersededBefore threshold).foldl Record.dropKey before =
        before.forgetBefore threshold := by
    intro before found recent
    rw [Record.foldl_dropKey, Record.forgetBefore]
    congr 1
    apply List.filter_congr
    intro key listed
    rw [Bool.eq_iff_iff, decide_eq_true_eq, mem_supersededBefore agrees found recent listed]
    simp
  rw [pruneBefore_eq, record?_run_giveUp, released]
  constructor
  · intro left
    split at left
    · cases left
    · next spared =>
      rcases Option.map_eq_some_iff.mp left with ⟨before, found, rfl⟩
      have recent : ∀ latest, before.latest? = some latest → ¬ latest.isBefore threshold := by
        intro latest newest old
        apply spared
        exact List.mem_map.mpr
          ⟨(slot, before), (mem_condemned agrees).mpr ⟨found, latest, newest, old⟩, rfl⟩
      exact ⟨before, found, recent, forgotten before found recent⟩
  · intro condition
    rcases condition with ⟨before, found, recent, rfl⟩
    rw [if_neg, found, Option.map_some, forgotten before found recent]
    intro condemned
    rcases List.mem_map.mp condemned with ⟨⟨place, other⟩, member, rfl⟩
    rcases (mem_condemned agrees).mp member with ⟨there, latest, newest, old⟩
    rw [found] at there
    exact recent latest (Option.some.inj there ▸ newest) old

theorem ids_pruneBefore (sender : Sender config) (threshold : SeqId) :
    (sender.pruneBefore threshold).1.dataIds = sender.dataIds ∧
      (sender.pruneBefore threshold).1.transmissionIds = sender.transmissionIds := by
  rw [pruneBefore_eq]
  apply Transition.run_preserves (giveUp .outOfWindow) fun after =>
    after.dataIds = sender.dataIds ∧ after.transmissionIds = sender.transmissionIds
  · intro before slot same
    rcases ids_giveUp .outOfWindow before slot with ⟨data, transmissions⟩
    exact ⟨data.trans same.1, transmissions.trans same.2⟩
  · exact ⟨rfl, rfl⟩

theorem pruneBefore_of_recent {threshold : SeqId}
    (recent : ∀ id slot, sender.pending.holder? id = some slot → ¬ id.isBefore threshold) :
    sender.pruneBefore threshold = (sender, []) := by
  have none : sender.idsBefore threshold = [] := by
    apply List.eq_nil_iff_forall_not_mem.mpr
    intro entry member
    rcases mem_idsBefore.mp member with ⟨holder, before⟩
    exact recent entry.1 entry.2 holder before
  rw [pruneBefore_eq, condemned, supersededBefore, none]
  rfl

/-! ## The whole effect -/

/-- Whether an acknowledgment names a transmission that was made, or one before the
first. -/
def Accepts (sender : Sender config) (ack : Acknowledgment) : Prop :=
  ack.newest.isAtOrBefore sender.nextTransmissionId.previous

/-- The ids of the transmissions that an acknowledgment reports. -/
def reportedIds (ack : Acknowledgment) : List SeqId :=
  (ReceiptWindow.ofAcknowledgment ack).observed

theorem acknowledge_of_accepts {ack : Acknowledgment} (accepted : sender.Accepts ack)
    (now : Instant) :
    sender.acknowledge ack now =
      (((Transition.run (confirm now) sender (reportedIds ack)).1.pruneBefore
          (ack.newest.retreat Acknowledgment.width)).1,
        (Transition.run (confirm now) sender (reportedIds ack)).2 ++
          ((Transition.run (confirm now) sender (reportedIds ack)).1.pruneBefore
            (ack.newest.retreat Acknowledgment.width)).2) := by
  simp only [acknowledge, reportedIds]
  exact if_pos accepted

theorem acknowledge_of_not_accepts {ack : Acknowledgment} (ignored : ¬ sender.Accepts ack)
    (now : Instant) : sender.acknowledge ack now = (sender, []) :=
  if_neg ignored

/-- What is left are the items that were not reported and have a recent latest id, each
without its ids that are too old. -/
theorem record?_acknowledge (agrees : sender.pending.Agrees) {ack : Acknowledgment}
    (accepted : sender.Accepts ack) (now : Instant) {slot : Nat} {record : Record PendingItem} :
    (sender.acknowledge ack now).1.pending.record? slot = some record ↔
      ∃ before, sender.pending.record? slot = some before ∧
        ¬ Reported (reportedIds ack) before ∧
        (∀ latest, before.latest? = some latest →
          ¬ latest.isBefore (ack.newest.retreat Acknowledgment.width)) ∧
        record = before.forgetBefore (ack.newest.retreat Acknowledgment.width) := by
  have left := agrees_run_confirm agrees now (reportedIds ack)
  have unreported : ∀ before,
      (Transition.run (confirm now) sender (reportedIds ack)).1.pending.record? slot =
          some before ↔
        sender.pending.record? slot = some before ∧ ¬ Reported (reportedIds ack) before :=
    fun _ => record?_run_confirm agrees now (reportedIds ack)
  rw [acknowledge_of_accepts accepted]
  generalize Transition.run (confirm now) sender (reportedIds ack) = confirmed at *
  rw [record?_pruneBefore left]
  simp only [unreported, and_assoc]

/-- Whether an acknowledgment makes the sender give up on the pending item in a slot. -/
structure Condemns (sender : Sender config) (ack : Acknowledgment) (slot : Nat)
    (record : Record PendingItem) : Prop where
  accepted : sender.Accepts ack
  pending : sender.pending.record? slot = some record
  unreported : ¬ Reported (reportedIds ack) record
  outdated : ∃ latest, record.latest? = some latest ∧
    latest.isBefore (ack.newest.retreat Acknowledgment.width)

/-- An acknowledgment confirms items, and then gives up on those that it condemns and
on no others. -/
theorem events_acknowledge (agrees : sender.pending.Agrees) (ack : Acknowledgment)
    (now : Instant) :
    ∃ (confirmed : List SendEvent) (lost : List (Nat × Record PendingItem)),
      (sender.acknowledge ack now).2 =
        confirmed ++ lost.map (fun entry => lossOf .outOfWindow entry.2) ∧
      (∀ event ∈ confirmed, event.isAcked) ∧
      (lost.map Prod.fst).Nodup ∧
      ∀ slot record, (slot, record) ∈ lost ↔ sender.Condemns ack slot record := by
  by_cases accepted : sender.Accepts ack
  · have left := agrees_run_confirm agrees now (reportedIds ack)
    have unreported : ∀ {slot record},
        (Transition.run (confirm now) sender (reportedIds ack)).1.pending.record? slot =
            some record ↔
          sender.pending.record? slot = some record ∧ ¬ Reported (reportedIds ack) record :=
      record?_run_confirm agrees now (reportedIds ack)
    have acked := isAcked_of_mem_run_confirm now sender (reportedIds ack)
    rw [acknowledge_of_accepts accepted]
    generalize Transition.run (confirm now) sender (reportedIds ack) = confirmed at *
    refine ⟨confirmed.2, confirmed.1.condemned _, congrArg _ (events_pruneBefore left _), acked,
      nodup_condemned confirmed.1 _, ?_⟩
    intro slot record
    rw [mem_condemned left, unreported]
    constructor
    · intro condition
      exact ⟨accepted, condition.1.1, condition.1.2, condition.2⟩
    · intro condemns
      exact ⟨⟨condemns.pending, condemns.unreported⟩, condemns.outdated⟩
  · rw [acknowledge_of_not_accepts accepted]
    refine ⟨[], [], rfl, List.forall_mem_nil _, List.nodup_nil, ?_⟩
    intro slot record
    constructor
    · intro member
      cases member
    · intro condemns
      exact absurd condemns.accepted accepted

end Sender

end ReliableDatagram
