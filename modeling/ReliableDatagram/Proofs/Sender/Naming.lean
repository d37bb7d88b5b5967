import ReliableDatagram.Proofs.Sender.Sending
import ReliableDatagram.Proofs.Table.Registration
import ReliableDatagram.Proofs.Transition

/-!
# The id that names a transmission

Every transmission draws the next id, and the item is filed under it.  The segment lists the
ids in the order of filing, so the new id comes last, unless the item is filed under it
already: the ids have started over since it was drawn, and then it stays where it was
(`Record.Buries`).  `named_by_fresh` says of each transmission of a run which of the two
happens.
-/

namespace ReliableDatagram

namespace Record

variable {α : Type} {record : Record α} {key : SeqId}

/-- Whether the record lists a key before its latest one. -/
def Buries (record : Record α) (key : SeqId) : Prop :=
  key ∈ record.keys ∧ record.latest? ≠ some key

/-- The keys of the record once it is filed under one more. -/
def keysWith (record : Record α) (key : SeqId) : List SeqId :=
  if key ∈ record.keys then record.keys else record.keys ++ [key]

theorem mem_keysWith (record : Record α) (key : SeqId) : key ∈ record.keysWith key := by
  unfold keysWith
  split
  · assumption
  · exact List.mem_append_right _ (List.mem_singleton.mpr rfl)

/-- A key comes last when the record is filed under it, unless it was listed before. -/
theorem getLast?_keysWith : (record.keysWith key).getLast? = some key ↔ ¬ record.Buries key := by
  unfold keysWith Buries
  split
  · next listed => simp [listed, latest?]
  · next fresh => simp [fresh]

end Record

namespace Table

variable {α : Type} {table after : Table α} {key : SeqId} {slot : Nat} {displaced : Option Nat}
  {record filed : Record α}

/-- Registration adds the key to those of the record, if it is not one of them. -/
theorem Agrees.filed_eq (agrees : table.Agrees)
    (registered : table.register key slot = .ok (after, displaced))
    (found : table.record? slot = some record) (there : after.record? slot = some filed) :
    filed = { record with keys := record.keysWith key } := by
  by_cases listed : key ∈ record.keys
  · rw [register_of_held (agrees.holder?_of_mem found listed)] at registered
    cases registered
    cases found.symm.trans there
    rw [Record.keysWith, if_pos listed]
  · have elsewhere := agrees.holder?_ne_of_notMem found listed
    rcases register_eq_ok registered with ⟨unchanged, _⟩ | ⟨_, _, _, _, rfl, _⟩
    · rcases unchanged with vacant | held
      · cases vacant.symm.trans found
      · exact absurd held elsewhere
    · cases (record?_refile_self elsewhere found).symm.trans there
      rw [Record.keysWith, if_neg listed]
      rfl

end Table

namespace Sender

variable {config : Config} {sender : Sender config}

/-- Whether a pending item is filed under just the ids that a segment lists. -/
def Files (sender : Sender config) (segment : Segment) : Prop :=
  ∃ slot record, sender.pending.record? slot = some record ∧
    record.primary = segment.dataId ∧ record.keys = segment.transmissionIds

/-! ## A new item -/

/-- A new item goes out under the next id, and is filed under it alone. -/
theorem send_names {after : Sender config} {payload : Payload} {now : Instant}
    {segment : Segment} {events : List SendEvent} (agrees : sender.pending.Agrees)
    (accepted : sender.send payload now = .ok (after, segment, events)) :
    segment.transmissionIds = [sender.makeRoom.1.nextTransmissionId] ∧ after.Files segment := by
  have fits := send_isOk_iff.mp ⟨_, accepted⟩
  rcases sender.send_eq_ok fits now with ⟨pending, displaced, registered, equal⟩
  rw [accepted] at equal
  simp only [Except.ok.injEq, Prod.mk.injEq] at equal
  rcases equal with ⟨rfl, rfl, rfl⟩
  have room : sender.makeRoom.1.pending.Agrees := by
    rcases sender.makeRoom_performs with ⟨_, moves, _⟩
    exact moves.agrees agrees
  rcases room.register_create registered with ⟨moved, elsewhere, holder⟩
  have other : displaced ≠ some sender.makeRoom.1.pending.freshSlot := by
    rw [holder]
    exact elsewhere
  refine ⟨rfl, sender.makeRoom.1.pending.freshSlot, ⟨sender.makeRoom.1.nextDataId,
    [sender.makeRoom.1.nextTransmissionId], now, ⟨payload, 0, now⟩⟩, ?_, rfl, rfl⟩
  have kept := (sender.makeRoom.1.admitted payload pending).record?_giveUpOrphan other
  have filed : (sender.makeRoom.1.admitted payload pending).pending = pending := rfl
  rw [kept, filed, moved, Table.record?_refile_of_ne elsewhere, if_pos rfl,
    Table.record?_create, if_pos rfl]
  rfl

/-! ## An item that goes out again -/

theorem filterMap_getLeft?_inr (events : List SendEvent) :
    (events.map (Sum.inr : SendEvent → Segment ⊕ SendEvent)).filterMap Sum.getLeft? = [] := by
  simp [List.filterMap_map, Function.comp_def]

/-- An item that is visited goes out at most once, with the next id among its ids. -/
theorem segments_revisit (agrees : sender.pending.Agrees) (timeout : Duration) (now : Instant)
    (slot : Nat) :
    (revisit timeout now sender slot).2.filterMap Sum.getLeft? = [] ∨
      ∃ record segment, sender.pending.record? slot = some record ∧
        segment = ⟨record.primary, record.keysWith sender.nextTransmissionId,
          record.value.payload⟩ ∧
        (revisit timeout now sender slot).2.filterMap Sum.getLeft? = [segment] ∧
        (revisit timeout now sender slot).1.Files segment := by
  have visit := revisit_cases timeout now sender slot
  generalize revisit timeout now sender slot = answer at visit ⊢
  cases visit with
  | idle early => exact .inl rfl
  | giveUp reason found => exact .inl (filterMap_getLeft?_inr _)
  | forfeit found allowed refused => exact .inl (filterMap_getLeft?_inr _)
  | @again record _ pending displaced found waited allowed registered filed different =>
      have same := agrees.filed_eq registered found filed
      subst same
      refine .inr ⟨record, _, found, rfl, ?_, slot, ?_⟩
      · rw [List.filterMap_append, filterMap_getLeft?_inr]
        rfl
      · have kept := ((sender.filed pending).repeated now slot).record?_giveUpOrphan different
        have noted := (sender.filed pending).record?_repeated now slot slot
        have stored : (sender.filed pending).pending.record? slot = _ := filed
        rw [if_pos rfl, stored] at noted
        exact ⟨_, kept.trans noted, rfl, rfl⟩

/-- The sender in the midst of a retransmission, when some slots were visited. -/
def revisited (sender : Sender config) (now : Instant) (slots : List Nat) : Sender config :=
  (Transition.run (revisit sender.timeout now) sender slots).1

/-- What the visits to slots transmit. -/
def resentFrom (sender : Sender config) (now : Instant) (slots : List Nat) : List Segment :=
  (Transition.run (revisit sender.timeout now) sender slots).2.filterMap Sum.getLeft?

theorem transmitted_parts (outputs : List (Segment ⊕ SendEvent)) :
    transmitted (outputs.map (Sum.elim Output.resent Output.resolved)) =
      outputs.filterMap Sum.getLeft? := by
  have parts := (alike_parts outputs).segments
  rw [List.filterMap_append, filterMap_segment?_resent, filterMap_segment?_resolved,
    List.append_nil] at parts
  exact parts

theorem Traced.revisited {items : List Item} {segments : List Segment}
    (room : config.retransmitLimit < Capacity.keysPerRecord)
    (traced : Traced sender items segments) (now : Instant) (slots : List Nat) :
    Traced (sender.revisited now slots) items (segments ++ sender.resentFrom now slots) := by
  have performs := performs_run (revisit_performs sender.timeout now) sender slots
  have after := traced.performs room performs
  have sent : itemsSent ((Transition.run (revisit sender.timeout now) sender slots).2.map
      (Sum.elim Output.resent Output.resolved)) = [] := by
    rw [itemsSent, (alike_parts _).sent, List.filterMap_append, filterMap_sent?_resent,
      filterMap_sent?_resolved]
    rfl
  rw [sent, List.append_nil, transmitted_parts] at after
  exact after

/-! ## Calls -/

/-- How a call transmits a segment for which an id was drawn.  A new item is filed under this
id alone.  An item that goes out again is filed under it besides, and the id comes last unless
the item was filed under it before. -/
inductive Names (sender : Sender config) (fresh : SeqId) (segment : Segment) : Call → Prop where
  | new {payload : Payload} {now : Instant} (ids : segment.transmissionIds = [fresh])
      (files : (step sender (.send payload now)).1.Files segment) :
      Names sender fresh segment (.send payload now)
  | again {now : Instant} {done left : List Nat} {slot : Nat} {record : Record PendingItem}
      (visits : sender.oldestFirst = done ++ slot :: left)
      (stored : (sender.revisited now done).pending.record? slot = some record)
      (item : segment.dataId = record.primary ∧ segment.payload = record.value.payload)
      (latest_iff : segment.latest? = some fresh ↔ ¬ record.Buries fresh)
      (files : (sender.revisited now (done ++ [slot])).Files segment) :
      Names sender fresh segment (.retransmit now)

namespace Traced

variable {items : List Item} {segments : List Segment} {index : Nat} {segment : Segment}

theorem names_send (traced : Traced sender items segments)
    (room : config.retransmitLimit < Capacity.keysPerRecord) {payload : Payload}
    {now : Instant}
    (found : (transmitted (step sender (.send payload now)).2)[index]? = some segment) :
    segment.transmissionIds =
        [config.initialTransmissionId.advance (segments.length + index)] ∧
      (step sender (.send payload now)).1.Files segment := by
  cases accepted : sender.send payload now with
  | error error =>
      simp only [step, accepted] at found
      cases found
  | ok answer =>
      rcases answer with ⟨after, sent, events⟩
      simp only [step, accepted, transmitted_sent] at found ⊢
      have alone : index = 0 ∧ sent = segment := by
        simpa [List.getElem?_singleton] using found
      rcases alone with ⟨rfl, rfl⟩
      rcases send_names traced.agrees accepted with ⟨ids, files⟩
      have next := (traced.performs room sender.makeRoom_performs).nextTransmissionId
      rw [transmitted_resolved, List.append_nil] at next
      exact ⟨next ▸ ids, files⟩

theorem names_retransmit (traced : Traced sender items segments)
    (room : config.retransmitLimit < Capacity.keysPerRecord) {now : Instant}
    (found : (sender.retransmit now).2.1[index]? = some segment) :
    let fresh := config.initialTransmissionId.advance (segments.length + index)
    fresh ∈ segment.transmissionIds ∧
      (segments.length + index < SeqId.space → segment.latest? = some fresh) ∧
      Names sender fresh segment (.retransmit now) := by
  intro fresh
  rcases Transition.exists_step_of_getElem? found with
    ⟨done, slot, left, within, visits, position, resent⟩
  have midst := traced.revisited room now done
  change index = (sender.resentFrom now done).length + within at position
  rcases segments_revisit midst.agrees sender.timeout now slot with
    nothing | ⟨record, other, stored, named, single, files⟩
  · cases (congrArg (·[within]?) nothing).symm.trans resent
  · have alone : within = 0 ∧ other = segment := by
      have here := (congrArg (·[within]?) single).symm.trans resent
      simpa [List.getElem?_singleton] using here
    rcases alone with ⟨rfl, rfl⟩
    have drawn : (sender.revisited now done).nextTransmissionId = fresh := by
      rw [midst.nextTransmissionId, List.length_append]
      change _ = config.initialTransmissionId.advance (segments.length + index)
      rw [position, Nat.add_zero]
    rw [drawn] at named
    have latest : other.latest? = some fresh ↔ ¬ record.Buries fresh := by
      rw [named]
      exact Record.getLast?_keysWith
    refine ⟨?_, ?_, .again visits stored (named ▸ ⟨rfl, rfl⟩) latest ?_⟩
    · rw [named]
      exact record.mem_keysWith fresh
    · intro few
      rw [latest]
      intro buried
      have unheld := midst.unheld (by rw [List.length_append]; omega)
      rw [drawn, midst.agrees.holder?_of_mem stored buried.1] at unheld
      cases unheld
    · rw [Sender.revisited, Transition.run_concat]
      exact files

end Traced

/-! ## Runs -/

/-- Each transmission of a run lists the id that was drawn for it, and this is the last id
listed and the latest one of the item, unless the item goes out again and was filed under the
id before.  Among the first `SeqId.space` transmissions none was. -/
theorem named_by_fresh (valid : config.Valid) (calls : List Call) {index : Nat}
    {segment : Segment}
    (found : (transmitted (Transition.run step (start config) calls).2)[index]? =
      some segment) :
    let fresh := config.initialTransmissionId.advance index
    fresh ∈ segment.transmissionIds ∧
      (index < SeqId.space → segment.latest? = some fresh) ∧
      ∃ first call rest, calls = first ++ call :: rest ∧
        Names (reached config first) fresh segment call := by
  have room := valid.retransmitLimit_lt
  rcases Transition.exists_step_of_getElem? found with
    ⟨first, call, rest, offset, rfl, place, filled⟩
  have traced := traced_reached room first
  change index = (transmitted _).length + offset at place
  change (transmitted (step (reached config first) call).2)[offset]? = some segment at filled
  rw [place]
  cases call with
  | acknowledge ack now =>
      simp only [step, transmitted_resolved] at filled
      cases filled
  | send payload now =>
      rcases traced.names_send room filled with ⟨ids, files⟩
      refine ⟨ids ▸ List.mem_singleton.mpr rfl, fun _ => ?_, first, _, rest, rfl, .new ids files⟩
      rw [Segment.latest?, ids]
      rfl
  | retransmit now =>
      simp only [step, transmitted_resent] at filled
      rcases traced.names_retransmit room filled with ⟨listed, early, names⟩
      exact ⟨listed, early, first, _, rest, rfl, names⟩

theorem named_by_fresh_again :
    let calls : List Call := [.send [7] ⟨0⟩, .retransmit ⟨2000000000⟩]
    let segment : Segment := ⟨.ofNat 0, [.ofNat 0, .ofNat 1], [7]⟩
    ({} : Config).Valid ∧
      (transmitted (Transition.run step (start {}) calls).2)[1]? = some segment ∧
      .ofNat 1 ∈ segment.transmissionIds ∧ segment.latest? = some (.ofNat 1) ∧
      ∃ first call rest, calls = first ++ call :: rest ∧
        Names (reached {} first) (.ofNat 1) segment call := by
  have valid : ({} : Config).Valid := Config.fault?_eq_none_iff.mp (by decide)
  have found : (transmitted (Transition.run step (start {})
      [.send [7] ⟨0⟩, .retransmit ⟨2000000000⟩]).2)[1]? =
        some ⟨.ofNat 0, [.ofNat 0, .ofNat 1], [7]⟩ := by decide +kernel
  rcases named_by_fresh valid _ found with ⟨listed, early, names⟩
  exact ⟨valid, found, listed, early (by decide), names⟩

end Sender

end ReliableDatagram
