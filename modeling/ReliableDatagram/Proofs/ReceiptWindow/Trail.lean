import Mathlib.Data.List.Basic
import ReliableDatagram.Proofs.ReceiptWindow

/-!
# Positions of arrived ids

Ids repeat after `SeqId.space` of them.  A trail tells the arrivals of one run apart by
positions: integers that count from the first arrival, where each later id is placed by its
signed difference from the id at the largest position so far.

A receipt window that marked the same ids is the end of the trail: its anchor is the id at
the largest position, and offset `k` is set exactly when something arrived `k` positions
before (`Trail.shows_along`).  So it remembers the last `ReceiptWindow.capacity` positions and
nothing else (`Trail.last_positions_remembered`).  An acknowledgment keeps the offsets up to
`Acknowledgment.width` of this (`Trail.Shows.observed_acknowledgment`).
-/

namespace ReliableDatagram

/-- The arrived ids with their positions. -/
structure Trail where
  /-- The id at the largest position. -/
  anchor : SeqId
  /-- The largest position. -/
  top : Int
  /-- The ids in the order of their arrival, each with its position. -/
  places : List (Int × SeqId)
  deriving DecidableEq, Repr

namespace Trail

/-- The trail of one id, which stands at position 0. -/
def first (id : SeqId) : Trail := ⟨id, 0, [(0, id)]⟩

/-- The trail after one more id arrived.  An id exactly half the space from the anchor has
no position and is left out. -/
def extend (trail : Trail) (id : SeqId) : Trail :=
  if (trail.anchor.compare id).isNone then trail
  else
    let position := trail.top + id.diff trail.anchor
    { anchor := if trail.top < position then id else trail.anchor
      top := max trail.top position
      places := trail.places ++ [(position, id)] }

/-- The trail that ids leave, of which there is at least one. -/
def along (id : SeqId) (later : List SeqId) : Trail := later.foldl extend (first id)

/-- The id that arrived at a position. -/
def id? (trail : Trail) (position : Int) : Option SeqId :=
  (trail.places.find? fun place => place.1 == position).map Prod.snd

/-- Whether anything arrived at a position. -/
def Reached (trail : Trail) (position : Int) : Prop := ∃ id, (position, id) ∈ trail.places

/-- The positions of a trail end at its anchor, and each tells its id. -/
structure Sound (trail : Trail) : Prop where
  anchored : (trail.top, trail.anchor) ∈ trail.places
  le_top : ∀ {position id}, (position, id) ∈ trail.places → position ≤ trail.top
  named : ∀ {position id}, (position, id) ∈ trail.places →
    id = trail.anchor.retreat (trail.top - position).toNat

end Trail

namespace SeqId

theorem retreat_diff (newer : SeqId) {older : SeqId} {steps : Nat}
    (ahead : newer.diff older = .ofNat steps) : newer.retreat steps = older :=
  ReceiptWindow.retreat_offsetOf (show (ReceiptWindow.anchoredAt newer).offsetOf older = _ from ahead)

theorem advance_diff (older : SeqId) {newer : SeqId} {steps : Nat}
    (behind : older.diff newer = .negSucc steps) : older.advance (steps + 1) = newer :=
  ReceiptWindow.advance_offsetOf
    (show (ReceiptWindow.anchoredAt older).offsetOf newer = _ from behind)

/-- Unless two ids are half the space apart, each is as far ahead of the other as the other
is behind it. -/
theorem diff_comm {left right : SeqId} (ordered : (left.compare right).isNone = false) :
    right.diff left = -left.diff right := by
  have apart : left.distanceTo right ≠ halfSpace := fun half => by
    rw [compare_isNone_iff.mpr half] at ordered
    cases ordered
  have leftLt := toNat_lt left
  have rightLt := toNat_lt right
  rw [distanceTo_eq] at apart
  simp only [diff, Int.bmod_def, space, halfSpace] at *
  omega

end SeqId

namespace Trail

variable {trail : Trail}

/-- Positions grow past the point where the ids start over. -/
example : (along ⟨65535⟩ [⟨1⟩, ⟨0⟩]).places = [(0, ⟨65535⟩), (2, ⟨1⟩), (1, ⟨0⟩)] := by decide

/-! ## Sound trails -/

theorem sound_first (id : SeqId) : (first id).Sound where
  anchored := List.mem_singleton.mpr rfl
  le_top member := by
    rcases List.mem_singleton.mp member with ⟨⟩
    exact Int.le_refl 0
  named member := by
    rcases List.mem_singleton.mp member with ⟨⟩
    exact (SeqId.retreat_zero _).symm

theorem extend_of_behind {id : SeqId} {older : Nat}
    (ordered : (trail.anchor.compare id).isNone = false)
    (offset : trail.anchor.diff id = older) :
    trail.extend id =
      { trail with places := trail.places ++ [(trail.top - older, id)] } := by
  have position : trail.top + id.diff trail.anchor = trail.top - older := by
    rw [SeqId.diff_comm ordered, offset]
    omega
  have kept : ¬ trail.top < trail.top - older := by omega
  have largest : max trail.top (trail.top - older) = trail.top := by omega
  simp only [extend, ordered, Bool.false_eq_true, if_false, position, kept, largest]

theorem extend_of_ahead {id : SeqId} {ahead : Nat}
    (ordered : (trail.anchor.compare id).isNone = false)
    (offset : trail.anchor.diff id = .negSucc ahead) :
    trail.extend id =
      ⟨id, trail.top + (ahead + 1), trail.places ++ [(trail.top + (ahead + 1), id)]⟩ := by
  have position : trail.top + id.diff trail.anchor = trail.top + (ahead + 1) := by
    rw [SeqId.diff_comm ordered, offset, Int.negSucc_eq]
    omega
  have moved : trail.top < trail.top + (ahead + 1) := by omega
  have largest : max trail.top (trail.top + (ahead + 1)) = trail.top + (ahead + 1) := by omega
  simp only [extend, ordered, Bool.false_eq_true, if_false, position, moved, if_true, largest]

/-- Positions count steps, so a sound trail stays sound. -/
theorem Sound.extend (sound : trail.Sound) (id : SeqId) : (trail.extend id).Sound := by
  cases ordered : (trail.anchor.compare id).isNone with
  | true => simpa only [Trail.extend, ordered, if_true] using sound
  | false =>
      cases offset : trail.anchor.diff id with
      | ofNat older =>
          have here : trail.anchor.retreat older = id := trail.anchor.retreat_diff offset
          rw [extend_of_behind ordered offset]
          constructor
          · exact List.mem_append_left _ sound.anchored
          · intro position other member
            rcases List.mem_append.mp member with before | now
            · exact sound.le_top before
            · rcases List.mem_singleton.mp now with ⟨⟩
              exact Int.sub_le_self _ (Int.natCast_nonneg older)
          · intro position other member
            rcases List.mem_append.mp member with before | now
            · exact sound.named before
            · rcases List.mem_singleton.mp now with ⟨⟩
              rw [Int.sub_sub_self, Int.toNat_natCast]
              exact here.symm
      | negSucc ahead =>
          have here : trail.anchor.advance (ahead + 1) = id := trail.anchor.advance_diff offset
          rw [extend_of_ahead ordered offset]
          constructor
          · exact List.mem_append_right _ (List.mem_singleton.mpr rfl)
          · intro position other member
            rcases List.mem_append.mp member with before | now
            · have below := sound.le_top before
              change position ≤ trail.top + (ahead + 1)
              omega
            · rcases List.mem_singleton.mp now with ⟨⟩
              exact Int.le_refl _
          · intro position other member
            rcases List.mem_append.mp member with before | now
            · have below := sound.le_top before
              have steps : (trail.top + (ahead + 1) - position).toNat - (ahead + 1) =
                  (trail.top - position).toNat := by omega
              change other = id.retreat (trail.top + (ahead + 1) - position).toNat
              rw [← here, ReceiptWindow.retreat_advance_of_le _ (by omega), steps]
              exact sound.named before
            · rcases List.mem_singleton.mp now with ⟨⟩
              rw [Int.sub_self]
              exact (SeqId.retreat_zero _).symm

/-- What arrived at a position is told by its distance from the top. -/
theorem Sound.id?_of_reached (sound : trail.Sound) {back : Nat}
    (reached : trail.Reached (trail.top - back)) :
    trail.id? (trail.top - back) = some (trail.anchor.retreat back) := by
  rcases reached with ⟨id, member⟩
  have exists' : (trail.places.find? fun place => place.1 == trail.top - back).isSome :=
    List.find?_isSome.mpr ⟨_, member, beq_iff_eq.mpr rfl⟩
  rcases Option.isSome_iff_exists.mp exists' with ⟨⟨position, other⟩, found⟩
  have same : position = trail.top - back := beq_iff_eq.mp (List.find?_some found :)
  have known := sound.named (List.mem_of_find?_eq_some found)
  rw [same, Int.sub_sub_self, Int.toNat_natCast] at known
  rw [id?, found, Option.map_some, known]

theorem id?_of_not_reached {position : Int} (unreached : ¬ trail.Reached position) :
    trail.id? position = none := by
  rw [id?, Option.map_eq_none_iff, List.find?_eq_none]
  intro place member same
  exact unreached ⟨place.2, beq_iff_eq.mp same ▸ member⟩

end Trail

namespace ReceiptWindow

variable {window : ReceiptWindow}

/-! ## Offsets of a marked window -/

theorem get_set_ofNat {older back : Nat} (inside : back < capacity) :
    (window.set older true).get back ↔ back = older ∨ window.get back := by
  change (write window.history older true).getLsbD back ↔ _
  rw [getLsbD_write]
  split
  · next written => simp [written.1]
  · next unwritten =>
    have apart : back ≠ older := fun same => unwritten ⟨same, same ▸ inside⟩
    simp [apart, get]

/-- Ahead of the anchor marking sets the offset 0 and moves all others. -/
theorem get_set_negSucc {ahead back : Nat} (inside : back < capacity) :
    (window.set (.negSucc ahead) true).get back ↔
      back = 0 ∨ ahead + 1 ≤ back ∧ window.get (back - (ahead + 1)) := by
  change (write (window.shift (ahead + 1)).history 0 true).getLsbD back ↔ _
  rw [getLsbD_write]
  split
  · next written => simp [written.1]
  · next unwritten =>
    have later : back ≠ 0 := fun same => unwritten ⟨same, by decide⟩
    have moved := window.get_shift (ahead + 1) back
    rw [get] at moved
    simp [moved, inside, later]

end ReceiptWindow

namespace Trail

variable {trail : Trail} {window : ReceiptWindow}

/-! ## Windows at the end of a trail -/

/-- Whether a window remembers the end of a trail. -/
structure Shows (trail : Trail) (window : ReceiptWindow) : Prop where
  sound : trail.Sound
  anchor : window.anchor = trail.anchor
  get_iff : ∀ {back : Nat}, back < ReceiptWindow.capacity →
    (window.get back ↔ trail.Reached (trail.top - back))

theorem reached_append {anchor : SeqId} {top : Int} {places : List (Int × SeqId)}
    {position other : Int} {id : SeqId} :
    Reached ⟨anchor, top, places ++ [(other, id)]⟩ position ↔
      position = other ∨ ∃ known, (position, known) ∈ places := by
  simp [Reached, List.mem_append, exists_or, or_comm]

theorem shows_first (id : SeqId) : (first id).Shows (.anchoredAt id) where
  sound := sound_first id
  anchor := rfl
  get_iff {back} _ := by
    simp only [ReceiptWindow.get_anchoredAt, decide_eq_true_eq, Reached, first,
      List.mem_singleton, Prod.mk.injEq, exists_and_left, exists_eq, and_true]
    omega

theorem Shows.extend_behind (shows : trail.Shows window) {id : SeqId} {older : Nat}
    (ordered : (trail.anchor.compare id).isNone = false)
    (offset : trail.anchor.diff id = older) :
    (trail.extend id).Shows (window.set older true) := by
  have sound := shows.sound.extend id
  rw [extend_of_behind ordered offset] at sound ⊢
  refine ⟨sound, shows.anchor, ?_⟩
  intro back inside
  have here : trail.top - (back : Int) = trail.top - older ↔ back = older := by omega
  rw [ReceiptWindow.get_set_ofNat inside, shows.get_iff inside, reached_append, here]
  rfl

/-- A window that moves its anchor to an id shows the trail with that id on top. -/
theorem Shows.extend_ahead (shows : trail.Shows window) {id : SeqId} {ahead : Nat}
    (ordered : (trail.anchor.compare id).isNone = false)
    (offset : trail.anchor.diff id = .negSucc ahead) :
    (trail.extend id).Shows (window.set (.negSucc ahead) true) := by
  have sound := shows.sound.extend id
  rw [extend_of_ahead ordered offset] at sound ⊢
  refine ⟨sound, ?_, ?_⟩
  · change window.anchor.advance (ahead + 1) = id
    rw [shows.anchor]
    exact trail.anchor.advance_diff offset
  · intro back inside
    have here : trail.top + (ahead + 1) - (back : Int) = trail.top + (ahead + 1) ↔ back = 0 := by
      omega
    have place (reached : ahead + 1 ≤ back) :
        trail.top + (ahead + 1) - (back : Int) = trail.top - (back - (ahead + 1) : Nat) := by
      omega
    rw [ReceiptWindow.get_set_negSucc inside, reached_append, here]
    refine or_congr_right ⟨?_, ?_⟩
    · intro condition
      rcases condition with ⟨reached, known⟩
      rw [place reached]
      exact (shows.get_iff (by omega)).mp known
    · intro condition
      rcases condition with ⟨other, member⟩
      have below : trail.top + (ahead + 1) - (back : Int) ≤ trail.top :=
        shows.sound.le_top member
      have reached : ahead + 1 ≤ back := by omega
      rw [place reached] at member
      exact ⟨reached, (shows.get_iff (by omega)).mpr ⟨other, member⟩⟩

theorem Shows.extend (shows : trail.Shows window) (id : SeqId) :
    (trail.extend id).Shows (window.mark id) := by
  cases ordered : (trail.anchor.compare id).isNone with
  | true =>
      have left : trail.extend id = trail := by simp only [Trail.extend, ordered, if_true]
      have ignored : window.mark id = window := by
        simp only [ReceiptWindow.mark, shows.anchor, ordered, if_true]
      rw [left, ignored]
      exact shows
  | false =>
      have marked : window.mark id = window.set (trail.anchor.diff id) true := by
        simp only [ReceiptWindow.mark, ReceiptWindow.offsetOf, shows.anchor, ordered,
          Bool.false_eq_true, if_false]
      rw [marked]
      cases offset : trail.anchor.diff id with
      | ofNat older => exact shows.extend_behind ordered offset
      | negSucc ahead => exact shows.extend_ahead ordered offset

/-- A window that marked the ids of a trail shows its end. -/
theorem shows_along (id : SeqId) (later : List SeqId) :
    (along id later).Shows (later.foldl ReceiptWindow.mark (.anchoredAt id)) := by
  suffices kept : ∀ {trail : Trail} {window : ReceiptWindow}, trail.Shows window →
      (later.foldl Trail.extend trail).Shows (later.foldl ReceiptWindow.mark window) from
    kept (shows_first id)
  induction later with
  | nil => exact fun shows => shows
  | cons next rest ih => exact fun shows => ih (shows.extend next)

end Trail

namespace ReceiptWindow

variable {window : ReceiptWindow}

/-! ## What a window remembers -/

theorem offsetOf_retreat (window : ReceiptWindow) {back : Nat} (inside : back < capacity) :
    window.offsetOf (window.anchor.retreat back) = back := by
  have anchorLt := window.anchor.toNat_lt
  rw [offsetOf, SeqId.diff, SeqId.toNat_retreat, Int.bmod_def]
  simp only [SeqId.space, capacity] at *
  omega

theorem contains_iff {id : SeqId} :
    window.contains id ↔
      ∃ back, back < capacity ∧ id = window.anchor.retreat back ∧ window.get back := by
  constructor
  · intro contained
    rcases mem_observed.mp (mem_observed_of_contains contained) with ⟨back, inside, set, same⟩
    exact ⟨back, inside, same, set⟩
  · rintro ⟨back, inside, rfl, set⟩
    simp only [contains, covers, window.offsetOf_retreat inside, Bool.and_eq_true,
      decide_eq_true_eq, Int.toNat_natCast]
    exact ⟨⟨Int.natCast_nonneg back, Int.ofNat_lt.mpr inside⟩, set⟩

end ReceiptWindow

namespace Trail

variable {trail : Trail} {window : ReceiptWindow}

theorem ahead_lt {id : SeqId} {ahead : Nat}
    (ordered : (trail.anchor.compare id).isNone = false)
    (offset : trail.anchor.diff id = .negSucc ahead) : ahead + 1 < SeqId.halfSpace := by
  have way := trail.anchor.advance_diff offset
  have least : -32768 ≤ trail.anchor.diff id := Int.le_bmod (by decide)
  have near : ahead + 1 ≤ SeqId.halfSpace := by
    rw [offset, Int.negSucc_eq] at least
    simp only [SeqId.halfSpace]
    omega
  refine Nat.lt_of_le_of_ne near fun half => ?_
  have apart : trail.anchor.distanceTo id = SeqId.halfSpace := by
    rw [← way, half, SeqId.distanceTo_advance_of_lt _ (by decide)]
  rw [SeqId.compare_isNone_iff.mpr apart] at ordered
  cases ordered

/-- The anchor moves forward or stays, and the largest position rises by as many steps. -/
theorem extend_advances (trail : Trail) (id : SeqId) :
    ∃ steps, steps < SeqId.halfSpace ∧ (trail.extend id).top = trail.top + steps ∧
      (trail.extend id).anchor = trail.anchor.advance steps := by
  have stays : trail.anchor = trail.anchor.advance 0 := (SeqId.advance_zero _).symm
  cases ordered : (trail.anchor.compare id).isNone with
  | true =>
      have left : trail.extend id = trail := by simp only [Trail.extend, ordered, if_true]
      rw [left]
      exact ⟨0, by decide, (Int.add_zero _).symm, stays⟩
  | false =>
      cases offset : trail.anchor.diff id with
      | ofNat older =>
          rw [extend_of_behind ordered offset]
          exact ⟨0, by decide, (Int.add_zero _).symm, stays⟩
      | negSucc ahead =>
          rw [extend_of_ahead ordered offset]
          exact ⟨ahead + 1, ahead_lt ordered offset, rfl, (trail.anchor.advance_diff offset).symm⟩

theorem along_concat (id : SeqId) (later : List SeqId) (next : SeqId) :
    along id (later ++ [next]) = (along id later).extend next :=
  List.foldl_concat ..

/-- Whatever ids a window marks after its first one, its anchor is the id at the largest
position of the trail that they leave, and every other id lies as far behind it as its position
below the largest.  The next id moves the anchor forward or not at all, and the largest
position with it.  The offsets that are set, and the ids that the window contains, are those of
the last positions at which something arrived. -/
theorem last_positions_remembered (start : SeqId) (marked : List SeqId) :
    let trail := along start marked
    let window := marked.foldl ReceiptWindow.mark (.anchoredAt start)
    (trail.top, window.anchor) ∈ trail.places ∧
      (∀ position id, (position, id) ∈ trail.places →
        position ≤ trail.top ∧ id = window.anchor.retreat (trail.top - position).toNat) ∧
      (∀ next, ∃ steps, steps < SeqId.halfSpace ∧
        (along start (marked ++ [next])).top = trail.top + steps ∧
        (window.mark next).anchor = window.anchor.advance steps) ∧
      (∀ back, window.get back = true ↔
        back < ReceiptWindow.capacity ∧ trail.Reached (trail.top - back)) ∧
      ∀ id, window.contains id = true ↔
        ∃ back, back < ReceiptWindow.capacity ∧ id = window.anchor.retreat back ∧
          trail.Reached (trail.top - back) := by
  intro trail window
  have shows : trail.Shows window := shows_along start marked
  refine ⟨?_, ?_, ?_, ?_, ?_⟩
  · rw [shows.anchor]
    exact shows.sound.anchored
  · intro position id member
    rw [shows.anchor]
    exact ⟨shows.sound.le_top member, shows.sound.named member⟩
  · intro next
    rw [along_concat, (shows.extend next).anchor, shows.anchor]
    exact trail.extend_advances next
  · intro back
    by_cases inside : back < ReceiptWindow.capacity
    · rw [shows.get_iff inside, and_iff_right inside]
    · rw [ReceiptWindow.get_eq_false_of_capacity_le (Nat.le_of_not_lt inside)]
      exact iff_of_false Bool.false_ne_true fun condition => inside condition.1
  · intro id
    rw [ReceiptWindow.contains_iff]
    refine exists_congr fun back => and_congr_right fun inside => and_congr_right fun _ => ?_
    exact shows.get_iff inside

end Trail

namespace ReceiptWindow

variable {window : ReceiptWindow}

/-! ## Acknowledgments of a trail -/

theorem get_ofAcknowledgment (anchored : window.Anchored) (back : Nat) :
    (ofAcknowledgment window.acknowledgment).get back =
      (decide (back ≤ Acknowledgment.width) && window.get back) := by
  rw [Bool.eq_iff_iff, get_ofAcknowledgment_iff]
  cases back with
  | zero =>
      rw [anchored]
      simp [Acknowledgment.Reports]
  | succ bit =>
      rw [Acknowledgment.reports_succ, acknowledgment, getLsbD_bitmap]
      rfl

/-- An acknowledgment lists the ids at the offsets up to its width that arrived. -/
theorem observed_ofAcknowledgment (anchored : window.Anchored) :
    (ofAcknowledgment window.acknowledgment).observed =
      ((List.range (Acknowledgment.width + 1)).filter window.get).map window.anchor.retreat := by
  have near : (List.range (Acknowledgment.width + 1)).filter
      (ofAcknowledgment window.acknowledgment).get =
      (List.range (Acknowledgment.width + 1)).filter window.get := by
    apply List.filter_congr
    intro back member
    have inside := Nat.le_of_lt_succ (List.mem_range.mp member)
    rw [get_ofAcknowledgment anchored, decide_eq_true inside, Bool.true_and]
  have far : ((List.range 31).map (Acknowledgment.width + 1 + ·)).filter
      (ofAcknowledgment window.acknowledgment).get = [] := by
    rw [List.filter_eq_nil_iff]
    intro back member
    rcases List.mem_map.mp member with ⟨more, _, rfl⟩
    have beyond : ¬ Acknowledgment.width + 1 + more ≤ Acknowledgment.width := by omega
    rw [get_ofAcknowledgment anchored, decide_eq_false beyond, Bool.false_and]
    exact Bool.false_ne_true
  have size : capacity = Acknowledgment.width + 1 + 31 := rfl
  rw [observed, size, List.range_add, List.filter_append, near, far, List.append_nil]
  rfl

end ReceiptWindow

namespace Trail

variable {trail : Trail} {window : ReceiptWindow}

/-- An acknowledgment of the end of a trail reports the ids at the last positions, the
newest first. -/
theorem Shows.observed_acknowledgment (shows : trail.Shows window) :
    (ReceiptWindow.ofAcknowledgment window.acknowledgment).observed =
      (List.range (Acknowledgment.width + 1)).filterMap fun back =>
        trail.id? (trail.top - (back : Nat)) := by
  have top : trail.Reached (trail.top - (0 : Nat)) :=
    ⟨trail.anchor, by simpa using shows.sound.anchored⟩
  have anchored : window.Anchored := (shows.get_iff (by decide)).mpr top
  rw [ReceiptWindow.observed_ofAcknowledgment anchored, ← List.filterMap_eq_map,
    List.filterMap_filter]
  apply List.filterMap_congr
  intro back member
  have inside : back < ReceiptWindow.capacity :=
    Nat.lt_trans (List.mem_range.mp member) (by decide)
  by_cases reached : trail.Reached (trail.top - back)
  · rw [if_pos ((shows.get_iff inside).mpr reached), shows.sound.id?_of_reached reached,
      shows.anchor]
    rfl
  · rw [if_neg (fun known => reached ((shows.get_iff inside).mp known)),
      id?_of_not_reached reached]

end Trail

end ReliableDatagram
