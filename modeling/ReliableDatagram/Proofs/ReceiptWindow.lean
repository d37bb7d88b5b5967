import ReliableDatagram.Proofs.SeqOrder
import ReliableDatagram.ReceiptWindow

/-!
# What a receipt window observed

The ids that a window reports are ids that were marked.  Marking adds at most the
marked id (`mem_observed_mark`), whether the anchor moves or not, and packing a window
into an acknowledgment adds nothing (`observed_acknowledgment`), for an acknowledgment
describes just what it reports (`get_ofAcknowledgment_iff`).
-/

namespace ReliableDatagram

namespace Acknowledgment

/-- Whether the transmission at an offset behind the newest one is reported. -/
def Reports (ack : Acknowledgment) (offset : Nat) : Prop :=
  offset = 0 ∨ ∃ bit, ack.bitmap.getLsbD bit = true ∧ offset = bit + 1

theorem reports_succ {ack : Acknowledgment} {bit : Nat} :
    ack.Reports (bit + 1) ↔ ack.bitmap.getLsbD bit = true := by
  simp [Reports]

theorem Reports.le_width {ack : Acknowledgment} {offset : Nat} (reports : ack.Reports offset) :
    offset ≤ width := by
  rcases reports with rfl | ⟨bit, set, rfl⟩
  · exact Nat.zero_le _
  · exact BitVec.lt_of_getLsbD set

end Acknowledgment

namespace ReceiptWindow

variable {window : ReceiptWindow}

theorem mem_observed {id : SeqId} :
    id ∈ window.observed ↔
      ∃ offset, offset < capacity ∧ window.get offset ∧ id = window.anchor.retreat offset := by
  simp only [observed, List.mem_map, List.mem_filter, List.mem_range]
  constructor
  · intro condition
    rcases condition with ⟨offset, ⟨inside, arrived⟩, same⟩
    exact ⟨offset, inside, arrived, same.symm⟩
  · intro condition
    rcases condition with ⟨offset, inside, arrived, same⟩
    exact ⟨offset, ⟨inside, arrived⟩, same.symm⟩

/-! ## Offsets -/

/-- An offset is the way back from the anchor, modulo the space. -/
theorem offsetOf_emod (window : ReceiptWindow) (id : SeqId) :
    window.offsetOf id % 65536 = ((window.anchor.toNat : Int) - id.toNat) % 65536 :=
  Int.bmod_emod

theorem retreat_offsetOf {id : SeqId} {older : Nat}
    (offset : window.offsetOf id = .ofNat older) : window.anchor.retreat older = id := by
  have way := window.offsetOf_emod id
  have anchorLt := window.anchor.toNat_lt
  have idLt := id.toNat_lt
  apply SeqId.ext_toNat
  rw [SeqId.toNat_retreat]
  rw [offset] at way
  simp only [SeqId.space, Int.ofNat_eq_natCast] at *
  omega

theorem advance_offsetOf {id : SeqId} {ahead : Nat}
    (offset : window.offsetOf id = .negSucc ahead) :
    window.anchor.advance (ahead + 1) = id := by
  have way := window.offsetOf_emod id
  have anchorLt := window.anchor.toNat_lt
  have idLt := id.toNat_lt
  apply SeqId.ext_toNat
  rw [SeqId.toNat_advance]
  rw [offset] at way
  simp only [SeqId.space, Int.negSucc_eq] at *
  omega

theorem mem_observed_of_contains {id : SeqId} (contained : window.contains id) :
    id ∈ window.observed := by
  simp only [contains, covers, Bool.and_eq_true, decide_eq_true_eq] at contained
  rcases contained with ⟨⟨behind, inside⟩, arrived⟩
  have offset : window.offsetOf id = .ofNat (window.offsetOf id).toNat :=
    (Int.toNat_of_nonneg behind).symm
  exact mem_observed.mpr ⟨_, (Int.toNat_lt behind).mpr inside, arrived,
    (retreat_offsetOf offset).symm⟩

/-! ## Marking -/

/-- Marking leaves the window, sets a bit of it, or moves the anchor to the id. -/
theorem mark_cases (window : ReceiptWindow) (id : SeqId) :
    window.mark id = window ∨
      (∃ older, window.anchor.retreat older = id ∧
        window.mark id = { window with history := write window.history older true }) ∨
      ∃ ahead, window.anchor.advance (ahead + 1) = id ∧
        window.mark id =
          { window.shift (ahead + 1) with
            history := write (window.shift (ahead + 1)).history 0 true } := by
  unfold mark
  split
  · exact .inl rfl
  · cases offset : window.offsetOf id with
    | ofNat older => exact .inr (.inl ⟨older, retreat_offsetOf offset, rfl⟩)
    | negSucc ahead => exact .inr (.inr ⟨ahead, advance_offsetOf offset, rfl⟩)

theorem retreat_advance_of_le (id : SeqId) {ahead steps : Nat} (within : ahead ≤ steps) :
    (id.advance ahead).retreat steps = id.retreat (steps - ahead) := by
  have idLt := id.toNat_lt
  apply SeqId.ext_toNat
  rw [SeqId.toNat_retreat, SeqId.toNat_retreat, SeqId.toNat_advance]
  simp only [SeqId.space] at *
  omega

theorem mem_observed_mark {marked id : SeqId} (member : id ∈ (window.mark marked).observed) :
    id = marked ∨ id ∈ window.observed := by
  rcases mem_observed.mp member with ⟨offset, inside, arrived, rfl⟩
  rcases mark_cases window marked with same | ⟨older, here, same⟩ | ⟨ahead, here, same⟩
  · rw [same] at arrived ⊢
    exact .inr (mem_observed.mpr ⟨offset, inside, arrived, rfl⟩)
  · rw [same] at arrived ⊢
    rw [get, getLsbD_write] at arrived
    split at arrived
    · next written =>
      rw [written.1]
      exact .inl here
    · exact .inr (mem_observed.mpr ⟨offset, inside, arrived, rfl⟩)
  · rw [same] at arrived ⊢
    rw [get, getLsbD_write] at arrived
    split at arrived
    · next written =>
      rw [written.1, ← here]
      left
      exact SeqId.retreat_zero _
    · have shifted : _ = true := (window.get_shift (ahead + 1) offset).symm.trans arrived
      simp only [Bool.and_eq_true, decide_eq_true_eq] at shifted
      rcases shifted with ⟨⟨reached, _⟩, known⟩
      refine .inr (mem_observed.mpr ⟨offset - (ahead + 1), by omega, known, ?_⟩)
      exact retreat_advance_of_le window.anchor reached

/-- The anchor has arrived. -/
def Anchored (window : ReceiptWindow) : Prop := window.get 0 = true

theorem anchored_anchoredAt (id : SeqId) : (anchoredAt id).Anchored := by
  simp [Anchored]

theorem Anchored.mark (anchored : window.Anchored) (id : SeqId) :
    (window.mark id).Anchored := by
  rcases mark_cases window id with same | ⟨older, _, same⟩ | ⟨ahead, _, same⟩
  · rw [same]
    exact anchored
  · rw [same, Anchored, get, getLsbD_write]
    split
    · rfl
    · exact anchored
  · rw [same, Anchored, get, getLsbD_write]
    exact if_pos ⟨rfl, by decide⟩

theorem mem_observed_anchoredAt {anchor id : SeqId}
    (member : id ∈ (anchoredAt anchor).observed) : id = anchor := by
  rcases mem_observed.mp member with ⟨offset, _, arrived, rfl⟩
  rw [get_anchoredAt, decide_eq_true_eq] at arrived
  rw [arrived]
  exact SeqId.retreat_zero _

theorem anchor_mem_observed (anchored : window.Anchored) :
    window.anchor ∈ window.observed :=
  mem_observed.mpr ⟨0, by decide, anchored, (SeqId.retreat_zero _).symm⟩

/-! ## Acknowledgments -/

theorem getLsbD_lowMask_width {bit : Nat} :
    (lowMask (clampWidth Acknowledgment.width)).getLsbD bit =
      decide (bit < Acknowledgment.width) := by
  have width : capacity - clampWidth Acknowledgment.width = 32 := by decide
  rw [lowMask, width, BitVec.getLsbD_ushiftRight, BitVec.getLsbD_allOnes,
    Acknowledgment.width]
  congr 1
  simp only [eq_iff_iff]
  omega

theorem getLsbD_bitmap (window : ReceiptWindow) (bit : Nat) :
    window.bitmap.getLsbD bit =
      (decide (bit < Acknowledgment.width) && window.get (bit + 1)) := by
  have stored : (decide (bit < 32) && decide (bit < Acknowledgment.width)) =
      decide (bit < Acknowledgment.width) := Bool.and_self _
  rw [bitmap, pack, BitVec.getLsbD_setWidth, BitVec.getLsbD_and, BitVec.getLsbD_ushiftRight,
    getLsbD_lowMask_width, Nat.add_comm 1 bit, Bool.and_comm (window.history.getLsbD _),
    ← Bool.and_assoc, stored, get]

/-- The window that an acknowledgment describes has set just what is reported. -/
theorem get_ofAcknowledgment_iff {ack : Acknowledgment} {offset : Nat} :
    (ofAcknowledgment ack).get offset = true ↔ ack.Reports offset := by
  cases offset with
  | zero => simp [get, ofAcknowledgment, unpack, Acknowledgment.Reports]
  | succ bit =>
      rw [Acknowledgment.reports_succ, ← Bool.eq_iff_iff]
      by_cases inside : bit < Acknowledgment.width
      · have stored : bit + 1 < 64 := Nat.succ_lt_succ (Nat.lt_trans inside (by decide))
        simp [get, ofAcknowledgment, unpack, getLsbD_lowMask_width, inside, stored,
          Nat.lt_of_succ_lt stored]
      · have unset : ack.bitmap.getLsbD bit = false :=
          BitVec.getLsbD_of_ge _ _ (Nat.le_of_not_lt inside)
        simp [get, ofAcknowledgment, unpack, unset]

theorem mem_observed_ofAcknowledgment {ack : Acknowledgment} {id : SeqId} :
    id ∈ (ofAcknowledgment ack).observed ↔
      ∃ offset, ack.Reports offset ∧ id = ack.newest.retreat offset := by
  rw [mem_observed]
  constructor
  · intro condition
    rcases condition with ⟨offset, _, arrived, same⟩
    exact ⟨offset, get_ofAcknowledgment_iff.mp arrived, same⟩
  · intro condition
    rcases condition with ⟨offset, reports, same⟩
    exact ⟨offset, Nat.lt_of_le_of_lt reports.le_width (by decide),
      get_ofAcknowledgment_iff.mpr reports, same⟩

theorem observed_acknowledgment (anchored : window.Anchored) {id : SeqId}
    (member : id ∈ (ofAcknowledgment window.acknowledgment).observed) :
    id ∈ window.observed := by
  rcases mem_observed_ofAcknowledgment.mp member with ⟨offset, rfl | ⟨bit, set, rfl⟩, rfl⟩
  · exact mem_observed.mpr ⟨0, by decide, anchored, rfl⟩
  · rcases Bool.and_eq_true_iff.mp ((getLsbD_bitmap window bit).symm.trans set) with
      ⟨within, arrived⟩
    have inside : bit + 1 < capacity :=
      Nat.lt_trans (Nat.succ_lt_succ (of_decide_eq_true within)) (by decide)
    exact mem_observed.mpr ⟨bit + 1, inside, arrived, rfl⟩

end ReceiptWindow

end ReliableDatagram
