import ReliableDatagram.WireUnit.Encoding

/-!
# Reading undoes writing

Every reader gives back what was written in front of some rest, together with that
rest.  From words to ids, segments and chains of them, this leads to `decode_encode`
for all units within bounds, and builders make no other units (`inBounds_push`).
-/

namespace ReliableDatagram

namespace Word

theorem split_encode (width value : Nat) (rest : List UInt8) :
    split width (encode width value ++ rest) = (value % range width, rest) := by
  rw [split, List.take_left' (length_encode width value),
    List.drop_left' (length_encode width value), decode_encode]

/-- A number that fits is read as it was written. -/
theorem split_encode_of_lt {width value : Nat} (fits : value < range width)
    (rest : List UInt8) : split width (encode width value ++ rest) = (value, rest) := by
  rw [split_encode, Nat.mod_eq_of_lt fits]

end Word

theorem demand_of_le {needed : Nat} {bytes : List UInt8} (enough : needed ≤ bytes.length) :
    demand needed bytes = .ok () :=
  if_neg (Nat.not_lt_of_le enough)

namespace SeqId

@[simp] theorem length_encode (id : SeqId) : id.encode.length = 2 :=
  Word.length_encode 2 id.toNat

theorem split_encode (id : SeqId) (rest : List UInt8) :
    split (id.encode ++ rest) = (id, rest) := by
  have fits : id.toNat < Word.range 2 := id.toNat_lt
  rw [split, encode, Word.split_encode_of_lt fits]
  simp only [ofNat_toNat]

theorem length_flatMap_encode (ids : List SeqId) :
    (ids.flatMap encode).length = 2 * ids.length := by
  induction ids with
  | nil => rfl
  | cons id ids ih =>
      rw [List.flatMap_cons, List.length_append, length_encode, ih, List.length_cons]
      omega

theorem splitMany_encode (ids : List SeqId) (rest : List UInt8) :
    splitMany ids.length (ids.flatMap encode ++ rest) = (ids, rest) := by
  induction ids with
  | nil => rfl
  | cons id ids ih =>
      rw [List.length_cons, List.flatMap_cons, List.append_assoc]
      simp only [splitMany, split_encode, ih]

end SeqId

namespace Segment

theorem split_encode {segment : Segment} (inBounds : segment.InBounds) (rest : List UInt8) :
    split (segment.encode ++ rest) = .ok (segment, rest) := by
  rcases inBounds with ⟨some, few, short⟩
  have countFits : segment.transmissionIds.length < Word.range 2 :=
    Nat.lt_of_le_of_lt few (by decide)
  have lengthFits : segment.payload.length < Word.range 2 :=
    Nat.lt_of_le_of_lt short (by decide)
  have listed : segment.transmissionIds.length ≠ 0 := Nat.ne_of_gt some
  have bytes : segment.encode ++ rest =
      segment.dataId.encode ++ (Word.encode 2 segment.transmissionIds.length ++
        (segment.transmissionIds.flatMap SeqId.encode ++
          (Word.encode 2 segment.payload.length ++ (segment.payload ++ rest)))) := by
    simp only [encode, List.append_assoc]
  rw [split, bytes, demand_of_le (by simp; omega)]
  simp only [bind, Except.bind, SeqId.split_encode, Word.split_encode_of_lt countFits,
    if_neg listed, if_neg (Nat.not_lt_of_le few)]
  rw [demand_of_le (by
    rw [List.length_append, List.length_append, SeqId.length_flatMap_encode, Word.length_encode]
    omega)]
  simp only [SeqId.splitMany_encode, Word.split_encode_of_lt lengthFits]
  rw [demand_of_le (by simp)]
  simp only [List.take_left', List.drop_left']

theorem splitMany_encode {segments : List Segment}
    (inBounds : ∀ segment ∈ segments, segment.InBounds) (rest : List UInt8) :
    splitMany segments.length (segments.flatMap encode ++ rest) = .ok (segments, rest) := by
  induction segments with
  | nil => rfl
  | cons segment segments ih =>
      have first := inBounds segment List.mem_cons_self
      have others := ih fun other member => inBounds other (List.mem_cons_of_mem _ member)
      rw [List.length_cons, List.flatMap_cons, List.append_assoc]
      simp only [splitMany, split_encode first, others, bind, Except.bind]

end Segment

namespace WireUnit

theorem decode_encode {unit : WireUnit} (inBounds : unit.InBounds) :
    decode unit.encode = .ok unit := by
  rcases inBounds with ⟨few, segments⟩
  have countFits : unit.segments.length < Word.range 2 := Nat.lt_of_le_of_lt few (by decide)
  have bitmapFits : unit.ack.bitmap.toNat < Word.range 4 := unit.ack.bitmap.isLt
  have bytes : unit.encode =
      unit.ack.newest.encode ++ (Word.encode 4 unit.ack.bitmap.toNat ++
        (Word.encode 2 unit.segments.length ++ (unit.segments.flatMap Segment.encode ++ []))) := by
    simp only [encode, List.append_assoc, List.append_nil]
  rw [decode, bytes, demand_of_le (by simp [headerLength]; omega)]
  simp only [bind, Except.bind, SeqId.split_encode, Word.split_encode_of_lt bitmapFits,
    Word.split_encode_of_lt countFits, if_neg (Nat.not_lt_of_le few),
    Segment.splitMany_encode segments, List.isEmpty_nil, if_true, BitVec.ofNat_toNat,
    BitVec.setWidth_eq]

namespace Builder

theorem inBounds_withLimit (ack : Acknowledgment) (limit : Nat) :
    (withLimit ack limit).unit.InBounds :=
  ⟨Nat.zero_le _, nofun⟩

/-- Whatever a builder accepts stays within bounds. -/
theorem inBounds_push {builder after : Builder} {segment : Segment}
    (limited : builder.limit ≤ Capacity.segmentsPerUnit) (inBounds : builder.unit.InBounds)
    (accepted : builder.push segment = .ok after) :
    after.unit.InBounds ∧ after.limit = builder.limit ∧ after.unit.ack = builder.unit.ack ∧
      after.unit.segments = builder.unit.segments ++ [segment] := by
  unfold push at accepted
  split at accepted
  · cases accepted
  split at accepted
  · cases accepted
  split at accepted
  · cases accepted
  split at accepted
  · cases accepted
  next vacant short listed few =>
  cases accepted
  refine ⟨⟨?_, ?_⟩, rfl, rfl, rfl⟩
  · have room : builder.unit.segments.length < builder.limit := by
      exact Nat.lt_of_not_le fun full => vacant (decide_eq_true full)
    rw [List.length_append]
    exact Nat.le_trans room limited
  · intro other member
    rcases List.mem_append.mp member with older | newest
    · exact inBounds.2 other older
    · rw [List.mem_singleton.mp newest]
      have some : segment.transmissionIds ≠ [] := by simpa using listed
      exact ⟨List.length_pos_iff.mpr some, Nat.le_of_not_lt few, Nat.le_of_not_lt short⟩

end Builder

end WireUnit

end ReliableDatagram
