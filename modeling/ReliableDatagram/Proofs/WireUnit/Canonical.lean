import ReliableDatagram.Proofs.WireUnit

/-!
# Writing undoes reading

Bytes that are long enough for a field are that field as it is written, and a rest
(`Word.exists_encode`, `SeqId.exists_encode`).  A reader therefore gets the form of its
input from the checks that it makes, and what it answers is written as it was read.  So
units within bounds and datagrams that can be read correspond one to one
(`decode_eq_ok_iff`).

A builder takes the segments within bounds that it is offered, as many as it has room for
(`unit_foldl_offer`), so the units that builders make are among these units.
-/

namespace ReliableDatagram

/-! ## Fields -/

namespace Word

theorem decode_lt (bytes : List UInt8) : decode bytes < range bytes.length := by
  have reduced := decode_encode bytes.length (decode bytes)
  rw [encode_decode] at reduced
  have positive : 0 < range bytes.length := by
    induction bytes.length with
    | zero => exact Nat.one_pos
    | succ width ih => exact Nat.mul_pos (by decide) ih
  rw [reduced]
  exact Nat.mod_lt _ positive

theorem exists_encode (width : Nat) {bytes : List UInt8} (enough : width ≤ bytes.length) :
    ∃ value rest, value < range width ∧ bytes = encode width value ++ rest := by
  have taken : (bytes.take width).length = width := List.length_take_of_le enough
  refine ⟨decode (bytes.take width), bytes.drop width, ?_, ?_⟩
  · have fits := decode_lt (bytes.take width)
    rwa [taken] at fits
  · have front := encode_decode (bytes.take width)
    rw [taken] at front
    rw [front, List.take_append_drop]

end Word

theorem demand_eq_ok_iff {needed : Nat} {bytes : List UInt8} :
    demand needed bytes = .ok () ↔ needed ≤ bytes.length := by
  unfold demand
  split
  · next short => simp [Nat.not_le_of_lt short]
  · next enough => simp [Nat.le_of_not_lt enough]

/-- A demand that is not met ends the reading. -/
theorem demand_bind_eq_ok {α : Type} {needed : Nat} {bytes : List UInt8}
    {next : Unit → Except WireError α} {answer : α}
    (read : demand needed bytes >>= next = .ok answer) :
    needed ≤ bytes.length ∧ next () = .ok answer := by
  cases met : demand needed bytes with
  | error error =>
      rw [met] at read
      cases read
  | ok =>
      rw [met] at read
      exact ⟨demand_eq_ok_iff.mp met, read⟩

namespace SeqId

theorem exists_encode {bytes : List UInt8} (enough : 2 ≤ bytes.length) :
    ∃ id rest, bytes = encode id ++ rest := by
  rcases Word.exists_encode 2 enough with ⟨value, rest, fits, rfl⟩
  refine ⟨ofNat value, rest, ?_⟩
  have reduced : value % space = value := Nat.mod_eq_of_lt fits
  rw [encode, toNat_ofNat, reduced]

theorem exists_flatMap_encode {count : Nat} {bytes : List UInt8}
    (enough : 2 * count ≤ bytes.length) :
    ∃ (ids : List SeqId) (rest : List UInt8),
      ids.length = count ∧ bytes = ids.flatMap encode ++ rest := by
  induction count generalizing bytes with
  | zero => exact ⟨[], bytes, rfl, rfl⟩
  | succ count ih =>
      rcases exists_encode (Nat.le_trans (by omega) enough) with ⟨id, others, rfl⟩
      rw [List.length_append, length_encode] at enough
      have long : 2 * count ≤ others.length := by omega
      rcases ih long with ⟨ids, rest, counted, rfl⟩
      refine ⟨id :: ids, rest, congrArg Nat.succ counted, ?_⟩
      rw [List.flatMap_cons, List.append_assoc]

end SeqId

/-! ## Segments -/

namespace Segment

/-- A reader of a segment first sees the id and the number of transmission ids. -/
theorem split_front (dataId : SeqId) {count : Nat} (fits : count < Word.range 2)
    (bytes : List UInt8) :
    split (dataId.encode ++ (Word.encode 2 count ++ bytes)) =
      if count = 0 then .error (.noTransmissionIds dataId)
      else if Capacity.keysPerRecord < count then
        .error (.tooManyTransmissionIds dataId count Capacity.keysPerRecord)
      else (do
        demand (2 * count + 2) bytes
        let (transmissionIds, bytes) := SeqId.splitMany count bytes
        let (length, bytes) := Word.split 2 bytes
        demand length bytes
        .ok (⟨dataId, transmissionIds, bytes.take length⟩, bytes.drop length)) := by
  rw [split, demand_of_le (by simp; omega)]
  simp only [bind, Except.bind, SeqId.split_encode, Word.split_encode_of_lt fits]

theorem exists_front {bytes : List UInt8} (enough : 4 ≤ bytes.length) :
    ∃ (dataId : SeqId) (count : Nat) (rest : List UInt8), count < Word.range 2 ∧
      bytes = dataId.encode ++ (Word.encode 2 count ++ rest) := by
  rcases SeqId.exists_encode (Nat.le_trans (by omega) enough) with ⟨dataId, bytes, rfl⟩
  rw [List.length_append, SeqId.length_encode] at enough
  have second : 2 ≤ bytes.length := by omega
  rcases Word.exists_encode 2 second with ⟨count, bytes, fits, rfl⟩
  exact ⟨dataId, count, bytes, fits, rfl⟩

/-- What is read as a segment is within bounds and was written so. -/
theorem eq_encode_of_split {bytes rest : List UInt8} {segment : Segment}
    (read : split bytes = .ok (segment, rest)) :
    segment.InBounds ∧ bytes = segment.encode ++ rest := by
  rcases exists_front (demand_bind_eq_ok read).1 with ⟨dataId, count, bytes, fits, rfl⟩
  rw [split_front dataId fits] at read
  split at read
  · cases read
  split at read
  · cases read
  next listed few =>
  rcases demand_bind_eq_ok read with ⟨long, read⟩
  rcases SeqId.exists_flatMap_encode (Nat.le_of_add_right_le long) with
    ⟨ids, bytes, rfl, rfl⟩
  rw [List.length_append, SeqId.length_flatMap_encode] at long
  have last : 2 ≤ bytes.length := by omega
  rcases Word.exists_encode 2 last with ⟨length, bytes, short, rfl⟩
  simp only [SeqId.splitMany_encode, Word.split_encode_of_lt short] at read
  rcases demand_bind_eq_ok read with ⟨whole, read⟩
  cases read
  have counted : (bytes.take length).length = length := List.length_take_of_le whole
  refine ⟨⟨Nat.pos_of_ne_zero listed, Nat.le_of_not_lt few, ?_⟩, ?_⟩
  · rw [counted]
    exact Nat.le_of_lt_succ short
  · simp only [encode, counted, List.append_assoc, List.take_append_drop]

theorem eq_encode_of_splitMany {count : Nat} {bytes rest : List UInt8}
    {segments : List Segment} (read : splitMany count bytes = .ok (segments, rest)) :
    segments.length = count ∧ (∀ segment ∈ segments, segment.InBounds) ∧
      bytes = segments.flatMap encode ++ rest := by
  induction count generalizing bytes segments with
  | zero =>
      cases read
      exact ⟨rfl, nofun, rfl⟩
  | succ count ih =>
      cases first : split bytes with
      | error error =>
          simp only [splitMany, first, bind, Except.bind] at read
          cases read
      | ok answer =>
          rcases answer with ⟨segment, others⟩
          rcases eq_encode_of_split first with ⟨inBounds, written⟩
          cases second : splitMany count others with
          | error error =>
              simp only [splitMany, first, second, bind, Except.bind] at read
              cases read
          | ok answer =>
              rcases answer with ⟨following, left⟩
              simp only [splitMany, first, second, bind, Except.bind] at read
              cases read
              rcases ih second with ⟨counted, bounded, rfl⟩
              refine ⟨congrArg Nat.succ counted, List.forall_mem_cons.mpr ⟨inBounds, bounded⟩, ?_⟩
              rw [written, List.flatMap_cons, List.append_assoc]

@[simp] theorem length_encode (segment : Segment) :
    segment.encode.length = segment.encodedLength := by
  simp only [encode, encodedLength, overhead, List.length_append, SeqId.length_encode,
    Word.length_encode, SeqId.length_flatMap_encode]
  omega

theorem length_flatMap_encode (segments : List Segment) :
    (segments.flatMap encode).length = totalLength segments := by
  induction segments with
  | nil => rfl
  | cons segment rest ih =>
      rw [List.flatMap_cons, List.length_append, length_encode, ih, totalLength]

end Segment

/-! ## Units -/

namespace WireUnit

/-- A reader of a unit first sees the acknowledgment and the number of segments. -/
theorem decode_front (ack : Acknowledgment) {count : Nat} (fits : count < Word.range 2)
    (bytes : List UInt8) :
    decode (ack.newest.encode ++
        (Word.encode 4 ack.bitmap.toNat ++ (Word.encode 2 count ++ bytes))) =
      if Capacity.segmentsPerUnit < count then
        .error (.tooManySegments count Capacity.segmentsPerUnit)
      else (do
        let (segments, bytes) ← Segment.splitMany count bytes
        if bytes.isEmpty then .ok ⟨ack, segments⟩
        else .error (.trailingBytes bytes.length)) := by
  have bitmapFits : ack.bitmap.toNat < Word.range 4 := ack.bitmap.isLt
  rw [decode, demand_of_le (by simp [headerLength]; omega)]
  simp only [bind, Except.bind, SeqId.split_encode, Word.split_encode_of_lt bitmapFits,
    Word.split_encode_of_lt fits, BitVec.ofNat_toNat, BitVec.setWidth_eq]

theorem exists_header {datagram : Datagram} (enough : headerLength ≤ datagram.length) :
    ∃ (ack : Acknowledgment) (count : Nat) (bytes : List UInt8), count < Word.range 2 ∧
      datagram = ack.newest.encode ++
        (Word.encode 4 ack.bitmap.toNat ++ (Word.encode 2 count ++ bytes)) := by
  simp only [headerLength] at enough
  rcases SeqId.exists_encode (Nat.le_trans (by omega) enough) with ⟨newest, bytes, rfl⟩
  rw [List.length_append, SeqId.length_encode] at enough
  have second : 4 ≤ bytes.length := by omega
  rcases Word.exists_encode 4 second with ⟨bitmap, bytes, bounded, rfl⟩
  rw [List.length_append, Word.length_encode] at enough
  have third : 2 ≤ bytes.length := by omega
  rcases Word.exists_encode 2 third with ⟨count, bytes, fits, rfl⟩
  refine ⟨⟨newest, BitVec.ofNat 32 bitmap⟩, count, bytes, fits, ?_⟩
  have whole : (BitVec.ofNat 32 bitmap).toNat = bitmap := Nat.mod_eq_of_lt bounded
  rw [whole]

/-- What is read as a unit is within bounds and was written so. -/
theorem eq_encode_of_decode {datagram : Datagram} {unit : WireUnit}
    (read : decode datagram = .ok unit) : unit.InBounds ∧ unit.encode = datagram := by
  rcases exists_header (demand_bind_eq_ok read).1 with ⟨ack, count, bytes, fits, rfl⟩
  rw [decode_front ack fits] at read
  split at read
  · cases read
  next few =>
  cases chain : Segment.splitMany count bytes with
  | error error =>
      rw [chain] at read
      cases read
  | ok answer =>
      rcases answer with ⟨segments, rest⟩
      rw [chain] at read
      simp only [bind, Except.bind] at read
      split at read
      · next finished =>
        cases read
        rcases Segment.eq_encode_of_splitMany chain with ⟨rfl, bounded, rfl⟩
        refine ⟨⟨Nat.le_of_not_lt few, bounded⟩, ?_⟩
        rw [List.isEmpty_iff.mp finished, List.append_nil, encode, List.append_assoc,
          List.append_assoc]
      · cases read

/-- Exactly the datagrams of units within bounds can be read. -/
theorem decode_eq_ok_iff {datagram : Datagram} {unit : WireUnit} :
    decode datagram = .ok unit ↔ unit.InBounds ∧ unit.encode = datagram := by
  constructor
  · exact eq_encode_of_decode
  · rintro ⟨inBounds, rfl⟩
    exact decode_encode inBounds

theorem length_encode (unit : WireUnit) : unit.encode.length = unit.encodedLength := by
  simp only [encode, encodedLength, headerLength, List.length_append, SeqId.length_encode,
    Word.length_encode, Segment.length_flatMap_encode]

/-! ## Builders -/

namespace Builder

/-- The builder after a segment was pushed.  A segment that is refused changes nothing. -/
def offer (builder : Builder) (segment : Segment) : Builder :=
  match builder.push segment with
  | .ok after => after
  | .error _ => builder

/-- The number of segments that will still be accepted. -/
def room (builder : Builder) : Nat := builder.limit - builder.size

/-- A builder accepts the segments within bounds for which it has room. -/
theorem push_eq_ok_iff {builder after : Builder} {segment : Segment} :
    builder.push segment = .ok after ↔
      0 < builder.room ∧ segment.InBounds ∧
        after = { builder with
          unit := { builder.unit with segments := builder.unit.segments ++ [segment] } } := by
  unfold push
  split
  · next full =>
    simp only [isFull, decide_eq_true_eq] at full
    simp [room, Nat.sub_eq_zero_of_le full]
  next vacancy =>
  split
  · next long => simp [Segment.InBounds, Nat.not_le_of_lt long]
  next short =>
  split
  · next none => simp_all [Segment.InBounds]
  next listed =>
  split
  · next many => simp [Segment.InBounds, Nat.not_le_of_lt many]
  next few =>
  have vacant : 0 < builder.room := by
    simp only [isFull, decide_eq_true_eq] at vacancy
    exact Nat.sub_pos_of_lt (Nat.lt_of_not_le vacancy)
  have bounded : segment.InBounds :=
    ⟨List.length_pos_iff.mpr (by simpa using listed), Nat.le_of_not_lt few,
      Nat.le_of_not_lt short⟩
  simp only [vacant, bounded, true_and, Except.ok.injEq, eq_comm]

/-- A builder that is offered segments takes those within bounds, in order, as long as it
has room. -/
theorem unit_foldl_offer (segments : List Segment) (builder : Builder) :
    (segments.foldl offer builder).unit =
      { builder.unit with
        segments := builder.unit.segments ++
          (segments.filter fun segment => segment.InBounds).take builder.room } := by
  induction segments generalizing builder with
  | nil => simp
  | cons segment rest ih =>
      rw [List.foldl_cons, ih, offer]
      cases pushed : builder.push segment with
      | ok after =>
          rcases push_eq_ok_iff.mp pushed with ⟨vacant, bounded, rfl⟩
          have fewer : builder.room = (builder.room - 1) + 1 := (Nat.sub_add_cancel vacant).symm
          rw [List.filter_cons_of_pos (by simpa using bounded), fewer, List.take_succ_cons]
          simp [room, size, Nat.sub_sub]
      | error error =>
          simp only
          by_cases bounded : segment.InBounds
          · have full : builder.room = 0 := by
              apply Nat.eq_zero_of_not_pos
              intro vacant
              cases pushed.symm.trans (push_eq_ok_iff.mpr ⟨vacant, bounded, rfl⟩)
            simp [full]
          · rw [List.filter_cons_of_neg (by simpa using bounded)]

theorem inBounds_foldl_offer (segments : List Segment) (ack : Acknowledgment) (limit : Nat) :
    (segments.foldl offer (withLimit ack limit)).unit.InBounds := by
  rw [unit_foldl_offer]
  constructor
  · refine Nat.le_trans (List.length_take_le _ _) ?_
    exact Nat.le_trans (Nat.sub_le _ _) (Nat.min_le_right _ _)
  · intro segment member
    have kept := (List.mem_filter.mp (List.mem_of_mem_take member)).2
    exact of_decide_eq_true kept

end Builder

/-- Units within bounds and datagrams that can be read correspond one to one, and a unit
takes as many bytes as it says.  A builder makes such units only: whatever its limit, it
holds the first segments within bounds among those it was offered, and what it holds is
read as it was written. -/
theorem units_correspond_to_datagrams :
    (∀ (datagram : Datagram) (unit : WireUnit),
      decode datagram = .ok unit ↔ unit.InBounds ∧ unit.encode = datagram) ∧
    (∀ unit : WireUnit, unit.encode.length = unit.encodedLength) ∧
    ∀ (ack : Acknowledgment) (limit : Nat) (segments : List Segment),
      let unit := (segments.foldl Builder.offer (Builder.withLimit ack limit)).unit
      unit = ⟨ack, (segments.filter fun segment => segment.InBounds).take
          (min limit Capacity.segmentsPerUnit)⟩ ∧
        unit.InBounds ∧ decode unit.encode = .ok unit := by
  refine ⟨fun _ _ => decode_eq_ok_iff, length_encode, ?_⟩
  intro ack limit segments
  have inBounds := Builder.inBounds_foldl_offer segments ack limit
  exact ⟨Builder.unit_foldl_offer segments (Builder.withLimit ack limit), inBounds,
    decode_encode inBounds⟩

-- Outside the bounds writing is no longer undone: here a segment lists no transmission id.
example : decode (encode ⟨⟨.ofNat 3, 0#32⟩, [⟨.ofNat 5, [], [1]⟩]⟩) =
    .error (.noTransmissionIds (.ofNat 5)) := by cbv

end WireUnit

end ReliableDatagram
