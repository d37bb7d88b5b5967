import ReliableDatagram.Proofs.WireUnit.Canonical

/-!
# Reading goes from left to right

What is read at the front of a datagram does not depend on what follows.  A reader that has
its answer gives the same one when bytes follow, and leaves these behind the rest
(`Segment.split_append`).  A fault that it has found is found again, unless it is that the
bytes end too early (`Segment.split_eq_error`).

So bytes that follow can only make up for a truncation (`WireUnit.decode_eq_error`), and a
datagram that is cut anywhere is found to be truncated.
-/

namespace ReliableDatagram

namespace WireError

/-- The bytes end too early: fewer are left than the next field takes. -/
def IsTruncation (error : WireError) : Prop :=
  ∃ needed remaining, error = .truncated needed remaining ∧ remaining < needed

/-- Whether the fault is a count that was read. -/
def isCount : WireError → Bool
  | truncated _ _ => false
  | tooManySegments _ _ => true
  | tooManyTransmissionIds _ _ _ => true
  | noTransmissionIds _ => true
  | trailingBytes _ => false

theorem IsTruncation.not_isCount {error : WireError} (truncation : error.IsTruncation) :
    error.isCount = false := by
  obtain ⟨needed, remaining, rfl, _⟩ := truncation
  rfl

end WireError

/-- A reading that starts with a demand ends there, or fails after it. -/
theorem demand_bind_eq_error {α : Type} {needed : Nat} {bytes : List UInt8}
    {next : Unit → Except WireError α} {error : WireError}
    (fault : demand needed bytes >>= next = .error error) :
    error.IsTruncation ∨ needed ≤ bytes.length ∧ next () = .error error := by
  by_cases enough : needed ≤ bytes.length
  · rw [demand_of_le enough] at fault
    exact .inr ⟨enough, fault⟩
  · have short := Nat.lt_of_not_le enough
    rw [demand, if_pos short] at fault
    cases fault
    exact .inl ⟨needed, bytes.length, rfl, short⟩

namespace Segment

variable {bytes rest : List UInt8} {error : WireError}

/-! ## Segments -/

theorem split_append {segment : Segment} (read : split bytes = .ok (segment, rest))
    (more : List UInt8) : split (bytes ++ more) = .ok (segment, rest ++ more) := by
  obtain ⟨inBounds, rfl⟩ := eq_encode_of_split read
  rw [List.append_assoc, split_encode inBounds]

theorem splitMany_append {count : Nat} {segments : List Segment}
    (read : splitMany count bytes = .ok (segments, rest)) (more : List UInt8) :
    splitMany count (bytes ++ more) = .ok (segments, rest ++ more) := by
  obtain ⟨rfl, inBounds, rfl⟩ := eq_encode_of_splitMany read
  rw [List.append_assoc, splitMany_encode inBounds]

/-- A fault in a segment is that the bytes end too early, or it is a count and does not depend
on what follows. -/
theorem split_eq_error (fault : split bytes = .error error) :
    error.IsTruncation ∨ error.isCount ∧ ∀ more, split (bytes ++ more) = .error error := by
  obtain truncation | ⟨enough, _⟩ := demand_bind_eq_error fault
  · exact .inl truncation
  obtain ⟨dataId, count, bytes, fits, rfl⟩ := exists_front enough
  have front (more : List UInt8) := split_front dataId fits (bytes ++ more)
  simp only [List.append_assoc]
  rw [split_front dataId fits] at fault
  split at fault
  · next none =>
    cases fault
    exact .inr ⟨rfl, fun more => (front more).trans (if_pos none)⟩
  next listed =>
  split at fault
  · next many =>
    cases fault
    exact .inr ⟨rfl, fun more => (front more).trans ((if_neg listed).trans (if_pos many))⟩
  obtain truncation | ⟨_, fault⟩ := demand_bind_eq_error fault
  · exact .inl truncation
  generalize SeqId.splitMany count bytes = ids at fault
  obtain ⟨ids, bytes⟩ := ids
  obtain truncation | ⟨_, fault⟩ := demand_bind_eq_error fault
  · exact .inl truncation
  · cases fault

theorem splitMany_eq_error {count : Nat} (fault : splitMany count bytes = .error error) :
    error.IsTruncation ∨
      error.isCount ∧ ∀ more, splitMany count (bytes ++ more) = .error error := by
  induction count generalizing bytes with
  | zero => cases fault
  | succ count ih =>
      cases first : split bytes with
      | error found =>
          simp only [splitMany, first, bind, Except.bind, Except.error.injEq] at fault
          subst fault
          refine (split_eq_error first).imp_right (And.imp_right fun again more => ?_)
          simp only [splitMany, again more, bind, Except.bind]
      | ok answer =>
          obtain ⟨segment, others⟩ := answer
          have later : splitMany count others = .error error := by
            cases second : splitMany count others with
            | error found =>
                simpa only [splitMany, first, second, bind, Except.bind] using fault
            | ok answer =>
                simp only [splitMany, first, second, bind, Except.bind] at fault
                cases fault
          refine (ih later).imp_right (And.imp_right fun again more => ?_)
          simp only [splitMany, split_append first, again more, bind, Except.bind]

end Segment

namespace WireUnit

variable {datagram : Datagram} {error : WireError}

/-! ## Units -/

theorem decode_append {unit : WireUnit} (read : decode datagram = .ok unit) {more : List UInt8}
    (follow : more ≠ []) : decode (datagram ++ more) = .error (.trailingBytes more.length) := by
  obtain ⟨⟨few, inBounds⟩, rfl⟩ := eq_encode_of_decode read
  have fits : unit.segments.length < Word.range 2 := Nat.lt_of_le_of_lt few (by decide)
  have front := decode_front unit.ack fits (unit.segments.flatMap Segment.encode ++ more)
  rw [if_neg (Nat.not_lt_of_le few), Segment.splitMany_encode inBounds] at front
  simpa [encode, follow, bind, Except.bind] using front

/-- What becomes of a fault when bytes follow.  Those behind the last segment grow in number,
an early end may be made up for, and all other faults stay. -/
theorem decode_eq_error (fault : decode datagram = .error error) :
    error.IsTruncation ∨
      (∃ count, error = .trailingBytes count ∧
        ∀ more, decode (datagram ++ more) = .error (.trailingBytes (count + more.length))) ∨
      error.isCount ∧ ∀ more, decode (datagram ++ more) = .error error := by
  obtain truncation | ⟨enough, _⟩ := demand_bind_eq_error fault
  · exact .inl truncation
  obtain ⟨ack, count, bytes, fits, rfl⟩ := exists_header enough
  have front (more : List UInt8) := decode_front ack fits (bytes ++ more)
  simp only [List.append_assoc]
  rw [decode_front ack fits] at fault
  split at fault
  · next many =>
    cases fault
    exact .inr (.inr ⟨rfl, fun more => (front more).trans (if_pos many)⟩)
  next few =>
  simp only [if_neg few] at front
  cases chain : Segment.splitMany count bytes with
  | error found =>
      simp only [chain, bind, Except.bind, Except.error.injEq] at fault
      subst fault
      refine (Segment.splitMany_eq_error chain).imp_right fun ⟨isCount, again⟩ =>
        .inr ⟨isCount, fun more => ?_⟩
      rw [front, again more]
      rfl
  | ok answer =>
      obtain ⟨segments, rest⟩ := answer
      simp only [chain, bind, Except.bind] at fault
      split at fault
      · cases fault
      next unfinished =>
      cases fault
      refine .inr (.inl ⟨rest.length, rfl, fun more => ?_⟩)
      have left : ¬ (rest ++ more).isEmpty := fun none =>
        unfinished (List.isEmpty_iff.mpr (List.append_eq_nil_iff.mp (List.isEmpty_iff.mp none)).1)
      rw [front, Segment.splitMany_append chain]
      simp only [bind, Except.bind, if_neg left, List.length_append]

/-- A datagram that is cut is found to be truncated: there is no other answer that the bytes
cut off would change into a unit. -/
theorem decode_of_cut {unit : WireUnit} {part more : Datagram} (follow : more ≠ [])
    (whole : decode (part ++ more) = .ok unit) :
    ∃ error, decode part = .error error ∧ error.IsTruncation := by
  cases answer : decode part with
  | ok read => cases (decode_append answer follow).symm.trans whole
  | error error =>
      refine ⟨error, rfl, ?_⟩
      obtain truncation | ⟨count, _, grown⟩ | ⟨_, again⟩ := decode_eq_error answer
      · exact truncation
      · cases (grown more).symm.trans whole
      · cases (again more).symm.trans whole

/-- Datagrams are read from left to right.  Where the datagram of a unit within bounds is cut,
bytes are missing, and the error says how many the next field takes and that fewer are left.
Bytes that follow a datagram are counted when it can be read or has bytes behind its last
segment already, and they change nothing when a count was the fault. -/
theorem reads_from_left_to_right :
    (∀ (unit : WireUnit) (part : Datagram), unit.InBounds → part <+: unit.encode →
      part ≠ unit.encode → ∃ needed remaining,
        decode part = .error (.truncated needed remaining) ∧ remaining < needed) ∧
    ∀ datagram more : Datagram, more ≠ [] →
      (∀ unit, decode datagram = .ok unit →
        decode (datagram ++ more) = .error (.trailingBytes more.length)) ∧
      (∀ count, decode datagram = .error (.trailingBytes count) →
        decode (datagram ++ more) = .error (.trailingBytes (count + more.length))) ∧
      ∀ error : WireError, error.isCount → decode datagram = .error error →
        decode (datagram ++ more) = .error error := by
  constructor
  · rintro unit part inBounds ⟨more, whole⟩ different
    have follow : more ≠ [] := by
      rintro rfl
      exact different (by rw [← whole, List.append_nil])
    obtain ⟨error, fault, needed, remaining, rfl, short⟩ :=
      decode_of_cut follow (whole ▸ decode_encode inBounds)
    exact ⟨needed, remaining, fault, short⟩
  · intro datagram more follow
    refine ⟨fun unit read => decode_append read follow, fun count fault => ?_,
      fun error isCount fault => ?_⟩
    · obtain ⟨_, _, same, _⟩ | ⟨_, same, grown⟩ | ⟨isCount, _⟩ := decode_eq_error fault
      · cases same
      · cases same
        exact grown more
      · cases isCount
    · obtain truncation | ⟨_, rfl, _⟩ | ⟨_, again⟩ := decode_eq_error fault
      · rw [truncation.not_isCount] at isCount
        cases isCount
      · cases isCount
      · exact again more

/-- A unit with one segment of two transmission ids and three bytes. -/
def framed : WireUnit := ⟨⟨.ofNat 3, 5#32⟩, [⟨.ofNat 7, [.ofNat 8, .ofNat 9], [1, 2, 3]⟩]⟩

/-- The datagram of a unit whose segment announces that it lists no transmission id. -/
def unlisted : Datagram := framed.encode.take 10 ++ [0, 0]

theorem reads_from_left_to_right_framed :
    framed.InBounds ∧
      (framed.encode.take 19 <+: framed.encode ∧ framed.encode.take 19 ≠ framed.encode ∧
        ∃ needed remaining, decode (framed.encode.take 19) =
          .error (.truncated needed remaining) ∧ remaining < needed) ∧
      (decode framed.encode = .ok framed ∧
        decode (framed.encode ++ [0, 0]) = .error (.trailingBytes 2) ∧
        decode ((framed.encode ++ [0, 0]) ++ [0]) = .error (.trailingBytes 3)) ∧
      decode unlisted = .error (.noTransmissionIds (.ofNat 7)) ∧
      decode (unlisted ++ [0]) = .error (.noTransmissionIds (.ofNat 7)) := by
  obtain ⟨cut, followed⟩ := reads_from_left_to_right
  have inBounds : framed.InBounds := by decide
  have front : framed.encode.take 19 <+: framed.encode := List.take_prefix _ _
  have short : framed.encode.take 19 ≠ framed.encode := by decide
  have read : decode framed.encode = .ok framed := by cbv
  have trailing := (followed framed.encode [0, 0] (List.cons_ne_nil _ _)).1 framed read
  have fault : decode unlisted = .error (.noTransmissionIds (.ofNat 7)) := by cbv
  exact ⟨inBounds, ⟨front, short, cut framed _ inBounds front short⟩,
    ⟨read, trailing, (followed _ [0] (List.cons_ne_nil _ _)).2.1 2 trailing⟩,
    fault, (followed unlisted [0] (List.cons_ne_nil _ _)).2.2 _ rfl fault⟩

end WireUnit

end ReliableDatagram
