import Mathlib.Data.List.Chain
import ReliableDatagram.Proofs.Sender.Chronicle

/-!
# How often and how soon an item goes out

Ids and slots are used again, so what is known of one item is stated of its number: it goes out
no more often than the limit allows, never again before the shortest timeout has passed, and
not after it was resolved (`disciplined_chronicle`).  Each course of an item has these
properties (`Course.disciplined`, `Course.ends`), whatever the estimator and the clock do.
-/

namespace ReliableDatagram

namespace Sender

variable {config : Config} {item : Item}

/-! ## One course -/

/-- The segment that a mark is about, and when it went out. -/
def Mark.dispatch? (mark : Mark) : Option (Segment × Instant) :=
  mark.output.segment?.map fun segment => (segment, mark.call.time)

theorem Mark.dispatch?_of_segment {mark : Mark} {segment : Segment}
    (sends : mark.output.segment? = some segment) :
    mark.dispatch? = some (segment, mark.call.time) := by
  rw [dispatch?, sends]
  rfl

theorem Mark.dispatch?_of_event {mark : Mark} {event : SendEvent}
    (ends : mark.output = .resolved event) : mark.dispatch? = none := by
  rw [dispatch?, ends]
  rfl

/-- The segments of an item, and when each went out. -/
def dispatches (number : Nat) (marks : List Mark) : List (Segment × Instant) :=
  (course number marks).filterMap Mark.dispatch?

/-- Whether an item goes out the second time long enough after the first. -/
def Spaced (config : Config) (earlier later : Segment × Instant) : Prop :=
  config.minTimeout ≤ later.2.since earlier.2

namespace Course

variable {past : List Mark} {progress : Progress} {status : Option Progress}

theorem unresolved (course : Course config item past (some progress)) :
    ∀ mark ∈ past, mark.output.event? = none := by
  generalize pending : some progress = status at course
  induction course generalizing progress with
  | sent first =>
      intro mark member
      rw [List.mem_singleton.mp member, first]
      rfl
  | again _ repeats _ _ _ ih =>
      intro mark member
      rcases List.mem_append.mp member with earlier | last
      · exact ih rfl mark earlier
      · rw [List.mem_singleton.mp last, repeats]
        rfl
  | resolved => cases pending

/-- A pending item has gone out once more often than it was repeated, and no more often than
the limit allows. -/
theorem dispatched (course : Course config item past (some progress)) :
    (past.filterMap Mark.dispatch?).length = progress.retransmissions + 1 ∧
      progress.retransmissions ≤ config.retransmitLimit ∧
      ∃ segment, (past.filterMap Mark.dispatch?).getLast? = some (segment, progress.sentAt) := by
  generalize pending : some progress = status at course
  induction course generalizing progress with
  | @sent mark segment first =>
      cases pending
      have sends : mark.output.segment? = some segment := congrArg Output.segment? first
      simp [Mark.dispatch?_of_segment sends]
  | @again _ _ mark segment _ repeats _ _ allowed ih =>
      cases pending
      have sends : mark.output.segment? = some segment := congrArg Output.segment? repeats
      simp [Mark.dispatch?_of_segment sends, (ih rfl).1, Nat.succ_le_of_lt allowed]
  | resolved => cases pending

/-- Whatever becomes of an item, it goes out no more often than the limit allows, and never
too soon. -/
theorem disciplined (course : Course config item past status) :
    (past.filterMap Mark.dispatch?).length ≤ 1 + config.retransmitLimit ∧
      (past.filterMap Mark.dispatch?).IsChain (Spaced config) := by
  induction course with
  | @sent mark segment first =>
      have sends : mark.output.segment? = some segment := congrArg Output.segment? first
      simp [Mark.dispatch?_of_segment sends]
  | @again past _ mark segment before repeats subject waited allowed ih =>
      have sends : mark.output.segment? = some segment := congrArg Output.segment? repeats
      have last : [mark].filterMap Mark.dispatch? = [(segment, mark.call.time)] := by
        simp [Mark.dispatch?_of_segment sends]
      obtain ⟨counted, _, former, ended⟩ := before.dispatched
      rw [List.filterMap_append, last]
      constructor
      · rw [List.length_append, counted, Nat.add_comm]
        exact Nat.add_le_add_left allowed 1
      · refine List.isChain_append.mpr ⟨ih.2, List.isChain_singleton _, ?_⟩
        intro earlier isLast later isFirst
        rw [ended] at isLast
        cases isLast
        cases isFirst
        exact waited
  | resolved _ ends _ ih =>
      rw [List.filterMap_append, List.filterMap_cons, Mark.dispatch?_of_event ends,
        List.filterMap_nil, List.append_nil]
      exact ih

theorem front {last : Mark} (course : Course config item (past ++ [last]) status) :
    past = [] ∨ ∃ progress, Course config item past (some progress) := by
  generalize whole : past ++ [last] = marks at course
  cases course with
  | sent =>
      have counted := congrArg List.length whole
      rw [List.length_append] at counted
      exact .inl (List.length_eq_zero_iff.mp (Nat.succ.inj counted))
  | again before =>
      rw [List.append_inj_left' whole rfl]
      exact .inr ⟨_, before⟩
  | resolved before =>
      rw [List.append_inj_left' whole rfl]
      exact .inr ⟨_, before⟩

theorem ends {before after : List Mark} {mark : Mark}
    (course : Course config item (before ++ mark :: after) status)
    (resolution : mark.output.event?.isSome) : after = [] := by
  rcases List.eq_nil_or_concat after with none | ⟨middle, last, rfl⟩
  · exact none
  · have split : before ++ mark :: middle.concat last = (before ++ mark :: middle) ++ [last] := by
      simp
    rw [split] at course
    rcases course.front with nothing | ⟨progress, earlier⟩
    · cases List.append_ne_nil_of_right_ne_nil _ (List.cons_ne_nil _ _) nothing
    · rw [earlier.unresolved mark (List.mem_append_right _ List.mem_cons_self)] at resolution
      cases resolution

theorem subject (course : Course config item past status) :
    ∀ mark ∈ past, mark.output.item = item := by
  induction course with
  | sent _ subject =>
      intro mark member
      rwa [List.mem_singleton.mp member]
  | again _ _ subject _ _ ih =>
      intro mark member
      rcases List.mem_append.mp member with earlier | last
      · exact ih mark earlier
      · rwa [List.mem_singleton.mp last]
  | resolved _ _ subject ih =>
      intro mark member
      rcases List.mem_append.mp member with earlier | last
      · exact ih mark earlier
      · rwa [List.mem_singleton.mp last]

end Course

/-! ## All courses of a run -/

/-- Whether marks repeat an answer and say of each part of it which item it is about.  The
items are numbered in the order in which they are sent. -/
structure Chronicles (marks : List Mark) (outputs : List Output) : Prop where
  alike : Alike (marks.map Mark.output) outputs
  numbers : numbersOf marks = List.range (itemsSent outputs).length
  subjects : ∀ mark ∈ marks, (itemsSent outputs)[mark.item]? = some mark.output.item

namespace Recorded

variable {flights : Nat → Option (Item × Progress)} {roster : Roster} {marks : List Mark}

/-- Every item that was sent is pending or over, and has a course. -/
theorem exists_course (recorded : Recorded config flights roster marks) {number : Nat}
    (sent : number < roster.count) :
    ∃ item status, (itemsOf marks)[number]? = some item ∧
      Course config item (course number marks) status := by
  by_cases vacant : ∀ slot flight, flights slot = some flight → roster.number slot ≠ number
  · obtain ⟨item, known, ended⟩ := recorded.ended sent vacant
    exact ⟨item, none, known, ended⟩
  · simp only [not_forall, not_not] at vacant
    obtain ⟨slot, ⟨item, progress⟩, found, rfl⟩ := vacant
    obtain ⟨known, ongoing⟩ := recorded.pending found
    exact ⟨item, some progress, known, ongoing⟩

/-- What a mark says of an item is said in the course of the item. -/
theorem subjects (recorded : Recorded config flights roster marks) {mark : Mark}
    (member : mark ∈ marks) : (itemsOf marks)[mark.item]? = some mark.output.item := by
  have listed : mark ∈ course mark.item marks :=
    List.mem_filter.mpr ⟨member, decide_eq_true rfl⟩
  rcases Nat.lt_or_ge mark.item roster.count with sent | future
  · obtain ⟨item, _, known, so⟩ := recorded.exists_course sent
    rw [known, so.subject mark listed]
  · rw [recorded.future future] at listed
    cases listed

/-- An item is not mentioned any more after its resolution. -/
theorem ends {before after : List Mark} {mark : Mark}
    (recorded : Recorded config flights roster (before ++ mark :: after))
    (resolution : mark.output.event?.isSome) : course mark.item after = [] := by
  have split : course mark.item (before ++ mark :: after) =
      course mark.item before ++ mark :: course mark.item after := by
    have single := course_append mark.item [mark] after
    rw [course_self] at single
    exact (course_append mark.item before _).trans (congrArg _ single)
  rcases Nat.lt_or_ge mark.item roster.count with sent | future
  · obtain ⟨item, status, _, so⟩ := recorded.exists_course sent
    rw [split] at so
    exact so.ends resolution
  · have nothing := recorded.future future
    rw [split] at nothing
    cases List.append_ne_nil_of_right_ne_nil _ (List.cons_ne_nil _ _) nothing

end Recorded

theorem itemsOf_chronicle (config : Config) (calls : List Call) :
    itemsOf (chronicle config calls).2 =
      itemsSent (Transition.run step (start config) calls).2 := by
  rw [itemsOf, itemsSent, (alike_chronicle config calls).sent]
  rfl

theorem chronicles_chronicle (valid : config.Valid) (calls : List Call) :
    Chronicles (chronicle config calls).2 (Transition.run step (start config) calls).2 where
  alike := alike_chronicle config calls
  numbers := by
    have recorded := recorded_chronicle valid calls
    rw [recorded.numbers, recorded.count, itemsOf_chronicle]
  subjects mark member := by
    rw [← itemsOf_chronicle]
    exact (recorded_chronicle valid calls).subjects member

/-- However a sender is used, each item goes out at most once more often than the limit says,
two segments of it in a row are at least the shortest timeout apart, and none goes out once it
was resolved. -/
theorem disciplined_chronicle (valid : config.Valid) (calls : List Call) :
    Chronicles (chronicle config calls).2 (Transition.run step (start config) calls).2 ∧
      ∀ number,
        (dispatches number (chronicle config calls).2).length ≤ 1 + config.retransmitLimit ∧
        (dispatches number (chronicle config calls).2).IsChain (Spaced config) ∧
        ∀ before mark after, (chronicle config calls).2 = before ++ mark :: after →
          mark.item = number → mark.output.event?.isSome → dispatches number after = [] := by
  have recorded := recorded_chronicle valid calls
  refine ⟨chronicles_chronicle valid calls, fun number => ?_⟩
  have silent : ∀ before mark after, (chronicle config calls).2 = before ++ mark :: after →
      mark.item = number → mark.output.event?.isSome → dispatches number after = [] := by
    intro before mark after split here resolution
    rw [split] at recorded
    rw [dispatches, ← here, recorded.ends resolution]
    rfl
  rcases Nat.lt_or_ge number (chronicle config calls).1.2.count with sent | future
  · obtain ⟨item, status, _, course⟩ := recorded.exists_course sent
    exact ⟨course.disciplined.1, course.disciplined.2, silent⟩
  · have none : dispatches number (chronicle config calls).2 = [] := by
      rw [dispatches, recorded.future future]
      rfl
    rw [none]
    exact ⟨Nat.zero_le _, .nil, silent⟩

/-- A queue with room for one item, which may go out three times. -/
def hasty : Config := { queueLimit := 1, retransmitLimit := 2 }

/-- The second item takes the place of the first.  It goes out whenever it may, but not while
the clock is back. -/
def repeating : List Call :=
  [.send [7] ⟨0⟩, .send [8] ⟨1000⟩, .retransmit ⟨2000000000⟩, .retransmit ⟨1000000000⟩,
    .retransmit ⟨5000000000⟩, .retransmit ⟨9000000000⟩]

theorem disciplined_chronicle_repeating :
    hasty.Valid ∧
      (dispatches 1 (chronicle hasty repeating).2).map Prod.snd =
        [⟨1000⟩, ⟨2000000000⟩, ⟨5000000000⟩] ∧
      (dispatches 1 (chronicle hasty repeating).2).length ≤ 1 + hasty.retransmitLimit ∧
      (dispatches 1 (chronicle hasty repeating).2).IsChain (Spaced hasty) := by
  have valid : hasty.Valid := Config.fault?_eq_none_iff.mp (by decide)
  have disciplined := (disciplined_chronicle valid repeating).2 1
  exact ⟨valid, by decide +kernel, disciplined.1, disciplined.2.1⟩

end Sender

end ReliableDatagram
