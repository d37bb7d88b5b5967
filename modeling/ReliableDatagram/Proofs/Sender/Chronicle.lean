import ReliableDatagram.Proofs.Sender.Deeds

/-!
# The chronicle of a run

Items are numbered in the order in which they are sent, and unlike their ids and their slots
these numbers are never used again.  The chronicle of a run is its answer with the number of
the item and the call at each part (`chronicle`).  Numbers are noted beside the run and do not
change it (`reached_chronicle`, `alike_chronicle`).

What the chronicle says of one item is its course, which has one of few shapes (`Course`): the
item is sent, then sent again some times, and at last resolved.  `Recorded` says so of all
items, and tells from a slot how far the item in it has come.  To prove it, a deed is reduced
to what it does to the flights of the pending items (`Turn`).
-/

namespace ReliableDatagram

namespace Sender

variable {config : Config} {sender after : Sender config} {call : Call}

/-! ## Numbers -/

/-- Who is who: the numbers of the items. -/
structure Roster where
  /-- How many items were sent. -/
  count : Nat
  /-- The number of the item to which each slot was given last. -/
  number : Nat → Nat

namespace Roster

/-- The numbers before the first item. -/
def empty : Roster := ⟨0, fun _ => 0⟩

/-- The numbers after a slot was given to a new item. -/
def enroll (roster : Roster) (slot : Nat) : Roster where
  count := roster.count + 1
  number other := if other = slot then roster.count else roster.number other

theorem number_enroll_self (roster : Roster) (slot : Nat) :
    (roster.enroll slot).number slot = roster.count :=
  if_pos rfl

theorem number_enroll_of_ne (roster : Roster) {slot other : Nat} (different : other ≠ slot) :
    (roster.enroll slot).number other = roster.number other :=
  if_neg different

end Roster

/-- The item that a part of an answer is about. -/
def Output.item : Output → Item
  | sent segment => (segment.dataId, segment.payload)
  | resent segment => (segment.dataId, segment.payload)
  | resolved event => (event.dataId, event.payload)

/-- A part of the answer to a call with the number of the item that it is about. -/
structure Mark where
  item : Nat
  call : Call
  output : Output

/-- Find out the number of the item in a slot. -/
def note (call : Call) : Transition Roster Entry Mark
  | roster, (slot, .sent segment) =>
      (roster.enroll slot, [⟨roster.count, call, .sent segment⟩])
  | roster, (slot, output) => (roster, [⟨roster.number slot, call, output⟩])

/-- A call whose answer is noted with the numbers of the items. -/
def track : Transition (Sender config × Roster) Call Mark
  | (sender, roster), call =>
      (((step sender call).1, (Transition.run (note call) roster (sender.entries call)).1),
        (Transition.run (note call) roster (sender.entries call)).2)

/-- The state after a run with the numbers of the items, and the answer with numbers. -/
def chronicle (config : Config) (calls : List Call) :
    (Sender config × Roster) × List Mark :=
  Transition.run track (start config, Roster.empty) calls

theorem chronicle_append (config : Config) (calls more : List Call) :
    chronicle config (calls ++ more) =
      ((Transition.run track (chronicle config calls).1 more).1,
        (chronicle config calls).2 ++
          (Transition.run track (chronicle config calls).1 more).2) :=
  Transition.run_append track _ calls more

theorem outputs_note (call : Call) (roster : Roster) (entries : List Entry) :
    (Transition.run (note call) roster entries).2.map Mark.output = entries.map Prod.snd := by
  induction entries generalizing roster with
  | nil => rfl
  | cons entry rest ih =>
      rw [Transition.run_cons, List.map_append, ih]
      obtain ⟨slot, output⟩ := entry
      cases output <;> rfl

/-- What each deed keeps of a sender, of the numbers and of all marks so far, deeds keep. -/
theorem Deeds.preserve (property : Sender config → Roster → List Mark → Prop)
    (kept : ∀ {before after : Sender config} {entries : List Entry} {roster : Roster}
      {past : List Mark}, Deed call before entries after → property before roster past →
      property after (Transition.run (note call) roster entries).1
        (past ++ (Transition.run (note call) roster entries).2))
    {entries : List Entry} (deeds : Deeds call sender entries after) {roster : Roster}
    (past : List Mark) (initial : property sender roster past) :
    property after (Transition.run (note call) roster entries).1
      (past ++ (Transition.run (note call) roster entries).2) := by
  induction deeds generalizing roster past with
  | none => rwa [Transition.run_nil, List.append_nil]
  | next deed _ ih =>
      rw [Transition.run_append, ← List.append_assoc]
      exact ih _ (kept deed initial)

/-- What each deed keeps, a run keeps. -/
theorem chronicle_keeps (ordered : config.minTimeout ≤ config.maxTimeout)
    (property : Sender config → Roster → List Mark → Prop)
    (kept : ∀ {call : Call} {before after : Sender config} {entries : List Entry}
      {roster : Roster} {past : List Mark}, Deed call before entries after →
      property before roster past →
      property after (Transition.run (note call) roster entries).1
        (past ++ (Transition.run (note call) roster entries).2))
    {sender : Sender config} {roster : Roster} {past : List Mark}
    (agrees : sender.pending.Agrees) (initial : property sender roster past)
    (calls : List Call) :
    property (Transition.run track (sender, roster) calls).1.1
      (Transition.run track (sender, roster) calls).1.2
      (past ++ (Transition.run track (sender, roster) calls).2) := by
  let holds (state : Sender config × Roster) (past : List Mark) : Prop :=
    state.1.pending.Agrees ∧ property state.1 state.2 past
  have each : ∀ {state past} (call : Call), holds state past →
      holds (track state call).1 (past ++ (track state call).2) := by
    intro state past call before
    have deeds := deeds_step ordered before.1 call
    exact ⟨deeds.agrees before.1, deeds.preserve property kept past before.2⟩
  exact (Transition.run_keeps holds each calls ⟨agrees, initial⟩).2

/-- Taking notes changes neither the states nor the answers. -/
theorem run_track (state : Sender config × Roster) (agrees : state.1.pending.Agrees)
    (calls : List Call) :
    (Transition.run track state calls).1.1 = (Transition.run step state.1 calls).1 ∧
      Alike ((Transition.run track state calls).2.map Mark.output)
        (Transition.run step state.1 calls).2 := by
  induction calls generalizing state with
  | nil => exact ⟨rfl, .refl []⟩
  | cons call rest ih =>
      obtain ⟨sender, roster⟩ := state
      obtain ⟨_, moves, _⟩ := step_performs sender call
      obtain ⟨same, alike⟩ := ih (track (sender, roster) call).1 (moves.agrees agrees)
      have first := alike_entries agrees call
      rw [Transition.run_cons, Transition.run_cons, List.map_append]
      refine ⟨same, ?_⟩
      simp only [track, outputs_note] at alike ⊢
      exact first.append alike

theorem reached_chronicle (config : Config) (calls : List Call) :
    (chronicle config calls).1.1 = reached config calls :=
  (run_track _ Table.agrees_empty calls).1

theorem alike_chronicle (config : Config) (calls : List Call) :
    Alike ((chronicle config calls).2.map Mark.output)
      (Transition.run step (start config) calls).2 :=
  (run_track _ Table.agrees_empty calls).2

/-! ## Courses -/

/-- What the chronicle says of an item. -/
def course (item : Nat) (marks : List Mark) : List Mark :=
  marks.filter fun mark => mark.item = item

theorem course_append (item : Nat) (marks more : List Mark) :
    course item (marks ++ more) = course item marks ++ course item more :=
  List.filter_append ..

theorem course_self (mark : Mark) : course mark.item [mark] = [mark] := by
  simp [course]

theorem course_of_ne {item : Nat} {mark : Mark} (different : mark.item ≠ item) :
    course item [mark] = [] := by
  simp [course, different]

/-- How far a pending item has come. -/
structure Progress where
  retransmissions : Nat
  /-- When it went out last. -/
  sentAt : Instant

/-- What can become of an item, and how far it has come while it is pending. -/
inductive Course (config : Config) (item : Item) : List Mark → Option Progress → Prop where
  | sent {mark : Mark} {segment : Segment} (first : mark.output = .sent segment)
      (subject : mark.output.item = item) :
      Course config item [mark] (some ⟨0, mark.call.time⟩)
  | again {past : List Mark} {progress : Progress} {mark : Mark} {segment : Segment}
      (before : Course config item past (some progress)) (repeats : mark.output = .resent segment)
      (subject : mark.output.item = item)
      (waited : config.minTimeout ≤ mark.call.time.since progress.sentAt)
      (allowed : progress.retransmissions < config.retransmitLimit) :
      Course config item (past ++ [mark])
        (some ⟨progress.retransmissions + 1, mark.call.time⟩)
  | resolved {past : List Mark} {progress : Progress} {mark : Mark} {event : SendEvent}
      (before : Course config item past (some progress)) (ends : mark.output = .resolved event)
      (subject : mark.output.item = item) :
      Course config item (past ++ [mark]) none

/-! ## Flights -/

/-- The item of a record, and how far it has come. -/
def flightOf (record : Record PendingItem) : Item × Progress :=
  (itemOf record, ⟨record.value.retransmissions, record.touchedAt⟩)

/-- The pending item in a slot, and how far it has come. -/
def flight? (sender : Sender config) (slot : Nat) : Option (Item × Progress) :=
  (sender.pending.record? slot).map flightOf

theorem flight?_of_found {slot : Nat} {record : Record PendingItem}
    (found : sender.pending.record? slot = some record) :
    sender.flight? slot = some (flightOf record) :=
  congrArg (Option.map flightOf) found

/-- What a deed does to the pending items, apart from their ids. -/
inductive Turn (config : Config) (call : Call) (before after : Nat → Option (Item × Progress)) :
    List Entry → Prop where
  | rest (same : ∀ slot, after slot = before slot) : Turn config call before after []
  | enroll {slot : Nat} {segment : Segment} (sends : ∃ payload now, call = .send payload now)
      (vacant : before slot = none)
      (changed : ∀ other, after other =
        if other = slot then some ((segment.dataId, segment.payload), ⟨0, call.time⟩)
        else before other) :
      Turn config call before after [(slot, .sent segment)]
  | again {slot : Nat} {item : Item} {progress : Progress} {segment : Segment}
      (repeats : ∃ now, call = .retransmit now) (found : before slot = some (item, progress))
      (subject : (segment.dataId, segment.payload) = item)
      (waited : config.minTimeout ≤ call.time.since progress.sentAt)
      (allowed : progress.retransmissions < config.retransmitLimit)
      (changed : ∀ other, after other =
        if other = slot then some (item, ⟨progress.retransmissions + 1, call.time⟩)
        else before other) :
      Turn config call before after [(slot, .resent segment)]
  | resolve {slot : Nat} {item : Item} {progress : Progress} {event : SendEvent}
      (found : before slot = some (item, progress))
      (subject : (event.dataId, event.payload) = item)
      (changed : ∀ other, after other = if other = slot then none else before other) :
      Turn config call before after [(slot, .resolved event)]

theorem flight?_remove (sender : Sender config) (gone slot : Nat)
    (pending : after.pending = sender.pending.remove gone) :
    after.flight? slot = if slot = gone then none else sender.flight? slot := by
  rw [flight?, pending, Table.record?_remove]
  split
  · rfl
  · rfl

/-- Filing a record under a key changes nothing but keys. -/
theorem map_record?_register {β : Type} {table pending : Table PendingItem} {key : SeqId}
    {slot : Nat} {displaced : Option Nat}
    (registered : table.register key slot = .ok (pending, displaced))
    (reading : Record PendingItem → β)
    (keyless : ∀ record keys, reading { record with keys } = reading record) (other : Nat) :
    (pending.record? other).map reading = (table.record? other).map reading := by
  obtain ⟨_, rfl, _⟩ | ⟨record, found, elsewhere, _, rfl, _⟩ := Table.register_eq_ok registered
  · rfl
  · rw [Table.record?_refile_of_ne elsewhere]
    split
    · next here =>
      rw [here, found]
      exact congrArg some (keyless record _)
    split
    · cases table.record? other with
      | none => rfl
      | some record => exact congrArg some (keyless record _)
    · rfl

theorem flight?_again {slot : Nat} {record again : Record PendingItem}
    {pending : Table PendingItem} {displaced : Option Nat}
    (found : sender.pending.record? slot = some record)
    (registered : sender.pending.register sender.nextTransmissionId slot =
      .ok (pending, displaced))
    (filed : pending.record? slot = some again) (now : Instant) (other : Nat) :
    ((sender.filed pending).repeated now slot).flight? other =
      if other = slot then some (itemOf record, ⟨record.value.retransmissions + 1, now⟩)
      else sender.flight? other := by
  obtain ⟨value, item, _⟩ := Traced.record_again found registered filed
  have stored : (sender.filed pending).pending.record? slot = some again := filed
  rw [flight?, record?_repeated]
  split
  · rw [stored, ← item, ← value]
    rfl
  · exact map_record?_register registered flightOf (fun _ _ => rfl) other

theorem Deed.turn {entries : List Entry} (deed : Deed call sender entries after) :
    Turn config call sender.flight? after.flight? entries := by
  cases deed with
  | giveUp reason found =>
      exact .resolve (flight?_of_found found) rfl fun other =>
        flight?_remove sender _ other (congrArg (·.1.pending) (giveUp_of_found found reason))
  | confirm _ _ _ holder found =>
      exact .resolve (flight?_of_found found) rfl fun other =>
        flight?_remove sender _ other (pending_confirm holder found _)
  | release holder superseded =>
      refine .rest fun slot => ?_
      rw [flight?, Table.record?_release holder]
      split
      · rw [Option.map_map]
        rfl
      · rfl
  | takeOn fits registered =>
      refine .enroll ⟨_, _, rfl⟩ (congrArg (Option.map flightOf) sender.pending.record?_freshSlot)
        fun other => ?_
      have same := map_record?_register registered flightOf (fun _ _ => rfl) other
      rw [Table.record?_create] at same
      refine same.trans ?_
      split
      · rfl
      · rfl
  | again found waited allowed registered filed =>
      have item := (Traced.record_again found registered filed).2.1
      exact .again ⟨_, rfl⟩ (flight?_of_found found) item waited allowed
        (flight?_again found registered filed _)
  | forfeit found allowed refused => exact .rest fun slot => rfl

/-! ## The record of a run -/

/-- The items of which the chronicle says that they were sent. -/
def itemsOf (marks : List Mark) : List Item := itemsSent (marks.map Mark.output)

theorem itemsOf_sent (marks : List Mark) {mark : Mark} {segment : Segment}
    (sent : mark.output = .sent segment) :
    itemsOf (marks ++ [mark]) = itemsOf marks ++ [(segment.dataId, segment.payload)] := by
  rw [itemsOf, List.map_append, itemsSent_append, List.map_singleton, sent]
  rfl

theorem itemsOf_unsent (marks : List Mark) {mark : Mark} (unsent : mark.output.sent? = none) :
    itemsOf (marks ++ [mark]) = itemsOf marks := by
  rw [itemsOf, List.map_append, itemsSent_append, List.map_singleton]
  simp [itemsSent, unsent, itemsOf]

/-- The numbers of the items of which the chronicle says that they were sent. -/
def numbersOf (marks : List Mark) : List Nat :=
  marks.filterMap fun mark => mark.output.sent?.map fun _ => mark.item

theorem numbersOf_unsent (marks : List Mark) {mark : Mark} (unsent : mark.output.sent? = none) :
    numbersOf (marks ++ [mark]) = numbersOf marks := by
  simp [numbersOf, unsent]

/-- What the chronicle tells of the items, and of the pending ones by their slots. -/
structure Recorded (config : Config) (flights : Nat → Option (Item × Progress))
    (roster : Roster) (marks : List Mark) : Prop where
  count : roster.count = (itemsOf marks).length
  numbers : numbersOf marks = List.range roster.count
  /-- Different slots hold different items. -/
  distinct : ∀ {left right : Nat} {first second : Item × Progress},
    flights left = some first → flights right = some second →
    roster.number left = roster.number right → left = right
  pending : ∀ {slot : Nat} {item : Item} {progress : Progress},
    flights slot = some (item, progress) →
    (itemsOf marks)[roster.number slot]? = some item ∧
      Course config item (course (roster.number slot) marks) (some progress)
  ended : ∀ {number : Nat}, number < roster.count →
    (∀ slot flight, flights slot = some flight → roster.number slot ≠ number) →
    ∃ item, (itemsOf marks)[number]? = some item ∧
      Course config item (course number marks) none
  future : ∀ {number : Nat}, roster.count ≤ number → course number marks = []

namespace Recorded

variable {flights changed : Nat → Option (Item × Progress)} {roster : Roster}
  {marks : List Mark} {slot : Nat} {item : Item} {progress : Progress} {mark : Mark}

theorem start (config : Config) : Recorded config (Sender.start config).flight? .empty [] where
  count := rfl
  numbers := rfl
  distinct first := by simp [flight?, Sender.start, Table.record?_empty] at first
  pending found := by simp [flight?, Sender.start, Table.record?_empty] at found
  ended less := absurd less (Nat.not_lt_zero _)
  future _ := rfl

theorem number_lt (recorded : Recorded config flights roster marks)
    (found : flights slot = some (item, progress)) : roster.number slot < roster.count := by
  rw [recorded.count]
  exact (List.getElem?_eq_some_iff.mp (recorded.pending found).1).1

theorem proceed (recorded : Recorded config flights roster marks)
    (found : flights slot = some (item, progress)) (subject : mark.item = roster.number slot)
    (unsent : mark.output.sent? = none) {next : Option Progress}
    (course : ∀ {past}, Course config item past (some progress) →
      Course config item (past ++ [mark]) next)
    (changes : ∀ other, changed other =
      if other = slot then next.map (item, ·) else flights other) :
    Recorded config changed roster (marks ++ [mark]) where
  count := by rw [itemsOf_unsent marks unsent, recorded.count]
  numbers := by rw [numbersOf_unsent marks unsent, recorded.numbers]
  distinct {left right first second} leftFound rightFound same := by
    have known : ∀ {place flight}, changed place = some flight →
        ∃ former, flights place = some former := by
      intro place flight there
      rw [changes] at there
      split at there
      · next here => exact ⟨_, here ▸ found⟩
      · exact ⟨_, there⟩
    obtain ⟨_, former⟩ := known leftFound
    obtain ⟨_, latter⟩ := known rightFound
    exact recorded.distinct former latter same
  pending {place other later} there := by
    rw [changes] at there
    rw [itemsOf_unsent marks unsent, course_append]
    split at there
    · next here =>
      obtain ⟨now, kept, same⟩ := Option.map_eq_some_iff.mp there
      obtain ⟨sent, so⟩ := recorded.pending found
      cases same
      rw [here, ← subject, course_self, subject, ← kept]
      exact ⟨sent, course so⟩
    · next elsewhere =>
      have apart : mark.item ≠ roster.number place := fun same =>
        elsewhere (recorded.distinct there found (same.symm.trans subject))
      rw [course_of_ne apart, List.append_nil]
      exact recorded.pending there
  ended {number} less vacant := by
    rw [itemsOf_unsent marks unsent, course_append]
    by_cases here : mark.item = number
    · obtain ⟨sent, so⟩ := recorded.pending found
      have gone : next = none := by
        cases kept : next with
        | none => rfl
        | some now =>
            have there := changes slot
            rw [if_pos rfl, kept] at there
            exact absurd (subject.symm.trans here) (vacant slot _ there)
      rw [← here, course_self, subject, ← gone]
      exact ⟨item, sent, course so⟩
    · rw [course_of_ne here, List.append_nil]
      refine recorded.ended less fun place flight there same => ?_
      have apart : place ≠ slot := fun equal => here (subject.trans (equal ▸ same))
      exact vacant place flight ((changes place).trans ((if_neg apart).trans there)) same
  future {number} beyond := by
    have apart : mark.item ≠ number := by
      have less := recorded.number_lt found
      omega
    rw [course_append, course_of_ne apart, recorded.future beyond]
    rfl

theorem enroll (recorded : Recorded config flights roster marks) (vacant : flights slot = none)
    {segment : Segment} (subject : mark.item = roster.count)
    (sent : mark.output = .sent segment)
    (changes : ∀ other, changed other =
      if other = slot then some ((segment.dataId, segment.payload), ⟨0, mark.call.time⟩)
      else flights other) :
    Recorded config changed (roster.enroll slot) (marks ++ [mark]) where
  count := by
    rw [itemsOf_sent marks sent, List.length_append, ← recorded.count]
    rfl
  numbers := by
    have numbers := recorded.numbers
    rw [numbersOf] at numbers
    rw [numbersOf, List.filterMap_append, numbers, Roster.enroll, List.range_succ]
    simp [sent, Output.sent?, subject]
  distinct {left right first second} leftFound rightFound same := by
    have apart : ∀ {place flight}, changed place = some flight → place ≠ slot →
        flights place = some flight ∧ (roster.enroll slot).number place < roster.count := by
      intro place flight there elsewhere
      rw [changes, if_neg elsewhere] at there
      rw [roster.number_enroll_of_ne elsewhere]
      exact ⟨there, recorded.number_lt there⟩
    by_cases leftHere : left = slot
    · by_cases rightHere : right = slot
      · rw [leftHere, rightHere]
      · have less := (apart rightFound rightHere).2
        rw [← same, leftHere, roster.number_enroll_self] at less
        exact absurd less (Nat.lt_irrefl _)
    · have less := (apart leftFound leftHere).2
      by_cases rightHere : right = slot
      · rw [same, rightHere, roster.number_enroll_self] at less
        exact absurd less (Nat.lt_irrefl _)
      · rw [roster.number_enroll_of_ne leftHere, roster.number_enroll_of_ne rightHere] at same
        exact recorded.distinct (apart leftFound leftHere).1 (apart rightFound rightHere).1 same
  pending {place other later} there := by
    rw [changes] at there
    rw [itemsOf_sent marks sent, course_append]
    split at there
    · next here =>
      cases there
      rw [here, roster.number_enroll_self, recorded.future (Nat.le_refl _), ← subject,
        course_self, subject, recorded.count]
      refine ⟨List.getElem?_concat_length .., .sent sent ?_⟩
      rw [sent]
      rfl
    · next elsewhere =>
      have less := recorded.number_lt there
      rw [roster.number_enroll_of_ne elsewhere, course_of_ne (by omega), List.append_nil,
        List.getElem?_append_left (by rwa [← recorded.count])]
      exact recorded.pending there
  ended {number} less vacant' := by
    have here : (changed slot) = some _ := (changes slot).trans (if_pos rfl)
    have new := vacant' slot _ here
    rw [roster.number_enroll_self] at new
    have older : number < roster.count :=
      Nat.lt_of_le_of_ne (Nat.lt_succ_iff.mp less) new.symm
    rw [itemsOf_sent marks sent, course_append, course_of_ne (by omega), List.append_nil,
      List.getElem?_append_left (by rwa [← recorded.count])]
    refine recorded.ended older fun place flight there => ?_
    have apart : place ≠ slot := by
      intro same
      rw [same, vacant] at there
      cases there
    have kept := vacant' place flight ((changes place).trans ((if_neg apart).trans there))
    rwa [roster.number_enroll_of_ne apart] at kept
  future {number} beyond := by
    have later : roster.count < number := beyond
    rw [course_append, course_of_ne (by omega), recorded.future (Nat.le_of_lt later)]
    rfl

theorem turn {entries : List Entry} (recorded : Recorded config flights roster marks)
    (turn : Turn config call flights changed entries) :
    Recorded config changed (Transition.run (note call) roster entries).1
      (marks ++ (Transition.run (note call) roster entries).2) := by
  cases turn with
  | rest same =>
      have equal : changed = flights := funext same
      rwa [equal, Transition.run_nil, List.append_nil]
  | enroll _ vacant changes => exact recorded.enroll vacant rfl rfl changes
  | again _ found subject waited allowed changes =>
      exact recorded.proceed found rfl rfl
        (fun before => .again before rfl subject waited allowed) changes
  | resolve found subject changes =>
      exact recorded.proceed found rfl rfl (fun before => .resolved before rfl subject) changes

end Recorded

/-- The chronicle records a run, and the ids of the sender can be traced back in it. -/
theorem recorded_chronicle (valid : config.Valid) (calls : List Call) :
    Recorded config (chronicle config calls).1.1.flight? (chronicle config calls).1.2
      (chronicle config calls).2 := by
  exact chronicle_keeps valid.minTimeout_le
    (fun sender roster marks => Recorded config sender.flight? roster marks)
    (fun deed recorded => recorded.turn deed.turn) Table.agrees_empty (.start config) calls

end Sender

end ReliableDatagram
