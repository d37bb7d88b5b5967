import ReliableDatagram.Proofs.Sender.Accounting
import ReliableDatagram.Proofs.Sender.Discipline
import ReliableDatagram.Proofs.Sender.Visiting

/-!
# Items do not stay pending

Only a retransmission moves an item on, and none passes it over once the longest timeout has
gone by: the item goes out again or is resolved (`flight?_retransmit`).  So after retransmissions
that far apart a pending item has gone out again in each of them (`Stage`), and the limit allows
only so many.  What else is asked of the sender in between, at whatever time, makes no
difference (`resolved_after_retransmissions`).
-/

namespace ReliableDatagram

namespace Sender

variable {config : Config} {sender : Sender config}

/-! ## What a retransmission does to an item -/

theorem flight?_giveUp (reason : GiveUpReason) (sender : Sender config) (gone slot : Nat) :
    (giveUp reason sender gone).1.flight? slot =
      if slot = gone then none else sender.flight? slot := by
  cases found : sender.pending.record? gone with
  | none =>
      rw [giveUp_of_vacant found]
      split
      · next here => rw [here, flight?, found, Option.map_none]
      · rfl
  | some record =>
      exact flight?_remove sender gone slot (congrArg (·.1.pending) (giveUp_of_found found reason))

theorem flight?_giveUpOrphan (sender : Sender config) (displaced : Option Nat) (slot : Nat) :
    (sender.giveUpOrphan displaced).1.flight? slot = none ∨
      (sender.giveUpOrphan displaced).1.flight? slot = sender.flight? slot := by
  cases displaced with
  | none => exact .inr rfl
  | some orphan =>
      simp only [giveUpOrphan]
      split
      · rw [flight?_giveUp]
        split
        · exact .inl rfl
        · exact .inr rfl
      · exact .inr rfl

/-- What can become of a slot when one is visited: the item is gone, or it is left as it is, or
it has gone out again.  It is left only when another slot is visited, or when it has not waited
long enough. -/
inductive Outcome (timeout : Duration) (now : Instant) (visited : Prop)
    (before : Option (Item × Progress)) : Option (Item × Progress) → Prop where
  | gone : Outcome timeout now visited before none
  | kept (early : ∀ flight, before = some flight → visited → now.since flight.2.sentAt < timeout) :
      Outcome timeout now visited before before
  | again {item : Item} {progress : Progress} (here : visited)
      (found : before = some (item, progress)) :
      Outcome timeout now visited before (some (item, ⟨progress.retransmissions + 1, now⟩))

theorem Outcome.of_iff {timeout : Duration} {now : Instant} {visited others : Prop}
    {before after : Option (Item × Progress)} (outcome : Outcome timeout now visited before after)
    (same : others ↔ visited) : Outcome timeout now others before after := by
  cases outcome with
  | gone => exact .gone
  | kept early => exact .kept fun flight found here => early flight found (same.mp here)
  | again here found => exact .again (same.mpr here) found

theorem outcome_giveUp (timeout : Duration) (now : Instant) (reason : GiveUpReason)
    (sender : Sender config) (gone slot : Nat) :
    Outcome timeout now (slot = gone) (sender.flight? slot)
      ((giveUp reason sender gone).1.flight? slot) := by
  rw [flight?_giveUp]
  split
  · exact .gone
  · next elsewhere => exact .kept fun _ _ here => absurd here elsewhere

theorem outcome_revisit (timeout : Duration) (now : Instant) (sender : Sender config)
    (visited slot : Nat) :
    Outcome timeout now (slot = visited) (sender.flight? slot)
      ((revisit timeout now sender visited).1.flight? slot) := by
  have visit := revisit_cases timeout now sender visited
  generalize revisit timeout now sender visited = answer at visit ⊢
  cases visit with
  | idle early =>
      refine .kept fun flight there here => ?_
      rw [here] at there
      obtain ⟨record, found, rfl⟩ := Option.map_eq_some_iff.mp there
      exact early found
  | giveUp reason found => exact outcome_giveUp timeout now reason sender visited slot
  | forfeit found allowed refused =>
      exact outcome_giveUp timeout now .retransmitLimit (sender.filed sender.pending) visited slot
  | @again _ _ pending displaced found waited allowed registered filed different =>
      rcases flight?_giveUpOrphan ((sender.filed pending).repeated now visited) displaced slot with
        gone | kept
      · rw [gone]
        exact .gone
      · rw [kept, flight?_again found registered filed]
        split
        · next here => exact .again here (here ▸ flight?_of_found found)
        · next elsewhere => exact .kept fun _ _ here => absurd here elsewhere

theorem outcome_run_revisit (timeout : Duration) (now : Instant) (sender : Sender config)
    {slots : List Nat} (distinct : slots.Nodup) (slot : Nat) :
    Outcome timeout now (slot ∈ slots) (sender.flight? slot)
      ((Transition.run (revisit timeout now) sender slots).1.flight? slot) := by
  induction slots generalizing sender with
  | nil => exact .kept fun _ _ none => absurd none List.not_mem_nil
  | cons visited rest ih =>
      obtain ⟨absent, distinct⟩ := List.nodup_cons.mp distinct
      have first := outcome_revisit timeout now sender visited slot
      have later := ih (revisit timeout now sender visited).1 distinct
      rw [Transition.run_cons]
      generalize (revisit timeout now sender visited).1.flight? slot = middle at first later
      generalize flight? (Transition.run _ _ rest).1 slot = last at later ⊢
      by_cases here : slot = visited
      · have only : slot ∈ visited :: rest ↔ slot = visited := by
          rw [List.mem_cons, or_iff_left (here ▸ absent)]
        cases later with
        | gone => exact .gone
        | kept => exact first.of_iff only
        | again again => exact absurd again (here ▸ absent)
      · have only : slot ∈ visited :: rest ↔ slot ∈ rest := by
          rw [List.mem_cons, or_iff_right here]
        cases first with
        | gone =>
            cases later with
            | gone => exact .gone
            | kept => exact .gone
            | again _ found => cases found
        | kept => exact later.of_iff only
        | again again => exact absurd again here

/-- An item that is left by a retransmission has gone out again, or it has not waited long
enough. -/
theorem flight?_retransmit {now : Instant} {slot : Nat} {item : Item} {current : Progress}
    (left : (sender.retransmit now).1.flight? slot = some (item, current)) :
    ∃ progress, sender.flight? slot = some (item, progress) ∧
      (current = ⟨progress.retransmissions + 1, now⟩ ∨
        current = progress ∧ now.since progress.sentAt < sender.timeout) := by
  have outcome := outcome_run_revisit sender.timeout now sender (nodup_oldestFirst sender) slot
  change Outcome _ _ _ _ ((sender.retransmit now).1.flight? slot) at outcome
  rw [left] at outcome
  generalize before : sender.flight? slot = flight at outcome
  cases outcome with
  | kept early =>
      obtain ⟨record, found, _⟩ := Option.map_eq_some_iff.mp before
      exact ⟨current, rfl, .inr ⟨rfl, early _ rfl (mem_oldestFirst found)⟩⟩
  | again _ found => exact ⟨_, found, .inl rfl⟩

/-! ## Stages -/

/-- Whether the item with a number has come this far, unless it was resolved. -/
structure Stage (flights : Nat → Option (Item × Progress)) (roster : Roster) (number : Nat)
    (progress : Progress) : Prop where
  sent : number < roster.count
  reached : ∀ {slot : Nat} {item : Item} {current : Progress},
    flights slot = some (item, current) → roster.number slot = number → current = progress

section Turns

variable {call : Call} {flights changed : Nat → Option (Item × Progress)} {entries : List Entry}
  {roster : Roster} {number : Nat} {progress : Progress}

/-- Only what is sent for the first time gets a number. -/
theorem Turn.roster_eq (turn : Turn config call flights changed entries)
    (unsent : ∀ payload now, call ≠ .send payload now) (roster : Roster) :
    (Transition.run (note call) roster entries).1 = roster := by
  cases turn with
  | rest => rfl
  | enroll sends =>
      obtain ⟨payload, now, same⟩ := sends
      exact absurd same (unsent payload now)
  | again => rfl
  | resolve => rfl

/-- Other calls than retransmissions move no item on. -/
theorem Stage.turn (stage : Stage flights roster number progress)
    (turn : Turn config call flights changed entries) (steady : ∀ now, call ≠ .retransmit now) :
    Stage changed (Transition.run (note call) roster entries).1 number progress := by
  cases turn with
  | rest same =>
      have equal : changed = flights := funext same
      exact equal ▸ stage
  | @enroll slot segment _ vacant changes =>
      refine ⟨Nat.lt_succ_of_lt stage.sent, fun {place item current} found same => ?_⟩
      change (roster.enroll slot).number place = number at same
      rw [changes] at found
      split at found
      · next here =>
        rw [here, roster.number_enroll_self] at same
        exact absurd same stage.sent.ne'
      · next elsewhere =>
        rw [roster.number_enroll_of_ne elsewhere] at same
        exact stage.reached found same
  | again repeats =>
      obtain ⟨now, same⟩ := repeats
      exact absurd same (steady now)
  | resolve _ _ changes =>
      refine ⟨stage.sent, fun {place item current} found same => ?_⟩
      rw [changes] at found
      split at found
      · cases found
      · exact stage.reached found same

theorem Recorded.joins {marks : List Mark} {payload : Payload} {now : Instant}
    (recorded : Recorded config flights roster marks) (next : roster.count = number)
    (turn : Turn config (.send payload now) flights changed entries) :
    (Transition.run (note (.send payload now)) roster entries).1.count = number ∨
      Stage changed (Transition.run (note (.send payload now)) roster entries).1 number
        ⟨0, now⟩ := by
  cases turn with
  | rest => exact .inl next
  | @enroll slot segment _ vacant changes =>
      refine .inr ⟨next ▸ Nat.lt_succ_self _, fun {place item current} found same => ?_⟩
      change (roster.enroll slot).number place = number at same
      rw [changes] at found
      split at found
      · cases found
        rfl
      · next elsewhere =>
        rw [roster.number_enroll_of_ne elsewhere, ← next] at same
        exact absurd same (recorded.number_lt found).ne
  | again => exact .inl next
  | resolve => exact .inl next

end Turns

/-! ## Runs -/

/-- When the retransmissions among some calls happen. -/
def retransmitTimes (calls : List Call) : List Instant :=
  calls.filterMap fun call =>
    match call with
    | .retransmit now => some now
    | _ => none

/-- Whether an instant comes at least the longest timeout after another. -/
def LongAfter (config : Config) (earlier later : Instant) : Prop :=
  config.maxTimeout ≤ later.since earlier

namespace Stage

variable {roster : Roster} {number : Nat} {progress : Progress}

theorem rest (ordered : config.minTimeout ≤ config.maxTimeout) (agrees : sender.pending.Agrees)
    (stage : Stage sender.flight? roster number progress) {call : Call}
    (steady : ∀ now, call ≠ .retransmit now) :
    Stage (track (sender, roster) call).1.1.flight? (track (sender, roster) call).1.2 number
      progress := by
  exact (deeds_step ordered agrees call).preserve
    (fun sender roster _ => Stage sender.flight? roster number progress)
    (fun deed stage => stage.turn deed.turn steady) [] stage

/-- A retransmission that comes late enough takes an item to its next stage. -/
theorem advance (ordered : config.minTimeout ≤ config.maxTimeout)
    (agrees : sender.pending.Agrees) (stage : Stage sender.flight? roster number progress)
    {now : Instant} (late : LongAfter config progress.sentAt now) :
    Stage (track (sender, roster) (.retransmit now)).1.1.flight?
      (track (sender, roster) (.retransmit now)).1.2 number
      ⟨progress.retransmissions + 1, now⟩ := by
  have same : (track (sender, roster) (.retransmit now)).1.2 = roster := by
    refine (deeds_step ordered agrees (.retransmit now)).preserve
      (fun _ current _ => current = roster) (fun deed unchanged => ?_) [] rfl
    rw [deed.turn.roster_eq nofun, unchanged]
  rw [same]
  refine ⟨stage.sent, fun {slot item current} found here => ?_⟩
  obtain ⟨before, there, again | ⟨_, early⟩⟩ := flight?_retransmit found
  · rw [again, stage.reached there here]
  · have bound := RoundTrip.timeout_le_maxTimeout config sender.roundTrip
    rw [stage.reached there here] at early
    exact absurd (Nat.lt_of_lt_of_le early (Nat.le_trans bound late)) (Nat.lt_irrefl _)

/-- With each late retransmission an item comes to the next stage, whatever happens in
between. -/
theorem run (ordered : config.minTimeout ≤ config.maxTimeout)
    {state : Sender config × Roster} (agrees : state.1.pending.Agrees)
    (stage : Stage state.1.flight? state.2 number progress) (calls : List Call)
    (spaced : (progress.sentAt :: retransmitTimes calls).IsChain (LongAfter config)) :
    ∃ last, Stage (Transition.run Sender.track state calls).1.1.flight?
      (Transition.run Sender.track state calls).1.2 number
      ⟨progress.retransmissions + (retransmitTimes calls).length, last⟩ := by
  induction calls generalizing state progress with
  | nil => exact ⟨progress.sentAt, stage⟩
  | cons call later ih =>
      obtain ⟨sender, roster⟩ := state
      obtain ⟨_, moves, _⟩ := step_performs sender call
      have sound : (track (sender, roster) call).1.1.pending.Agrees := moves.agrees agrees
      rw [Transition.run_cons]
      cases call with
      | send payload now => exact ih sound (stage.rest ordered agrees nofun) spaced
      | acknowledge ack now => exact ih sound (stage.rest ordered agrees nofun) spaced
      | retransmit now =>
          obtain ⟨late, spaced⟩ := List.isChain_cons_cons.mp spaced
          obtain ⟨last, reached⟩ := ih sound (stage.advance ordered agrees late) spaced
          refine ⟨last, ?_⟩
          have counted : progress.retransmissions +
              (retransmitTimes (Call.retransmit now :: later)).length =
                progress.retransmissions + 1 + (retransmitTimes later).length := by
            simp only [retransmitTimes, List.filterMap_cons, List.length_cons]
            omega
          rw [counted]
          exact reached

end Stage

/-- An item that is not pending any more was resolved. -/
theorem Course.resolution {item : Item} {past : List Mark} (course : Course config item past none) :
    ∃ mark event, mark ∈ past ∧ mark.output = .resolved event ∧
      (event.dataId, event.payload) = item := by
  cases course with
  | resolved _ ends subject =>
      rw [ends] at subject
      exact ⟨_, _, List.mem_append_right _ List.mem_cons_self, ends, subject⟩

theorem Chronicles.resolution {marks : List Mark} {outputs : List Output}
    (chronicles : Chronicles marks outputs) {number : Nat} {item : Item}
    (ended : Course config item (course number marks) none) :
    ∃ event ∈ resolutions outputs, (event.dataId, event.payload) = item ∧
      ∃ call, ⟨number, call, .resolved event⟩ ∈ marks := by
  obtain ⟨mark, event, member, ends, subject⟩ := ended.resolution
  obtain ⟨listed, here⟩ := List.mem_filter.mp member
  have here : mark.item = number := of_decide_eq_true here
  have announced : event ∈ resolutions outputs := by
    rw [resolutions, ← chronicles.alike.events]
    refine List.mem_filterMap.mpr ⟨mark.output, List.mem_map_of_mem listed, ?_⟩
    rw [ends]
    rfl
  refine ⟨event, announced, subject, mark.call, ?_⟩
  rw [← here, ← ends]
  exact listed

theorem itemsSent_send {items : List Item} {segments : List Segment}
    (room : config.retransmitLimit < Capacity.keysPerRecord)
    (traced : Traced sender items segments) {payload : Payload}
    (fits : payload.length ≤ Capacity.payloadBytes) (now : Instant) :
    itemsSent (step sender (.send payload now)).2 = [(sender.nextDataId, payload)] := by
  obtain ⟨pending, displaced, _, accepted⟩ := sender.send_eq_ok fits now
  have emptied := (traced.performs room sender.makeRoom_performs).nextDataId
  rw [itemsSent_resolved, List.append_nil, ← traced.nextDataId] at emptied
  simp only [step, accepted, itemsSent_sent, emptied]

/-- An item has its place among those sent, whatever follows. -/
theorem getElem?_itemsSent_send (room : config.retransmitLimit < Capacity.keysPerRecord)
    (first rest : List Call) {payload : Payload}
    (fits : payload.length ≤ Capacity.payloadBytes) (now : Instant) :
    (itemsSent (Transition.run step (start config) (first ++ .send payload now :: rest)).2)[
        (itemsSent (Transition.run step (start config) first).2).length]? =
      some ((reached config first).nextDataId, payload) := by
  have sent := itemsSent_send room (traced_reached room first) fits now
  rw [reached] at sent
  simp only [Transition.run_append, Transition.run_cons, itemsSent_append, sent]
  rw [List.getElem?_append_right (Nat.le_refl _), Nat.sub_self]
  rfl

theorem stage_send (valid : config.Valid) (calls : List Call) {payload : Payload}
    (fits : payload.length ≤ Capacity.payloadBytes) (now : Instant) :
    Stage (chronicle config (calls ++ [.send payload now])).1.1.flight?
      (chronicle config (calls ++ [.send payload now])).1.2
      (itemsSent (Transition.run step (start config) calls).2).length ⟨0, now⟩ := by
  have recorded := recorded_chronicle valid calls
  have next := recorded.count
  rw [itemsOf_chronicle] at next
  have agrees : (chronicle config calls).1.1.pending.Agrees := by
    rw [reached_chronicle]
    exact agrees_reached config calls
  have joined := (deeds_step valid.minTimeout_le agrees (.send payload now)).preserve
    (fun sender roster marks => Recorded config sender.flight? roster marks ∧
      (roster.count = (itemsSent (Transition.run step (start config) calls).2).length ∨
        Stage sender.flight? roster
          (itemsSent (Transition.run step (start config) calls).2).length ⟨0, now⟩))
    (fun deed kept => ⟨kept.1.turn deed.turn, kept.2.elim
      (fun next => kept.1.joins next deed.turn) fun stage => .inr (stage.turn deed.turn nofun)⟩)
    _ ⟨recorded, .inl next⟩
  have state : (chronicle config (calls ++ [.send payload now])).1 =
      (track (chronicle config calls).1 (.send payload now)).1 :=
    Transition.run_concat track _ calls _
  rw [state]
  refine joined.2.resolve_left fun same => ?_
  have counted := (recorded_chronicle valid (calls ++ [.send payload now])).count
  have sent := itemsSent_send valid.retransmitLimit_lt
    (traced_reached valid.retransmitLimit_lt calls) fits now
  rw [itemsOf_chronicle, Transition.outputs_concat, itemsSent_append, List.length_append, state]
    at counted
  rw [reached] at sent
  rw [sent] at counted
  exact absurd (same.symm.trans counted) (Nat.lt_succ_self _).ne

/-- An item is resolved by as many retransmissions as it may go out, if each comes the longest
timeout after the one before and the first of them that long after the item was sent.  What is
sent and acknowledged in between does not matter. -/
theorem resolved_after_retransmissions (valid : config.Valid) (first rest : List Call)
    {payload : Payload} {now : Instant} (fits : payload.length ≤ Capacity.payloadBytes)
    (spaced : (now :: retransmitTimes rest).IsChain (LongAfter config))
    (enough : config.retransmitLimit + 1 ≤ (retransmitTimes rest).length) :
    let calls := first ++ .send payload now :: rest
    let outputs := (Transition.run step (start config) calls).2
    let number := (itemsSent (Transition.run step (start config) first).2).length
    let item := ((reached config first).nextDataId, payload)
    Chronicles (chronicle config calls).2 outputs ∧ (itemsSent outputs)[number]? = some item ∧
      ∃ event ∈ resolutions outputs, (event.dataId, event.payload) = item ∧
        ∃ call, ⟨number, call, .resolved event⟩ ∈ (chronicle config calls).2 := by
  intro calls outputs number item
  have chronicles := chronicles_chronicle valid calls
  have recorded := recorded_chronicle valid calls
  have split : calls = (first ++ [.send payload now]) ++ rest := by
    rw [List.append_assoc]
    rfl
  have known := getElem?_itemsSent_send valid.retransmitLimit_lt first rest fits now
  refine ⟨chronicles, known, ?_⟩
  have agrees : (chronicle config (first ++ [.send payload now])).1.1.pending.Agrees := by
    rw [reached_chronicle]
    exact agrees_reached config _
  obtain ⟨last, stage⟩ := (stage_send valid first fits now).run valid.minTimeout_le agrees rest
    spaced
  rw [← congrArg Prod.fst (chronicle_append config _ rest), ← split] at stage
  have vacant : ∀ slot flight, (chronicle config calls).1.1.flight? slot = some flight →
      (chronicle config calls).1.2.number slot ≠ number := by
    intro slot flight found here
    obtain ⟨_, within, _⟩ := (recorded.pending found).2.dispatched
    rw [stage.reached found here, Nat.zero_add] at within
    exact absurd (Nat.le_trans enough within) (Nat.lt_irrefl _)
  obtain ⟨same, sent, ended⟩ := recorded.ended stage.sent vacant
  rw [itemsOf_chronicle] at sent
  have equal : same = item := Option.some.inj (sent.symm.trans known)
  exact chronicles.resolution (equal ▸ ended)

/-- Settings under which an item goes out twice and no timeout is longer than two seconds. -/
def prompt : Config := { retransmitLimit := 1, maxTimeout := .ofSeconds 2 }

/-- Another item is acknowledged, while the clock is back, but the first one never. -/
def unheeded : List Call :=
  [.retransmit ⟨3000000000⟩, .send [8] ⟨0⟩, .acknowledge ⟨.ofNat 2, 0⟩ ⟨0⟩,
    .retransmit ⟨5000000000⟩]

theorem resolved_after_retransmissions_unheeded :
    prompt.Valid ∧ ([7] : Payload).length ≤ Capacity.payloadBytes ∧
      (⟨0⟩ :: retransmitTimes unheeded).IsChain (LongAfter prompt) ∧
      prompt.retransmitLimit + 1 ≤ (retransmitTimes unheeded).length ∧
      ∃ event ∈ resolutions (Transition.run step (start prompt) (.send [7] ⟨0⟩ :: unheeded)).2,
        (event.dataId, event.payload) = (.ofNat 0, [7]) := by
  have valid : prompt.Valid := Config.fault?_eq_none_iff.mp (by decide)
  have fits : ([7] : Payload).length ≤ Capacity.payloadBytes := by decide
  have late : prompt.maxTimeout ≤ Instant.since ⟨3000000000⟩ ⟨0⟩ ∧
      prompt.maxTimeout ≤ Instant.since ⟨5000000000⟩ ⟨3000000000⟩ := by decide
  have spaced : (⟨0⟩ :: retransmitTimes unheeded).IsChain (LongAfter prompt) :=
    .cons_cons late.1 (.cons_cons late.2 (.singleton _))
  have enough : prompt.retransmitLimit + 1 ≤ (retransmitTimes unheeded).length := by decide
  obtain ⟨_, _, event, announced, subject, _⟩ :=
    resolved_after_retransmissions valid [] unheeded fits spaced enough
  exact ⟨valid, fits, spaced, enough, event, announced, subject⟩

end Sender

end ReliableDatagram
