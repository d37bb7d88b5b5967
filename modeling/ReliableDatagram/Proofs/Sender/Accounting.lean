import ReliableDatagram.Proofs.Sender.Batches

/-!
# The accounts of a sender

The counters of a sender tell what it has answered.  Each move counts what it puts out and
nothing else (`Tallied.move`), so after any run the counters are the numbers of items,
segments and events in the answers, each give-up under its reason.

`addsUp_run` adds up the figures of a sender with a valid configuration: each item is
acknowledged, given up on or pending, each segment was a first transmission or a
retransmission, and the ids to come follow from how many were drawn.  Beside the run it
keeps the report, which only a call that is heeded renews.
-/

namespace ReliableDatagram

namespace SenderCounters

/-- The number of items given up on for a reason. -/
def givenUp (counters : SenderCounters) : GiveUpReason → Nat
  | .outOfWindow => counters.outOfWindow
  | .retransmitLimit => counters.retransmitLimit
  | .queueTimeout => counters.queueTimeout
  | .queueOverflow => counters.queueOverflow

theorem givenUp_countUnacked (counters : SenderCounters) (reason other : GiveUpReason) :
    (counters.countUnacked reason).givenUp other =
      counters.givenUp other + if reason = other then 1 else 0 := by
  cases reason <;> cases other <;> rfl

theorem kept_countUnacked (counters : SenderCounters) (reason : GiveUpReason) :
    (counters.countUnacked reason).itemsSent = counters.itemsSent ∧
      (counters.countUnacked reason).transmissions = counters.transmissions ∧
      (counters.countUnacked reason).acked = counters.acked ∧
      (counters.countUnacked reason).rttSamples = counters.rttSamples ∧
      (counters.countUnacked reason).rttSamplesDiscarded = counters.rttSamplesDiscarded := by
  cases reason <;> exact ⟨rfl, rfl, rfl, rfl, rfl⟩

end SenderCounters

namespace SendEvent

/-- Why the item was given up on, if it was. -/
def reason? : SendEvent → Option GiveUpReason
  | acked _ _ => none
  | unacked _ _ reason => some reason

end SendEvent

namespace RoundTrip

theorem samples_observe (config : Config) (estimate : RoundTrip) (sample : Duration) :
    (observe config estimate sample).samples = estimate.samples + 1 := by
  unfold observe
  split
  · next none => rw [none]
  · rfl

end RoundTrip

namespace Sender

variable {config : Config} {sender after : Sender config}

/-! ## What the counters tell -/

/-- What became of items. -/
def resolutions (outputs : List Output) : List SendEvent := outputs.filterMap Output.event?

theorem resolutions_append (outputs more : List Output) :
    resolutions (outputs ++ more) = resolutions outputs ++ resolutions more :=
  List.filterMap_append

/-- The counters are the numbers of what was put out. -/
structure Tallied (sender : Sender config) (outputs : List Output) : Prop where
  itemsSent : sender.counters.itemsSent = (itemsSent outputs).length
  transmissions : sender.counters.transmissions = (transmitted outputs).length
  acked : sender.counters.acked = (resolutions outputs).countP SendEvent.isAcked
  givenUp : ∀ reason, sender.counters.givenUp reason =
    (resolutions outputs).countP fun event => event.reason? = some reason
  /-- Each item is resolved by one event. -/
  resolved : sender.counters.acked + sender.counters.unacked = (resolutions outputs).length
  rttSamples : sender.counters.rttSamples = sender.roundTrip.samples
  /-- No item gives more than one sample. -/
  sampled : sender.counters.rttSamples + sender.counters.rttSamplesDiscarded ≤
    sender.counters.acked

/-- A confirmation counts an item, and takes or drops one round-trip sample at most. -/
theorem counters_confirm {id : SeqId} {slot : Nat} {record : Record PendingItem}
    (holder : sender.pending.holder? id = some slot)
    (found : sender.pending.record? slot = some record) (now : Instant) :
    ∃ taken dropped last, taken + dropped ≤ 1 ∧
      (confirm now sender id).1.counters = { sender.counters with
        acked := sender.counters.acked + 1
        rttSamples := sender.counters.rttSamples + taken
        rttSamplesDiscarded := sender.counters.rttSamplesDiscarded + dropped
        lastRttMicros := last } ∧
      (confirm now sender id).1.roundTrip.samples = sender.roundTrip.samples + taken := by
  simp only [confirm, holder, found, sampleRoundTrip]
  split
  · split
    · exact ⟨1, 0, _, Nat.le_refl 1, rfl, RoundTrip.samples_observe _ _ _⟩
    · exact ⟨0, 1, _, Nat.le_refl 1, rfl, rfl⟩
  · exact ⟨0, 0, _, Nat.zero_le 1, rfl, rfl⟩

namespace Tallied

variable {past outputs : List Output}

theorem start (config : Config) : Tallied (start config) [] where
  itemsSent := rfl
  transmissions := rfl
  acked := rfl
  givenUp reason := by cases reason <;> rfl
  resolved := rfl
  rttSamples := rfl
  sampled := Nat.le_refl 0

theorem of_alike (tallied : Tallied sender past) (alike : Alike past outputs) :
    Tallied sender outputs where
  itemsSent := by
    rw [Sender.itemsSent, ← alike.sent]
    exact tallied.itemsSent
  transmissions := by
    rw [transmitted, ← alike.segments]
    exact tallied.transmissions
  acked := by
    rw [resolutions, ← alike.events]
    exact tallied.acked
  givenUp := by
    rw [resolutions, ← alike.events]
    exact tallied.givenUp
  resolved := by
    rw [resolutions, ← alike.events]
    exact tallied.resolved
  rttSamples := tallied.rttSamples
  sampled := tallied.sampled

theorem giveUp (tallied : Tallied sender past) {slot : Nat} {record : Record PendingItem}
    (reason : GiveUpReason) (found : sender.pending.record? slot = some record) :
    Tallied (giveUp reason sender slot).1
      (past ++ [.resolved (.unacked record.primary record.value.payload reason)]) := by
  rcases sender.counters.kept_countUnacked reason with
    ⟨items, segments, acked, samples, discarded⟩
  rw [giveUp_of_found found]
  constructor
  · rw [items, itemsSent_append, List.length_append]
    exact tallied.itemsSent
  · rw [segments, transmitted_append, List.length_append]
    exact tallied.transmissions
  · rw [acked, resolutions_append, List.countP_append]
    exact tallied.acked
  · intro other
    rw [SenderCounters.givenUp_countUnacked, resolutions_append, List.countP_append,
      tallied.givenUp]
    cases Decidable.em (reason = other) with
    | inl same => simp [same, resolutions, Output.event?, SendEvent.reason?]
    | inr apart => simp [apart, resolutions, Output.event?, SendEvent.reason?]
  · rw [acked, SenderCounters.unacked_countUnacked, resolutions_append, List.length_append]
    exact congrArg (· + 1) tallied.resolved
  · rw [samples]
    exact tallied.rttSamples
  · rw [samples, discarded, acked]
    exact tallied.sampled

theorem confirm (tallied : Tallied sender past) {id : SeqId} {slot : Nat}
    {record : Record PendingItem} (now : Instant)
    (holder : sender.pending.holder? id = some slot)
    (found : sender.pending.record? slot = some record) :
    Tallied (confirm now sender id).1
      (past ++ [.resolved (.acked record.primary record.value.payload)]) := by
  rcases counters_confirm holder found now with
    ⟨taken, dropped, last, single, counters, samples⟩
  have sampled := tallied.sampled
  constructor
  · rw [counters, itemsSent_append, List.length_append]
    exact tallied.itemsSent
  · rw [counters, transmitted_append, List.length_append]
    exact tallied.transmissions
  · rw [counters, resolutions_append, List.countP_append]
    exact congrArg (· + 1) tallied.acked
  · intro reason
    have kept := tallied.givenUp reason
    rw [counters, resolutions_append, List.countP_append, ← kept]
    cases reason <;> rfl
  · rw [counters, resolutions_append, List.length_append, ← tallied.resolved]
    exact Nat.add_right_comm _ _ _
  · rw [counters, samples]
    exact congrArg (· + taken) tallied.rttSamples
  · rw [counters]
    simp only
    omega

/-- A move that resolves nothing counts its segments, and the items that they are the
first ones of. -/
theorem transmit (tallied : Tallied sender past) {retransmissions bytesSent : Nat}
    (quiet : resolutions outputs = [])
    (counters : after.counters = { sender.counters with
      itemsSent := sender.counters.itemsSent + (Sender.itemsSent outputs).length
      transmissions := sender.counters.transmissions + (transmitted outputs).length
      retransmissions := retransmissions
      bytesSent := bytesSent })
    (roundTrip : after.roundTrip = sender.roundTrip) : Tallied after (past ++ outputs) := by
  have same : resolutions (past ++ outputs) = resolutions past := by
    rw [resolutions_append, quiet, List.append_nil]
  constructor
  · rw [counters, itemsSent_append, List.length_append]
    exact congrArg (· + (Sender.itemsSent outputs).length) tallied.itemsSent
  · rw [counters, transmitted_append, List.length_append]
    exact congrArg (· + (transmitted outputs).length) tallied.transmissions
  · rw [counters, same]
    exact tallied.acked
  · intro reason
    have kept := tallied.givenUp reason
    rw [counters, same, ← kept]
    cases reason <;> rfl
  · rw [counters, same]
    exact tallied.resolved
  · rw [counters, roundTrip]
    exact tallied.rttSamples
  · rw [counters]
    exact tallied.sampled

theorem move (tallied : Tallied sender past) (move : Move sender outputs after) :
    Tallied after (past ++ outputs) := by
  cases move with
  | giveUp reason found => exact tallied.giveUp reason found
  | confirm now holder found => exact tallied.confirm now holder found
  | release holder superseded => exact tallied.transmit rfl rfl rfl
  | takeOn fits registered => exact tallied.transmit rfl rfl rfl
  | again now found allowed registered filed => exact tallied.transmit rfl rfl rfl
  | forfeit found allowed refused => exact tallied.transmit rfl rfl rfl

theorem run (config : Config) (calls : List Call) :
    Tallied (reached config calls) (Transition.run step (Sender.start config) calls).2 := by
  rcases run_performs (Sender.start config) calls with ⟨actual, moves, alike⟩
  have tallied := moves.preserve Tallied.move (Tallied.start config)
  rw [List.nil_append] at tallied
  exact tallied.of_alike alike

end Tallied

/-- What a run took on was resolved by an event, or is pending. -/
theorem length_itemsSent (config : Config) (calls : List Call) :
    (itemsSent (Transition.run step (start config) calls).2).length =
      (resolutions (Transition.run step (start config) calls).2).length +
        (reached config calls).pendingCount := by
  have conserved := congrArg Multiset.card (run_performs (start config) calls).conserves
  rw [Multiset.card_add, Multiset.card_add, card_pendingItems, card_pendingItems] at conserved
  have sent : (sentItems (Transition.run step (start config) calls).2).card =
      (itemsSent (Transition.run step (start config) calls).2).length := Multiset.coe_card _
  have resolved : (resolvedItems (Transition.run step (start config) calls).2).card =
      (resolutions (Transition.run step (start config) calls).2).length :=
    (Multiset.coe_card _).trans (List.length_map _)
  have idle : (start config).pendingCount = 0 := rfl
  rw [idle, sent, resolved, Nat.zero_add] at conserved
  exact conserved

/-! ## The report -/

/-- Whether a call is neither refused nor ignored. -/
def heeds (sender : Sender config) : Call → Bool
  | .send payload _ => payload.length ≤ Capacity.payloadBytes
  | .acknowledge ack _ => ack.newest.isAtOrBefore sender.nextTransmissionId.previous
  | .retransmit _ => true

/-- The report before the first call. -/
def firstReport (config : Config) : SenderStats where
  timeoutMicros := reportMicros (start config).timeout

/-- A call that is heeded renews the report. -/
def renew (report : SenderStats) (before : Sender config) (call : Call) : SenderStats :=
  if before.heeds call then (step before call).1.stats else report

theorem step_of_not_heeds {call : Call} (unheeded : sender.heeds call = false) :
    step sender call = (sender, []) := by
  cases call with
  | send payload now =>
      have tooLong := Nat.lt_of_not_le (of_decide_eq_false unheeded)
      simp only [step, send, if_pos tooLong]
  | acknowledge ack now =>
      have ignored : ¬ sender.Accepts ack := Bool.eq_false_iff.mp unheeded
      simp only [step, acknowledge_of_not_accepts ignored, List.map_nil]
  | retransmit now => cases unheeded

/-- A call that is not heeded changes nothing, so the report is not out of date. -/
theorem renew_eq {report : SenderStats} (current : report = sender.stats) (call : Call) :
    renew report sender call = (step sender call).1.stats := by
  rw [renew]
  split
  · rfl
  · next unheeded => rw [step_of_not_heeds (Bool.eq_false_iff.mpr unheeded), current]

/-- How the figures in a report agree with one another, with the answers so far and with
the ids to come. -/
structure AddsUp (sender : Sender config) (report : SenderStats) (outputs : List Output) :
    Prop where
  /-- An item is acknowledged, given up on or pending. -/
  itemsSent : report.itemsSent = report.acked + report.unacked + sender.pendingCount
  pending : report.pending = sender.pendingCount
  /-- A segment goes out for the first time or again. -/
  transmissions : report.transmissions = report.itemsSent + report.retransmissions
  segments : report.transmissions = (transmitted outputs).length
  nextDataId : sender.nextDataId = config.initialDataId.advance report.itemsSent
  nextTransmissionId : sender.nextTransmissionId =
    config.initialTransmissionId.advance report.transmissions
  acked : report.acked = (resolutions outputs).countP SendEvent.isAcked
  givenUp : ∀ reason, report.givenUp reason =
    (resolutions outputs).countP fun event => event.reason? = some reason
  rttSamples : report.rttSamples = sender.roundTrip.samples
  sampled : report.rttSamples + report.rttSamplesDiscarded ≤ report.acked

/-- Whatever is asked of a sender with a valid configuration, the figures in its report
add up. -/
theorem addsUp_run (valid : config.Valid) (calls : List Call) :
    match Transition.run (Transition.beside step renew) (start config, firstReport config)
      calls with
    | ((sender, report), outputs) =>
        (sender, outputs) = Transition.run step (start config) calls ∧
          report = sender.stats ∧ AddsUp sender report outputs := by
  have tallied := Tallied.run config calls
  have traced := traced_reached valid.retransmitLimit_lt calls
  have pending := length_itemsSent config calls
  have again := (run_performs (start config) calls).retransmissions
  rcases Transition.run_beside step renew (start config) (firstReport config) calls with
    ⟨state, outputs⟩
  have report := Transition.run_preserves (Transition.beside step renew)
    (fun state : Sender config × SenderStats => state.2 = state.1.stats)
    (fun _ call current => renew_eq current call) (start config, firstReport config) calls rfl
  rw [reached, ← state, ← outputs] at tallied traced pending
  rw [← state, ← outputs] at again
  rw [← tallied.itemsSent, ← tallied.resolved] at pending
  rw [← tallied.itemsSent, ← tallied.transmissions] at again
  generalize Transition.run (Transition.beside step renew) (start config, firstReport config)
    calls = renewed at *
  rcases renewed with ⟨⟨sender, _⟩, outputs⟩
  change _ = sender.stats at report
  simp only at again tallied traced pending state outputs ⊢
  have idle : (start config).counters.retransmissions = 0 := rfl
  have retransmitted : sender.counters.transmissions =
      sender.counters.itemsSent + sender.counters.retransmissions := by omega
  subst report
  refine ⟨Prod.ext state outputs, rfl, pending, rfl, retransmitted, tallied.transmissions,
    ?_, ?_, tallied.acked, tallied.givenUp, tallied.rttSamples, tallied.sampled⟩
  · rw [traced.nextDataId]
    exact congrArg _ tallied.itemsSent.symm
  · rw [traced.nextTransmissionId]
    exact congrArg _ tallied.transmissions.symm

/-- Three items for a queue with room for one: the first is given up on, and the second goes
out twice before it is acknowledged. -/
def crowding : List Call :=
  [.send [1] ⟨0⟩, .send [2] ⟨0⟩, .retransmit ⟨2000000000⟩,
    .acknowledge ⟨.ofNat 2, 0⟩ ⟨2000005000⟩, .send [3] ⟨2000009000⟩]

theorem addsUp_run_crowding :
    ({ queueLimit := 1 } : Config).Valid ∧
      match Transition.run (Transition.beside step renew)
        (start { queueLimit := 1 }, firstReport { queueLimit := 1 }) crowding with
      | ((sender, report), outputs) =>
          (report.itemsSent = 3 ∧ report.transmissions = 4 ∧ report.acked = 1 ∧
              report.queueOverflow = 1 ∧ report.pending = 1 ∧ report.rttSamples = 1) ∧
            AddsUp sender report outputs := by
  have valid : ({ queueLimit := 1 } : Config).Valid := Config.fault?_eq_none_iff.mp (by decide)
  have addsUp := (addsUp_run valid crowding).2.2
  exact ⟨valid, by decide +kernel, addsUp⟩

end Sender

end ReliableDatagram
