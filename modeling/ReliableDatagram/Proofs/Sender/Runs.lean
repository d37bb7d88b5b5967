import ReliableDatagram.Sender

/-!
# Runs of a sender

A run is any sequence of calls, and what it answers is one list of outputs.  A
call names its segment before its events, although some of these events happen
first, so outputs are often known only up to how segments and events interleave
(`Alike`).
-/

namespace ReliableDatagram

namespace Sender

variable {config : Config}

/-! ## Runs -/

/-- A call to a sender. -/
inductive Call where
  | send (payload : Payload) (now : Instant)
  | acknowledge (ack : Acknowledgment) (now : Instant)
  | retransmit (now : Instant)

/-- One part of the answer to a call. -/
inductive Output where
  /-- The first segment of an item that was taken on. -/
  | sent (segment : Segment)
  /-- A segment of an item that is sent again. -/
  | resent (segment : Segment)
  /-- An item was resolved. -/
  | resolved (event : SendEvent)

namespace Output

/-- The segment to transmit. -/
def segment? : Output → Option Segment
  | sent segment => some segment
  | resent segment => some segment
  | resolved _ => none

/-- The first segment of a new item. -/
def sent? : Output → Option Segment
  | sent segment => some segment
  | resent _ => none
  | resolved _ => none

/-- What became of an item. -/
def event? : Output → Option SendEvent
  | sent _ => none
  | resent _ => none
  | resolved event => some event

end Output

/-- The state after a call and the parts of the answer.  A call that is refused
has no answer. -/
def step : Transition (Sender config) Call Output
  | sender, .send payload now =>
      match sender.send payload now with
      | .error _ => (sender, [])
      | .ok (after, segment, events) => (after, .sent segment :: events.map .resolved)
  | sender, .acknowledge ack now =>
      match sender.acknowledge ack now with
      | (after, events) => (after, events.map .resolved)
  | sender, .retransmit now =>
      match sender.retransmit now with
      | (after, segments, events) => (after, segments.map .resent ++ events.map .resolved)

/-- The state after a run from the start. -/
def reached (config : Config) (calls : List Call) : Sender config :=
  (Transition.run step (start config) calls).1

/-! ## Answers up to interleaving -/

/-- Outputs that differ at most in how segments and events interleave. -/
structure Alike (left right : List Output) : Prop where
  sent : left.filterMap Output.sent? = right.filterMap Output.sent?
  segments : left.filterMap Output.segment? = right.filterMap Output.segment?
  events : left.filterMap Output.event? = right.filterMap Output.event?

theorem Alike.refl (outputs : List Output) : Alike outputs outputs := ⟨rfl, rfl, rfl⟩

theorem Alike.symm {left right : List Output} (alike : Alike left right) :
    Alike right left :=
  ⟨alike.sent.symm, alike.segments.symm, alike.events.symm⟩

theorem Alike.trans {left middle right : List Output} (first : Alike left middle)
    (second : Alike middle right) : Alike left right :=
  ⟨first.sent.trans second.sent, first.segments.trans second.segments,
    first.events.trans second.events⟩

theorem Alike.append {left right more others : List Output} (first : Alike left right)
    (second : Alike more others) : Alike (left ++ more) (right ++ others) where
  sent := by rw [List.filterMap_append, List.filterMap_append, first.sent, second.sent]
  segments := by
    rw [List.filterMap_append, List.filterMap_append, first.segments, second.segments]
  events := by
    rw [List.filterMap_append, List.filterMap_append, first.events, second.events]

theorem filterMap_sent?_resolved (events : List SendEvent) :
    (events.map Output.resolved).filterMap Output.sent? = [] := by
  simp [List.filterMap_map, Function.comp_def, Output.sent?]

theorem filterMap_segment?_resolved (events : List SendEvent) :
    (events.map Output.resolved).filterMap Output.segment? = [] := by
  simp [List.filterMap_map, Function.comp_def, Output.segment?]

theorem filterMap_event?_resolved (events : List SendEvent) :
    (events.map Output.resolved).filterMap Output.event? = events := by
  simp [List.filterMap_map, Function.comp_def, Output.event?]

theorem filterMap_sent?_resent (segments : List Segment) :
    (segments.map Output.resent).filterMap Output.sent? = [] := by
  simp [List.filterMap_map, Function.comp_def, Output.sent?]

theorem filterMap_segment?_resent (segments : List Segment) :
    (segments.map Output.resent).filterMap Output.segment? = segments := by
  simp [List.filterMap_map, Function.comp_def, Output.segment?]

theorem filterMap_event?_resent (segments : List Segment) :
    (segments.map Output.resent).filterMap Output.event? = [] := by
  simp [List.filterMap_map, Function.comp_def, Output.event?]

/-- An answer names its segment before its events, whatever came first. -/
theorem alike_segment_first {output : Output} (segment : output.event? = none)
    (events : List SendEvent) :
    Alike (events.map .resolved ++ [output]) (output :: events.map .resolved) := by
  constructor
  · simp only [List.filterMap_append, List.filterMap_cons, filterMap_sent?_resolved,
      List.filterMap_nil, List.nil_append]
  · simp only [List.filterMap_append, List.filterMap_cons, filterMap_segment?_resolved,
      List.filterMap_nil, List.nil_append]
  · simp only [List.filterMap_append, List.filterMap_cons, filterMap_event?_resolved,
      segment, List.filterMap_nil, List.append_nil]

theorem alike_parts (outputs : List (Segment ⊕ SendEvent)) :
    Alike (outputs.map (Sum.elim Output.resent Output.resolved))
      ((outputs.filterMap Sum.getLeft?).map .resent ++
        (outputs.filterMap Sum.getRight?).map .resolved) := by
  constructor
  · rw [List.filterMap_append, filterMap_sent?_resent, filterMap_sent?_resolved]
    induction outputs with
    | nil => rfl
    | cons output rest ih => cases output <;> exact ih
  · rw [List.filterMap_append, filterMap_segment?_resent, filterMap_segment?_resolved,
      List.append_nil]
    induction outputs with
    | nil => rfl
    | cons output rest ih =>
        cases output with
        | inl segment => exact congrArg (segment :: ·) ih
        | inr event => exact ih
  · rw [List.filterMap_append, filterMap_event?_resent, filterMap_event?_resolved,
      List.nil_append]
    induction outputs with
    | nil => rfl
    | cons output rest ih =>
        cases output with
        | inl segment => exact ih
        | inr event => exact congrArg (event :: ·) ih

end Sender

end ReliableDatagram
