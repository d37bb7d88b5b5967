import ReliableDatagram.Proofs.Peer.Framing
import ReliableDatagram.Proofs.Receiver.Ingestion

/-!
# Two peers and what passes between them

A network joins two peers whose items are bytes.  Datagrams that a peer handed over may
arrive at the other side at any time, in any order, and any number of times.  A run is
any sequence of actions, and all that the two applications and an observer of the
datagrams can notice is one history of entries, each with the side it belongs to.
-/

namespace ReliableDatagram

/-- One of the two ends of a connection. -/
inductive Side where
  | left
  | right
  deriving DecidableEq, Repr

namespace Side

/-- The end that faces this one. -/
def other : Side → Side
  | left => right
  | right => left

@[simp] theorem other_other (side : Side) : side.other.other = side := by
  cases side <;> rfl

theorem other_ne (side : Side) : side.other ≠ side := by
  cases side <;> decide

theorem eq_or_eq_other (side here : Side) : side = here ∨ side = here.other := by
  cases side <;> cases here <;> decide

end Side

/-- Two peers and the datagrams that each of them handed over. -/
structure Network (config : Config) where
  /-- The peer at each end. -/
  peer : Side → Peer config .raw
  /-- The datagrams from each end, in order. -/
  wire : Side → List Datagram

namespace Network

variable {config : Config}

/-! ## Actions and entries -/

/-- Something that happens at one side. -/
inductive Action where
  /-- The application sends an item. -/
  | send (item : Payload) (now : Instant)
  /-- The application lets time pass. -/
  | tick (now : Instant)
  /-- The peer hands its segments to a link with these refusals. -/
  | flush (refusals : List (Option String))
  /-- The datagram that the other side handed over at this position arrives. -/
  | deliver (position : Nat) (now : Instant)

/-- Something that is noticed at one side. -/
inductive Entry where
  /-- The peer took on an item under an id. -/
  | sent (dataId : SeqId) (item : Payload)
  /-- A transmission of an item was queued. -/
  | transmitted (segment : Segment)
  /-- The peer was handed a datagram. -/
  | handed (datagram : Datagram)
  /-- The offset limit moved the cursor from one id to another. -/
  | skipped (cursor target : SeqId)
  /-- The application received an event. -/
  | emitted (event : PeerEvent Payload)
  deriving DecidableEq

/-- What was noticed on both sides, in order. -/
abbrev History : Type := List (Side × Entry)

/-! ## Steps -/

/-- Both peers before anything happened. -/
def start (config : Config) : Network config where
  peer _ := .initial config .raw
  wire _ := []

/-- The network after its peer at a side became another. -/
def setPeer (network : Network config) (side : Side) (peer : Peer config .raw) :
    Network config :=
  { network with peer := fun here => if here = side then peer else network.peer here }

/-- The network with the datagrams that came from a side. -/
def setWire (network : Network config) (side : Side) (datagrams : List Datagram) :
    Network config :=
  { network with wire := fun here => if here = side then datagrams else network.wire here }

/-- The transmissions that a peer queued between two states. -/
def queued (before after : Peer config .raw) : List Entry :=
  (after.outbox.drop before.outbox.length).map .transmitted

/-- The skip that a datagram causes, if it causes one. -/
def skips (receiver : Receiver config) (datagram : Datagram) : List Entry :=
  match WireUnit.decode datagram with
  | .error _ => []
  | .ok unit =>
      match (receiver.gather unit).1.skipTarget? with
      | none => []
      | some target => [.skipped (receiver.gather unit).1.cursor target]

/-- What is noticed when a datagram arrives. -/
def arrival (receiver : Receiver config) (datagram : Datagram)
    (events : List (PeerEvent Payload)) : List Entry :=
  .handed datagram :: skips receiver datagram ++ events.map .emitted

/-- What a peer does, with what is noticed of it.  An action that is refused changes
nothing and is not noticed. -/
def act (network : Network config) (side : Side) :
    Action → Network config × List Entry
  | .send item now =>
      match (network.peer side).send item now with
      | .error _ => (network, [])
      | .ok (after, dataId) =>
          (network.setPeer side after.drain.1,
            .sent dataId item :: queued (network.peer side) after ++
              after.drain.2.map .emitted)
  | .tick now =>
      match (network.peer side).tick now with
      | (after, _) =>
          (network.setPeer side after.drain.1,
            queued (network.peer side) after ++ after.drain.2.map .emitted)
  | .flush refusals =>
      match (network.peer side).flush ⟨network.wire side, refusals⟩ with
      | (after, _, _) =>
          ((network.setPeer side after).setWire side
            ((network.peer side).handedOver (network.wire side) refusals), [])
  | .deliver position now =>
      match (network.wire side.other)[position]? with
      | none => (network, [])
      | some datagram =>
          match (network.peer side).receive datagram now with
          | (after, _) =>
              (network.setPeer side after.drain.1,
                arrival (network.peer side).receiver datagram after.drain.2)

/-- One action at one side. -/
def step : Transition (Network config) (Side × Action) (Side × Entry) :=
  fun network action =>
    match network.act action.1 action.2 with
    | (after, entries) => (after, entries.map (action.1, ·))

/-- All that is noticed when actions follow one another. -/
def history (config : Config) (actions : List (Side × Action)) : History :=
  (Transition.run step (start config) actions).2

/-! ## Views of a history -/

/-- What was noticed at one side. -/
def diary (side : Side) (history : History) : List Entry :=
  history.filterMap fun entry => if entry.1 = side then some entry.2 else none

namespace Entry

/-- The item that was taken on. -/
def item? : Entry → Option (SeqId × Payload)
  | sent dataId item => some (dataId, item)
  | _ => none

/-- The segment that was queued. -/
def segment? : Entry → Option Segment
  | transmitted segment => some segment
  | _ => none

/-- The segments that were handed over. -/
def copies : Entry → List Segment
  | handed datagram =>
      match WireUnit.decode datagram with
      | .error _ => []
      | .ok unit => unit.segments
  | _ => []

/-- The item that was announced as soon as it arrived. -/
def announced? : Entry → Option Delivery
  | emitted (.unordered dataId item) => some ⟨dataId, item⟩
  | _ => none

end Entry

/-- The items that a side took on, in order. -/
def items (diary : List Entry) : List (SeqId × Payload) := diary.filterMap Entry.item?

/-- The segments that a side transmitted, in order. -/
def segments (diary : List Entry) : List Segment := diary.filterMap Entry.segment?

/-- The segments that a side was handed, in order. -/
def copies (diary : List Entry) : List Segment := diary.flatMap Entry.copies

/-- The items that a side announced as they arrived, in order. -/
def announced (diary : List Entry) : List Delivery := diary.filterMap Entry.announced?

/-- Whether a skip moved the cursor past an id of which no copy had arrived. -/
def Missed (diary : List Entry) (dataId : SeqId) : Prop :=
  ∃ before cursor target after, diary = before ++ .skipped cursor target :: after ∧
    0 < cursor.distanceTo dataId ∧
    cursor.distanceTo dataId ≤ cursor.distanceTo target ∧
    ∀ segment ∈ copies before, segment.dataId ≠ dataId

/-! ## Views of longer histories -/

theorem diary_append (side : Side) (past more : History) :
    diary side (past ++ more) = diary side past ++ diary side more :=
  List.filterMap_append

theorem diary_own (side : Side) (entries : List Entry) :
    diary side (entries.map (side, ·)) = entries := by
  simp [diary, List.filterMap_map]

theorem diary_elsewhere {side here : Side} (different : side ≠ here)
    (entries : List Entry) : diary here (entries.map (side, ·)) = [] := by
  simp [diary, List.filterMap_map, different]

theorem mem_diary {side : Side} {past : History} {entry : Entry} :
    entry ∈ diary side past ↔ (side, entry) ∈ past := by
  simp only [diary, List.mem_filterMap]
  constructor
  · intro condition
    rcases condition with ⟨⟨here, found⟩, member, same⟩
    split at same
    · next equal =>
      cases same
      cases equal
      exact member
    · cases same
  · intro member
    exact ⟨(side, entry), member, if_pos rfl⟩

@[simp] theorem items_append (diary more : List Entry) :
    items (diary ++ more) = items diary ++ items more :=
  List.filterMap_append

@[simp] theorem segments_append (diary more : List Entry) :
    segments (diary ++ more) = segments diary ++ segments more :=
  List.filterMap_append

@[simp] theorem copies_append (diary more : List Entry) :
    copies (diary ++ more) = copies diary ++ copies more :=
  List.flatMap_append

@[simp] theorem announced_append (diary more : List Entry) :
    announced (diary ++ more) = announced diary ++ announced more :=
  List.filterMap_append

theorem mem_items {diary : List Entry} {item : SeqId × Payload} :
    item ∈ items diary ↔ .sent item.1 item.2 ∈ diary := by
  simp only [items, List.mem_filterMap]
  constructor
  · intro condition
    rcases condition with ⟨entry, member, same⟩
    cases entry with
    | sent dataId payload =>
        cases same
        exact member
    | _ => cases same
  · intro member
    exact ⟨_, member, rfl⟩

theorem mem_copies {diary : List Entry} {segment : Segment} :
    segment ∈ copies diary ↔ ∃ datagram unit, .handed datagram ∈ diary ∧
      WireUnit.decode datagram = .ok unit ∧ segment ∈ unit.segments := by
  simp only [copies, List.mem_flatMap]
  constructor
  · intro condition
    rcases condition with ⟨entry, member, copied⟩
    cases entry with
    | handed datagram =>
        simp only [Entry.copies] at copied
        split at copied
        · cases copied
        · next unit decoded => exact ⟨datagram, unit, member, decoded, copied⟩
    | _ => cases copied
  · intro condition
    rcases condition with ⟨datagram, unit, member, decoded, copied⟩
    refine ⟨_, member, ?_⟩
    rw [Entry.copies, decoded]
    exact copied

theorem mem_announced {diary : List Entry} {delivery : Delivery} :
    delivery ∈ announced diary ↔
      .emitted (.unordered delivery.dataId delivery.payload) ∈ diary := by
  simp only [announced, List.mem_filterMap]
  constructor
  · intro condition
    rcases condition with ⟨entry, member, same⟩
    cases entry with
    | emitted event =>
        cases event with
        | unordered dataId item =>
            cases same
            exact member
        | _ => cases same
    | _ => cases same
  · intro member
    exact ⟨_, member, rfl⟩

theorem Missed.append {diary : List Entry} {dataId : SeqId} (missed : Missed diary dataId)
    (more : List Entry) : Missed (diary ++ more) dataId := by
  rcases missed with ⟨before, cursor, target, after, rfl, way⟩
  refine ⟨before, cursor, target, after ++ more, ?_, way⟩
  rw [List.append_assoc, List.cons_append]

theorem views_transmitted (listed : List Segment) :
    items (listed.map .transmitted) = [] ∧ segments (listed.map .transmitted) = listed ∧
      copies (listed.map .transmitted) = [] ∧ announced (listed.map .transmitted) = [] := by
  induction listed with
  | nil => exact ⟨rfl, rfl, rfl, rfl⟩
  | cons segment rest ih =>
      rcases ih with ⟨items, segments, copies, announced⟩
      exact ⟨items, congrArg (segment :: ·) segments, copies, announced⟩

theorem views_emitted (events : List (PeerEvent Payload)) :
    items (events.map .emitted) = [] ∧ segments (events.map .emitted) = [] ∧
      copies (events.map .emitted) = [] := by
  induction events with
  | nil => exact ⟨rfl, rfl, rfl⟩
  | cons event rest ih => exact ih

/-- The skip that a datagram causes is no copy and no news. -/
theorem views_skips (receiver : Receiver config) (datagram : Datagram) :
    items (skips receiver datagram) = [] ∧ segments (skips receiver datagram) = [] ∧
      copies (skips receiver datagram) = [] ∧ announced (skips receiver datagram) = [] := by
  unfold skips
  split
  · exact ⟨rfl, rfl, rfl, rfl⟩
  · split
    · exact ⟨rfl, rfl, rfl, rfl⟩
    · exact ⟨rfl, rfl, rfl, rfl⟩

theorem views_arrival (receiver : Receiver config) {datagram : Datagram} {unit : WireUnit}
    (decoded : WireUnit.decode datagram = .ok unit) (events : List (PeerEvent Payload)) :
    items (arrival receiver datagram events) = [] ∧
      segments (arrival receiver datagram events) = [] ∧
      copies (arrival receiver datagram events) = unit.segments ∧
      announced (arrival receiver datagram events) = announced (events.map .emitted) := by
  rcases views_skips receiver datagram with ⟨skipItems, skipSegments, skipCopies, skipNews⟩
  rcases views_emitted events with ⟨noItems, noSegments, noCopies⟩
  have split : arrival receiver datagram events =
      [.handed datagram] ++ (skips receiver datagram ++ events.map .emitted) := rfl
  have handed : copies [.handed datagram] = unit.segments := by
    simp [copies, Entry.copies, decoded]
  rw [split]
  refine ⟨?_, ?_, ?_, ?_⟩
  · rw [items_append, items_append, skipItems, noItems]
    rfl
  · rw [segments_append, segments_append, skipSegments, noSegments]
    rfl
  · rw [copies_append, copies_append, skipCopies, noCopies, handed, List.append_nil,
      List.append_nil]
  · rw [announced_append, announced_append, skipNews]
    rfl

end Network

end ReliableDatagram
