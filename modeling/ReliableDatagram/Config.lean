import ReliableDatagram.Capacity
import ReliableDatagram.Time

/-!
# Configuration

The settings that both sides of a connection share, with their defaults, and the
faults that make settings impossible to honour.  A configuration is valid when
it has no fault (`Config.fault?_eq_none_iff`).
-/

namespace ReliableDatagram

/-- The settings of one end of a connection. -/
structure Config where
  /-- How many items may be pending before the oldest of them is given up on. -/
  queueLimit : Nat := 1024
  /-- How far delivery in order may lag behind the newest item before the gap is
  skipped. -/
  offsetLimit : Nat := 16384
  /-- The age at which a pending item is given up on, if there is one. -/
  queueTimeout : Option Duration := none
  /-- How often an item may be retransmitted. -/
  retransmitLimit : Nat := 8
  /-- One part in how many of a new sample enters the smoothed round-trip time. -/
  meanDivisor : Nat := 8
  /-- One part in how many of a new deviation enters the round-trip variation. -/
  variationDivisor : Nat := 4
  /-- The retransmission timeout before any sample. -/
  initialTimeout : Duration := .ofSeconds 1
  /-- The shortest retransmission timeout. -/
  minTimeout : Duration := .ofMillis 10
  /-- The longest retransmission timeout. -/
  maxTimeout : Duration := .ofSeconds 60
  /-- The id of the first item.  Both ends have to agree on it. -/
  initialDataId : SeqId := .ofNat 0
  /-- The id of the first transmission. -/
  initialTransmissionId : SeqId := .ofNat 0
  /-- How many segments go into one datagram. -/
  segmentsPerUnit : Nat := Capacity.segmentsPerUnit
  deriving DecidableEq, Repr

/-- A setting that cannot be honoured. -/
inductive ConfigFault where
  /-- No item may be pending. -/
  | queueLimitZero
  /-- So many items may be pending that their order would be ambiguous. -/
  | queueLimitTooLarge
  /-- Delivery may lag not at all, or so far that the order would be ambiguous. -/
  | offsetLimitOutOfRange
  /-- An item may go out under more ids than a record can hold. -/
  | retransmitLimitTooLarge
  /-- The smoothed round-trip time would be divided by zero. -/
  | meanDivisorZero
  /-- The round-trip variation would be divided by zero. -/
  | variationDivisorZero
  /-- The shortest timeout is longer than the longest. -/
  | timeoutsInverted
  /-- A datagram would hold no segment, or more than fit. -/
  | segmentsPerUnitOutOfRange
  deriving DecidableEq, Repr

namespace ConfigFault

/-- The setting at fault, as a document spells it. -/
def field : ConfigFault → String
  | queueLimitZero => "packet_queue_limit"
  | queueLimitTooLarge => "packet_queue_limit"
  | offsetLimitOutOfRange => "packet_offset_limit"
  | retransmitLimitTooLarge => "packet_retransmit_limit"
  | meanDivisorZero => "rtt_k"
  | variationDivisorZero => "rtt_g"
  | timeoutsInverted => "min_rto_ms"
  | segmentsPerUnitOutOfRange => "max_segments_per_unit"

/-- What the setting has to satisfy. -/
def reason : ConfigFault → String
  | queueLimitZero => "must be at least 1"
  | queueLimitTooLarge =>
      "must stay below half the sequence space (" ++ toString SeqId.halfSpace ++ ")"
  | offsetLimitOutOfRange => "must be in 1.." ++ toString SeqId.halfSpace
  | retransmitLimitTooLarge => "must be below " ++ toString Capacity.keysPerRecord
  | meanDivisorZero => "must be at least 1"
  | variationDivisorZero => "must be at least 1"
  | timeoutsInverted => "must not exceed max_rto_ms"
  | segmentsPerUnitOutOfRange => "must be in 1..=" ++ toString Capacity.segmentsPerUnit

end ConfigFault

/-- Settings were refused. -/
inductive ConfigError where
  /-- The text is no document, or holds a value of the wrong kind. -/
  | malformedDocument
  /-- The document is written for another version. -/
  | unsupportedVersion (version : Nat)
  /-- A setting cannot be honoured. -/
  | invalid (fault : ConfigFault)
  deriving DecidableEq, Repr

namespace ConfigError

/-- The text shown for the error. -/
def message : ConfigError → String
  | malformedDocument => "invalid config document"
  | unsupportedVersion version => "unsupported config version " ++ toString version
  | invalid fault => "invalid value for " ++ fault.field ++ ": " ++ fault.reason

end ConfigError

namespace Config

instance : Inhabited Config := ⟨{}⟩

/-- The first fault of the settings, in the order of the fields. -/
def fault? (config : Config) : Option ConfigFault :=
  if config.queueLimit = 0 then some .queueLimitZero
  else if SeqId.halfSpace ≤ config.queueLimit then some .queueLimitTooLarge
  else if config.offsetLimit = 0 ∨ SeqId.halfSpace ≤ config.offsetLimit then
    some .offsetLimitOutOfRange
  else if Capacity.keysPerRecord ≤ config.retransmitLimit then
    some .retransmitLimitTooLarge
  else if config.meanDivisor = 0 then some .meanDivisorZero
  else if config.variationDivisor = 0 then some .variationDivisorZero
  else if config.maxTimeout < config.minTimeout then some .timeoutsInverted
  else if config.segmentsPerUnit = 0 ∨ Capacity.segmentsPerUnit < config.segmentsPerUnit then
    some .segmentsPerUnitOutOfRange
  else none

/-- Refuse settings that have a fault. -/
def validate (config : Config) : Except ConfigError Unit :=
  match config.fault? with
  | none => .ok ()
  | some fault => .error (.invalid fault)

/-- The bounds within which settings can be honoured. -/
structure Valid (config : Config) : Prop where
  queueLimit_pos : 0 < config.queueLimit
  queueLimit_lt : config.queueLimit < SeqId.halfSpace
  offsetLimit_pos : 0 < config.offsetLimit
  offsetLimit_lt : config.offsetLimit < SeqId.halfSpace
  retransmitLimit_lt : config.retransmitLimit < Capacity.keysPerRecord
  meanDivisor_pos : 0 < config.meanDivisor
  variationDivisor_pos : 0 < config.variationDivisor
  minTimeout_le : config.minTimeout ≤ config.maxTimeout
  segmentsPerUnit_pos : 0 < config.segmentsPerUnit
  segmentsPerUnit_le : config.segmentsPerUnit ≤ Capacity.segmentsPerUnit

theorem fault?_eq_none_iff {config : Config} : config.fault? = none ↔ config.Valid := by
  have timeouts : ¬ config.maxTimeout < config.minTimeout ↔
      config.minTimeout ≤ config.maxTimeout := by
    rw [Duration.lt_def, Duration.le_def]
    omega
  unfold fault?
  constructor
  · intro faultless
    repeat' split at faultless
    all_goals first | contradiction | skip
    constructor <;> first | exact timeouts.mp (by assumption) | omega
  · intro valid
    have := valid.queueLimit_pos
    have := valid.queueLimit_lt
    have := valid.offsetLimit_pos
    have := valid.offsetLimit_lt
    have := valid.retransmitLimit_lt
    have := valid.meanDivisor_pos
    have := valid.variationDivisor_pos
    have := valid.segmentsPerUnit_pos
    have := valid.segmentsPerUnit_le
    rw [if_neg (by omega), if_neg (by omega), if_neg (by omega), if_neg (by omega),
      if_neg (by omega), if_neg (by omega), if_neg (timeouts.mpr valid.minTimeout_le),
      if_neg (by omega)]

/-- Validation accepts exactly the settings within the bounds. -/
theorem validate_eq_ok_iff {config : Config} : config.validate = .ok () ↔ config.Valid := by
  rw [← fault?_eq_none_iff, validate]
  cases config.fault? <;> simp

end Config

end ReliableDatagram
