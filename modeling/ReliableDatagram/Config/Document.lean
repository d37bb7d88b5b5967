import ReliableDatagram.Blank
import ReliableDatagram.Config
import ReliableDatagram.Toml.Document

/-!
# Configuration documents

Settings can be written as a TOML document with a version and one table:

```toml
version = 1

[reliability]
packet_queue_limit = 512
rtt_k = 8
```

All that is left out has its default, a version of zero stands for the current
one, and unknown keys are ignored.  The table may also be an array of the values
in the order of `Config.settings`.  A text without content is a document too.
-/

namespace ReliableDatagram.Config

open Toml

/-- A setting as a document spells it. -/
structure Setting where
  /-- The key. -/
  name : String
  /-- The number of bits that the value may have. -/
  bits : Nat
  /-- What the value does to the settings. -/
  apply : Nat → Config → Config

/-- The settings of a document, in the order in which an array gives them. -/
def settings : List Setting :=
  [⟨"packet_queue_limit", 64, fun value config => { config with queueLimit := value }⟩,
    ⟨"packet_offset_limit", 16, fun value config => { config with offsetLimit := value }⟩,
    ⟨"packet_queue_timeout_ms", 64, fun value config =>
      { config with queueTimeout := some (.ofMillis value) }⟩,
    ⟨"packet_retransmit_limit", 32, fun value config =>
      { config with retransmitLimit := value }⟩,
    ⟨"rtt_k", 32, fun value config => { config with meanDivisor := value }⟩,
    ⟨"rtt_g", 32, fun value config => { config with variationDivisor := value }⟩,
    ⟨"initial_rto_ms", 64, fun value config =>
      { config with initialTimeout := .ofMillis value }⟩,
    ⟨"min_rto_ms", 64, fun value config => { config with minTimeout := .ofMillis value }⟩,
    ⟨"max_rto_ms", 64, fun value config => { config with maxTimeout := .ofMillis value }⟩,
    ⟨"initial_data_id", 16, fun value config =>
      { config with initialDataId := .ofNat value }⟩,
    ⟨"initial_transmission_id", 16, fun value config =>
      { config with initialTransmissionId := .ofNat value }⟩,
    ⟨"max_segments_per_unit", 64, fun value config => { config with segmentsPerUnit := value }⟩]

/-- The version that documents are written for. -/
def currentVersion : Nat := 1

/-- The number that a value is, if it is a natural number of so many bits. -/
def natural? (bits : Nat) : Value → Option Nat
  | .integer value => if 0 ≤ value ∧ value < Int.ofNat (1 <<< bits) then some value.toNat else none
  | _ => none

/-- The settings after one more of them was read from its value. -/
def change (config : Config) (setting : Setting) (value : Value) : Option Config :=
  (natural? setting.bits value).map fun number => setting.apply number config

/-- Whether everything under a key that is not known can be read. -/
def restIsReadable (known : List String) (entries : Entries) : Bool :=
  Value.entriesAreReadable (entries.filter fun entry => !known.contains entry.1)

/-- The settings that the values of an array stand for.  What is left over is not
looked at. -/
def ofItems? (items : List Value) : Option Config :=
  (settings.zip items).foldlM (fun config entry => config.change entry.1 entry.2) {}

/-- The settings that the entries of a table stand for. -/
def ofEntries? (entries : Entries) : Option Config :=
  if restIsReadable (settings.map (·.name)) entries then
    settings.foldlM (fun config setting =>
      match entries.find? setting.name with
      | none => some config
      | some value => config.change setting value) {}
  else none

/-- The settings that a value stands for.  A moment stands for a table of its own
kind, in which no setting occurs. -/
def ofValue? : Value → Option Config
  | .table _ entries => ofEntries? entries
  | .array items => ofItems? items
  | .tables items => ofItems? items
  | .moment _ => some {}
  | _ => none

/-- The version and the settings that a document gives. -/
def ofDocument? (entries : Entries) : Option (Nat × Config) := do
  let version ← ((entries.find? "version").map (natural? 32)).getD (some 0)
  let config ← ((entries.find? "reliability").map ofValue?).getD (some {})
  if restIsReadable ["version", "reliability"] entries then some (version, config) else none

/-- Read the settings from a document, and refuse those that cannot be
honoured. -/
def ofToml (text : String) : Except ConfigError Config :=
  if isBlank text then .ok {}
  else
    match (Entries.ofText? text).bind ofDocument? with
    | none => .error .malformedDocument
    | some (version, config) =>
        if version ≠ 0 ∧ version ≠ currentVersion then .error (.unsupportedVersion version)
        else config.validate.map fun () => config

end ReliableDatagram.Config
