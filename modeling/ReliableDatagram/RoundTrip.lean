import ReliableDatagram.Config

/-!
# Round-trip times

An estimator smooths the round-trip times it observes and derives how long to
wait for an acknowledgment before an item is sent again.  With `k` and `g` the
two divisors of the configuration, a sample changes

* the variation by `(|mean - sample| - variation) / g`, against the mean before
  the sample, and then
* the mean by `(sample - mean) / k`.

The first sample becomes the mean, and half of it the variation.  The timeout is
the mean plus four variations, held between the configured bounds.

All estimates are binary64 numbers of microseconds.  Where one is read as a
duration it is cut to whole microseconds and held to 64 bits.
-/

namespace ReliableDatagram

/-- The state of an estimator. -/
structure RoundTrip where
  /-- The smoothed round-trip time. -/
  mean : Float
  /-- The smoothed deviation from the mean. -/
  deviation : Float
  /-- The shortest round-trip time. -/
  shortest : Float
  /-- How many samples were observed. -/
  samples : Nat

namespace RoundTrip

/-- The estimator before any sample. -/
def start : RoundTrip := ⟨0, 0, 0, 0⟩

instance : Inhabited RoundTrip := ⟨start⟩

/-- A number of microseconds as a duration.  What lies outside the range of 64
bits is held to it, and what is no number counts as zero. -/
def toDuration (micros : Float) : Duration := .ofMicros micros.toUInt64.toNat

/-- The estimator after one more sample. -/
def observe (config : Config) (estimate : RoundTrip) (sample : Duration) : RoundTrip :=
  let time := Float.ofNat sample.micros
  if estimate.samples = 0 then
    { mean := time, deviation := time / 2, shortest := time, samples := 1 }
  else
    { mean := estimate.mean + (time - estimate.mean) / Float.ofNat config.meanDivisor
      deviation := estimate.deviation +
        ((estimate.mean - time).abs - estimate.deviation) /
          Float.ofNat config.variationDivisor
      shortest := if time < estimate.shortest then time else estimate.shortest
      samples := estimate.samples + 1 }

/-- The smoothed round-trip time, once there is a sample. -/
def mean? (estimate : RoundTrip) : Option Duration :=
  if estimate.samples = 0 then none else some (toDuration estimate.mean)

/-- The shortest round-trip time, once there is a sample. -/
def shortest? (estimate : RoundTrip) : Option Duration :=
  if estimate.samples = 0 then none else some (toDuration estimate.shortest)

/-- The round-trip variation. -/
def variation (estimate : RoundTrip) : Duration := toDuration estimate.deviation

/-- The timeout that the samples suggest, before it is held to the bounds. -/
def suggestedTimeout (config : Config) (estimate : RoundTrip) : Duration :=
  if estimate.samples = 0 then config.initialTimeout
  else toDuration (estimate.mean + 4 * estimate.deviation)

/-- How long to wait for an acknowledgment.  Where the bounds contradict one
another the upper one wins. -/
def timeout (config : Config) (estimate : RoundTrip) : Duration :=
  min (max (suggestedTimeout config estimate) config.minTimeout) config.maxTimeout

theorem timeout_le_maxTimeout (config : Config) (estimate : RoundTrip) :
    timeout config estimate ≤ config.maxTimeout := by
  rw [Duration.le_def, timeout, Duration.nanoseconds_min]
  omega

theorem minTimeout_le_timeout (config : Config) (estimate : RoundTrip)
    (ordered : config.minTimeout ≤ config.maxTimeout) :
    config.minTimeout ≤ timeout config estimate := by
  rw [Duration.le_def] at *
  rw [timeout, Duration.nanoseconds_min, Duration.nanoseconds_max]
  omega

end RoundTrip

end ReliableDatagram
