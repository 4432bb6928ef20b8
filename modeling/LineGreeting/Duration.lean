/-! # Durations

A duration has whole seconds and a rest in nanoseconds. Its milliseconds may
need more than 64 bits; then the largest number of 64 bits stands for them.
-/

namespace LineGreeting

/-- A duration. -/
structure Duration where
  seconds : UInt64
  nanoseconds : Nat
  /-- The rest is less than a second. -/
  nanoseconds_lt : nanoseconds < 1000000000 := by omega
deriving DecidableEq, Repr

namespace Duration

/-- A duration of some milliseconds. -/
def ofMillis (millis : UInt64) : Duration where
  seconds := millis / 1000
  nanoseconds := millis.toNat % 1000 * 1000000
  nanoseconds_lt := by omega

/-- The whole milliseconds of a duration. -/
def millis (duration : Duration) : Nat :=
  duration.seconds.toNat * 1000 + duration.nanoseconds / 1000000

/-- The whole milliseconds of a duration in 64 bits: the largest number if there
are more. -/
def clampedMillis (duration : Duration) : UInt64 :=
  UInt64.ofNat (min duration.millis (UInt64.size - 1))

@[simp] theorem millis_ofMillis (millis : UInt64) : (ofMillis millis).millis = millis.toNat := by
  have hseconds : (millis / 1000).toNat = millis.toNat / 1000 := UInt64.toNat_div ..
  simp only [ofMillis, Duration.millis, hseconds]
  omega

@[simp] theorem clampedMillis_ofMillis (millis : UInt64) :
    (ofMillis millis).clampedMillis = millis := by
  have hle : millis.toNat ≤ UInt64.size - 1 := Nat.le_sub_one_of_lt millis.toNat_lt_size
  rw [clampedMillis, millis_ofMillis, Nat.min_eq_left hle, UInt64.ofNat_toNat]

end Duration

end LineGreeting
