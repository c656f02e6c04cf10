import TestAmplification.Text.Decimal

/-!
# Durations and their text

A duration is a number of seconds and of nanoseconds below one second. It is
written in the largest of the units s, ms, µs and ns that is not larger than
the duration itself, exactly and without needless zeros; the empty duration is
written in nanoseconds.
-/

set_option autoImplicit false

namespace TestAmplification

/-- A span of time. -/
structure Duration where
  /-- Whole seconds. -/
  seconds : Nat
  /-- The rest in nanoseconds. -/
  nanoseconds : Nat := 0
deriving DecidableEq, Inhabited

namespace Duration

/-- The nanoseconds of a second. -/
def nanosecondsPerSecond : Nat := 1000000000

/-- A duration of seconds and nanoseconds, where full seconds among the
nanoseconds are carried over. -/
def ofParts (seconds nanoseconds : Nat) : Duration :=
  ⟨seconds + nanoseconds / nanosecondsPerSecond, nanoseconds % nanosecondsPerSecond⟩

/-- A duration in milliseconds. -/
def ofMilliseconds (milliseconds : Nat) : Duration :=
  ofParts (milliseconds / 1000) (milliseconds % 1000 * 1000000)

/-- A duration in nanoseconds. -/
def inNanoseconds (duration : Duration) : Nat :=
  duration.seconds * nanosecondsPerSecond + duration.nanoseconds

/-- A number with as many decimal places as needed, out of `places` given
ones. -/
def renderWith (places whole fraction : Nat) (unit : String) : String :=
  let digits := (Text.decimalWide places fraction).reverse.dropWhile (· == '0') |>.reverse
  let tail := if digits.isEmpty then [] else '.' :: digits
  Text.decimal whole ++ String.ofList tail ++ unit

/-- The text of a duration. -/
def render (duration : Duration) : String :=
  if duration.seconds > 0 then renderWith 9 duration.seconds duration.nanoseconds "s"
  else if duration.nanoseconds ≥ 1000000 then
    renderWith 6 (duration.nanoseconds / 1000000) (duration.nanoseconds % 1000000) "ms"
  else if duration.nanoseconds ≥ 1000 then
    renderWith 3 (duration.nanoseconds / 1000) (duration.nanoseconds % 1000) "µs"
  else renderWith 0 duration.nanoseconds 0 "ns"

example : render ⟨1, 1⟩ = "1.000000001s" := by decide +kernel
example : render ⟨0, 1500000⟩ = "1.5ms" := by decide +kernel
example : render ⟨0, 0⟩ = "0ns" := by decide +kernel

end Duration

end TestAmplification
