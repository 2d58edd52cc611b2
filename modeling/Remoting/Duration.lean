/-!
# Durations

A duration has whole seconds and nanoseconds. In diagnostics it is written in the largest unit that
leaves a whole part, as a decimal number without trailing zeros.
-/

namespace Remoting

/-- A length of time. -/
structure Duration where
  seconds : Nat
  /-- The rest, below one second. -/
  nanos : Nat
  deriving DecidableEq, Inhabited

namespace Duration

/-- The duration of a number of milliseconds. -/
def ofMillis (ms : Nat) : Duration :=
  ⟨ms / 1000, ms % 1000 * 1000000⟩

/-- The duration of whole seconds and any number of nanoseconds. -/
def normalize (seconds nanos : Nat) : Duration :=
  ⟨seconds + nanos / 1000000000, nanos % 1000000000⟩

/-- Whether a duration is zero. -/
def isZero (duration : Duration) : Bool :=
  duration.seconds == 0 && duration.nanos == 0

/-- The duration in nanoseconds. -/
def totalNanos (duration : Duration) : Nat :=
  duration.seconds * 1000000000 + duration.nanos

/-- The duration in milliseconds, a started millisecond counting as a whole one. -/
def ceilMillis (duration : Duration) : Nat :=
  (duration.totalNanos + 999999) / 1000000

/-- The time in milliseconds at which a duration that starts now is over. A duration whose end the
clock cannot hold counts as thirty years. The clock counts signed seconds of 64 bits, and its own
seconds are fixed at one here, so that the seconds of the duration decide alone. Time in
milliseconds has no last tick: a deadline far ahead is not brought forward to one. -/
def deadline (duration : Duration) (now : Nat) : Nat :=
  if Nat.pow 2 63 - 1 ≤ duration.seconds then now + 30 * 365 * 24 * 60 * 60 * 1000
  else now + duration.ceilMillis

/-- The digits behind the decimal point of `part / 10 ^ places`, without trailing zeros. -/
def fraction (part places : Nat) : List Char :=
  let digits := Nat.toDigits 10 part
  let padded := List.replicate (places - digits.length) '0' ++ digits
  (padded.reverse.dropWhile (· == '0')).reverse

/-- A decimal number with a whole part and `part / 10 ^ places` behind the point. -/
def decimal (whole part places : Nat) : String :=
  toString whole ++
    match fraction part places with
    | [] => ""
    | digits => "." ++ String.ofList digits

/-- The wording of a duration. -/
def describe (duration : Duration) : String :=
  if 0 < duration.seconds then decimal duration.seconds duration.nanos 9 ++ "s"
  else if 1000000 ≤ duration.nanos then
    decimal (duration.nanos / 1000000) (duration.nanos % 1000000) 6 ++ "ms"
  else if 1000 ≤ duration.nanos then
    decimal (duration.nanos / 1000) (duration.nanos % 1000) 3 ++ "µs"
  else toString duration.nanos ++ "ns"

end Duration

end Remoting
