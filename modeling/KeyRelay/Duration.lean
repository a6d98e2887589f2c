/-!
# Durations

A length of time in whole nanoseconds. Seconds and nanoseconds are how it is written down; a single
count is what it is.
-/

namespace KeyRelay

/-- A length of time. -/
structure Duration where
  nanoseconds : Nat
deriving DecidableEq, Repr

namespace Duration

def perSecond : Nat := 1000000000

def perMillisecond : Nat := 1000000

def perMicrosecond : Nat := 1000

def ofParts (seconds nanoseconds : Nat) : Duration := ⟨seconds * perSecond + nanoseconds⟩

def ofMilliseconds (n : Nat) : Duration := ⟨n * perMillisecond⟩

def ofSeconds (n : Nat) : Duration := ⟨n * perSecond⟩

def seconds (d : Duration) : Nat := d.nanoseconds / perSecond

/-- The nanoseconds left after the whole seconds. -/
def subsecond (d : Duration) : Nat := d.nanoseconds % perSecond

def milliseconds (d : Duration) : Nat := d.nanoseconds / perMillisecond

/-- A number below `10 ^ places` with that many digits. -/
def padded (places n : Nat) : List Char :=
  let digits := (toString n).toList
  List.replicate (places - digits.length) '0' ++ digits

/-- A fraction's digits, without the zeros at its end. -/
def trimmed (digits : List Char) : List Char := (digits.reverse.dropWhile (· = '0')).reverse

/-- `n` units of `10 ^ places` parts, as a decimal number without zeros at its end. -/
def decimal (places n : Nat) (unit : String) : String :=
  let fraction := trimmed (padded places (n % Nat.pow 10 places))
  let whole := toString (n / Nat.pow 10 places)
  if fraction.isEmpty then whole ++ unit else whole ++ "." ++ String.ofList fraction ++ unit

/-- A duration in the largest of seconds, milliseconds, microseconds and nanoseconds of which it
holds at least one. -/
def describe (d : Duration) : String :=
  if perSecond ≤ d.nanoseconds then decimal 9 d.nanoseconds "s"
  else if perMillisecond ≤ d.nanoseconds then decimal 6 d.nanoseconds "ms"
  else if perMicrosecond ≤ d.nanoseconds then decimal 3 d.nanoseconds "µs"
  else toString d.nanoseconds ++ "ns"

end Duration

end KeyRelay
