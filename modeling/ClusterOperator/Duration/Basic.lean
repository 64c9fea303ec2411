namespace ClusterOperator

/-- A span of time that is not negative. -/
structure Duration where
  nanos : Nat
deriving DecidableEq, Repr

namespace Duration

instance : Inhabited Duration := ⟨⟨0⟩⟩

/-- The units of time, from the least to the greatest. -/
inductive TimeUnit where
  | nanosecond
  | microsecond
  | millisecond
  | second
  | minute
  | hour
deriving DecidableEq, Repr

def TimeUnit.nanos : TimeUnit → Nat
  | nanosecond => 1
  | microsecond => 1000
  | millisecond => 1000000
  | second => 1000000000
  | minute => 60 * 1000000000
  | hour => 3600 * 1000000000

/-- The symbol of a unit. The one of the microsecond is written with the micro sign. -/
def TimeUnit.symbol : TimeUnit → List Char
  | nanosecond => ['n', 's']
  | microsecond => ['\u00b5', 's']
  | millisecond => ['m', 's']
  | second => ['s']
  | minute => ['m']
  | hour => ['h']

/-- The unit that a symbol names. The microsecond may also be written with the letter u or with the
Greek letter mu. -/
def TimeUnit.ofSymbol? (symbol : List Char) : Option TimeUnit :=
  if symbol = ['n', 's'] then some nanosecond
  else if symbol = ['u', 's'] ∨ symbol = ['\u00b5', 's'] ∨ symbol = ['\u03bc', 's'] then
    some microsecond
  else if symbol = ['m', 's'] then some millisecond
  else if symbol = ['s'] then some second
  else if symbol = ['m'] then some minute
  else if symbol = ['h'] then some hour
  else none

/-- The longest span that text can denote: the nanoseconds are a signed 64-bit number. -/
def longest : Nat := Nat.pow 2 63 - 1

def ofHours? (hours : Nat) : Option Duration :=
  if hours * 3600 < Nat.pow 2 64 then some ⟨hours * TimeUnit.hour.nanos⟩ else none

/-- A span of seconds and nanoseconds, if its whole seconds fit 64 bits. -/
def ofParts? (seconds nanos : Nat) : Option Duration :=
  if seconds + nanos / TimeUnit.second.nanos < Nat.pow 2 64 then
    some ⟨seconds * TimeUnit.second.nanos + nanos⟩
  else none

def ofMillis (millis : Nat) : Duration :=
  ⟨millis * TimeUnit.millisecond.nanos⟩

end Duration

end ClusterOperator
