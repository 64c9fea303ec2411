import ClusterOperator.Duration.Basic
import ClusterOperator.Text.Basic

namespace ClusterOperator.Duration

/-- A number of units of `10 ^ places` with its decimal fraction. -/
def decimal (n places : Nat) : List Char :=
  let whole := Nat.toDigits 10 (n / Nat.pow 10 places)
  if n % Nat.pow 10 places = 0 then whole
  else whole ++ '.' :: Digits.trimZeros (Digits.padded places (n % Nat.pow 10 places))

def subsecond (n : Nat) : List Char :=
  if n < TimeUnit.microsecond.nanos then decimal n 0 ++ TimeUnit.nanosecond.symbol
  else if n < TimeUnit.millisecond.nanos then decimal n 3 ++ TimeUnit.microsecond.symbol
  else decimal n 6 ++ TimeUnit.millisecond.symbol

def clock (n : Nat) : List Char :=
  let hours := n / TimeUnit.hour.nanos
  let minutes := n % TimeUnit.hour.nanos / TimeUnit.minute.nanos
  let seconds := n % TimeUnit.minute.nanos
  let minutesText := Nat.toDigits 10 minutes ++ TimeUnit.minute.symbol
  let front :=
    if 0 < hours then Nat.toDigits 10 hours ++ TimeUnit.hour.symbol ++ minutesText
    else if 0 < minutes then minutesText
    else []
  front ++ decimal seconds 9 ++ TimeUnit.second.symbol

/-- The canonical text: one number with a unit below a second, from then on hours, minutes and seconds,
of which greater ones that are zero are left out. Fractions have no trailing zeros. -/
def chars (d : Duration) : List Char :=
  if d.nanos = 0 then ['0', 's']
  else if d.nanos < TimeUnit.second.nanos then subsecond d.nanos
  else clock d.nanos

def text (d : Duration) : String :=
  String.ofList d.chars

/-- One number with its unit; the span of nothing counts nanoseconds. -/
def briefly (d : Duration) : String :=
  String.ofList <|
    if d.nanos < TimeUnit.second.nanos then subsecond d.nanos
    else decimal d.nanos 9 ++ TimeUnit.second.symbol

end ClusterOperator.Duration
