import CoEdit.Text.Blank
import CoEdit.Number.Decimal

/-!
# Durations

A duration is a whole number of nanoseconds whose seconds fit sixty-four bits.

As a text it is a sequence of spans. A span is a whole number, an optional fraction and a unit; blanks may stand before, inside
and after the number. A single zero needs no unit. A fraction is read only where it comes out even: in nanoseconds for the
units up to the minute, in seconds for the longer ones.
-/

namespace CoEdit

/-- A span of time. -/
structure Duration where
  nanoseconds : Nat
  bounded : nanoseconds < 0x10000000000000000 * 1000000000 := by decide
  deriving DecidableEq

namespace Duration

/-- No time at all. -/
def zero : Duration := { nanoseconds := 0 }

/-- Half a second. -/
def halfSecond : Duration := { nanoseconds := 500000000 }

/-- A duration, if it is not too long. -/
def ofNanoseconds? (n : Nat) : Option Duration :=
  if h : n < 0x10000000000000000 * 1000000000 then some ⟨n, h⟩ else none

/-- The whole seconds. -/
def seconds (d : Duration) : Nat := d.nanoseconds / 1000000000

/-- Units of time. -/
inductive TimeUnit where
  | nanosecond | microsecond | millisecond | second | minute | hour | day | week | month | year
  deriving DecidableEq, Repr

namespace TimeUnit

/-- The length of a unit in nanoseconds; a month is a twelfth of a year of 365.25 days, to the day's hundredth. -/
def length : TimeUnit → Nat
  | .nanosecond => 1
  | .microsecond => 1000
  | .millisecond => 1000000
  | .second => 1000000000
  | .minute => 60 * 1000000000
  | .hour => 3600 * 1000000000
  | .day => 86400 * 1000000000
  | .week => 604800 * 1000000000
  | .month => 2630016 * 1000000000
  | .year => 31557600 * 1000000000

/-- The names of the units. -/
def names : List (TimeUnit × List String) :=
  [(.nanosecond, ["nanos", "nsec", "ns"]),
    (.microsecond, ["usec", "us", "µs"]),
    (.millisecond, ["millis", "msec", "ms"]),
    (.second, ["seconds", "second", "secs", "sec", "s"]),
    (.minute, ["minutes", "minute", "min", "mins", "m"]),
    (.hour, ["hours", "hour", "hr", "hrs", "h"]),
    (.day, ["days", "day", "d"]),
    (.week, ["weeks", "week", "wk", "wks", "w"]),
    (.month, ["months", "month", "M"]),
    (.year, ["years", "year", "yr", "yrs", "y"])]

/-- The unit of a name. -/
def ofName? (name : String) : Option TimeUnit := (names.find? (fun e => e.2.contains name)).map (·.1)

/-- The grain, in nanoseconds, that whole numbers of a unit are counted in. -/
def grain (u : TimeUnit) : Nat := if u.length < 1000000000 then 1 else 1000000000

/-- The grain that a fraction of a unit has to fit; a nanosecond has no fractions. -/
def fractionGrain : TimeUnit → Option Nat
  | .nanosecond => none
  | u => some (if u.length ≤ 60 * 1000000000 then 1 else 1000000000)

end TimeUnit

/-! ## Reading -/

/-- A span as it is written: the digits of the whole number and of the fraction, and the name of the unit. -/
structure Span where
  whole : List Char
  fraction : Option (List Char)
  unit : List Char
  deriving Repr

/-- What the reader is inside of. -/
inductive SpanMode where
  | between
  | whole (digits : List Char)
  | fraction (whole digits : List Char)
  | unit (s : Span)
  deriving Repr

/-- The letters of units. -/
def isUnitLetter (c : Char) : Bool := ('a' ≤ c && c ≤ 'z') || ('A' ≤ c && c ≤ 'Z') || c = 'µ'

/-- Reads one character; spans read so far are kept newest first. -/
def readSpan (state : List Span × SpanMode) (c : Char) : Option (List Span × SpanMode) :=
  let (done, mode) := state
  match mode with
  | .between =>
    if c.isDigit then some (done, .whole [c])
    else if Text.isBlank c then some state
    else none
  | .whole digits =>
    if c.isDigit then some (done, .whole (digits ++ [c]))
    else if Text.isBlank c then some state
    else if isUnitLetter c then some (done, .unit ⟨digits, none, [c]⟩)
    else if c = '.' then some (done, .fraction digits [])
    else none
  | .fraction whole digits =>
    if c.isDigit then some (done, .fraction whole (digits ++ [c]))
    else if Text.isBlank c then some state
    else if isUnitLetter c ∧ digits ≠ [] then some (done, .unit ⟨whole, some digits, [c]⟩)
    else none
  | .unit s =>
    if c.isDigit then some (s :: done, .whole [c])
    else if Text.isBlank c then some (s :: done, .between)
    else if isUnitLetter c then some (done, .unit { s with unit := s.unit ++ [c] })
    else none

/-- The spans of a text. -/
def spans? (cs : List Char) : Option (List Span) :=
  match cs.foldlM readSpan ([], .between) with
  | some (done, .unit s) => some (s :: done).reverse
  | some (s :: done, .between) => some (s :: done).reverse
  | _ => none

/-- A number that fits sixty-four bits. -/
def word? (n : Nat) : Option Nat := if n < 0x10000000000000000 then some n else none

/-- A quotient that comes out even. -/
def exactQuotient? (n d : Nat) : Option Nat := if n % d = 0 then some (n / d) else none

/-- The nanoseconds of a multiple of a unit, counted in a grain. -/
def counted? (amount unit grain denominator : Nat) : Option Nat := do
  let parts ← word? (amount * (unit / grain))
  let whole ← exactQuotient? parts denominator
  return whole * grain

/-- Adds nanoseconds to a duration, if the fractions of the second and the sum stay within their bounds. -/
def add? (d : Duration) (ns grain : Nat) : Option Duration :=
  if grain = 1 ∧ 0x10000000000000000 ≤ d.nanoseconds % 1000000000 + ns then none else ofNanoseconds? (d.nanoseconds + ns)

/-- Adds a span to a duration. -/
def addSpan? (d : Duration) (s : Span) : Option Duration := do
  let u ← TimeUnit.ofName? (String.ofList s.unit)
  let n ← (Decimal.natural? 10 s.whole).bind word?
  let d ← d.add? (← counted? n u.length u.grain 1) u.grain
  match s.fraction with
  | none => return d
  | some digits =>
    let grain ← u.fractionGrain
    let n ← (Decimal.natural? 10 digits).bind word?
    let denominator ← word? (Nat.pow 10 digits.length)
    d.add? (← counted? n u.length grain denominator) grain

/-- The duration a text writes. -/
def ofText? (text : String) : Option Duration :=
  if text = "0" then some zero else (spans? text.toList).bind fun ss => ss.foldlM addSpan? zero

/-! ## Printing -/

/-- A count of a unit whose name has a plural. -/
def namedItem (n : Nat) (name : String) : Option String :=
  if n = 0 then none else some (toString n ++ name ++ (if 1 < n then "s" else ""))

/-- A count of a unit. -/
def plainItem (n : Nat) (name : String) : Option String := if n = 0 then none else some (toString n ++ name)

/-- The text of a duration: the largest units first. -/
def text (d : Duration) : String :=
  let s := d.seconds
  let ns := d.nanoseconds % 1000000000
  let inYear := s % 31557600
  let inMonth := inYear % 2630016
  let inDay := inMonth % 86400
  let items := [namedItem (s / 31557600) "year", namedItem (inYear / 2630016) "month", namedItem (inMonth / 86400) "day",
    plainItem (inDay / 3600) "h", plainItem (inDay % 3600 / 60) "m", plainItem (inDay % 60) "s",
    plainItem (ns / 1000000) "ms", plainItem (ns / 1000 % 1000) "us", plainItem (ns % 1000) "ns"].filterMap id
  if items = [] then "0s" else String.intercalate " " items

end Duration

end CoEdit
