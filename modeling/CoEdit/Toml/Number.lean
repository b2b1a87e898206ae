import CoEdit.Toml.Text
import CoEdit.Tree

/-!
# Numbers and dates of TOML documents

Digits may have an underscore between any two. A whole number has a sign or, without one, a base; it fits sixty-four bits. A
date, a time or both stand in a tree as an object of one entry with their text.
-/

namespace CoEdit.Toml

open Reader

/-- Takes further digits of a number, of which each may follow an underscore. -/
def moreDigits (isDigit : Char → Bool) : (fuel : Nat) → Reader (List Char)
  | 0 => pure []
  | fuel + 1 => do
    match ← maybe (do let _ ← accept ['_']; one isDigit) with
    | some d => return d :: (← moreDigits isDigit fuel)
    | none => return []

/-- Takes one or more digits. -/
def digits (isDigit : Char → Bool) : Reader (List Char) := do
  let d ← one isDigit
  return d :: (← moreDigits isDigit (← remaining))

/-- Takes a sign, if there is one. -/
def sign : Reader (List Char) := do
  if ← accept ['-'] then return ['-']
  else if ← accept ['+'] then return ['+']
  else return []

/-- Takes an optional sign and a number without superfluous zeros. -/
def decimalDigits : Reader (List Char) := do
  let s ← sign
  if ← accept ['0'] then return s ++ ['0'] else return s ++ (← digits Char.isDigit)

/-- Whether a whole number fits sixty-four bits with a sign. -/
def fits (z : Int) : Bool := -0x8000000000000000 ≤ z && z < 0x8000000000000000

/-- A whole number as a tree, if it fits. -/
def integerTree (z : Int) : Reader Tree := if fits z then pure (.number (.integer z)) else refuse

/-- Takes the digits of a number in a base. -/
def basedInteger (base : Nat) : Reader Tree := do
  let ds ← digits fun c => (Decimal.digitValue? base c).isSome
  match Decimal.natural? base ds with
  | some n => integerTree n
  | none => refuse

/-- Takes a whole number. -/
def integer : Reader Tree := do
  if ← accept ['0', 'x'] then basedInteger 16
  else if ← accept ['0', 'o'] then basedInteger 8
  else if ← accept ['0', 'b'] then basedInteger 2
  else match Decimal.signed? 10 (-0x8000000000000000) 0x8000000000000000 (← decimalDigits) with
    | some z => integerTree z
    | none => refuse

/-- Takes an exponent. -/
def exponent : Reader (List Char) := do
  let e ← one fun c => c = 'e' || c = 'E'
  let s ← sign
  return e :: s ++ (← digits Char.isDigit)

/-- Takes a fraction and possibly an exponent. -/
def fraction : Reader (List Char) := do
  literally ['.']
  let ds ← digits Char.isDigit
  return '.' :: ds ++ ((← maybe exponent).getD [])

/-- Takes infinity or the undefined number, which have no place in a tree. -/
def specialDouble : Reader Tree := do
  let _ ← sign
  either (literally ['i', 'n', 'f']) (literally ['n', 'a', 'n'])
  return .null

/-- Takes a number with a fraction or an exponent. One too large for a double is refused. -/
def double : Reader Tree := do
  let whole ← decimalDigits
  let rest ← either exponent fraction
  match Decimal.double? (whole ++ rest) with
  | some d => if d = Double.infinity false then refuse else return .ofDouble d
  | none => refuse

/-! ## Dates and times -/

/-- Takes a number of a given count of digits within bounds: its digits and its value. -/
def fixed (count low high : Nat) : Reader (List Char × Nat) := fun cs =>
  let ds := cs.take count
  if ds.length = count ∧ ds.all Char.isDigit then
    match Decimal.natural? 10 ds with
    | some n => if low ≤ n ∧ n ≤ high then some ((ds, n), cs.drop count) else none
    | none => none
  else none

/-- How many days a month has. -/
def daysOf (year month : Nat) : Nat :=
  if month = 2 then (if year % 4 = 0 ∧ (year % 100 ≠ 0 ∨ year % 400 = 0) then 29 else 28)
  else if [4, 6, 9, 11].contains month then 30
  else 31

/-- Takes a date. -/
def date : Reader (List Char) := do
  let (year, y) ← fixed 4 0 9999
  literally ['-']
  let (month, m) ← fixed 2 1 12
  literally ['-']
  let (day, _) ← fixed 2 1 (daysOf y m)
  return year ++ '-' :: month ++ '-' :: day

/-- Parts of a second, of which nine digits count and zeros at the end do not. -/
def secondParts (ds : List Char) : List Char :=
  let kept := ((ds.take 9).reverse.dropWhile (· = '0')).reverse
  if kept = [] then [] else '.' :: kept

/-- Takes a time of day. -/
def time : Reader (List Char) := do
  let (hour, _) ← fixed 2 0 23
  literally [':']
  let (minute, _) ← fixed 2 0 59
  literally [':']
  let (second, _) ← fixed 2 0 60
  let parts ← maybe do
    literally ['.']
    let d ← one Char.isDigit
    return d :: (← many Char.isDigit)
  return hour ++ ':' :: minute ++ ':' :: second ++ secondParts (parts.getD [])

/-- Takes the distance from universal time. No distance has a plus sign. -/
def offset : Reader (List Char) := do
  let c ← one fun c => c = 'Z' || c = 'z' || c = '+' || c = '-'
  if c = 'Z' ∨ c = 'z' then return ['Z']
  else
    let (hour, h) ← fixed 2 0 23
    literally [':']
    let (minute, m) ← fixed 2 0 59
    return (if h = 0 ∧ m = 0 then '+' else c) :: hour ++ ':' :: minute

/-- Takes a date, and the time of that day if one follows. -/
def dateAndTime : Reader (List Char) := do
  let d ← date
  let t ← maybe do
    let _ ← one fun c => c = 'T' || c = 't' || c = ' '
    let t ← time
    return 'T' :: t ++ ((← maybe offset).getD [])
  return d ++ t.getD []

/-- The key under which a date or a time stands in a tree. -/
def dateKey : String := "$__toml_private_datetime"

/-- Takes a date, a time or both. -/
def dateTree : Reader Tree := do
  let cs ← either dateAndTime time
  return .object [(dateKey, .string (String.ofList cs))]

/-- Takes a number or a date. -/
def number : Reader Tree := either dateTree (either (either double specialDouble) integer)

end CoEdit.Toml
