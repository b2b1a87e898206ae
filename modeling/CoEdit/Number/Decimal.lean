import CoEdit.Number.Double

/-!
# Decimal texts

Whole numbers and doubles as they are written in texts. A whole number is an optional sign and digits; `Decimal.unsigned?` takes
no minus sign. A double is an optional sign and either one of the words for infinity and the undefined number, in any case, or
digits with an optional point among them, at least one digit in all, and an optional exponent.
-/

namespace CoEdit

namespace Decimal

/-- The value of a digit in a base of at most sixteen. -/
def digitValue? (base : Nat) (c : Char) : Option Nat :=
  let v :=
    if '0' ≤ c ∧ c ≤ '9' then c.toNat - '0'.toNat
    else if 'a' ≤ c ∧ c ≤ 'f' then c.toNat - 'a'.toNat + 10
    else if 'A' ≤ c ∧ c ≤ 'F' then c.toNat - 'A'.toNat + 10
    else 16
  if v < base then some v else none

/-- Reads digits after those already read as `n`. -/
def digitsFrom (base : Nat) : (n : Nat) → List Char → Option Nat
  | n, [] => some n
  | n, c :: rest => (digitValue? base c).bind fun v => digitsFrom base (n * base + v) rest

/-- The number that one or more digits write. -/
def natural? (base : Nat) : List Char → Option Nat
  | [] => none
  | cs => digitsFrom base 0 cs

/-- The number of an optional plus sign and digits, up to a bound. -/
def unsigned? (base bound : Nat) (cs : List Char) : Option Nat :=
  (natural? base (match cs with | '+' :: rest => rest | _ => cs)).filter (· < bound)

/-- The number of an optional sign and digits that lies within bounds. -/
def signed? (base : Nat) (low high : Int) (cs : List Char) : Option Int :=
  let value : Option Int := match cs with
    | '-' :: rest => (natural? base rest).map (fun n => -(n : Int))
    | '+' :: rest => (natural? base rest).map (fun n => (n : Int))
    | _ => (natural? base cs).map (fun n => (n : Int))
  value.filter (fun z => low ≤ z ∧ z < high)

/-- Lower case of the letters A to Z. -/
def lowered (cs : List Char) : List Char := cs.map Char.toLower

/-- The exponent after its mark. -/
def exponent? : List Char → Option Int
  | '-' :: rest => (natural? 10 rest).map (fun n => -(n : Int))
  | '+' :: rest => (natural? 10 rest).map (fun n => (n : Int))
  | cs => (natural? 10 cs).map (fun n => (n : Int))

/-- The double of a text without a sign. -/
def magnitude? (negative : Bool) (cs : List Char) : Option Double :=
  let word := lowered cs
  if word = ['i', 'n', 'f'] ∨ word = ['i', 'n', 'f', 'i', 'n', 'i', 't', 'y'] then some (Double.infinity negative)
  else if word = ['n', 'a', 'n'] then some Double.undefined
  else
    let whole := cs.takeWhile Char.isDigit
    let rest := cs.dropWhile Char.isDigit
    let (fraction, tail) := match rest with
      | '.' :: more => (more.takeWhile Char.isDigit, more.dropWhile Char.isDigit)
      | _ => ([], rest)
    if whole = [] ∧ fraction = [] then none
    else
      let exponent := match tail with
        | [] => some 0
        | 'e' :: more => exponent? more
        | 'E' :: more => exponent? more
        | _ => none
      match exponent, digitsFrom 10 0 (whole ++ fraction) with
      | some e, some m => some (Double.ofDecimal negative m (e - fraction.length))
      | _, _ => none

/-- The double nearest to the number a text writes. -/
def double? : List Char → Option Double
  | '-' :: rest => magnitude? true rest
  | '+' :: rest => magnitude? false rest
  | cs => magnitude? false cs

end Decimal

end CoEdit
