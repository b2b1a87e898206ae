/-!
# Remainders

Arithmetic of remainders of a modulus. An inverse is found as a power, which needs the modulus to be prime.
-/

namespace CoEdit

namespace Modular

/-- Difference of remainders. -/
def sub (m a b : Nat) : Nat := (a + (m - b % m)) % m

/-- Power of a remainder. -/
def pow (m a e : Nat) : Nat :=
  if e = 0 then 1 % m
  else
    let half := pow m (a * a % m) (e / 2)
    if e % 2 = 0 then half else half * a % m
  termination_by e

/-- Inverse of a remainder of a prime. -/
def inverse (m a : Nat) : Nat := pow m a (m - 2)

/-- The binary digits of a number below a power of two, the highest first. -/
def bits : (size n : Nat) → List Bool
  | 0, _ => []
  | size + 1, n => bits size (n / 2) ++ [decide (n % 2 = 1)]

end Modular

end CoEdit
