/-!
# Arithmetic modulo a number

Powers by repeated squaring, inverses by the extended Euclidean algorithm.
-/

namespace TlsClient.Number

/-- A power modulo `m`, with one squaring for each binary digit of the exponent. -/
def powMod (b e m : Nat) : Nat :=
  if e = 0 then 1 % m
  else
    let square := powMod (b * b % m) (e / 2) m
    if e % 2 = 0 then square else b * square % m
termination_by e
decreasing_by omega

/-- The Euclidean algorithm on `r` and `s`, which keeps factors `x` and `y` with `x * a ≡ r` and
`y * a ≡ s`: the greatest common divisor and its factor. -/
def euclid (r s : Nat) (x y : Int) : Nat × Int :=
  if s = 0 then (r, x) else euclid s (r % s) y (x - (r / s : Nat) * y)
termination_by s
decreasing_by exact Nat.mod_lt _ (by omega)

/-- The number below `m` whose product with `a` is one modulo `m`, if `a` and `m` have no common
factor. -/
def inverse? (a m : Nat) : Option Nat :=
  let (gcd, x) := euclid m (a % m) 0 1
  if gcd = 1 then some (x % m).toNat else none

end TlsClient.Number
