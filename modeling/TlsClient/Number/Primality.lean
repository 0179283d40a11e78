import TlsClient.Number.Modular

/-!
# Recognising primes

A number is taken for a prime if it passes the strong test of Fermat's theorem for a number of bases
and the strong test of Lucas sequences.  Every prime passes; no composite number is known to pass
even the test for base two and the Lucas test.
-/

namespace TlsClient.Number

/-- The bases of the strong Fermat test, which are also tried as divisors. -/
def bases : List Nat :=
  [2, 3, 5, 7, 11, 13, 17, 19, 23, 29, 31, 37, 41, 43, 47, 53, 59, 61, 67, 71, 73, 79, 83, 89]

/-- Takes out the factors of two, at most `fuel`: how many there are, and what is left. -/
def halvings : (fuel : Nat) → Nat → Nat × Nat
  | 0, n => (0, n)
  | fuel + 1, n =>
    if n % 2 = 0 then
      let (count, odd) := halvings fuel (n / 2)
      (count + 1, odd)
    else (0, n)

/-- Whether squaring `x` up to `count` times gives `target` modulo `n`. -/
def squaresReach (n target : Nat) : (count : Nat) → (x : Nat) → Bool
  | 0, x => x == target
  | count + 1, x => x == target || squaresReach n target count (x * x % n)

/-- The strong Fermat test of an odd number above two for one base. -/
def strongFermat (n base : Nat) : Bool :=
  let (count, odd) := halvings n.log2 (n - 1)
  let x := powMod base odd n
  x == 1 || squaresReach n (n - 1) (count - 1) x

/-- The Jacobi symbol of `a` over an odd `n`, as a remainder modulo three: one is 1, minus one is 2,
zero is 0.  Factors of two are taken out and the two numbers change places until `a` is used up. -/
def jacobiUpTo : (fuel : Nat) → (a n : Nat) → (negative : Bool) → Nat
  | 0, _, _, _ => 0
  | fuel + 1, a, n, negative =>
    let a := a % n
    if a = 0 then (if n = 1 then (if negative then 2 else 1) else 0)
    else
      let (count, odd) := halvings (a.log2 + 1) a
      let negative := negative != (count % 2 == 1 && (n % 8 == 3 || n % 8 == 5))
      let negative := negative != (odd % 4 == 3 && n % 4 == 3)
      jacobiUpTo fuel n odd negative

/-- The Jacobi symbol of `a` over an odd `n`, as a remainder modulo three. -/
def jacobi (a n : Nat) : Nat := jacobiUpTo (2 * n.log2 + 4) a n false

/-- The Lucas sequence `V` of `p` modulo `n` at the number with these binary digits, highest first,
and at its successor. -/
def lucasPair (n p : Nat) (digits : List Bool) : Nat × Nat :=
  digits.foldl
    (fun (v, w) digit =>
      let cross := (v * w + n - p % n) % n
      if digit then (cross, (w * w + n - 2 % n) % n) else ((v * v + n - 2 % n) % n, cross))
    (2 % n, p % n)

/-- The binary digits of a number, highest first. -/
def binary (n : Nat) : List Bool := ((List.range (n.log2 + 1)).map n.testBit).reverse

/-- Whether `v`, or one of its images under `v ↦ v² - 2` short of `count`, is zero modulo `n`. -/
def lucasReach (n : Nat) : (count : Nat) → (v : Nat) → Bool
  | 0, _ => false
  | count + 1, v => v == 0 || lucasReach n count ((v * v + n - 2) % n)

/-- The strong Lucas test of an odd number for a parameter whose discriminant is not a square modulo
the number. -/
def strongLucas (n p : Nat) : Bool :=
  let (count, odd) := halvings (n.log2 + 2) (n + 1)
  let (v, w) := lucasPair n p (binary odd)
  ((v == 2 % n || v == n - 2) && v * p % n == 2 * w % n) || lucasReach n (count - 1) v

/-- The first parameter of at least `p` whose discriminant has a Jacobi symbol that is not one; a
square has none, so the search ends. -/
def lucasParameter : (fuel : Nat) → (n p : Nat) → Option (Nat × Nat)
  | 0, _, _ => none
  | fuel + 1, n, p =>
    match jacobi (p * p - 4) n with
    | 1 => lucasParameter fuel n (p + 1)
    | symbol => some (p, symbol)

/-- The strong Lucas test of an odd number, with the first parameter that serves. -/
def passesLucas (n : Nat) : Bool :=
  match lucasParameter 10000 n 3 with
  | some (p, 2) => strongLucas n p
  | some (p, _) => n == p + 2
  | none => false

/-- Whether a number is taken for a prime. -/
def isProbablePrime (n : Nat) : Bool :=
  if bases.contains n then true
  else if n < 2 || bases.any fun b => n % b == 0 then false
  else bases.all (strongFermat n) && passesLucas n

end TlsClient.Number
