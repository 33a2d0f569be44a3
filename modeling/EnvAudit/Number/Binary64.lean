import EnvAudit.Text.Basic
/-!
# Binary fractions in decimal

A 64-bit float is an integer times a power of two, so every question about its decimal text is a question about
integers.  `fixedPlaces` rounds the exact value to a given number of places, a tie going to the even digit;
`shortestDigits` finds the fewest digits that read back as the same float; `ofDecimal` reads a decimal.
-/
namespace EnvAudit

/-- A finite float as sign, integer and binary exponent. -/
structure Dyadic where
  negative : Bool
  mantissa : Nat
  exponent : Int
  deriving DecidableEq, Repr

inductive Parts where
  | finite (d : Dyadic)
  | infinite (negative : Bool)
  | undefined
  deriving DecidableEq, Repr

def partsOfBits (bits : Nat) : Parts :=
  let negative := bits / Nat.pow 2 63 = 1
  let biased : Nat := bits / Nat.pow 2 52 % 2048
  let fraction : Nat := bits % Nat.pow 2 52
  if biased = 2047 then (if fraction = 0 then .infinite negative else .undefined)
  else if biased = 0 then .finite ⟨negative, fraction, -1074⟩
  else .finite ⟨negative, fraction + Nat.pow 2 52, (biased : Int) - 1075⟩

def partsOf (x : Float) : Parts := partsOfBits x.toBits.toNat

/-! ## Rounding -/

/-- The nearest integer to a quotient; a tie goes to the even one. -/
def roundDiv (num den : Nat) : Nat :=
  let q := num / den
  let r := num % den
  if 2 * r < den then q else if den < 2 * r then q + 1 else if q % 2 = 0 then q else q + 1

/-- The value as a fraction of two integers. -/
def Dyadic.fraction (d : Dyadic) : Nat × Nat :=
  if 0 ≤ d.exponent then (d.mantissa * Nat.pow 2 d.exponent.toNat, 1) else (d.mantissa, Nat.pow 2 (-d.exponent).toNat)

def padStart (width : Nat) (t : Text) : Text := List.replicate (width - t.length) '0' ++ t

/-- The digits of a scaled integer with the point put before the last `places` of them. -/
def withPoint (places scaled : Nat) : Text :=
  let ds := padStart (places + 1) (decimal scaled)
  let whole := ds.length - places
  if places = 0 then ds else ds.take whole ++ '.' :: ds.drop whole

def fixedPlaces (places : Nat) (x : Float) : Text :=
  match partsOf x with
  | .finite d =>
    let (num, den) := d.fraction
    (if d.negative then ['-'] else []) ++ withPoint places (roundDiv (num * Nat.pow 10 places) den)
  | .infinite negative => if negative then "-inf".toList else "inf".toList
  | .undefined => "nan".toList

/-! ## The fewest digits that read back

The reals that read as a float are those between the midpoints to its neighbours, the midpoints included when the
integer is even.  On the grid of `n` significant digits only the two points around the value need a look: if any
point of the grid lies in the interval, so does one of these. -/

/-- Interval and value over one denominator: lower end, value, upper end, denominator. -/
def readBackInterval (d : Dyadic) : Nat × Nat × Nat × Nat :=
  let below := if d.mantissa = Nat.pow 2 52 && -1074 < d.exponent then 1 else 2
  let scale : Int := d.exponent - 2
  let up := if 0 ≤ scale then Nat.pow 2 scale.toNat else 1
  let den := if 0 ≤ scale then 1 else Nat.pow 2 (-scale).toNat
  ((4 * d.mantissa - below) * up, 4 * d.mantissa * up, (4 * d.mantissa + 2) * up, den)

/-- `10 ^ e` as a fraction. -/
def tenPower (e : Int) : Nat × Nat :=
  if 0 ≤ e then (Nat.pow 10 e.toNat, 1) else (1, Nat.pow 10 (-e).toNat)

/-- The least `e` with `num / den < 10 ^ e`, searched upward from `e`. -/
def decimalExponentFrom (num den : Nat) : Nat → Int → Int
  | 0, e => e
  | fuel + 1, e =>
    let (p, q) := tenPower e
    if num * q < p * den then e else decimalExponentFrom num den fuel (e + 1)

def decimalExponent (num den : Nat) : Int := decimalExponentFrom num den 660 (-330)

/-- On the grid `10 ^ e`, the nearer point around `v / den` that lies in the interval. -/
def gridPoint? (closed : Bool) (lo v hi den : Nat) (e : Int) : Option Nat :=
  let (p, q) := tenPower e
  let inside (k : Nat) : Bool :=
    if closed then lo * q ≤ k * p * den && k * p * den ≤ hi * q
    else lo * q < k * p * den && k * p * den < hi * q
  let k := v * q / (p * den)
  let nearest := roundDiv (v * q) (p * den)
  let other := if nearest = k then k + 1 else k
  if inside nearest then some nearest else if inside other then some other else none

def shortestFrom (closed : Bool) (lo v hi den : Nat) (top : Int) : Nat → Nat → Nat × Int
  | 0, n => (roundDiv (v * (tenPower (top - n)).2) ((tenPower (top - n)).1 * den), top - n)
  | fuel + 1, n =>
    match gridPoint? closed lo v hi den (top - n) with
    | some k => (k, top - n)
    | none => shortestFrom closed lo v hi den top fuel (n + 1)

/-- The trailing zeros of an integer moved into the exponent. -/
def dropZeros : Nat → Nat → Int → Nat × Int
  | 0, n, e => (n, e)
  | fuel + 1, n, e => if n % 10 = 0 && n ≠ 0 then dropZeros fuel (n / 10) (e + 1) else (n, e)

/-- The shortest decimal `k * 10 ^ e` of a positive value. -/
def shortestDigits (d : Dyadic) : Nat × Int :=
  let (lo, v, hi, den) := readBackInterval d
  let (k, e) := shortestFrom (d.mantissa % 2 = 0) lo v hi den (decimalExponent v den) 17 1
  dropZeros 20 k e

/-! ## The text of a float

Positional while the point stands at most sixteen digits to the right of the first digit and at most three zeros
to its left; otherwise with an exponent of at least two digits.  A whole value keeps `.0`. -/

def exponentText (e : Int) : Text :=
  'e' :: (if e < 0 then '-' else '+') :: padStart 2 (decimal e.natAbs)

def floatDigits (k : Nat) (e : Int) : Text :=
  let ds := decimal k
  let point : Int := ds.length + e
  if -4 < point && point ≤ 16 then
    if point ≤ 0 then "0.".toList ++ List.replicate (-point).toNat '0' ++ ds
    else if (ds.length : Int) ≤ point then ds ++ List.replicate (point - ds.length).toNat '0' ++ ".0".toList
    else ds.take point.toNat ++ '.' :: ds.drop point.toNat
  else
    match ds with
    | [] => []
    | [d] => d :: exponentText (point - 1)
    | d :: rest => d :: '.' :: rest ++ exponentText (point - 1)

def floatText (x : Float) : Text :=
  match partsOf x with
  | .finite d =>
    (if d.negative then ['-'] else []) ++
      (if d.mantissa = 0 then "0.0".toList else let (k, e) := shortestDigits d; floatDigits k e)
  | .infinite negative => if negative then "-inf".toList else "inf".toList
  | .undefined => "nan".toList

/-! ## Reading and converting -/

/-- `m * 10 ^ e`, correctly rounded; far outside the range it is infinite or zero without computing the power. -/
def ofDecimal (m : Nat) (e : Int) : Float :=
  let size : Int := (decimal m).length + e
  if m = 0 || size < -400 then 0.0
  else if 400 < size then 1.0 / 0.0
  else if 0 ≤ e then Float.ofScientific m false e.toNat else Float.ofScientific m true (-e).toNat

/-- The integer part, or nothing for an infinite or undefined value. -/
def truncate? (x : Float) : Option Int :=
  match partsOf x with
  | .finite d =>
    let (num, den) := d.fraction
    let n : Int := ((num / den : Nat) : Int)
    some (if d.negative then -n else n)
  | _ => none

end EnvAudit
