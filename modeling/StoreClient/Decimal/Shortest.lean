/-!
The shortest decimal that reads back as a given double. A finite double `m · 2 ^ q` is the nearest
one to every real number of an interval around it; among the decimals with one digit, then two, and
so on, the first that lies in the interval is taken, and of two with equally many digits the nearer.
Everything is exact arithmetic on natural numbers.
-/

namespace StoreClient.Decimal

/-- A positive decimal `digits · 10 ^ exponent`. -/
structure Scaled where
  digits : Nat
  exponent : Int
  deriving DecidableEq, Repr

/-- A finite positive double as `mantissa · 2 ^ exponent`; `narrow` says that its lower neighbour
is only half as far away as its upper one. -/
structure Binary where
  mantissa : Nat
  exponent : Int
  narrow : Bool
  deriving DecidableEq, Repr

/-- The magnitude of a double. -/
def Binary.ofFloat (x : Float) : Binary :=
  let bits := x.toBits.toNat
  let fraction : Nat := bits % 0x10000000000000
  let biased : Nat := bits / 0x10000000000000 % 0x800
  if biased = 0 then ⟨fraction, -1074, false⟩
  else ⟨fraction + 0x10000000000000, (biased : Int) - 1075, fraction = 0 && 1 < biased⟩

/-- A non-negative integer power as a fraction: numerator and denominator. -/
def powerRatio (base : Nat) (e : Int) : Nat × Nat :=
  if 0 ≤ e then (base.pow e.toNat, 1) else (1, base.pow (-e).toNat)

/-- The exponent of the leading digit of the positive fraction `num / den`. -/
def leadingExponent (num den : Nat) : Int :=
  if den ≤ num then ((Nat.toDigits 10 (num / den)).length : Int) - 1
  else
    match (List.range 400).find? fun j => den ≤ num * Nat.pow 10 j with
    | some j => -(j : Int)
    | none => 0

/-- The nearer to `value / unit` of its two neighbouring whole numbers, among those that lie between
`low / unit` and `high / unit`; the ends count if `closed`. A tie goes to the even one. -/
def nearestWithin (value low high unit : Nat) (closed : Bool) : Option Nat :=
  let inside (d : Nat) : Bool :=
    if closed then low ≤ d * unit && d * unit ≤ high else low < d * unit && d * unit < high
  let d := value / unit
  let below := value - d * unit
  let above := (d + 1) * unit - value
  match inside d && d ≠ 0, inside (d + 1) with
  | true, true =>
    if below < above then some d else if above < below then some (d + 1)
    else some (if d % 2 = 0 then d else d + 1)
  | true, false => some d
  | false, true => some (d + 1)
  | false, false => none

/-- The decimal with `count` digits that reads back as `b`, if there is one. Values are compared
as multiples of a common unit: a quarter of the binary unit over the decimal one. -/
def Binary.withDigits? (b : Binary) (leading : Int) (count : Nat) : Option Scaled :=
  let e := leading - (count : Int) + 1
  let (tenUp, tenDown) := powerRatio 10 e
  let (twoUp, twoDown) := powerRatio 2 (b.exponent - 2)
  let scale (n : Nat) : Nat := n * twoUp * tenDown
  (nearestWithin (scale (4 * b.mantissa)) (scale (4 * b.mantissa - if b.narrow then 1 else 2))
    (scale (4 * b.mantissa + 2)) (tenUp * twoDown) (b.mantissa % 2 = 0)).map fun d => ⟨d, e⟩

/-- The shortest decimal that reads back as `b`; seventeen digits always suffice. -/
def Binary.shortest (b : Binary) : Scaled :=
  let (up, down) := powerRatio 2 b.exponent
  let leading := leadingExponent (b.mantissa * up) down
  ((List.range 17).findSome? fun n => b.withDigits? leading (n + 1)).getD ⟨0, 0⟩

/-- Digits without trailing zeros, and the exponent of the first of them. -/
def Scaled.leadingDigits (s : Scaled) : List Char × Int :=
  let ds := Nat.toDigits 10 s.digits
  ((ds.reverse.dropWhile (· = '0')).reverse, s.exponent + (ds.length : Int) - 1)

/-- The exponents of the first digit for which a number is written without an exponent. -/
structure Plain where
  least : Int
  greatest : Int

/-- The text of a positive decimal: positional within `plain`, with at least one digit after the
point, else one digit before the point, the others behind it and a signed exponent. -/
def Scaled.render (plain : Plain) (s : Scaled) : List Char :=
  let (ds, e) := s.leadingDigits
  if plain.least ≤ e ∧ e ≤ plain.greatest then
    if e < 0 then '0' :: '.' :: List.replicate ((-e).toNat - 1) '0' ++ ds
    else
      let whole := e.toNat + 1
      if ds.length ≤ whole then ds ++ List.replicate (whole - ds.length) '0' ++ ['.', '0']
      else ds.take whole ++ '.' :: ds.drop whole
  else
    let mantissa :=
      match ds with
      | d :: [] => [d]
      | d :: more => d :: '.' :: more
      | [] => ['0']
    mantissa ++ 'e' :: (if e < 0 then '-' else '+') :: Nat.toDigits 10 e.natAbs

end StoreClient.Decimal
