/-!
# Shortest decimals

A binary fraction `m * 2 ^ q` of double precision stands for all reals that round to it. Of the decimals among them
`shortest?` finds one with the fewest digits, and of those the nearest to the fraction; it tries one digit after
another, and at each number of digits the two neighbours of the fraction on that decimal grid, in whole numbers.
-/

namespace Delimited.Decimal

/-- The reals that round to a binary fraction: from `low / scale` to `high / scale` around `mid / scale`. -/
structure Neighbourhood where
  low : Nat
  mid : Nat
  high : Nat
  scale : Nat
  /-- Whether the ends round to the fraction too. -/
  closed : Bool

/-- The neighbourhood of `m * 2 ^ q`. Below a power of two the gap is half as wide. -/
def Neighbourhood.of (m : Nat) (q : Int) (narrowBelow : Bool) : Neighbourhood :=
  let up := Nat.pow 2 (q - 2).toNat
  { low := (4 * m - if narrowBelow then 1 else 2) * up, mid := 4 * m * up, high := (4 * m + 2) * up,
    scale := Nat.pow 2 (2 - q).toNat, closed := m % 2 = 0 }

/-- The decimal `digits * 10 ^ exponent`. -/
structure Numeral where
  digits : Nat
  exponent : Int
deriving DecidableEq, Repr

/-- `a * 10 ^ k` as a fraction of whole numbers, for `k` of either sign. -/
private def scaled (a : Nat) (k : Int) : Nat × Nat := (a * Nat.pow 10 k.toNat, Nat.pow 10 (-k).toNat)

/-- Whether a decimal rounds to the fraction. -/
def Neighbourhood.contains (n : Neighbourhood) (d : Numeral) : Bool :=
  let (num, den) := scaled d.digits d.exponent
  let x := num * n.scale
  if n.closed then n.low * den ≤ x && x ≤ n.high * den else n.low * den < x && x < n.high * den

/-- The nearer of a decimal and the next one on the grid; of two that are equally near the upper one. -/
private def nearer (n : Neighbourhood) (d : Numeral) : Numeral :=
  let (num, den) := scaled (2 * d.digits + 1) d.exponent
  if num * n.scale ≤ 2 * n.mid * den then { d with digits := d.digits + 1 } else d

/-- The decimals of the grid with a unit of `10 ^ k` that round to the fraction. -/
def Neighbourhood.onGrid? (n : Neighbourhood) (k : Int) : Option Numeral :=
  let (unit, den) := scaled n.scale k
  let lower : Numeral := ⟨n.mid * den / unit, k⟩
  let upper : Numeral := ⟨n.mid * den / unit + 1, k⟩
  match n.contains lower, n.contains upper with
  | true, true => some (nearer n lower)
  | true, false => some lower
  | false, true => some upper
  | false, false => none

/-- The exponent of the first digit of `mid / scale`, which is not zero. -/
private def leadingExponent (n : Neighbourhood) : Int :=
  let whole := n.mid / n.scale
  if whole ≠ 0 then (Nat.toDigits 10 whole).length - 1
  else
    let inverse := (n.scale + n.mid - 1) / n.mid
    let k : Int := (Nat.toDigits 10 inverse).length
    let (num, den) := scaled 1 (1 - k)
    if num * n.scale ≤ n.mid * den then 1 - k else -k

/-- The shortest decimal that rounds to the fraction; 17 digits always suffice. -/
def Neighbourhood.shortest? (n : Neighbourhood) : Option Numeral :=
  let first := leadingExponent n
  (List.range 17).findSome? fun k : Nat => n.onGrid? (first - (k : Int))

/-! ### Text -/

/-- Digits in positional or scientific notation; `lead` is the exponent of the first of them. The positional form is
used from `10 ^ -4` on and below `10 ^ 16`, and has a digit behind the point. -/
def notate (ds : List Char) (lead : Int) : List Char :=
  if -4 ≤ lead ∧ lead ≤ 15 then
    if lead < 0 then ['0', '.'] ++ List.replicate (-lead - 1).toNat '0' ++ ds
    else
      let places := lead.toNat + 1
      let fraction := ds.drop places
      ds.take places ++ List.replicate (places - ds.length) '0' ++ '.' :: if fraction.isEmpty then ['0'] else fraction
  else
    let fraction := ds.drop 1
    ds.take 1 ++ (if fraction.isEmpty then [] else '.' :: fraction) ++ 'e' :: (toString lead).toList

/-- The text of a decimal that is not zero. -/
def Numeral.text (d : Numeral) : List Char :=
  let ds := Nat.toDigits 10 d.digits
  notate (ds.reverse.dropWhile (· = '0')).reverse (ds.length - 1 + d.exponent)

/-- The text of a number of double precision, with as few digits as tell it from all others. -/
def floatText (x : Float) : String :=
  let bits := x.toBits.toNat
  let sign := if bits / Nat.pow 2 63 = 1 then ['-'] else []
  let exponent : Nat := bits / Nat.pow 2 52 % 2048
  let fraction := bits % Nat.pow 2 52
  if exponent = 2047 then if fraction = 0 then String.ofList (sign ++ "inf".toList) else "NaN"
  else if exponent = 0 ∧ fraction = 0 then String.ofList (sign ++ "0.0".toList)
  else
    let n : Neighbourhood :=
      if exponent = 0 then .of fraction (-1074) false
      else .of (Nat.pow 2 52 + fraction) ((exponent : Nat) - 1075 : Int) (fraction = 0 && 1 < exponent)
    String.ofList (sign ++ (n.shortest?.map Numeral.text).getD [])

end Delimited.Decimal
