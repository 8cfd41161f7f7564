import Delimited.Text.Digits
import Delimited.Toml.Value

/-!
# Plain values of configuration files

The values that are written without quotes or brackets: truth values, numbers, dates and times. Each is read from
the word that it is written as.
-/

namespace Delimited.Toml

/-! ### Numbers -/

/-- Digits in which a single underscore may stand between two of them; gives the digits alone. -/
private def digitsOf? (ok : Char → Bool) : List Char → Option (List Char)
  | [] => none
  | [c] => if ok c then some [c] else none
  | c :: '_' :: r => if ok c then (digitsOf? ok r).map (c :: ·) else none
  | c :: r => if ok c then (digitsOf? ok r).map (c :: ·) else none

/-- A sign, if there is one. -/
private def signOf : List Char → Bool × List Char
  | '+' :: r => (false, r)
  | '-' :: r => (true, r)
  | r => (false, r)

/-- The value of decimal digits after a sign. -/
private def signedNumber (negative : Bool) (ds : List Char) : Int :=
  if negative then -numberInBase 10 ds else numberInBase 10 ds

/-- Decimal digits without a leading zero, but for zero itself. -/
private def wholeOf? (s : List Char) : Option (List Char) :=
  match digitsOf? Char.isDigit s with
  | some ['0'] => some ['0']
  | some ('0' :: _) => none
  | ds => ds

private def isBinary (c : Char) : Bool := c = '0' || c = '1'
private def isOctal (c : Char) : Bool := '0' ≤ c && c ≤ '7'
private def isHex (c : Char) : Bool := (hexValue? c).isSome

/-- The integer that digits in a base write. Without digits there is none. -/
private def basedOf? (base : Nat) (ok : Char → Bool) : List Char → Option Value
  | [] => some .noNumber
  | s => (digitsOf? ok s).map fun ds => .integer (numberInBase base ds)

/-- Whether every underscore stands between two hexadecimal digits; `previous` comes before the text. -/
private def underscoresJoin (previous : Char) : List Char → Bool
  | [] => previous ≠ '_'
  | c :: r => (previous ≠ '_' || isHex c) && (c ≠ '_' || isHex previous) && underscoresJoin c r

/-- The integer that decimal digits write. After an underscore other characters may stand as well; then it has no
value. -/
private def decimalOf? (negative : Bool) (s : List Char) : Option Value :=
  match wholeOf? s with
  | some ds => some (.integer (signedNumber negative ds))
  | none =>
    let (first, rest) := s.span Char.isDigit
    if first.isEmpty ∨ first.head? = some '0' ∨ rest.any ['.', 'e', 'E'].contains then none
    else if rest.head? = some '_' ∧ underscoresJoin '0' rest then some .noNumber
    else none

/-- The integer that a word writes: decimal with a sign, or in another base without one. -/
private def integerOf? : List Char → Option Value
  | '0' :: 'x' :: r => basedOf? 16 isHex r
  | '0' :: 'o' :: r => basedOf? 8 isOctal r
  | '0' :: 'b' :: r => basedOf? 2 isBinary r
  | s =>
    let (negative, r) := signOf s
    decimalOf? negative r

/-- The exponent of a float, after its letter. -/
private def exponentOf? (s : List Char) : Option Int :=
  let (negative, r) := signOf s
  (digitsOf? Char.isDigit r).map (signedNumber negative)

/-- The number of double precision nearest to `n * 10 ^ e`. -/
private def scientific (n : Nat) (e : Int) : Float :=
  if e < 0 then Float.ofScientific n true (-e).toNat else Float.ofScientific n false e.toNat

/-- The size of a finite float: digits, with a fraction or an exponent or both. It is infinite where it is too great. -/
private def magnitudeOf? (s : List Char) : Option Float := do
  let (mantissa, exponent) := s.span fun c => c ≠ 'e' && c ≠ 'E'
  let (whole, fraction) := mantissa.span (· ≠ '.')
  let whole ← wholeOf? whole
  let fraction ← match fraction with
    | [] => if exponent.isEmpty then none else some []
    | _ :: r => digitsOf? Char.isDigit r
  let exponent ← match exponent with
    | [] => some 0
    | _ :: r => exponentOf? r
  let n := numberInBase 10 (whole ++ fraction)
  let e := exponent - fraction.length
  if n = 0 then return 0.0
  else if 400 < e + (whole ++ fraction).length then return 1.0 / 0.0
  else if e + (whole ++ fraction).length < -400 then return 0.0
  else return scientific n e

/-- The float that a word writes. A finite number that is too great has no value. -/
private def floatOf? (s : List Char) : Option Value :=
  let (negative, r) := signOf s
  let signed := fun (x : Float) => Value.float (if negative then -x else x)
  if r = "inf".toList then some (signed (1.0 / 0.0))
  else if r = "nan".toList then some (signed (0.0 / 0.0))
  else (magnitudeOf? r).map fun x => if x.isInf then .noNumber else signed x

/-! ### Dates and times -/

/-- Exactly `width` decimal digits. -/
private def fixedDigits (width : Nat) (s : List Char) : Option (Nat × List Char) :=
  let ds := s.take width
  if ds.length = width ∧ ds.all Char.isDigit then some (numberInBase 10 ds, s.drop width) else none

/-- A number in decimal, with zeros in front up to a width. -/
private def padded (width n : Nat) : List Char :=
  let ds := Nat.toDigits 10 n
  List.replicate (width - ds.length) '0' ++ ds

/-- The number of days of a month. -/
private def daysOf (year month : Nat) : Nat :=
  if month = 2 then if year % 4 = 0 ∧ (year % 100 ≠ 0 ∨ year % 400 = 0) then 29 else 28
  else if month = 4 ∨ month = 6 ∨ month = 9 ∨ month = 11 then 30
  else 31

/-- A date; gives its text. -/
private def readDate (s : List Char) : Option (List Char × List Char) := do
  let (year, s) ← fixedDigits 4 s
  let '-' :: s := s | none
  let (month, s) ← fixedDigits 2 s
  let '-' :: s := s | none
  let (day, s) ← fixedDigits 2 s
  if 1 ≤ month ∧ month ≤ 12 ∧ 1 ≤ day ∧ day ≤ daysOf year month then
    return (padded 4 year ++ '-' :: padded 2 month ++ '-' :: padded 2 day, s)
  else none

/-- A fraction of a second, of which nine digits count; gives its text, which is empty for no fraction and for zero. -/
private def readFraction : List Char → Option (List Char × List Char)
  | '.' :: s =>
    let ds := s.takeWhile Char.isDigit
    let kept := ((ds.take 9).reverse.dropWhile (· = '0')).reverse
    if ds.isEmpty then none else some (if kept.isEmpty then [] else '.' :: kept, s.drop ds.length)
  | s => some ([], s)

/-- The seconds of a time, which may be missing; gives their text, which is never missing. -/
private def readSeconds : List Char → Option (List Char × List Char)
  | ':' :: s => do
    let (second, s) ← fixedDigits 2 s
    let (fraction, s) ← readFraction s
    if second ≤ 60 then return (':' :: padded 2 second ++ fraction, s) else none
  | s => some ([':', '0', '0'], s)

/-- A time; gives its text. -/
private def readTime (s : List Char) : Option (List Char × List Char) := do
  let (hour, s) ← fixedDigits 2 s
  let ':' :: s := s | none
  let (minute, s) ← fixedDigits 2 s
  let (seconds, s) ← readSeconds s
  if hour ≤ 23 ∧ minute ≤ 59 then return (padded 2 hour ++ ':' :: padded 2 minute ++ seconds, s) else none

/-- The offset of a time from universal time, which may be missing; gives its text. -/
private def readOffset : List Char → Option (List Char × List Char)
  | [] => some ([], [])
  | c :: s =>
    if c = 'Z' ∨ c = 'z' then some (['Z'], s)
    else if c = '+' ∨ c = '-' then do
      let (hour, s) ← fixedDigits 2 s
      let ':' :: s := s | none
      let (minute, s) ← fixedDigits 2 s
      let sign := if hour = 0 ∧ minute = 0 then '+' else c
      if hour ≤ 23 ∧ minute ≤ 59 then return (sign :: padded 2 hour ++ ':' :: padded 2 minute, s) else none
    else none

/-- The date, the time or both that a word writes; gives its normal text. -/
def datetimeOf? (s : List Char) : Option String :=
  match readDate s with
  | some (date, []) => some (String.ofList date)
  | some (date, c :: s) =>
    if c = 'T' ∨ c = 't' ∨ c = ' ' then do
      let (time, s) ← readTime s
      let (offset, s) ← readOffset s
      if s.isEmpty then return String.ofList (date ++ 'T' :: time ++ offset) else none
    else none
  | none =>
    match readTime s with
    | some (time, []) => some (String.ofList time)
    | _ => none

/-! ### Words -/

/-- Whether a character may stand in a word. -/
private def inWord (c : Char) : Bool :=
  !([' ', '\t', '\n', '\r', '#', ',', '=', '"', '\'', '[', ']', '\x7b', '\x7d'].contains c)

/-- The word at the front of a text. A date and a time with a blank between them are one word. -/
def readWord (s : List Char) : List Char × List Char :=
  let word := s.takeWhile inWord
  let rest := s.drop word.length
  match readDate word, rest with
  | some (_, []), ' ' :: c :: r =>
    if c.isDigit then
      let time := (c :: r).takeWhile inWord
      (word ++ ' ' :: time, (c :: r).drop time.length)
    else (word, rest)
  | _, _ => (word, rest)

/-- The value that a word writes. -/
def wordValue? (word : List Char) : Option Value :=
  if word = "true".toList then some (.boolean true)
  else if word = "false".toList then some (.boolean false)
  else ((integerOf? word).or (floatOf? word)).or ((datetimeOf? word).map .datetime)

end Delimited.Toml
