/-!
# Ranges of bytes

The characters of a range, encoded in UTF-8, are the byte sequences that run through a few products of byte ranges.
`byteRanges lo hi` gives these products for the characters from `lo` to `hi`, in ascending order. A range is cut where
the length of the encoding changes, around the surrogates, which are no characters, and then wherever a byte that
follows would not run through all of its values.
-/

namespace Delimited

/-- A closed range of bytes. -/
structure ByteRange where
  lo : Nat
  hi : Nat
deriving DecidableEq, Repr

/-- The ranges of code points with encodings of one length, each with the number of bytes after the first. -/
private def encodingLengths : List (Nat × Nat × Nat) :=
  [(0, 0x7F, 0), (0x80, 0x7FF, 1), (0x800, 0xD7FF, 2), (0xE000, 0xFFFF, 2), (0x10000, 0x10FFFF, 3)]

/-- The bytes of a code point with `following` bytes after the first. -/
private def encoding (following code : Nat) : List Nat :=
  match following with
  | 0 => [code]
  | 1 => [0xC0 + code / 0x40, 0x80 + code % 0x40]
  | 2 => [0xE0 + code / 0x1000, 0x80 + code / 0x40 % 0x40, 0x80 + code % 0x40]
  | _ => [0xF0 + code / 0x40000, 0x80 + code / 0x1000 % 0x40, 0x80 + code / 0x40 % 0x40, 0x80 + code % 0x40]

/-- Cuts a range so that each piece either lies in one block of `block` code points or is made of whole ones, and the
whole ones likewise for blocks 64 times as large, `following` times. -/
private def aligned (block : Nat) : Nat → Nat → Nat → List (Nat × Nat)
  | 0, lo, hi => [(lo, hi)]
  | following + 1, lo, hi =>
    if lo / block = hi / block then [(lo, hi)]
    else
      let next := (lo + block - 1) / block * block
      let first := if lo < next then [(lo, next - 1)] else []
      if next / block = hi / block then first ++ [(next, hi)]
      else if hi % block = block - 1 then first ++ aligned (64 * block) following next hi
      else
        let last := hi / block * block
        first ++ aligned (64 * block) following next (last - 1) ++ [(last, hi)]

/-- The encodings of the characters from `lo` to `hi`. -/
def byteRanges (lo hi : Nat) : List (List ByteRange) :=
  encodingLengths.flatMap fun (first, last, following) =>
    let lo := Nat.max lo first
    let hi := Nat.min hi last
    if hi < lo then []
    else (aligned 64 following lo hi).map fun (a, b) =>
      List.zipWith ByteRange.mk (encoding following a) (encoding following b)

end Delimited
