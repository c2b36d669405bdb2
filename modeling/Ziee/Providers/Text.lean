/-
**String operations as the source language has them.**

`str::trim` and its relatives cut the characters with the Unicode `White_Space` property, which is
more than the ASCII blanks; `isWhitespace` lists them.
-/

import Mathlib.Data.List.Basic

namespace Ziee.Providers

/-- `char::is_whitespace`: the Unicode `White_Space` characters. -/
def isWhitespace (c : Char) : Bool :=
  let code := c.toNat
  (0x09 ≤ code && code ≤ 0x0D) || code == 0x20 || code == 0x85 || code == 0xA0 ||
    code == 0x1680 || (0x2000 ≤ code && code ≤ 0x200A) || code == 0x2028 || code == 0x2029 ||
    code == 0x202F || code == 0x205F || code == 0x3000

/-- `str::trim_start`, on the characters. -/
def trimStart (text : List Char) : List Char := text.dropWhile isWhitespace

/-- `str::trim`, on the characters. -/
def trim (text : List Char) : List Char := (trimStart (trimStart text).reverse).reverse

/-- `s.trim_start().starts_with(marker)`. -/
def startsWithTrimmed (marker text : String) : Bool :=
  marker.toList.isPrefixOf (trimStart text.toList)

/-- `s.trim().is_empty()`. -/
def isBlank (text : String) : Bool := (trim text.toList).isEmpty

def isAsciiDigit (c : Char) : Bool := '0' ≤ c && c ≤ '9'

/-- The largest `usize`. -/
def usizeMax : Nat := 0xFFFFFFFFFFFFFFFF

/-- The number a row of decimal digits stands for. -/
def digitsValue (digits : List Char) : Nat :=
  digits.foldl (fun value digit => 10 * value + (digit.toNat - '0'.toNat)) 0

/-- `str::parse::<usize>`: an optional plus sign, then digits, and no overflow. -/
def parseUsize (text : List Char) : Option Nat :=
  let digits := if text.head? = some '+' then text.tail else text
  if digits.isEmpty || !digits.all isAsciiDigit || usizeMax < digitsValue digits then none
  else some (digitsValue digits)

end Ziee.Providers
