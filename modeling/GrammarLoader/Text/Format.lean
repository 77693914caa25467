/-! # Number and column formatting

Lowercase hexadecimal, decimal, and padding to a column width. Widths count
characters; text longer than the width is left whole.
-/

namespace GrammarLoader.Text

/-- Lowercase hexadecimal digits of a number, without leading zeros. -/
def hex (n : Nat) : String :=
  String.ofList (Nat.toDigits 16 n)

/-- The text padded on the left with `c` to at least `width` characters. -/
def padLeft (width : Nat) (c : Char) (s : String) : String :=
  String.ofList (List.replicate (width - s.length) c) ++ s

/-- The text padded on the right with spaces to at least `width` characters. -/
def padRight (width : Nat) (s : String) : String :=
  s ++ String.ofList (List.replicate (width - s.length) ' ')

/-- Hexadecimal in exactly `width` digits or more, zero-filled. -/
def hexPadded (width : Nat) (n : Nat) : String :=
  padLeft width '0' (hex n)

/-- Decimal, zero-filled to `width` digits. -/
def decimalPadded (width : Nat) (n : Nat) : String :=
  padLeft width '0' (toString n)

end GrammarLoader.Text
