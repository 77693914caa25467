import GrammarLoader.Text.Format
import GrammarLoader.Text.Printable
import GrammarLoader.Text.GraphemeExtend

/-! # Quoted text

Text shown between double quotes, as diagnostics quote names. NUL, tab, carriage
return and line feed become `\0`, `\t`, `\r`, `\n`; a backslash and a double quote
get a backslash before them; a grapheme extender or a character that is not
printable becomes `\u{h}` with its code point in lowercase hexadecimal; everything
else, the single quote included, stands as it is. A single character is shown
between single quotes the same way, with the single quote escaped instead.
-/

namespace GrammarLoader.Text

/-- The numbered escape of a character: backslash, `u`, and the hex code point in braces. -/
def unicodeEscape (c : Char) : List Char :=
  "\\u\x7b".toList ++ (hex c.toNat).toList ++ ['\x7d']

/-- How one character is written between the quote marks `q`: that mark gets a
backslash before it, the other mark stands as it is. -/
def escapeCharIn (q : Char) (c : Char) : List Char :=
  if c = '\x00' then ['\\', '0']
  else if c = '\t' then ['\\', 't']
  else if c = '\r' then ['\\', 'r']
  else if c = '\n' then ['\\', 'n']
  else if c = '\\' then ['\\', '\\']
  else if c = q then ['\\', q]
  else if isGraphemeExtend c || !isPrintable c then unicodeEscape c
  else [c]

/-- How one character is written between double quotes. -/
def escapeChar (c : Char) : List Char :=
  escapeCharIn '"' c

/-- The text in double quotes, each character escaped as `escapeChar` says. -/
def quote (s : String) : String :=
  String.ofList ('"' :: s.toList.flatMap escapeChar ++ ['"'])

/-- One character in single quotes, escaped as between them. -/
def quoteChar (c : Char) : String :=
  String.ofList ('\'' :: escapeCharIn '\'' c ++ ['\''])

end GrammarLoader.Text
