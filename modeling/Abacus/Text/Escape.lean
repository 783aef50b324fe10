import Abacus.Unicode.GraphemeExtend
import Abacus.Unicode.Unprintable

/-! The visible form of a single character in a message.  A character that would not show, or that
would attach to the text before it, is written as its code point in hexadecimal. -/

namespace Abacus.Text

/-- The digits of `n` in base sixteen, in lower case, without leading zeros. -/
def hexDigits (n : Nat) : List Char :=
  if n < 16 then [n.digitChar] else hexDigits (n / 16) ++ [(n % 16).digitChar]
termination_by n

/-- The code point of `c` in braces, behind a backslash and `u`. -/
def codePoint (c : Char) : String :=
  "\\u\x7b" ++ String.ofList (hexDigits c.toNat) ++ "\x7d"

/-- The visible form of `c`: a short escape for NUL, tab, line ends, quotes and the backslash, the
code point for a character that does not show by itself, and `c` itself otherwise. -/
def escape (c : Char) : String :=
  if c = '\x00' then "\\0"
  else if c = '\t' then "\\t"
  else if c = '\r' then "\\r"
  else if c = '\n' then "\\n"
  else if c = '\x27' then "\\\x27"
  else if c = '\x22' then "\\\x22"
  else if c = '\\' then "\\\\"
  else if Unicode.isGraphemeExtend c || Unicode.isUnprintable c then codePoint c
  else String.singleton c

end Abacus.Text
