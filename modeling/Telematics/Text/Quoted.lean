import Telematics.Text.Hex
import Telematics.Text.Printable

/-!
Quoted texts, as error messages show them. A text stands between single quotes, unless it has a
single quote and no double quote. Backslash, the enclosing quote, tab, line feed and carriage
return have two-character escapes; other unprintable characters are written by their code point in
two, four or eight hexadecimal digits.
-/

namespace Telematics.Text

/-- The quote that encloses a text. -/
def enclosingQuote (text : List Char) : Char :=
  if text.contains '\'' && !text.contains '"' then '"' else '\''

/-- The written form of one character of a text enclosed by `quote`. -/
def escapeQuoted (quote c : Char) : List Char :=
  if c = quote ∨ c = '\\' then ['\\', c]
  else if c = '\t' then ['\\', 't']
  else if c = '\n' then ['\\', 'n']
  else if c = '\r' then ['\\', 'r']
  else if isPrintable c then [c]
  else if c.toNat < 0x100 then '\\' :: 'x' :: hexDigits 2 c.toNat
  else if c.toNat < 0x10000 then '\\' :: 'u' :: hexDigits 4 c.toNat
  else '\\' :: 'U' :: hexDigits 8 c.toNat

/-- The quoted form of a text. -/
def quoted (text : String) : String :=
  let quote := enclosingQuote text.toList
  String.ofList (quote :: text.toList.flatMap (escapeQuoted quote) ++ [quote])

/-- The first `limit` characters of the quoted form. -/
def quotedUpTo (limit : Nat) (text : String) : String :=
  String.ofList ((quoted text).toList.take limit)

end Telematics.Text
