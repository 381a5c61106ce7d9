/-
  Quoted text: double quotes around it, an escape for what would be misread or not seen.
  A quote and a backslash follow a backslash, four controls have letters of their own, and characters
  that do not print or that continue the one before them are written by number.
-/
import GatedFormula.Text.Property

namespace GatedFormula.Text

/-- The characters that do not print: all but letters, marks, numbers, punctuation, signs and the
plain space. -/
def unprintable : CharSet :=
  (Category.anyOf [Category.others, Category.separators]).diff (CharSet.single ' ')

/-- The characters a quoted text writes by number. -/
def numbered : CharSet := unprintable.union extending

/-- A character by its number in hexadecimal. -/
def byNumber (c : Char) : List Char :=
  "\\u\x7b".toList ++ Nat.toDigits 16 c.toNat ++ ['\x7d']

/-- A character as it stands in a quoted text. -/
def quotedChar (c : Char) : List Char :=
  if c = '"' then "\\\"".toList
  else if c = '\\' then "\\\\".toList
  else if c = '\n' then "\\n".toList
  else if c = '\t' then "\\t".toList
  else if c = '\r' then "\\r".toList
  else if c.toNat = 0 then "\\0".toList
  else if numbered.contains c then byNumber c
  else [c]

/-- A text in quotes. -/
def quoted (s : String) : String :=
  String.ofList ('"' :: s.toList.flatMap quotedChar ++ ['"'])

end GatedFormula.Text
