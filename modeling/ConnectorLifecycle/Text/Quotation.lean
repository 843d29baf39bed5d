import ConnectorLifecycle.Text.Numeral
import ConnectorLifecycle.Text.Showing

/-!
# Texts in quotes

A text is shown between double quotes so that each of its characters can be told. Quotes and
backslashes get a backslash in front, some control characters are written as letters after one, and
every other character that does not show is written as its code in hexadecimal digits.
-/

namespace ConnectorLifecycle

/-- One character between quotes. -/
def quotedChar (c : Char) : List Char :=
  match c with
  | '\x00' => ['\\', '0']
  | '\t' => ['\\', 't']
  | '\n' => ['\\', 'n']
  | '\r' => ['\\', 'r']
  | '\\' => ['\\', '\\']
  | '"' => ['\\', '"']
  | c =>
    if shows c then [c] else '\\' :: 'u' :: '\x7b' :: hexadecimal c.toNat ++ ['\x7d']

/-- A text between quotes. -/
def quoted (s : String) : String :=
  String.ofList ('"' :: s.toList.flatMap quotedChar ++ ['"'])

end ConnectorLifecycle
