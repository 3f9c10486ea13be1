import CanonicalReply.Text.Printable

/-!
# Texts in quotes, for messages

Error messages show a text between double quotes. Quotes and backslashes are escaped, tabs and
line ends have short escapes, and a character that does not show is given by its number.
-/

namespace CanonicalReply.Text

/-- How one character stands inside the quotes. -/
def quotedChar (c : Char) : List Char :=
  match c with
  | '\x00' => ['\\', '0']
  | '\t' => ['\\', 't']
  | '\n' => ['\\', 'n']
  | '\r' => ['\\', 'r']
  | '"' => ['\\', '"']
  | '\\' => ['\\', '\\']
  | c =>
    if isPrintable c then [c]
    else ['\\', 'u', '\x7b'] ++ Nat.toDigits 16 c.toNat ++ ['\x7d']

/-- A text between double quotes, on one line. -/
def quoted (s : String) : String :=
  String.ofList ('"' :: (s.toList.flatMap quotedChar ++ ['"']))

end CanonicalReply.Text
