import Testbed.Text.Shape

/-!
# Quoted texts in messages

A message quotes a text that it complains about in double quotes. Control characters, the quote and
the backslash are written with a backslash, and any other character that does not show by itself as
its code point in hexadecimal digits.
-/

namespace Testbed.Text

def escape (c : Char) : List Char :=
  match c with
  | '\x00' => ['\\', '0']
  | '\t' => ['\\', 't']
  | '\n' => ['\\', 'n']
  | '\r' => ['\\', 'r']
  | '"' => ['\\', '"']
  | '\\' => ['\\', '\\']
  | c =>
    if isSelfContained c then [c]
    else ['\\', 'u', '\x7b'] ++ Nat.toDigits 16 c.toNat ++ ['\x7d']

def quoted (text : String) : String :=
  String.ofList ('"' :: text.toList.flatMap escape ++ ['"'])

end Testbed.Text
