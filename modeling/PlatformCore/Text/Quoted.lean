/-
  Quoted text: how a message shows a text that may hold anything.

  The text stands between double quotes.  A double quote and a backslash are written with a
  backslash before them, the null character, tab, line feed and carriage return as `\0`,
  `\t`, `\n` and `\r`, and every other character that is not graphic by its code point in
  lower-case hexadecimal between braces.  The apostrophe stands for itself.
-/
import PlatformCore.Text.Graphic

namespace PlatformCore.Text

def hexDigits (n : Nat) : String := String.ofList (Nat.toDigits 16 n)

def quoteChar (c : Char) : String :=
  match c with
  | '\x00' => "\\0"
  | '\t' => "\\t"
  | '\n' => "\\n"
  | '\r' => "\\r"
  | '"' => "\\\""
  | '\\' => "\\\\"
  | c => if isGraphic c then c.toString else "\\u\x7b" ++ hexDigits c.toNat ++ "\x7d"

def quote (s : String) : String := "\"" ++ String.join (s.toList.map quoteChar) ++ "\""

end PlatformCore.Text
