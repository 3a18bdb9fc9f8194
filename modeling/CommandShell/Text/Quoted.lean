import CommandShell.Text.Visible

/-!
# Quoted text

A text between double quotes, on one line and with nothing invisible in it. The
quote, the backslash and four controls have an escape of two characters; any other
character that does not show on its own is written by its code point.
-/

namespace CommandShell.Text

/-- How one character is written between quotes. -/
def escaped (c : Char) : String :=
  match c with
  | '\x00' => "\\0"
  | '\t' => "\\t"
  | '\r' => "\\r"
  | '\n' => "\\n"
  | '\\' => "\\\\"
  | '"' => "\\\""
  | c =>
    if isVisible c then c.toString
    else "\\u\x7b" ++ String.ofList (Nat.toDigits 16 c.toNat) ++ "\x7d"

/-- A text between quotes. -/
def quoted (text : String) : String :=
  "\"" ++ String.join (text.toList.map escaped) ++ "\""

end CommandShell.Text
