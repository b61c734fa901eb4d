import Reflex.Text.Blank
import Reflex.Text.Property

/-! Quoted texts for messages: double quotes around the text, short escapes for the
common controls, and code points in braces for characters that would not show. -/
namespace Reflex.Text

def quotedChar (c : Char) : String :=
  match c with
  | '"' => "\\\""
  | '\\' => "\\\\"
  | '\n' => "\\n"
  | '\r' => "\\r"
  | '\t' => "\\t"
  | '\x00' => "\\0"
  | c => if isHidden c then "\\u\x7b" ++ hexDigits c.toNat ++ "\x7d" else c.toString

def quoted (s : String) : String :=
  "\"" ++ s.toList.foldr (fun c rest => quotedChar c ++ rest) "\""

end Reflex.Text
