import AccountStore.Text.Digits
import AccountStore.Text.Hidden

/-!
Texts quoted for a message.

Quotes, backslashes and the common control characters have short escapes. A character that would
not show on its own is spelled by its code point.
-/

namespace AccountStore.Text

def quotedChar (c : Char) : List Char :=
  match c with
  | '\x00' => ['\\', '0']
  | '\t' => ['\\', 't']
  | '\n' => ['\\', 'n']
  | '\r' => ['\\', 'r']
  | '"' => ['\\', '"']
  | '\\' => ['\\', '\\']
  | c =>
      if isHidden c then '\\' :: 'u' :: '\x7b' :: hexadecimal c.toNat ++ ['\x7d'] else [c]

/-- A text between double quotes, with escapes. -/
def quotedText (s : String) : String :=
  String.ofList ('"' :: s.toList.flatMap quotedChar ++ ['"'])

example : quotedText "a\"\u200b" = "\"a\\\"\\u\x7b200b\x7d\"" := by decide +kernel

end AccountStore.Text
