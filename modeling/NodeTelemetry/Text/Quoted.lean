import NodeTelemetry.Text.Hex
import NodeTelemetry.Text.Visible

/-!
# Text in double quotes

How a text stands inside a message: between double quotes, with the quote, the
backslash, line ends and everything that would not show written as escapes.
-/

namespace NodeTelemetry.Text

/-- A number in base 16 without leading zeros; `fuel` bounds the digits. -/
def hexDigits (fuel n : Nat) (tail : List Char) : List Char :=
  match fuel with
  | 0 => tail
  | fuel + 1 => if n < 16 then hexDigit n :: tail else hexDigits fuel (n / 16) (hexDigit (n % 16) :: tail)

/-- A character as it stands between double quotes. -/
def quotedChar (c : Char) : List Char :=
  match c with
  | '"' => ['\\', '"']
  | '\\' => ['\\', '\\']
  | '\n' => ['\\', 'n']
  | '\r' => ['\\', 'r']
  | '\t' => ['\\', 't']
  | _ =>
    if c.toNat = 0 then ['\\', '0']
    else if isVisible c then [c]
    else '\\' :: 'u' :: '\x7b' :: hexDigits 6 c.toNat ['\x7d']

def quoted (s : String) : String :=
  String.ofList ('"' :: s.toList.flatMap quotedChar ++ ['"'])

end NodeTelemetry.Text
