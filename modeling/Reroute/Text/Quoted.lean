import Reroute.Regex.Unicode.Category
import Reroute.Regex.Unicode.Property
import Reroute.Text.Numeral

/-!
Quoting for messages: a text in double quotes, with everything escaped that would not show.
What shows is any character but controls, formats, private and unassigned ones, separators
other than the space, and marks that would join the character before them.
-/
namespace Reroute.Text

/-- The categories whose characters do not show by themselves. -/
def hiddenCategories : List String := ["c", "z"]

/-- Whether a character shows when it is written. -/
def isPrintable (c : Char) : Bool :=
  (0x20 ≤ c.toNat && c.toNat < 0x7F) ||
    !(((Regex.Property.find? "grext") :: hiddenCategories.map Regex.Category.short?).any
      fun set => (set.map fun set => set.contains c).getD false)

/-- A code point in hexadecimal between braces. -/
def codeEscape (c : Char) : Text :=
  '\\' :: 'u' :: '\x7b' :: (Nat.toDigits 16 c.toNat ++ ['\x7d'])

/-- A character as it stands between quotes. -/
def quotedChar (c : Char) : Text :=
  match c with
  | '"' => ['\\', '"']
  | '\\' => ['\\', '\\']
  | '\x00' => ['\\', '0']
  | '\t' => ['\\', 't']
  | '\n' => ['\\', 'n']
  | '\r' => ['\\', 'r']
  | _ => if isPrintable c then [c] else codeEscape c

/-- A text in double quotes. -/
def quoted (s : Text) : Text :=
  '"' :: (s.flatMap quotedChar ++ ['"'])

end Reroute.Text
