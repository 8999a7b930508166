import SequenceCheck.Text.Hidden

/-!
# Quoted text

`quoted` writes a text between quotation marks so that every character of it can be seen: the
quotation mark, the backslash, the line feed, the carriage return, the tabulator and NUL have
escapes of one letter, and any other character that would not show is written by its code.
-/

set_option autoImplicit false

namespace SequenceCheck.Text

/-- A character of quoted text. -/
def quotedChar (c : Char) : List Char :=
  if c = '\x00' then ['\\', '0']
  else if c = '\t' then ['\\', 't']
  else if c = '\r' then ['\\', 'r']
  else if c = '\n' then ['\\', 'n']
  else if c = '\\' ∨ c = '"' then ['\\', c]
  else if isHidden c then '\\' :: 'u' :: '\x7b' :: Nat.toDigits 16 c.toNat ++ ['\x7d']
  else [c]

/-- A text between quotation marks. -/
def quoted (text : String) : String :=
  String.ofList ('"' :: text.toList.flatMap quotedChar ++ ['"'])

end SequenceCheck.Text
