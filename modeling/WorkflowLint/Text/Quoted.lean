import WorkflowLint.Text.Hidden

/-!
# Quoted text in messages

A message that shows a piece of text puts it between double quotes with the quote, the backslash
and the common controls escaped and every hidden character given by its number.
-/

set_option autoImplicit false

namespace WorkflowLint.Text

/-- What stands for a character inside a quoted text. -/
def quoteChar (c : Char) : List Char :=
  if c = '\x00' then ['\\', '0']
  else if c = '\t' then ['\\', 't']
  else if c = '\r' then ['\\', 'r']
  else if c = '\n' then ['\\', 'n']
  else if c = '\\' then ['\\', '\\']
  else if c = '"' then ['\\', '"']
  else if isHidden c then '\\' :: 'u' :: '\x7b' :: Nat.toDigits 16 c.toNat ++ ['\x7d']
  else [c]

/-- The text between double quotes. -/
def quote (s : String) : String :=
  String.ofList ('"' :: s.toList.flatMap quoteChar ++ ['"'])

end WorkflowLint.Text
