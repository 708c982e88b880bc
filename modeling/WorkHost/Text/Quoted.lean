import WorkHost.Text.Marks

/-!
Contract: texts shown in double quotes within a message.

Quotes, backslashes and the common controls have short escapes; any other character
that does not show is given by its code point in braces.
-/

namespace WorkHost.Text

/-- Hexadecimal digits in braces after `\u`. -/
def quotePoint (c : Char) : List Char :=
  '\\' :: 'u' :: '\x7b' :: (Nat.toDigits 16 c.toNat ++ ['\x7d'])

def quoteChar (c : Char) : List Char :=
  if c = '\x00' then ['\\', '0']
  else if c = '\t' then ['\\', 't']
  else if c = '\r' then ['\\', 'r']
  else if c = '\n' then ['\\', 'n']
  else if c = '\\' then ['\\', '\\']
  else if c = '"' then ['\\', '"']
  else if isShown c then [c]
  else quotePoint c

def quoted (text : String) : String :=
  String.ofList ('"' :: (text.toList.flatMap quoteChar ++ ['"']))

end WorkHost.Text
