import VoterSession.Text.Visible
set_option autoImplicit false

/-!
Quoted text in error messages. The quote and the backslash are escaped by a backslash; tab, carriage
return, line feed and NUL have letters of their own; every other hidden character is written as its
code point in braces, in lower-case hexadecimal without leading zeros. An apostrophe stands for
itself.
-/
namespace VoterSession.Text

def escape (c : Char) : List Char :=
  if c = '"' then ['\\', '"']
  else if c = '\\' then ['\\', '\\']
  else if c = '\t' then ['\\', 't']
  else if c = '\r' then ['\\', 'r']
  else if c = '\n' then ['\\', 'n']
  else if c.toNat = 0 then ['\\', '0']
  else if isShown c then [c]
  else ['\\', 'u', '\x7b'] ++ Nat.toDigits 16 c.toNat ++ ['\x7d']

def quoted (s : String) : String :=
  String.ofList ('"' :: s.toList.flatMap escape ++ ['"'])

end VoterSession.Text
