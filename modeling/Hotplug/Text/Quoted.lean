import Hotplug.Text.Hex
import Hotplug.Text.Printable

/-!
# Quoted text in descriptions

Descriptions of objects show text between double quotes. Quotes, backslashes and
the common controls have a short escape; whatever cannot be seen, or would merge
with its neighbour, is shown by its code point.
-/

namespace Hotplug.Text

/-- An escape by `\u` and the code point between braces, in lower case
hexadecimal. -/
def codePointEscape (c : Char) : List Char :=
  ['\\', 'u', '\x7b'] ++ Hex.write 1 c.toNat ++ ['\x7d']

/-- How one character is shown inside quotes. -/
def shown (c : Char) : List Char :=
  if c = '\x00' then ['\\', '0']
  else if c = '\t' then ['\\', 't']
  else if c = '\n' then ['\\', 'n']
  else if c = '\r' then ['\\', 'r']
  else if c = '"' then ['\\', '"']
  else if c = '\\' then ['\\', '\\']
  else if extendsGrapheme c || !isPrintable c then codePointEscape c
  else [c]

def quoted (s : String) : String :=
  String.ofList ('"' :: s.toList.flatMap shown ++ ['"'])

end Hotplug.Text
