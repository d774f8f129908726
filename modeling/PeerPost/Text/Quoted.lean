import PeerPost.Text.Extender
import PeerPost.Text.Hexadecimal
import PeerPost.Text.Printable

/-!
# Quoted texts

How a text is shown in a diagnostic: between quotes, and with escapes for the quote, the backslash, and
all characters that do not show by themselves.
-/

namespace PeerPost.Text

/-- How a character is shown between quotes. -/
def showChar (c : Char) : List Char :=
  if c = '\x00' then ['\\', '0']
  else if c = '\t' then ['\\', 't']
  else if c = '\r' then ['\\', 'r']
  else if c = '\n' then ['\\', 'n']
  else if c = '\\' then ['\\', '\\']
  else if c = '"' then ['\\', '"']
  else if isExtender c || !isPrintable c then ['\\', 'u', '{'] ++ Hexadecimal.digits c.toNat ++ ['}']
  else [c]

def quoted (text : String) : String :=
  String.ofList ('"' :: (text.toList.flatMap showChar ++ ['"']))

end PeerPost.Text
