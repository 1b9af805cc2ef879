import MockQueue.Text.Shapeless
import MockQueue.Number.Radix

/-!
# Quoted text

How a text or a character is shown inside a message: between quotes, with a backslash before what
would end or disturb it, and by its code point where it has no shape of its own.
-/

namespace MockQueue.Text

/-- The code point of a character in braces, in hexadecimal. -/
def codePointEscape (c : Char) : List Char :=
  ['\\', 'u', '\x7b'] ++ (Number.Radix.hex false).digits c.toNat ++ ['\x7d']

/-- One character as it stands between two `quote`s. -/
def escapeChar (quote c : Char) : List Char :=
  if c = '\x00' then ['\\', '0']
  else if c = '\t' then ['\\', 't']
  else if c = '\r' then ['\\', 'r']
  else if c = '\n' then ['\\', 'n']
  else if c = '\\' ∨ c = quote then ['\\', c]
  else if isShapeless c then codePointEscape c
  else [c]

def quoted (text : List Char) : List Char :=
  '"' :: (text.flatMap (escapeChar '"') ++ ['"'])

def quotedChar (c : Char) : List Char :=
  '\x27' :: (escapeChar '\x27' c ++ ['\x27'])

end MockQueue.Text
