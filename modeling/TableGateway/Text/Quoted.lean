import TableGateway.Text.Blank
import TableGateway.Text.DefaultIgnorable
import TableGateway.Text.Graphic
import TableGateway.Text.GraphemeExtend

/-!
# Quoted texts

Descriptions for people show a text in double quotes. Quotes and backslashes have a backslash before
them, line ends, tabs and the character zero are letters after a backslash, and other characters
that cannot be told apart by sight are given by their code.
-/

namespace TableGateway.Text

/-- Whether a character is a sound mark of halfwidth Katakana. These two extend the character before
them and have a place of their own in the line nevertheless. -/
def isSoundMark (c : Char) : Bool := c = '\uFF9E' || c = '\uFF9F'

/-- Whether a character cannot be seen for itself: it is blank, and not the space; it is not
graphic; it is not drawn; or it is drawn together with the character before it. -/
def isHidden (c : Char) : Bool :=
  (isBlank c && c ≠ ' ') || !isGraphic c || isDefaultIgnorable c ||
    (isGraphemeExtend c && !isSoundMark c)

/-- A character within double quotes. -/
def shownChar (c : Char) : List Char :=
  if c = '"' ∨ c = '\\' then ['\\', c]
  else if c = '\n' then ['\\', 'n']
  else if c = '\r' then ['\\', 'r']
  else if c = '\t' then ['\\', 't']
  else if c = '\x00' then ['\\', '0']
  else if isHidden c then ['\\', 'u', '{'] ++ Nat.toDigits 16 c.toNat ++ ['}']
  else [c]

/-- A text in double quotes. -/
def shown (s : String) : String := String.ofList ('"' :: s.toList.flatMap shownChar ++ ['"'])

end TableGateway.Text
