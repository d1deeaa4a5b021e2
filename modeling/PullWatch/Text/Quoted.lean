import PullWatch.Text.Unmarked

/-!
# Texts quoted in messages

A message shows a text between double quotes. The quote, the backslash and the common control
characters have short escapes; a character without a mark of its own is shown by its code point.

## Main definitions

* `Text.quote`: a text as messages show it.
-/

namespace PullWatch.Text

/-- A character inside a quoted text. -/
def shown (c : Char) : List Char :=
  if c.toNat = 0 then ['\\', '0']
  else if c = '\t' then ['\\', 't']
  else if c = '\r' then ['\\', 'r']
  else if c = '\n' then ['\\', 'n']
  else if c = '"' then ['\\', '"']
  else if c = '\\' then ['\\', '\\']
  else if isUnmarked c then '\\' :: 'u' :: '{' :: (Nat.toDigits 16 c.toNat ++ ['}'])
  else [c]

/-- A text as messages show it. -/
def quote (s : String) : String := String.ofList ('"' :: (s.toList.flatMap shown ++ ['"']))

end PullWatch.Text
