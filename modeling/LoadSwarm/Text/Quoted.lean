/-
  Texts in quotes, as they appear inside messages.

  * `quoted`: the text between double quotes; quotes and backslashes, line ends,
    tabs and NUL are escaped by a backslash, and every character that cannot be
    shown on its own by its code point in braces.
  * `quotedPath`: the same with single quotes escaped.
-/
import LoadSwarm.Text.Printable

namespace LoadSwarm.Text

/-- A code point in hexadecimal digits, without leading zeros. -/
def hexText (n : Nat) : String := String.ofList (Nat.toDigits 16 n)

/-- A character by its code point. -/
def codePointEscape (c : Char) : String := "\\u\x7b" ++ hexText c.toNat ++ "\x7d"

/-- A character inside double quotes. -/
def escapeChar (c : Char) : String :=
  if c = '"' then "\\\""
  else if c = '\\' then "\\\\"
  else if c = '\n' then "\\n"
  else if c = '\r' then "\\r"
  else if c = '\t' then "\\t"
  else if c.toNat = 0 then "\\0"
  else if isCombining c || !isPrintable c then codePointEscape c
  else c.toString

/-- A text in double quotes. -/
def quoted (s : String) : String := "\"" ++ s.foldl (fun acc c => acc ++ escapeChar c) "" ++ "\""

/-- A path in double quotes; single quotes inside it are escaped too. -/
def quotedPath (s : String) : String :=
  "\"" ++ s.foldl (fun acc c => acc ++ (if c = '\'' then "\\'" else escapeChar c)) "" ++ "\""

end LoadSwarm.Text
