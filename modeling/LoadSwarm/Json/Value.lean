/-
  JSON texts.

  * `JsonValue`: what can be written; numbers are held by their text.
  * `JsonValue.compact`: the text on one line, without blanks.
  * `JsonValue.pretty`: a line for every member and item, two blanks a level.
-/
import LoadSwarm.Number.Decimal
import LoadSwarm.Text.Quoted

namespace LoadSwarm

/-- A value that can be written as JSON. -/
inductive JsonValue where
  | null
  | bool (b : Bool)
  | number (text : String)
  | text (s : String)
  | list (items : List JsonValue)
  | record (members : List (String × JsonValue))

namespace JsonValue

/-- A natural number. -/
def nat (n : Nat) : JsonValue := number (toString n)

/-- A floating point number; null if it is not finite. -/
def float (x : Binary64) : JsonValue := if x.isFinite then number (x.render .json) else null

/-- A character inside a text: quotes, backslashes and control characters are escaped. -/
def escapeChar (c : Char) : String :=
  if c = '"' then "\\\""
  else if c = '\\' then "\\\\"
  else if c = '\n' then "\\n"
  else if c = '\r' then "\\r"
  else if c = '\t' then "\\t"
  else if c.toNat = 8 then "\\b"
  else if c.toNat = 12 then "\\f"
  else if c.toNat < 0x10 then "\\u000" ++ Text.hexText c.toNat
  else if c.toNat < 0x20 then "\\u00" ++ Text.hexText c.toNat
  else c.toString

/-- A text in quotes. -/
def quote (s : String) : String := "\"" ++ s.foldl (fun acc c => acc ++ escapeChar c) "" ++ "\""

/-- Pieces between brackets, each on a line of its own; nothing between them if there are
    none. -/
def block (opening closing : String) (indent : Nat) (pieces : List String) : String :=
  let margin := "".pushn ' ' (2 * indent)
  match pieces with
  | [] => opening ++ closing
  | ps => opening ++ "\n" ++ ",\n".intercalate (ps.map fun p => margin ++ "  " ++ p) ++ "\n" ++ margin ++ closing

/-- Pieces between brackets on one line. -/
def line (opening closing : String) (pieces : List String) : String :=
  opening ++ ",".intercalate pieces ++ closing

mutual

/-- The text on one line. -/
def compact : JsonValue → String
  | null => "null"
  | bool b => if b then "true" else "false"
  | number t => t
  | text s => quote s
  | list items => line "[" "]" (compactItems items)
  | record members => line "\x7b" "\x7d" (compactMembers members)

/-- The texts of items on one line. -/
def compactItems : List JsonValue → List String
  | [] => []
  | v :: vs => compact v :: compactItems vs

/-- The texts of members on one line. -/
def compactMembers : List (String × JsonValue) → List String
  | [] => []
  | (k, v) :: rest => (quote k ++ ":" ++ compact v) :: compactMembers rest

end

mutual

/-- The text on several lines, at a level of indentation. -/
def prettyAt (indent : Nat) : JsonValue → String
  | list items => block "[" "]" indent (prettyItems (indent + 1) items)
  | record members => block "\x7b" "\x7d" indent (prettyMembers (indent + 1) members)
  | v => compact v

/-- The texts of items on several lines. -/
def prettyItems (indent : Nat) : List JsonValue → List String
  | [] => []
  | v :: vs => prettyAt indent v :: prettyItems indent vs

/-- The texts of members on several lines. -/
def prettyMembers (indent : Nat) : List (String × JsonValue) → List String
  | [] => []
  | (k, v) :: rest => (quote k ++ ": " ++ prettyAt indent v) :: prettyMembers indent rest

end

/-- The text on several lines. -/
def pretty (v : JsonValue) : String := prettyAt 0 v

end JsonValue

end LoadSwarm
