/-
  What a scalar means.

  * `Meaning`: null, a truth value, a number, or a text.
  * `Meaning.ofPlain`: the meaning of a plain scalar without a tag: whole numbers
    in decimal, hexadecimal, octal and binary digits, then floating point numbers;
    digits with a superfluous zero in front are a text.
  * `Meaning.ofScalar`: the meaning by tag and style.
  * `Mismatch`: why a value does not fit, and its wording.
-/
import LoadSwarm.Number.Decimal
import LoadSwarm.Number.Unsigned
import LoadSwarm.Text.Quoted
import LoadSwarm.Yaml.Lexer.Scalar

namespace LoadSwarm.Yaml

/-- What a scalar means. -/
inductive Meaning where
  | null
  | bool (b : Bool)
  | natural (n : Nat)
  /-- minus `n`, written with its sign -/
  | negative (n : Nat)
  /-- a whole number beyond 64 bits -/
  | wide (isNegative : Bool) (n : Nat)
  | float (x : Binary64)
  | text (s : String)
  deriving DecidableEq

/-! ## Plain scalars -/

/-- The spellings of null. -/
def isNullWord (s : String) : Bool := s = "null" || s = "Null" || s = "NULL" || s = "~"

/-- The spellings of a truth value. -/
def boolWord? (s : String) : Option Bool :=
  if s = "true" || s = "True" || s = "TRUE" then some true
  else if s = "false" || s = "False" || s = "FALSE" then some false
  else none

/-- A digit below a base. -/
def digitBelow? (base : Nat) (c : Char) : Option Nat :=
  (Lexer.hexDigit? c).filter (· < base)

/-- The number that some digits of a base write, at most `limit`. -/
def numberIn? (base limit : Nat) (cs : List Char) : Option Nat :=
  if cs = [] then none
  else
    (cs.foldl (fun n? c => n?.bind fun n => (digitBelow? base c).map (base * n + ·)) (some 0)).filter
      (· ≤ limit)

/-- The number after one of the marks `0x`, `0o` and `0b`. -/
def markedNumber? (limit : Nat) : List Char → Option Nat
  | '0' :: 'x' :: cs => numberIn? 16 limit cs
  | '0' :: 'o' :: cs => numberIn? 8 limit cs
  | '0' :: 'b' :: cs => numberIn? 2 limit cs
  | _ => none

/-- Digits, after an optional sign, with a zero in front that no number needs. -/
def hasSpareZero (cs : List Char) : Bool :=
  let cs := match cs with
    | '-' :: r => r
    | '+' :: r => r
    | r => r
  match cs with
  | '0' :: d :: ds => (d :: ds).all Char.isDigit
  | _ => false

/-- A whole number without a minus sign, at most `limit`. -/
def natural? (limit : Nat) (cs : List Char) : Option Nat :=
  let digits := match cs with
    | '+' :: r => r
    | r => r
  match markedNumber? limit digits with
  | some n => some n
  | none => if hasSpareZero cs then none else numberIn? 10 limit digits

/-- The number after a minus sign, at most `limit`. -/
def negative? (limit : Nat) (cs : List Char) : Option Nat :=
  match cs with
  | '-' :: digits =>
    match markedNumber? limit digits with
    | some n => some n
    | none => if hasSpareZero cs then none else numberIn? 10 limit digits
  | _ => none

/-- A whole number within 64 bits, or within 128. -/
def whole? (s : String) : Option Meaning :=
  let cs := s.toList
  ((natural? Unsigned.max64 cs).map .natural)
    <|> ((negative? (Nat.pow 2 63) cs).map .negative)
    <|> ((natural? (Nat.pow 2 128 - 1) cs).map (.wide false))
    <|> ((negative? (Nat.pow 2 127) cs).map (.wide true))

/-- A floating point number: its decimal form, finite, or one of the words for the others. -/
def float? (s : String) : Option Binary64 :=
  let cs := s.toList
  let unsigned? := match cs with
    | '+' :: '+' :: _ => none
    | '+' :: '-' :: _ => none
    | '+' :: r => some r
    | r => some r
  match unsigned? with
  | none => none
  | some r =>
    let word := String.ofList r
    if word = ".inf" || word = ".Inf" || word = ".INF" then some (.infinite false)
    else if s = "-.inf" || s = "-.Inf" || s = "-.INF" then some (.infinite true)
    else if s = ".nan" || s = ".NaN" || s = ".NAN" then some .nan
    else
      match Binary64.parseChars r with
      | .ok x => if x.isFinite then some x else none
      | .error _ => none

/-- The meaning of a plain scalar without a tag. -/
def Meaning.ofPlain (s : String) : Meaning :=
  if s = "" || isNullWord s then null
  else
    match boolWord? s with
    | some b => bool b
    | none =>
      match whole? s with
      | some m => m
      | none =>
        if hasSpareZero s.toList then text s
        else match float? s with
          | some x => float x
          | none => text s

/-! ## What does not fit -/

/-- Something that was found in the place of something else. -/
inductive Found where
  | scalar (m : Meaning)
  | sequence
  | mapping
  | tagged
  deriving DecidableEq

/-- The text of floating point numbers in messages: digits only, with a point. -/
def Found.floatLayout : FloatLayout := ⟨.up, none, true, false, "inf", "NaN"⟩

/-- The wording of what was found. -/
def Found.message : Found → String
  | scalar .null => "unit value"
  | scalar (.bool b) => "boolean \x60" ++ (if b then "true" else "false") ++ "\x60"
  | scalar (.natural n) => "integer \x60" ++ toString n ++ "\x60"
  | scalar (.negative n) => "integer \x60" ++ String.ofList (FloatLayout.intText (-n)) ++ "\x60"
  | scalar (.wide false n) => "integer \x60" ++ toString n ++ "\x60 as u128"
  | scalar (.wide true n) => "integer \x60-" ++ toString n ++ "\x60 as i128"
  | scalar (.float x) => "floating point \x60" ++ x.render floatLayout ++ "\x60"
  | scalar (.text s) => "string " ++ Text.quoted s
  | sequence => "sequence"
  | mapping => "map"
  | tagged => "enum"

/-- Why a value does not fit. -/
inductive Mismatch where
  | wrongType (found : Found) (expected : String)
  | wrongValue (found : Found) (expected : String)
  | wrongLength (length : Nat) (expected : String)
  | unknownVariant (name : String) (variants : List String)
  | missingField (name : String)
  | duplicateField (name : String)
  | taggedContent
  deriving DecidableEq

/-- The names between which one can choose. -/
def choices : List String → String
  | [] => ""
  | [a] => "\x60" ++ a ++ "\x60"
  | [a, b] => "\x60" ++ a ++ "\x60 or \x60" ++ b ++ "\x60"
  | names => "one of " ++ ", ".intercalate (names.map fun a => "\x60" ++ a ++ "\x60")

/-- The wording of a reason. -/
def Mismatch.message : Mismatch → String
  | wrongType found expected => "invalid type: " ++ found.message ++ ", expected " ++ expected
  | wrongValue found expected => "invalid value: " ++ found.message ++ ", expected " ++ expected
  | wrongLength length expected => "invalid length " ++ toString length ++ ", expected " ++ expected
  | unknownVariant name variants =>
    "unknown variant \x60" ++ name ++ "\x60, expected " ++ choices variants
  | missingField name => "missing field \x60" ++ name ++ "\x60"
  | duplicateField name => "duplicate field \x60" ++ name ++ "\x60"
  | taggedContent => "untagged and internally tagged enums do not support enum input"

/-! ## Tags -/

/-- The tags of the core schema. -/
inductive CoreTag where
  | null
  | bool
  | int
  | float
  deriving DecidableEq, Repr

/-- The text of a core tag. -/
def CoreTag.text : CoreTag → String
  | null => "tag:yaml.org,2002:null"
  | bool => "tag:yaml.org,2002:bool"
  | int => "tag:yaml.org,2002:int"
  | float => "tag:yaml.org,2002:float"

/-- The core tag with a given text. -/
def CoreTag.ofText? (s : String) : Option CoreTag :=
  [null, bool, int, float].find? (·.text = s)

/-- The name of a tag of the document's own, which begins with `!`. -/
def ownTag? (tag : Option String) : Option String :=
  match tag.map String.toList with
  | some ('!' :: r) => some (String.ofList (if r = [] then ['!'] else r))
  | _ => none

/-- The meaning of a scalar under a core tag. -/
def CoreTag.meaning (t : CoreTag) (s : String) : Except Mismatch Meaning :=
  let found := Found.scalar (.text s)
  match t with
  | bool =>
    match boolWord? s with
    | some b => .ok (.bool b)
    | none => .error (.wrongValue found "a boolean")
  | int =>
    match whole? s with
    | some m => .ok m
    | none => .error (.wrongValue found "an integer")
  | float =>
    match float? s with
    | some x => .ok (.float x)
    | none => .error (.wrongValue found "a float")
  | null => if isNullWord s then .ok .null else .error (.wrongValue found "null")

/-- The meaning of a scalar.  Without a tag, or with one of the document's own, only plain
    scalars are more than texts. -/
def Meaning.ofScalar (tag : Option String) (s : String) (style : ScalarStyle) :
    Except Mismatch Meaning :=
  match tag with
  | none => .ok (if style = .plain then ofPlain s else text s)
  | some t =>
    match CoreTag.ofText? t with
    | some core => core.meaning s
    | none => .ok (if style = .plain && (ownTag? tag).isSome then ofPlain s else text s)

end LoadSwarm.Yaml
