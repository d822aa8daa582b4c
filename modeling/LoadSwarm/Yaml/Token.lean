/-
  The tokens of a YAML text.

  * `ScalarStyle`: how a scalar is written.
  * `Token`: indicators, directives, names and scalars, with their places.  Block
    collections have tokens of their own, though only indentation shows them.
-/
import LoadSwarm.Yaml.Mark

namespace LoadSwarm.Yaml

/-- How a scalar is written. -/
inductive ScalarStyle where
  | plain
  | singleQuoted
  | doubleQuoted
  | literal
  | folded
  deriving DecidableEq, Repr

/-- What a token is. -/
inductive TokenKind where
  | streamStart
  | streamEnd
  | version (major minor : Nat)
  | tagDirective (handle front : String)
  | documentStart
  | documentEnd
  | blockSequenceStart
  | blockMappingStart
  | blockEnd
  | flowSequenceStart
  | flowSequenceEnd
  | flowMappingStart
  | flowMappingEnd
  | blockEntry
  | flowEntry
  | key
  | value
  | aliasTo (name : String)
  | anchor (name : String)
  | tag (handle suffix : String)
  | scalar (text : String) (style : ScalarStyle)
  deriving DecidableEq, Repr

/-- A token with the places where it begins and ends. -/
structure Token where
  kind : TokenKind
  first : Mark
  last : Mark
  deriving DecidableEq, Repr

end LoadSwarm.Yaml
