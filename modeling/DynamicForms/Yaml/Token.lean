/-!
# YAML tokens

The units that YAML text is made of.  Where a collection starts or ends by indentation alone,
tokens stand for what is not written.
-/

set_option autoImplicit false

namespace DynamicForms.Yaml

/-- How a scalar is written. -/
inductive ScalarStyle where
  | plain
  | singleQuoted
  | doubleQuoted
  | literal
  | folded
deriving DecidableEq, Repr

/-- A unit of YAML text. -/
inductive Token where
  | version (major minor : Nat)
  /-- What a tag handle stands for. -/
  | tagHandle (handle start : List Char)
  | documentStart
  | documentEnd
  | sequenceStart
  | mappingStart
  /-- The end of a collection that is laid out by indentation. -/
  | blockEnd
  | bracketOpen
  | bracketClose
  | braceOpen
  | braceClose
  | comma
  /-- The dash before an item. -/
  | item
  | key
  | value
  | alias (name : List Char)
  | anchor (name : List Char)
  | tag (handle suffix : List Char)
  | scalar (style : ScalarStyle) (text : List Char)
deriving DecidableEq, Repr

end DynamicForms.Yaml
