/-!
# Tokens

The pieces of a YAML document. Indentation is spelled out by tokens of its own, so that a block collection has
a beginning and an end as one in brackets does.
-/

namespace FromClause

namespace Yaml

/-- A scalar: its text, and whether it stands there without quotes. Only a plain scalar can mean anything but a
string. -/
structure Scalar where
  /-- The text. -/
  text : String
  /-- Whether there are no quotes around it. -/
  plain : Bool
  deriving DecidableEq, Repr, Inhabited

/-- The scalar that a missing value stands for. -/
def Scalar.missing : Scalar := ⟨"", true⟩

/-- A piece of a document. -/
inductive Token where
  /-- The mark in front of a document. -/
  | documentStart
  /-- The mark behind a document. -/
  | documentEnd
  /-- The beginning of a sequence by indentation. -/
  | blockSequence
  /-- The beginning of a mapping by indentation. -/
  | blockMapping
  /-- The end of a collection by indentation. -/
  | blockEnd
  /-- The opening bracket of a sequence. -/
  | flowSequence
  /-- The closing bracket of a sequence. -/
  | flowSequenceEnd
  /-- The opening bracket of a mapping. -/
  | flowMapping
  /-- The closing bracket of a mapping. -/
  | flowMappingEnd
  /-- The dash in front of an item. -/
  | dash
  /-- The comma between items. -/
  | comma
  /-- The beginning of a key. -/
  | key
  /-- The beginning of a value. -/
  | value
  /-- A scalar. -/
  | scalar (s : Scalar)
  deriving DecidableEq, Repr, Inhabited

end Yaml

end FromClause
