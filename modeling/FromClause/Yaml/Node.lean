import FromClause.Yaml.Layout
/-!
# Documents

The tree of a document. A value that is left out is the empty plain scalar.
-/

namespace FromClause

namespace Yaml

/-- A value of a document. -/
inductive Node where
  /-- A scalar. -/
  | scalar (s : Scalar)
  /-- A sequence. -/
  | sequence (items : List Node)
  /-- A mapping, with its entries as they are written. -/
  | mapping (entries : List (Node × Node))
  deriving Inhabited

namespace Node

/-- The value that is left out. -/
def missing : Node := scalar .missing

/-! ## From tokens to nodes -/

/-- A node that is left out if one of the given tokens, or none at all, is next. -/
def orMissing (ends : List Token) (read : List Token → Option (Node × List Token))
    (tokens : List Token) : Option (Node × List Token) :=
  match tokens with
  | [] => some (missing, [])
  | t :: _ => if ends.contains t then some (missing, tokens) else read tokens

/-- A key with its value, behind the token for the beginning of the key. -/
def pair (ends : List Token) (read : List Token → Option (Node × List Token))
    (tokens : List Token) : Option ((Node × Node) × List Token) := do
  let (key, tokens) ← orMissing (.value :: ends) read tokens
  match tokens with
  | .value :: tokens =>
    let (value, tokens) ← orMissing ends read tokens
    return ((key, value), tokens)
  | _ => return ((key, missing), tokens)

/-- The tokens behind the comma that belongs between two items; the first item has none. -/
def afterComma (first : Bool) : List Token → Option (List Token)
  | .comma :: tokens => if first then none else some tokens
  | tokens => if first then some tokens else none

mutual

/-- The node at the front of the tokens. The items of a sequence may stand there without a beginning where
`loose` says so, which is the case for the values of a mapping at the same indentation. -/
def read : (fuel : Nat) → (loose : Bool) → List Token → Option (Node × List Token)
  | _ + 1, _, .scalar s :: tokens => some (scalar s, tokens)
  | fuel + 1, _, .flowSequence :: tokens => do
    let (items, tokens) ← readFlowItems fuel true tokens
    return (sequence items, tokens)
  | fuel + 1, _, .flowMapping :: tokens => do
    let (entries, tokens) ← readFlowEntries fuel true tokens
    return (mapping entries, tokens)
  | fuel + 1, _, .blockSequence :: tokens => do
    let (items, tokens) ← readItems fuel tokens
    return (sequence items, tokens)
  | fuel + 1, _, .blockMapping :: tokens => do
    let (entries, tokens) ← readEntries fuel tokens
    return (mapping entries, tokens)
  | fuel + 1, true, .dash :: tokens => do
    let (items, tokens) ← readLooseItems fuel (.dash :: tokens)
    return (sequence items, tokens)
  | _, _, _ => none

/-- The items of a block sequence, up to its end. -/
def readItems : (fuel : Nat) → List Token → Option (List Node × List Token)
  | _ + 1, .blockEnd :: tokens => some ([], tokens)
  | fuel + 1, .dash :: tokens => do
    let (item, tokens) ← orMissing [.dash, .blockEnd] (read fuel false) tokens
    let (items, tokens) ← readItems fuel tokens
    return (item :: items, tokens)
  | _, _ => none

/-- The items of a sequence that has no end of its own. -/
def readLooseItems : (fuel : Nat) → List Token → Option (List Node × List Token)
  | fuel + 1, .dash :: tokens => do
    let (item, tokens) ← orMissing [.dash, .key, .value, .blockEnd] (read fuel false) tokens
    let (items, tokens) ← readLooseItems fuel tokens
    return (item :: items, tokens)
  | 0, _ => none
  | _, tokens => some ([], tokens)

/-- The entries of a block mapping, up to its end. -/
def readEntries : (fuel : Nat) → List Token → Option (List (Node × Node) × List Token)
  | _ + 1, .blockEnd :: tokens => some ([], tokens)
  | fuel + 1, .key :: tokens => do
    let (entry, tokens) ← pair [.key, .blockEnd] (read fuel true) tokens
    let (entries, tokens) ← readEntries fuel tokens
    return (entry :: entries, tokens)
  | _, _ => none

/-- The items of a sequence in brackets, up to the closing bracket. A key among them makes a mapping with this
one entry. -/
def readFlowItems : (fuel : Nat) → (first : Bool) → List Token → Option (List Node × List Token)
  | 0, _, _ => none
  | _ + 1, _, .flowSequenceEnd :: tokens => some ([], tokens)
  | fuel + 1, first, tokens => do
    match ← afterComma first tokens with
    | .flowSequenceEnd :: tokens => return ([], tokens)
    | .key :: tokens =>
      let (entry, tokens) ← pair [.comma, .flowSequenceEnd] (read fuel false) tokens
      let (items, tokens) ← readFlowItems fuel false tokens
      return (mapping [entry] :: items, tokens)
    | tokens =>
      let (item, tokens) ← read fuel false tokens
      let (items, tokens) ← readFlowItems fuel false tokens
      return (item :: items, tokens)

/-- The entries of a mapping in brackets, up to the closing bracket. A node without a colon is a key without a
value. -/
def readFlowEntries : (fuel : Nat) → (first : Bool) → List Token →
    Option (List (Node × Node) × List Token)
  | 0, _, _ => none
  | _ + 1, _, .flowMappingEnd :: tokens => some ([], tokens)
  | fuel + 1, first, tokens => do
    match ← afterComma first tokens with
    | .flowMappingEnd :: tokens => return ([], tokens)
    | .key :: tokens =>
      let (entry, tokens) ← pair [.comma, .flowMappingEnd] (read fuel false) tokens
      let (entries, tokens) ← readFlowEntries fuel false tokens
      return (entry :: entries, tokens)
    | tokens =>
      let (key, tokens) ← read fuel false tokens
      let (entries, tokens) ← readFlowEntries fuel false tokens
      return ((key, missing) :: entries, tokens)

end

/-- The node at the front of the tokens. No token is looked at more than twice before it is taken. -/
def ofTokens? (tokens : List Token) : Option (Node × List Token) :=
  read (2 * tokens.length + 2) false tokens

end Node

/-! ## From texts to documents -/

/-- The only document of some tokens; nothing if they are no such document, and no node if there is none. -/
def documentOf? (tokens : List Token) : Option (Option Node) := do
  let (node, tokens) ← match tokens with
    | [] => return none
    | .documentStart :: tokens =>
      Node.orMissing [.documentStart, .documentEnd] Node.ofTokens? tokens
    | tokens => Node.ofTokens? tokens
  guard (tokens.all (· = .documentEnd))
  return some node

/-- The only document of a text; nothing if the text is malformed, and no node if it is empty. -/
def document? (text : String) : Option (Option Node) := do documentOf? (← tokens? text)

end Yaml

end FromClause
