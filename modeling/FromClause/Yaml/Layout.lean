import FromClause.Yaml.Scalar
/-!
# Layout

From a text to its tokens. Whether a scalar or a collection is the key of a mapping shows only at the colon
behind it. So a candidate is left in front of everything that may be a key, and the colon confirms the latest
candidate of its level: the candidate becomes the beginning of a key and, where the indentation grows, of a
mapping. Candidates that are never confirmed vanish.
-/

namespace FromClause

namespace Yaml

/-- A token, or a place where a key may begin. -/
inductive Piece where
  /-- A token. -/
  | token (t : Token)
  /-- A candidate under its number. -/
  | candidate (number : Nat)
  deriving DecidableEq, Repr

namespace Piece

/-- The pieces with a candidate confirmed. The latest piece comes first. -/
def confirm (number : Nat) (opensMapping : Bool) : List Piece → List Piece
  | [] => []
  | candidate n :: rest =>
    if n = number then
      token .key :: ((if opensMapping then [token .blockMapping] else []) ++ rest)
    else candidate n :: confirm number opensMapping rest
  | piece :: rest => piece :: confirm number opensMapping rest

/-- The token that the piece is, unless it is a candidate. -/
def token? : Piece → Option Token
  | token t => some t
  | candidate _ => none

end Piece

/-- A place where a key may begin. -/
structure Candidate where
  /-- The number under which the place is marked among the pieces. -/
  number : Nat
  /-- The line. -/
  line : Nat
  /-- The column. -/
  column : Nat
  /-- Whether only a key can stand there. -/
  required : Bool
  deriving DecidableEq, Repr

/-- How far a key may reach from its beginning to its colon. -/
def maxKeyLength : Nat := 1024

/-- Whether the colon of a candidate can no longer come, at the given place. -/
def Candidate.passed (c : Candidate) (line column : Nat) : Bool :=
  c.line < line || c.column + maxKeyLength < column

/-- What is known between two tokens. -/
structure Layout where
  /-- The pieces so far, the latest first. -/
  pieces : List Piece
  /-- The columns of the open block collections, the innermost first. -/
  indents : List Nat
  /-- The candidate of the current level of brackets. -/
  pending : Option Candidate
  /-- The candidates of the levels around it, the innermost first. -/
  outer : List (Option Candidate)
  /-- Whether a key may begin here. -/
  keyAllowed : Bool
  /-- How many candidates there were. -/
  candidates : Nat

namespace Layout

/-- The layout at the beginning of a text. -/
def start : Layout := ⟨[], [], none, [], true, 0⟩

/-- Whether some bracket is open. -/
def inFlow (s : Layout) : Bool := !s.outer.isEmpty

/-- The least column that lies inside the innermost block collection. -/
def floor (s : Layout) : Nat :=
  match s.indents with
  | [] => 0
  | column :: _ => column + 1

/-- The layout behind one more token. -/
def push (s : Layout) (t : Token) : Layout := { s with pieces := .token t :: s.pieces }

/-- The layout with keys allowed or not. -/
def allow (s : Layout) (keyAllowed : Bool) : Layout := { s with keyAllowed }

/-- The layout with the block collections that begin behind the given column ended. -/
def closeBlocks (s : Layout) (column : Nat) : Layout :=
  let ended := s.indents.takeWhile (column < ·)
  { s with
    pieces := ended.map (fun _ => .token .blockEnd) ++ s.pieces
    indents := s.indents.drop ended.length }

/-- The layout with every block collection ended. -/
def closeAll (s : Layout) : Layout :=
  { s with pieces := s.indents.map (fun _ => .token .blockEnd) ++ s.pieces, indents := [] }

/-- The layout with a block collection begun, if the column lies inside the one around it. -/
def openBlock (s : Layout) (column : Nat) (t : Token) : Layout :=
  if s.floor ≤ column then { s.push t with indents := column :: s.indents } else s

/-- The layout without the candidates that are too far back, unless one of them had to be a key. -/
def expire? (s : Layout) (line column : Nat) : Option Layout :=
  let passed (c : Candidate) : Bool := c.passed line column
  if (s.pending :: s.outer).any fun c => c.any fun c => passed c && c.required then none
  else
    let keep (c : Option Candidate) : Option Candidate := c.filter fun c => !passed c
    some { s with pending := keep s.pending, outer := s.outer.map keep }

/-- The layout without the current candidate, unless that had to be a key. -/
def drop? (s : Layout) : Option Layout :=
  if s.pending.any Candidate.required then none else some { s with pending := none }

/-- The layout with a candidate at a character, where a key may begin. -/
def offer? (s : Layout) (g : Glyph) : Option Layout :=
  if s.keyAllowed then do
    let s ← s.drop?
    let required := !s.inFlow && s.indents.head? = some g.column
    return { s with
      pieces := .candidate s.candidates :: s.pieces
      pending := some ⟨s.candidates, g.line, g.column, required⟩
      candidates := s.candidates + 1 }
  else some s

/-! ## Tokens -/

/-- The mark of a document boundary ends every block collection. -/
def boundary? (s : Layout) (t : Token) : Option Layout := do
  let s ← s.drop?
  return (if s.inFlow then s else s.closeAll).push t |>.allow false

/-- An opening bracket. -/
def openFlow? (s : Layout) (g : Glyph) (t : Token) : Option Layout := do
  let s ← s.offer? g
  return { s.push t with pending := none, outer := s.pending :: s.outer, keyAllowed := true }

/-- A closing bracket. -/
def closeFlow? (s : Layout) (t : Token) : Option Layout := do
  let s ← s.drop?
  let s := match s.outer with
    | [] => s
    | pending :: outer => { s with pending, outer }
  return s.push t |>.allow false

/-- A comma. -/
def comma? (s : Layout) : Option Layout := do
  let s ← s.drop?
  return s.push .comma |>.allow true

/-- A dash, which begins a sequence where the indentation grows. -/
def dash? (s : Layout) (g : Glyph) : Option Layout := do
  let s ← if s.inFlow then some s
    else if s.keyAllowed then some (s.openBlock g.column .blockSequence)
    else none
  let s ← s.drop?
  return s.push .dash |>.allow true

/-- A question mark, which says that a key follows. -/
def explicitKey? (s : Layout) (g : Glyph) : Option Layout := do
  let s ← if s.inFlow then some s
    else if s.keyAllowed then some (s.openBlock g.column .blockMapping)
    else none
  let s ← s.drop?
  return s.push .key |>.allow !s.inFlow

/-- A colon: it confirms the current candidate or, where there is none, follows an explicit key. -/
def colon? (s : Layout) (g : Glyph) : Option Layout :=
  match s.pending with
  | some c =>
    let opens := !s.inFlow && s.floor ≤ c.column
    some ({ s with
      pieces := Piece.confirm c.number opens s.pieces
      indents := if opens then c.column :: s.indents else s.indents
      pending := none }.push .value |>.allow false)
  | none =>
    if s.inFlow then some (s.push .value |>.allow false)
    else if s.keyAllowed then some ((s.openBlock g.column .blockMapping).push .value |>.allow true)
    else none

/-- A scalar that begins at a character. -/
def scalar? (s : Layout) (g : Glyph) (text : List Char) (plain : Bool) : Option Layout := do
  let s ← s.offer? g
  return s.push (.scalar ⟨String.ofList text, plain⟩) |>.allow false

/-- The characters that no plain scalar begins with. -/
def signs : List Char := "-?:,[]\x7b\x7d#&*!|>'\"%@`".toList

/-- Whether a plain scalar begins with a character. -/
def beginsPlain (s : Layout) (g : Glyph) (rest : List Glyph) : Bool :=
  !signs.contains g.char || (g.char = '-' && !rest.head?.any Glyph.blank) ||
    (!s.inFlow && (g.char = '?' || g.char = ':') && !atSpace rest)

/-- The next token, which begins at `g`. Anchors, references to them, tags, directives and scalars with
indentation of their own are not admitted. -/
def token? (s : Layout) (g : Glyph) (rest : List Glyph) : Option (Layout × List Glyph) :=
  let single (s : Option Layout) : Option (Layout × List Glyph) := s.map (·, rest)
  match documentMark? (g :: rest) with
  | some (t, rest) => (s.boundary? t).map (·, rest)
  | none =>
    let word := atSpace rest
    match g.char with
    | '[' => single (s.openFlow? g .flowSequence)
    | '\x7b' => single (s.openFlow? g .flowMapping)
    | ']' => single (s.closeFlow? .flowSequenceEnd)
    | '\x7d' => single (s.closeFlow? .flowMappingEnd)
    | ',' => single s.comma?
    | '"' => do
      let (text, rest) ← readDouble [] .none none rest
      return (← s.scalar? g text false, rest)
    | '\'' => do
      let (text, rest) ← readSingle [] .none rest
      return (← s.scalar? g text false, rest)
    | c =>
      if c = '-' && word then single (s.dash? g)
      else if c = '?' && (s.inFlow || word) then single (s.explicitKey? g)
      else if c = ':' && (s.inFlow || word) then single (s.colon? g)
      else if s.beginsPlain g rest then do
        let read ← readPlain s.inFlow s.floor [] .none (g :: rest)
        let s ← s.scalar? g read.text true
        return (s.allow read.broken, read.rest)
      else none

/-- What follows the space and the comments at the front of a text, and whether a key may begin there. A line
break allows keys outside of brackets; a tab is no space where a key may begin. -/
def skipSpace (flow : Bool) : (keyAllowed comment : Bool) → List Glyph → Bool × List Glyph
  | keyAllowed, _, [] => (keyAllowed, [])
  | keyAllowed, comment, g :: rest =>
    if g.ends then skipSpace flow (keyAllowed || !flow) false rest
    else if comment then skipSpace flow keyAllowed true rest
    else if g.char = ' ' || (g.char = '\t' && (flow || !keyAllowed)) then
      skipSpace flow keyAllowed false rest
    else if g.char = '#' then skipSpace flow keyAllowed true rest
    else if g.char = '\ufeff' && g.line = 0 && g.column = 0 then skipSpace flow keyAllowed false rest
    else (keyAllowed, g :: rest)

/-- The pieces up to the end of a text. Every token takes at least one character, so as many rounds as there
are characters are enough. -/
def finish? (s : Layout) : (rounds : Nat) → List Glyph → Option Layout
  | rounds, text => do
    let (keyAllowed, text) := skipSpace s.inFlow s.keyAllowed false text
    match text, rounds with
    | [], _ => (if s.inFlow then s else s.closeAll).drop?
    | _, 0 => none
    | g :: rest, rounds + 1 =>
      let s ← (s.allow keyAllowed).expire? g.line g.column
      let s := if s.inFlow then s else s.closeBlocks g.column
      let (s, rest) ← s.token? g rest
      s.finish? rounds rest

end Layout

/-- The tokens of a text. -/
def tokens? (text : String) : Option (List Token) := do
  let glyphs ← glyphs? text
  let s ← Layout.start.finish? glyphs.length glyphs
  return s.pieces.reverse.filterMap Piece.token?

end Yaml

end FromClause
