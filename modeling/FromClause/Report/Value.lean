/-!
# Structured reports

Reports for other programs: JSON, with one item a line and two more spaces of indentation at each level.
-/

namespace FromClause

namespace Report

/-- A value of a report. -/
inductive Value where
  /-- No value. -/
  | null
  /-- A truth value. -/
  | boolean (value : Bool)
  /-- A string. -/
  | string (value : String)
  /-- A list. -/
  | list (items : List Value)
  /-- A record with its fields in order. -/
  | record (fields : List (String × Value))
  deriving Inhabited

/-- A string, or no value. -/
def Value.ofOption : Option String → Value
  | some value => .string value
  | none => .null

/-- A hexadecimal digit. -/
def hexDigit (n : Nat) : Char := (Nat.digitChar n)

/-- A character inside a string: quotes, backslashes and control characters are escaped. -/
def escapeChar (c : Char) : List Char :=
  match c with
  | '"' => ['\\', '"']
  | '\\' => ['\\', '\\']
  | '\n' => ['\\', 'n']
  | '\r' => ['\\', 'r']
  | '\t' => ['\\', 't']
  | '\x08' => ['\\', 'b']
  | '\x0c' => ['\\', 'f']
  | c =>
    if c.toNat < 0x20 then ['\\', 'u', '0', '0', hexDigit (c.toNat / 16), hexDigit (c.toNat % 16)]
    else [c]

/-- A string with the quotes around it. -/
def quoted (s : String) : String := "\"" ++ String.ofList (s.toList.flatMap escapeChar) ++ "\""

/-- The beginning of a line at a level. -/
def indentation (level : Nat) : String := "\n" ++ String.ofList (List.replicate (2 * level) ' ')

/-- Items between brackets, each on a line of its own. -/
def bracketed (opening closing : String) (level : Nat) (items : List String) : String :=
  if items.isEmpty then opening ++ closing
  else
    opening ++ indentation (level + 1) ++ ("," ++ indentation (level + 1)).intercalate items ++
      indentation level ++ closing

namespace Value

mutual

/-- A value whose first line is at the given level. -/
def textAt (level : Nat) : Value → String
  | null => "null"
  | boolean value => if value then "true" else "false"
  | string value => quoted value
  | list items => bracketed "[" "]" level (itemTexts (level + 1) items)
  | record fields => bracketed "\x7b" "\x7d" level (fieldTexts (level + 1) fields)

/-- The items of a list. -/
def itemTexts (level : Nat) : List Value → List String
  | [] => []
  | item :: items => textAt level item :: itemTexts level items

/-- The fields of a record. -/
def fieldTexts (level : Nat) : List (String × Value) → List String
  | [] => []
  | (name, value) :: fields => (quoted name ++ ": " ++ textAt level value) :: fieldTexts level fields

end

/-- A report as it is printed. -/
def text (v : Value) : String := v.textAt 0

end Value

end Report

end FromClause
