import FromClause.Proofs.Catalog.Loading
import FromClause.Proofs.Lowering.References
import FromClause.Proofs.Sql.Quotes
/-!
# Delimited names

Any text but the empty one may name a column, a table or a schema, once it is delimited: quotes stand around it, those
in it are doubled, and blanks may surround the whole. What is read is just the name (`Folding.read_of_delimits`), so that
names that differ stay apart. Blanks inside the quotes are kept, since a quote stands before and behind them, and a run
of quotes falls into pairs from the left, so that the closing quote is not mistaken for one of the name.

Statements delimit names in the same way, and come to the same identifiers.
-/

namespace FromClause

open Sql (doubling delimited)

/-! ## Blanks at the ends -/

namespace Text

variable {before cs after : List Char} {first last : Char}

/-- Blanks are dropped up to the first character that is none. -/
theorem dropWhile_isBlank (hbefore : ∀ c ∈ before, isBlank c = true) (hfirst : isBlank first = false) :
    (before ++ first :: cs).dropWhile isBlank = first :: cs := by
  rw [List.dropWhile_append_of_pos hbefore]
  exact List.dropWhile_cons_of_neg (Bool.eq_false_iff.1 hfirst)

/-- **Only the blanks at the ends are trimmed.** -/
theorem trimChars_append (hbefore : ∀ c ∈ before, isBlank c = true) (hafter : ∀ c ∈ after, isBlank c = true)
    (hfirst : isBlank first = false) (hlast : isBlank last = false) :
    trimChars (before ++ first :: (cs ++ last :: after)) = first :: (cs ++ [last]) := by
  have hback : (first :: (cs ++ last :: after)).reverse = after.reverse ++ last :: (cs.reverse ++ [first]) := by
    simp
  have hafter : ∀ c ∈ after.reverse, isBlank c = true := fun c hc => hafter c (List.mem_reverse.1 hc)
  rw [trimChars, dropWhile_isBlank hbefore hfirst, hback, dropWhile_isBlank hafter hlast]
  simp

end Text

/-! ## Quotes -/

/-- **A text that delimits a name**: blanks, the name between double quotes, and blanks. -/
def Delimits (text name : String) : Prop := ∃ before after,
  text.toList = before ++ (delimited name).toList ++ after ∧
    (∀ c ∈ before, Text.isBlank c = true) ∧ ∀ c ∈ after, Text.isBlank c = true

namespace Folding

/-- Quotes that were doubled fall into pairs again. -/
theorem undoubled_doubling (cs : List Char) : undoubled (doubling '"' cs) = cs := by
  induction cs with
  | nil => rfl
  | cons c cs ih =>
    by_cases hc : c = '"'
    · rw [hc, Sql.doubling_cons_self, undoubled, ih]
    · have hpair : ∀ rest, c = '"' → doubling '"' cs = '"' :: rest → False := fun _ h => absurd h hc
      rw [Sql.doubling_cons_of_ne hc, undoubled, ih]
      exact hpair

/-- The quotes at the ends are taken off, and no other one. -/
theorem undelimited?_append (cs : List Char) : undelimited? ('"' :: (cs ++ ['"'])) = some cs := by
  simp [undelimited?]

variable {folding folding' : Folding} {text name text' name' : String}

/-- **A delimited name is read as it is.** -/
theorem read_of_delimits (htext : Delimits text name) (hname : name ≠ "") :
    folding.read text = .ok ⟨name, hname⟩ := by
  obtain ⟨before, after, heq, hbefore, hafter⟩ := htext
  have htrim : Text.trimChars text.toList = '"' :: (doubling '"' name.toList ++ ['"']) := by
    have hsplit : text.toList = before ++ '"' :: (doubling '"' name.toList ++ '"' :: after) := by
      rw [heq, delimited, String.toList_ofList]
      simp
    rw [hsplit]
    exact Text.trimChars_append hbefore hafter rfl rfl
  rw [read]
  simp only [htrim, undelimited?_append, undoubled_doubling, String.ofList_toList]
  exact identifier_eq_ok.2 rfl

/-- Delimited names are read alike only if they are the same, whatever becomes of other names. -/
theorem read_eq_iff_of_delimits (htext : Delimits text name) (hname : name ≠ "") (htext' : Delimits text' name')
    (hname' : name' ≠ "") : folding.read text = folding'.read text' ↔ name = name' := by
  rw [read_of_delimits htext hname, read_of_delimits htext' hname', Except.ok.injEq, Identifier.mk.injEq]

/-- **Delimited names are kept as they are.** Take a name, not empty, and a text of a catalog that delimits it. What is
read is the name, and a statement that delimits the name has one word there, which comes to the same identifier. So
names that differ are told apart, and two of them make up the id of a relation. -/
theorem readRelation_of_delimits (htext : Delimits text name) (hname : name ≠ "") (htext' : Delimits text' name')
    (hname' : name' ≠ "") (folding folding' : Folding) :
    folding.read text = .ok ⟨name, hname⟩ ∧ folding.identifier name true = .ok ⟨name, hname⟩ ∧
    (∀ d, Sql.lex d (delimited name) = .ok [⟨.word ⟨name, some '"'⟩ "", .start⟩]) ∧
    Lowering.identifier folding ⟨name, some '"'⟩ = .ok ⟨name, hname⟩ ∧
    (folding.read text = folding'.read text' ↔ name = name') ∧
    folding.readRelation (some text) text' = .ok ⟨some ⟨name, hname⟩, ⟨name', hname'⟩⟩ := by
  have hread : folding.read text = .ok ⟨name, hname⟩ := read_of_delimits htext hname
  refine ⟨hread, identifier_eq_ok.2 rfl, fun d => Sql.lex_delimited d name, Lowering.identifier_eq_ok.2 rfl,
    read_eq_iff_of_delimits htext hname htext' hname', ?_⟩
  exact Declaration.readRelation_eq_ok.2 ⟨.some hread, read_of_delimits htext' hname'⟩

end Folding

namespace Sample

/-- A name with quotes at both ends, a point and blanks: `""hr. "`. -/
def quotedName : String := "\"\"hr. \""

/-- The name between quotes, with blanks around it. -/
def quotedText : String := "\t \"\"\"\"\"hr. \"\"\"\n"

/-- Quotes at the ends are told from those that delimit the name, and only the blanks around it are dropped. -/
theorem readRelation_quotedName : quotedName ≠ "" ∧ Delimits quotedText quotedName ∧ Delimits "\"\"\"\"" "\"" ∧
    Folding.upper.read quotedText = .ok ⟨quotedName, by decide⟩ ∧
    Folding.upper.readRelation (some quotedText) "\"\"\"\"" =
      .ok ⟨some ⟨quotedName, by decide⟩, ⟨"\"", by decide⟩⟩ := by
  have hname : quotedName ≠ "" := by decide
  have htext : Delimits quotedText quotedName :=
    ⟨['\t', ' '], ['\n'], by decide +kernel, List.all_eq_true.1 rfl, List.all_eq_true.1 rfl⟩
  have htext' : Delimits "\"\"\"\"" "\"" :=
    ⟨[], [], by decide +kernel, List.forall_mem_nil _, List.forall_mem_nil _⟩
  obtain ⟨hread, -, -, -, -, hrelation⟩ :=
    Folding.readRelation_of_delimits htext hname htext' (by decide) .upper .lower
  exact ⟨hname, htext, htext', hread, hrelation⟩

end Sample

end FromClause
