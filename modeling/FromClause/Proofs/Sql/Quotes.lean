import FromClause.Sql.Lexer
/-!
# Between quotes

Whatever stands between two quotes is written with each quote in it doubled, and the lexer reads it back up to the
closing quote, also where a run of quotes stands right before that one (`readQuoted_doubling`). All that it takes is
that no further quote follows. This goes for strings and for delimited names alike; a delimited name is one word
(`lex_delimited`), in every dialect.
-/

namespace FromClause

namespace Sql

variable {quote : Char} {cs rest : List Char}

/-- Characters as they stand between quotes: the quotes among them are written twice. -/
def doubling (quote : Char) (cs : List Char) : List Char := cs.flatMap fun c => if c = quote then [c, c] else [c]

theorem doubling_cons_self (quote : Char) (cs : List Char) :
    doubling quote (quote :: cs) = quote :: quote :: doubling quote cs := by
  rw [doubling, List.flatMap_cons, if_pos rfl]
  rfl

theorem doubling_cons_of_ne {c : Char} (hc : c ≠ quote) : doubling quote (c :: cs) = c :: doubling quote cs := by
  rw [doubling, List.flatMap_cons, if_neg hc]
  rfl

/-- **The lexer reads back what stands between quotes**, up to the closing one. -/
theorem readQuoted_doubling (hrest : rest.head? ≠ some quote) :
    readQuoted quote (doubling quote cs ++ quote :: rest) = some (cs, rest) := by
  induction cs with
  | nil =>
    rw [doubling, List.flatMap_nil, List.nil_append]
    cases rest with
    | nil => simp [readQuoted]
    | cons c rest =>
      have hc : c ≠ quote := fun h => hrest (congrArg some h)
      simp [readQuoted, hc]
  | cons c cs ih =>
    by_cases hc : c = quote
    · -- this quote is no closing one, since another one follows
      rw [hc, doubling_cons_self, List.cons_append, List.cons_append]
      simp [readQuoted, ih]
    · rw [doubling_cons_of_ne hc, List.cons_append, readQuoted.eq_def]
      simp [ih, hc]

/-- A name as it is written between double quotes. -/
def delimited (name : String) : String := String.ofList ('"' :: (doubling '"' name.toList ++ ['"']))

/-- At the head of a text, a delimited name is one word, in every dialect. -/
theorem readHead_doubling (d : Dialect) (afterWord : Bool) (cs : List Char) (hrest : rest.head? ≠ some '"') :
    readHead d afterWord '"' (doubling '"' cs ++ '"' :: rest) =
      .token (.word ⟨String.ofList cs, some '"'⟩ "") rest := by
  have hstarts : startsName d '"' = false := by
    cases d <;> rfl
  have hblank : Text.isBlank '"' = false := rfl
  simp [readHead, hstarts, hblank, readQuoted_doubling hrest]

/-- A token at the head of a text is followed by those of the rest. -/
theorem exists_lexFrom_eq_map {d : Dialect} {afterWord : Bool} {c : Char} {token : Token} {left : List Char}
    (h : readHead d afterWord c rest = .token token left) (fuel : Nat) (position : Position) :
    ∃ isWord behind, lexFrom d (fuel + 1) afterWord position (c :: rest) =
      (lexFrom d fuel isWord behind left).map (⟨token, position⟩ :: ·) := by
  have hlex := lexFrom.eq_def d (fuel + 1) afterWord position (c :: rest)
  simp only [h] at hlex
  exact ⟨_, _, hlex⟩

/-- **A delimited name is one word**: the name with the mark of its quotes. -/
theorem lex_delimited (d : Dialect) (name : String) :
    lex d (delimited name) = .ok [⟨.word ⟨name, some '"'⟩ "", .start⟩] := by
  have hrest : ([] : List Char).head? ≠ some '"' := by simp
  have hhead := readHead_doubling d false name.toList hrest
  rw [lex, delimited, String.toList_ofList, List.length_cons]
  obtain ⟨isWord, behind, hlex⟩ := exists_lexFrom_eq_map hhead (doubling '"' name.toList ++ ['"']).length .start
  rw [hlex, String.ofList_toList]
  cases (doubling '"' name.toList ++ ['"']).length <;> rfl

end Sql

end FromClause
