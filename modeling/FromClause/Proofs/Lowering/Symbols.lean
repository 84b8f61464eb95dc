import FromClause.Proofs.Catalog.Lookup
import FromClause.Proofs.Lowering.Qualified
/-!
# Symbols of relations

The symbol of a relation is its id as it is written, with the number of its columns. An id is written as its
schema, a point and its table name, and nothing marks the points that are part of a name. So two ids may be
written alike, but only in one way: the table name of one of them has a point, and the other one is the same
text cut there (`text_eq_text_iff`).

Relations of a catalog have different symbols unless they are such homographs with as many columns, and so have
the data atoms of a clause (`symbols_identify`). A relation `a.b` and one that is called `"A.B"` are homographs
(`delimited_point`).
-/

namespace FromClause

open Sql

/-! ## Ids that are written alike -/

/-- Of two ways to cut a text, one cuts it behind the other. -/
theorem cut_of_append_eq_append {a b a' b' : String} (h : a ++ b = a' ++ b') :
    (∃ middle, a' = a ++ middle ∧ b = middle ++ b') ∨ ∃ middle, a = a' ++ middle ∧ b' = middle ++ b := by
  simp only [← String.toList_inj, String.toList_append] at h ⊢
  rcases List.append_eq_append_iff.1 h with ⟨middle, ha, hb⟩ | ⟨middle, ha, hb⟩
  · exact .inl ⟨.ofList middle, by rwa [String.toList_ofList], by rwa [String.toList_ofList]⟩
  · exact .inr ⟨.ofList middle, by rwa [String.toList_ofList], by rwa [String.toList_ofList]⟩

/-- A text with a point at its end has it at the end of its last part. -/
theorem exists_point_of_append_eq {a middle text : String} (h : a ++ middle = text ++ ".")
    (hne : middle ≠ "") : ∃ front, middle = front ++ "." ∧ text = a ++ front := by
  rw [← String.toList_inj, String.toList_append, String.toList_append] at h
  rcases List.eq_nil_or_concat middle.toList with hnil | ⟨front, last, hmiddle⟩
  · exact absurd (String.toList_eq_nil_iff.1 hnil) hne
  · rw [hmiddle, List.concat_eq_append, ← List.append_assoc] at h
    obtain ⟨htext, hlast⟩ := List.append_inj' h rfl
    refine ⟨.ofList front, ?_, ?_⟩ <;> rw [← String.toList_inj, String.toList_append, String.toList_ofList]
    · rw [hmiddle, List.concat_eq_append, hlast]
    · exact htext.symm

namespace RelationId

variable {r r' : RelationId}

/-- What is written before the table name: the schema and a point, if there is a schema. -/
def qualifier (r : RelationId) : String :=
  match r.schema with
  | some schema => schema.text ++ "."
  | none => ""

theorem text_eq (r : RelationId) : r.text = r.qualifier ++ r.table.text := by
  obtain ⟨_ | schema, table⟩ := r
  · exact String.empty_append.symm
  · rfl

/-- **An id is cut of another**: it is the same text, with a point in the table name of the other one taken for the
point behind its own schema. -/
def CutOf (r r' : RelationId) : Prop :=
  ∃ schema front, r.schema = some schema ∧ schema.text = r'.qualifier ++ front ∧
    r'.table.text = front ++ "." ++ r.table.text

/-- **Homographs** are written alike, but cut in different places. -/
def Homograph (r r' : RelationId) : Prop := r.CutOf r' ∨ r'.CutOf r

theorem CutOf.text_eq (h : r.CutOf r') : r.text = r'.text := by
  obtain ⟨schema, front, hschema, hqualifier, htable⟩ := h
  rw [text, hschema, r'.text_eq, htable]
  dsimp only
  rw [hqualifier]
  simp only [String.append_assoc]

/-- The table name that is cut has a point. -/
theorem CutOf.point_mem (h : r.CutOf r') : '.' ∈ r'.table.text.toList := by
  obtain ⟨-, front, -, -, htable⟩ := h
  rw [htable, String.toList_append, String.toList_append]
  exact List.mem_append_left _ (List.mem_append_right _ (List.mem_singleton_self _))

/-- Ids with the same text before their table names have the same schema. -/
theorem schema_eq_of_qualifier_eq (h : r.qualifier = r'.qualifier) : r.schema = r'.schema := by
  obtain ⟨schema, table⟩ := r
  obtain ⟨schema', table'⟩ := r'
  have hpoint : ∀ text : String, text ++ "." ≠ "" := fun text htext => by
    rw [String.append_eq_empty_iff] at htext
    exact absurd htext.2 (by decide)
  cases schema with
  | none =>
    cases schema' with
    | none => rfl
    | some schema' => exact absurd h.symm (hpoint _)
  | some schema =>
    cases schema' with
    | none => exact absurd h (hpoint _)
    | some schema' =>
      exact congrArg some (Identifier.text_injective ((String.append_left_inj ".").1 h))

/-- An id with more text before its table name is the other one or cut of it. -/
theorem eq_or_cutOf {middle : String} (hqualifier : r.qualifier = r'.qualifier ++ middle)
    (htable : r'.table.text = middle ++ r.table.text) : r = r' ∨ r.CutOf r' := by
  rcases eq_or_ne middle "" with rfl | hne
  · rw [String.append_empty] at hqualifier
    rw [String.empty_append] at htable
    have hschema := schema_eq_of_qualifier_eq hqualifier
    have htable := Identifier.text_injective htable.symm
    obtain ⟨schema, table⟩ := r
    obtain ⟨schema', table'⟩ := r'
    cases hschema
    cases htable
    exact .inl rfl
  · right
    obtain ⟨schema, table⟩ := r
    cases schema with
    | none => exact absurd (String.append_eq_empty_iff.1 hqualifier.symm).2 hne
    | some schema =>
      obtain ⟨front, rfl, hschema⟩ := exists_point_of_append_eq hqualifier.symm hne
      exact ⟨schema, front, rfl, hschema, htable⟩

/-- **Two ids are written alike** when they are the same or homographs, and only then. -/
theorem text_eq_text_iff : r.text = r'.text ↔ r = r' ∨ r.Homograph r' := by
  constructor
  · intro h
    rw [r.text_eq, r'.text_eq] at h
    rcases cut_of_append_eq_append h with ⟨middle, hqualifier, htable⟩ | ⟨middle, hqualifier, htable⟩
    · exact (eq_or_cutOf hqualifier htable).imp Eq.symm .inr
    · exact (eq_or_cutOf hqualifier htable).imp_right .inl
  · rintro (rfl | h | h)
    · rfl
    · exact h.text_eq
    · exact h.text_eq.symm

end RelationId

/-! ## Symbols of a catalog -/

/-- **Two relations of a catalog have one symbol** when they have as many columns and are the same or homographs,
and only then. -/
theorem Catalog.symbol_eq_iff {c : Catalog} {d d' : Definition} (hd : d ∈ c.definitions)
    (hd' : d' ∈ c.definitions) :
    Predicate.ofRelation d.id d.arity = .ofRelation d'.id d'.arity ↔
      d.arity = d'.arity ∧ (d = d' ∨ d.id.Homograph d'.id) := by
  have hid : d.id = d'.id ↔ d = d' := ⟨eq_of_id_eq hd hd', congrArg Definition.id⟩
  rw [Predicate.ofRelation, Predicate.ofRelation, Predicate.mk.injEq, RelationId.text_eq_text_iff, hid]
  exact and_comm

namespace Lowering

variable {c : Catalog} {source : TableFactor}

theorem mem_definitions_of_definition? {d : Definition} (h : definition? c source = some d) :
    d ∈ c.definitions := by
  cases source with
  | table name arguments label =>
    obtain ⟨reference, -, hd⟩ := Option.bind_eq_some_iff.1 h
    exact Catalog.mem_definitions_of_get? hd
  | nested | derived | other => cases h

/-- A data atom has the symbol of the relation that its source stands for. -/
theorem Applies.exists_definition {a : Predicate × List Term} (h : Applies c source a) :
    ∃ d, definition? c source = some d ∧ a.1 = .ofRelation d.id d.arity := by
  obtain ⟨name, label, reference, d, rfl, hreference, hd, hname, harity, hlength⟩ := h
  refine ⟨d, LeafFor.definition?_eq hreference hd, ?_⟩
  rw [Predicate.ofRelation, ← hname, ← hlength, ← harity]

/-- **Every data atom of a source stands for a relation of the catalog**: the one that the source at its place stands
for, whose symbol it has. -/
theorem exists_definition_of_dataAtom {s : Statement} {p : Progress} {e : Expression} {k : Nat}
    {a : Predicate × List Term} (h : (outcome (statement c s) p).1 = .ok e) (ha : e.dataAtoms[k]? = some a) :
    ∃ d ∈ c.definitions, s.sources[k]?.bind (definition? c) = some d ∧ a.1 = .ofRelation d.id d.arity := by
  obtain ⟨source, hsource, happlies⟩ := exists_getElem?_of_forall₂ (safe_of_outcome h).applies.flip ha
  obtain ⟨d, hd, hsymbol⟩ := Applies.exists_definition happlies
  have hplace : s.sources[k]?.bind (definition? c) = some d := by rw [hsource, Option.bind_some, hd]
  exact ⟨d, mem_definitions_of_definition? hd, hplace, hsymbol⟩

/-- **The symbols of relations identify them, but for homographs.** Take a catalog. Two of its relations with as
many columns have different symbols unless they are homographs, and where no table name has a point, no two
are. Take further a statement that comes to a source over this catalog, and any two of its data atoms. They
stand for relations of the catalog, and have one symbol exactly when these are the same or homographs with as
many columns. -/
theorem symbols_identify (c : Catalog) :
    (∀ d ∈ c.definitions, ∀ d' ∈ c.definitions, d.arity = d'.arity →
      (Predicate.ofRelation d.id d.arity = .ofRelation d'.id d'.arity ↔ d = d' ∨ d.id.Homograph d'.id)) ∧
    ((∀ d ∈ c.definitions, '.' ∉ d.id.table.text.toList) →
      ∀ d ∈ c.definitions, ∀ d' ∈ c.definitions, ¬d.id.Homograph d'.id) ∧
    ∀ (s : Statement) (p : Progress) (e : Expression), (outcome (statement c s) p).1 = .ok e →
      ∀ (i j : Nat) (a b : Predicate × List Term), e.dataAtoms[i]? = some a → e.dataAtoms[j]? = some b →
        ∃ d ∈ c.definitions, ∃ d' ∈ c.definitions,
          s.sources[i]?.bind (definition? c) = some d ∧ s.sources[j]?.bind (definition? c) = some d' ∧
          (a.1 = b.1 ↔ d.arity = d'.arity ∧ (d = d' ∨ d.id.Homograph d'.id)) := by
  refine ⟨fun d hd d' hd' harity => ?_, fun hpoint d hd d' hd' => ?_, fun s p e h i j a b ha hb => ?_⟩
  · rw [Catalog.symbol_eq_iff hd hd', and_iff_right harity]
  · rintro (hcut | hcut)
    · exact hpoint d' hd' hcut.point_mem
    · exact hpoint d hd hcut.point_mem
  · obtain ⟨d, hd, hplace, hsymbol⟩ := exists_definition_of_dataAtom h ha
    obtain ⟨d', hd', hplace', hsymbol'⟩ := exists_definition_of_dataAtom h hb
    refine ⟨d, hd, d', hd', hplace, hplace', ?_⟩
    rw [hsymbol, hsymbol', Catalog.symbol_eq_iff hd hd']

end Lowering

/-! ## A point inside a name -/

namespace Sample

open Lowering

/-- A catalog with the relations `STAFF(ID)` and `HR.STAFF(ID)`. -/
def branchCatalog : Catalog :=
  ((Catalog.empty .upper).declare
    [⟨none, "staff", [⟨"id", none, false⟩]⟩, ⟨some "hr", "staff", [⟨"id", none, false⟩]⟩]).catalog

/-- In `FROM staff, hr.staff AS s (nr)` over this catalog the two tables have different symbols. -/
theorem symbols_identify_branches :
    ∃ e a b, (outcome (statement branchCatalog staffTwice) .start).1 = .ok e ∧
      e.dataAtoms[0]? = some a ∧ e.dataAtoms[1]? = some b ∧ a.1 ≠ b.1 := by
  obtain ⟨e, he⟩ := isOk_iff.1
    (by decide +kernel : (outcome (statement branchCatalog staffTwice) .start).1.isOk = true)
  obtain ⟨-, hpoint, hatoms⟩ := symbols_identify branchCatalog
  have hlength : e.dataAtoms.length = 2 := (safe_of_outcome he).applies.length_eq.symm
  have ha := List.getElem?_eq_getElem (show 0 < e.dataAtoms.length by omega)
  have hb := List.getElem?_eq_getElem (show 1 < e.dataAtoms.length by omega)
  refine ⟨e, _, _, he, ha, hb, fun heq => ?_⟩
  obtain ⟨d, hd, d', hd', hfirst, hsecond, hiff⟩ := hatoms _ _ e he 0 1 _ _ ha hb
  have hids : (staffTwice.sources[0]?.bind (definition? branchCatalog)).map Definition.id ≠
      (staffTwice.sources[1]?.bind (definition? branchCatalog)).map Definition.id := by decide +kernel
  obtain ⟨-, rfl | hhomograph⟩ := hiff.1 heq
  · exact hids (by rw [hfirst, hsecond])
  · exact hpoint (by decide +kernel) d hd d' hd' hhomograph

/-- A catalog with a relation `"A.B"`, which has no schema, and a relation `A.B` of the schema `A`. -/
def pointedCatalog : Catalog :=
  ((Catalog.empty .upper).declare
    [⟨none, "\"A.B\"", [⟨"id", none, false⟩]⟩, ⟨some "a", "b", [⟨"id", none, false⟩]⟩]).catalog

/-- `FROM "A.B" AS x, a.b AS y`. -/
def pointedTables : Statement :=
  .query ⟨[], .select ⟨[.factor (.table [.name ⟨"A.B", some '"'⟩] none (some ⟨true, ⟨"x", none⟩, []⟩)),
    .factor (.table [.name ⟨"a", none⟩, .name ⟨"b", none⟩] none (some ⟨true, ⟨"y", none⟩, []⟩))]⟩, ""⟩

/-- **The two relations of this catalog have one symbol**, and the two tables of this clause, one of each relation,
have the same. -/
theorem delimited_point :
    (∃ d ∈ pointedCatalog.definitions, ∃ d' ∈ pointedCatalog.definitions, d.id ≠ d'.id ∧
      d.arity = d'.arity ∧ Predicate.ofRelation d.id d.arity = .ofRelation d'.id d'.arity) ∧
    (pointedTables.sources.map fun source => (definition? pointedCatalog source).map Definition.id) =
      (pointedCatalog.definitions.map fun d => some d.id) ∧
    ((outcome (statement pointedCatalog pointedTables) .start).1.toOption.map fun e =>
      e.dataAtoms.map (·.1)) = some [⟨"A.B", 1⟩, ⟨"A.B", 1⟩] := by
  decide +kernel

end Sample

end FromClause
