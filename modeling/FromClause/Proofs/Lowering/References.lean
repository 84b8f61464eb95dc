import FromClause.Proofs.Lowering.Language
import FromClause.Proofs.Lowering.Session
/-!
# Table references

What a table reference of a FROM clause comes to by itself. It comes to a leaf exactly when its name and its alias
have no empty names in them, the catalog has a relation by that name, the alias does not name more columns than there
are, and no two columns go by one name in the end (`outcome_leaf_reference`). The names in the end are the new ones and,
behind them, the declared ones of the columns that are not renamed (`Folding.effectiveNames`). A new name may
well be the old name of another column, so names can be swapped; what each one is bound to is told by its position
(`Denotes`).

Whatever is refused is refused before any variable is drawn.
-/

namespace FromClause

open Sql

/-! ## What a table reference says -/

/-- One or two names spell the id of a relation. -/
inductive Folding.SpellsRelation (folding : Folding) : ObjectName → RelationId → Prop
  /-- A table by its name alone. -/
  | table {n : Name} {t : Identifier} :
    folding.normalised n = t.text → SpellsRelation folding [.name n] (.bare t)
  /-- A table of a schema. -/
  | schema {m n : Name} {s t : Identifier} :
    folding.normalised m = s.text → folding.normalised n = t.text →
      SpellsRelation folding [.name m, .name n] ⟨some s, t⟩

/-- The new names that an alias gives to the first columns, normalised. -/
def Folding.newNames (folding : Folding) : Option TableAlias → List String
  | none => []
  | some a => a.columns.map fun column => folding.normalised column.name

/-- The names of the columns under a table reference: the new ones, and behind them the declared ones. -/
def Folding.effectiveNames (folding : Folding) (d : Definition) (label : Option TableAlias) : List String :=
  folding.newNames label ++ (d.columns.map fun column => column.name.text).drop (folding.newNames label).length

/-- New names for the first columns leave the number of columns as it is. -/
theorem Folding.length_effectiveNames {folding : Folding} {d : Definition} {label : Option TableAlias}
    (h : (folding.newNames label).length ≤ d.arity) : (folding.effectiveNames d label).length = d.arity := by
  rw [effectiveNames, List.length_append, List.length_drop, List.length_map]
  exact Nat.add_sub_cancel' h

/-- The name under which a table reference exposes its relation. -/
inductive Folding.Exposes (folding : Folding) (d : Definition) : Option TableAlias → RelationId → Prop
  /-- Without an alias it is the id of the relation. -/
  | relation : Exposes folding d none d.id
  /-- With an alias it is the alias. -/
  | label {a : TableAlias} {exposed : Identifier} :
    folding.normalised a.name = exposed.text → Exposes folding d (some a) (.bare exposed)

namespace Lowering

/-- **A table reference refers to a relation of the catalog.** Its name has one part or two, the relation is looked up
by it, and no name in the reference is empty once it is normalised. -/
structure Refers (c : Catalog) (name : ObjectName) (label : Option TableAlias) (d : Definition) : Prop where
  /-- The name spells an id, and the catalog has the relation. -/
  found : ∃ reference, c.folding.SpellsRelation name reference ∧ c.get? reference = some d
  /-- The alias is not empty. -/
  label_ne : ∀ a ∈ label, c.folding.normalised a.name ≠ ""
  /-- No new name is empty. -/
  new_ne : ∀ n ∈ c.folding.newNames label, n ≠ ""

/-- **What a table reference denotes**: its relation, applied to variables for the columns in declared order, and the
qualified names of the columns. -/
structure Denotes (folding : Folding) (d : Definition) (label : Option TableAlias) (vars : List Variable)
    (e : Expression) : Prop where
  /-- There is one variable for each column. -/
  length : vars.length = d.arity
  /-- The only atom applies the relation of the catalog, whatever the alias. -/
  atoms : e.atoms = [.data (.ofRelation d.id d.arity) (vars.map .var)]
  /-- A column is found under the name that exposes the relation, and without an alias under its table name as well if
  it has a schema. Nothing else is found. -/
  qualified {R : RelationId} {column : Identifier} {v : Variable} :
    e.dictionary.get? (.qualified R column) = some v ↔
      (folding.Exposes d label R ∨ label = none ∧ d.id.hasSchema = true ∧ R = .bare d.id.table) ∧
      ∃ i : Nat, (folding.effectiveNames d label)[i]? = some column.text ∧ vars[i]? = some v

/-- **Variables are drawn from a supply**: they have new names, all of them different, and these are given away. -/
structure Draws (s : Supply) (vars : List Variable) (s' : Supply) : Prop where
  /-- No two variables have one name. -/
  nodup : (vars.map Variable.name).Nodup
  /-- No name was given away before. -/
  unissued : ∀ v ∈ vars, v.name ∉ s.issued
  /-- Just these names are given away. -/
  issued : s'.issued = (vars.map Variable.name).reverse ++ s.issued

variable {c : Catalog} {folding : Folding} {name : ObjectName} {label : Option TableAlias} {d : Definition}

/-! ## Names -/

theorem identifier_eq_ok {n : Name} {t : Identifier} :
    identifier folding n = .ok t ↔ folding.normalised n = t.text :=
  mapError_identifier_eq_ok

/-- The plain names of a table name are all its parts. -/
theorem plainNames_eq_ok {names : List Name} : plainNames name = .ok names ↔ name = names.map NamePart.name := by
  rw [plainNames, mapM_eq_ok]
  constructor
  · intro h
    have hparts : List.Forall₂ (fun part n => part = NamePart.name n) name names := by
      refine h.imp fun part n hn => ?_
      cases part with
      | name m =>
        cases hn
        rfl
      | computed text => cases hn
    rwa [← List.forall₂_eq_eq_eq, List.forall₂_map_right_iff]
  · rintro rfl
    rw [List.forall₂_map_left_iff]
    exact List.forall₂_same.2 fun n _ => rfl

/-- **The name of a table is read as it is spelled.** -/
theorem relationId_eq_ok {reference : RelationId} :
    relationId folding name = .ok reference ↔ folding.SpellsRelation name reference := by
  constructor
  · intro h
    obtain ⟨names, hnames, hid⟩ := bind_eq_ok.1 h
    rw [plainNames_eq_ok.1 hnames]
    match names with
    | [] => cases hid
    | [n] =>
      obtain ⟨t, ht, hid⟩ := bind_eq_ok.1 hid
      cases hid
      exact .table (identifier_eq_ok.1 ht)
    | [m, n] =>
      obtain ⟨s, hs, hid⟩ := bind_eq_ok.1 hid
      obtain ⟨t, ht, hid⟩ := bind_eq_ok.1 hid
      cases hid
      exact .schema (identifier_eq_ok.1 hs) (identifier_eq_ok.1 ht)
    | _ :: _ :: _ :: _ => cases hid
  · intro h
    cases h with
    | @table n t ht =>
      refine bind_eq_ok.2 ⟨[n], plainNames_eq_ok.2 rfl, ?_⟩
      exact bind_eq_ok.2 ⟨t, identifier_eq_ok.2 ht, rfl⟩
    | @schema m n s t hs ht =>
      refine bind_eq_ok.2 ⟨[m, n], plainNames_eq_ok.2 rfl, ?_⟩
      exact bind_eq_ok.2 ⟨s, identifier_eq_ok.2 hs, bind_eq_ok.2 ⟨t, identifier_eq_ok.2 ht, rfl⟩⟩

/-- New names are read as they are spelled, one beside the other. -/
theorem forall₂_identifier_iff {columns : List AliasColumn} {new : List Identifier} :
    List.Forall₂ (fun column n => identifier folding column.name = .ok n) columns new ↔
      (columns.map fun column => folding.normalised column.name) = new.map Identifier.text := by
  simp only [identifier_eq_ok]
  rw [← List.forall₂_eq_eq_eq, List.forall₂_map_left_iff, List.forall₂_map_right_iff]

/-- Texts that are not empty are those of identifiers. -/
theorem exists_map_text {texts : List String} (h : ∀ text ∈ texts, text ≠ "") :
    ∃ ids : List Identifier, texts = ids.map Identifier.text := by
  induction texts with
  | nil => exact ⟨[], rfl⟩
  | cons text rest ih =>
    obtain ⟨hne, hrest⟩ := List.forall_mem_cons.1 h
    obtain ⟨ids, rfl⟩ := ih hrest
    exact ⟨⟨text, hne⟩ :: ids, rfl⟩

/-! ## Exposure -/

section Exposure

variable {qualifier : Option RelationId} {columns : List Identifier} {R : RelationId}

/-- **What an alias makes of a relation**: no name in it is empty, it has not too many, and the columns go by the
effective names. -/
theorem spec_of_exposure (h : exposure folding d label = .ok (qualifier, columns)) :
    (∀ a ∈ label, folding.normalised a.name ≠ "") ∧ (∀ n ∈ folding.newNames label, n ≠ "") ∧
      (folding.newNames label).length ≤ d.arity ∧ folding.Exposes d label (qualifier.getD d.id) ∧
      columns.map Identifier.text = folding.effectiveNames d label := by
  cases label with
  | none =>
    cases h
    refine ⟨fun a ha => absurd ha (Option.not_mem_none a), List.forall_mem_nil _, Nat.zero_le _, .relation, ?_⟩
    rw [List.map_map]
    rfl
  | some a =>
    obtain ⟨exposed, new, hexposed, hnew, hfew, rfl, rfl⟩ := exposure_some_eq_ok.1 h
    have hlabel : folding.normalised a.name = exposed.text := identifier_eq_ok.1 hexposed
    have htexts : folding.newNames (some a) = new.map Identifier.text := forall₂_identifier_iff.1 hnew
    refine ⟨?_, ?_, ?_, .label hlabel, ?_⟩
    · rintro b ⟨⟩
      exact hlabel ▸ exposed.text_ne
    · rw [htexts]
      exact List.forall_mem_map.2 fun t _ => t.text_ne
    · rw [htexts, List.length_map, ← hnew.length_eq]
      exact hfew
    · rw [Folding.effectiveNames, htexts, renamed, List.map_append, List.map_drop, List.map_map, List.length_map]
      rfl

/-- The leaf of a table reference answers to the name that exposes it, and without an alias to its table name as well
if it has a schema. -/
theorem answersTo_iff (h : exposure folding d label = .ok (qualifier, columns))
    (bound : List (Identifier × Variable)) :
    (Placement.leaf ⟨d.id, qualifier, columns⟩ bound).AnswersTo R ↔
      folding.Exposes d label R ∨ label = none ∧ d.id.hasSchema = true ∧ R = .bare d.id.table := by
  cases label with
  | none =>
    cases h
    constructor
    · rintro (rfl | hR)
      · exact .inl .relation
      · exact .inr ⟨rfl, hR⟩
    · rintro (hR | ⟨-, hR⟩)
      · cases hR
        exact .inl rfl
      · exact .inr hR
  | some a =>
    obtain ⟨exposed, new, hexposed, -, -, rfl, -⟩ := exposure_some_eq_ok.1 h
    have hlabel : folding.normalised a.name = exposed.text := identifier_eq_ok.1 hexposed
    constructor
    · rintro rfl
      exact .inl (.label hlabel)
    · rintro (hR | ⟨hnone, -⟩)
      · cases hR with
        | label hexposed' => exact congrArg RelationId.bare (Identifier.text_injective (hexposed'.symm.trans hlabel))
      · cases hnone

end Exposure

namespace Refers

/-- The relation that a table reference refers to is settled. -/
theorem unique {d' : Definition} (h : Refers c name label d) (h' : Refers c name label d') : d = d' := by
  obtain ⟨reference, hspells, hd⟩ := h.found
  obtain ⟨reference', hspells', hd'⟩ := h'.found
  have hsame := (relationId_eq_ok.2 hspells).symm.trans (relationId_eq_ok.2 hspells')
  obtain rfl := Except.ok.inj hsame
  exact Option.some.inj (hd.symm.trans hd')

/-- A table reference that has no empty names and refers to a relation is understood, unless its alias names too many
columns. -/
theorem exists_exposure (h : Refers c name label d) (hfew : (c.folding.newNames label).length ≤ d.arity) :
    ∃ qualifier columns, exposure c.folding d label = .ok (qualifier, columns) := by
  cases label with
  | none => exact ⟨none, _, rfl⟩
  | some a =>
    obtain ⟨new, hnew⟩ := exists_map_text h.new_ne
    have hlabel := h.label_ne a rfl
    have hcount : a.columns.length ≤ d.columns.length := by
      rwa [Folding.newNames, List.length_map] at hfew
    exact ⟨_, _, exposure_some_eq_ok.2 ⟨⟨_, hlabel⟩, new, identifier_eq_ok.2 rfl, forall₂_identifier_iff.2 hnew, hcount,
      rfl, rfl⟩⟩

/-- An alias that names too many columns is refused for that. -/
theorem exposure_eq_error (h : Refers c name label d) (hmany : d.arity < (c.folding.newNames label).length) :
    ∃ exposed, c.folding.Exposes d label exposed ∧ exposure c.folding d label =
      .error (.aliasColumns exposed d.id d.arity (c.folding.newNames label).length) := by
  cases label with
  | none => cases hmany
  | some a =>
    let exposed : Identifier := ⟨_, h.label_ne a rfl⟩
    refine ⟨.bare exposed, .label rfl, ?_⟩
    have hexposed : identifier c.folding a.name = .ok exposed := identifier_eq_ok.2 rfl
    have hnew : (c.folding.newNames (some a)).length = a.columns.length := List.length_map _
    have hdeclared : (d.columns.map Column.name).length = d.arity := List.length_map _
    rw [hnew] at hmany ⊢
    rw [exposure, hexposed, ok_bind]
    dsimp only
    rw [hdeclared, if_pos hmany]
    exact bind_eq_error.2 (.inl rfl)

/-- A table reference that is not understood has no place. -/
theorem placement_eq_error (h : Refers c name label d) {error : LoweringError}
    (hexposure : exposure c.folding d label = .error error) : placement c name label = .error error := by
  obtain ⟨reference, hspells, hd⟩ := h.found
  refine bind_eq_error.2 (.inr ⟨reference, relationId_eq_ok.2 hspells, ?_⟩)
  rw [hd]
  exact bind_eq_error.2 (.inl hexposure)

/-- Nor has one with two columns of one name. -/
theorem placement_of_not_nodup (h : Refers c name label d) {qualifier : Option RelationId}
    {columns : List Identifier} (hexposure : exposure c.folding d label = .ok (qualifier, columns))
    (hrepeats : ¬columns.Nodup) : ∃ column, FirstRepeated columns column ∧
      placement c name label = .error (.catalog (.duplicateColumn (qualifier.getD d.id) column)) := by
  obtain ⟨reference, hspells, hd⟩ := h.found
  cases hduplicate : firstDuplicate? columns with
  | none => exact absurd (firstDuplicate?_eq_none.1 hduplicate) hrepeats
  | some column =>
    refine ⟨column, firstRepeated_of_firstDuplicate? hduplicate, ?_⟩
    refine bind_eq_error.2 (.inr ⟨reference, relationId_eq_ok.2 hspells, ?_⟩)
    rw [hd]
    refine bind_eq_error.2 (.inr ⟨_, hexposure, ?_⟩)
    dsimp only
    rw [hduplicate]
    rfl

end Refers

/-! ## Leaves -/

/-- What has a place refers to a relation. -/
theorem exists_refers_of_placement {place : Placement} (h : placement c name label = .ok place) :
    ∃ d, Refers c name label d ∧ place.relation = d.id ∧
      exposure c.folding d label = .ok (place.label, place.columns) ∧ place.columns.Nodup := by
  obtain ⟨reference, d, hreference, hd, hrelation, hexposure, hnodup⟩ := placement_eq_ok.1 h
  obtain ⟨hlabel, hnew, -⟩ := spec_of_exposure hexposure
  exact ⟨d, ⟨⟨reference, relationId_eq_ok.1 hreference, hd⟩, hlabel, hnew⟩, hrelation, hexposure, hnodup⟩

/-- **When a table reference has a place**: it refers to a relation, its alias does not name too many columns, and no
two columns go by one name. -/
theorem exists_placement_iff : (∃ place, placement c name label = .ok place) ↔
    ∃ d, Refers c name label d ∧ (c.folding.newNames label).length ≤ d.arity ∧
      (c.folding.effectiveNames d label).Nodup := by
  constructor
  · rintro ⟨place, h⟩
    obtain ⟨d, hrefers, -, hexposure, hnodup⟩ := exists_refers_of_placement h
    obtain ⟨-, -, hfew, -, hnames⟩ := spec_of_exposure hexposure
    exact ⟨d, hrefers, hfew, hnames ▸ hnodup.map Identifier.text_injective⟩
  · rintro ⟨d, hrefers, hfew, hnodup⟩
    obtain ⟨qualifier, columns, hexposure⟩ := hrefers.exists_exposure hfew
    obtain ⟨reference, hspells, hd⟩ := hrefers.found
    obtain ⟨-, -, -, -, hnames⟩ := spec_of_exposure hexposure
    rw [← hnames] at hnodup
    exact ⟨⟨d.id, qualifier, columns⟩, placement_eq_ok.2 ⟨reference, d, relationId_eq_ok.2 hspells, hd, rfl, hexposure,
      hnodup.of_map _⟩⟩

/-- What is drawn for some columns is drawn from the supply. -/
theorem draws_drawn (s : Supply) (columns : List Identifier) : Draws s (s.drawn columns) (s.after columns) where
  nodup := Supply.nodup_map_name_drawn s columns
  unissued _ hv := Supply.not_mem_issued_of_mem_drawn hv
  issued := Supply.issued_after s columns

/-- What stands at one place of the effective names and of the variables is a column with its variable. -/
theorem mem_bind_iff {columns : List Identifier} {texts : List String} (h : columns.map Identifier.text = texts)
    {s : Supply} {column : Identifier} {v : Variable} :
    (column, v) ∈ (s.bind columns).1 ↔
      ∃ i : Nat, texts[i]? = some column.text ∧ (s.drawn columns)[i]? = some v := by
  rw [Supply.bind_eq_zip, List.mem_iff_getElem?]
  refine exists_congr fun i => ?_
  rw [List.getElem?_zip_eq_some, ← h, List.getElem?_map]
  refine and_congr_left fun _ => ?_
  constructor
  · intro hi
    rw [hi]
    rfl
  · intro hi
    obtain ⟨found, hfound, htext⟩ := Option.map_eq_some_iff.1 hi
    rw [hfound, Identifier.text_injective htext]

/-- **A place denotes its relation**, over the variables drawn for its columns. -/
theorem denotes_leaf {place : Placement} (hrelation : place.relation = d.id)
    (hexposure : exposure folding d label = .ok (place.label, place.columns)) (hnodup : place.columns.Nodup)
    (s : Supply) :
    Denotes folding d label (s.drawn place.columns) (place.leaf (s.bind place.columns).1).expression := by
  obtain ⟨relation, qualifier, columns⟩ := place
  obtain rfl : relation = d.id := hrelation
  obtain ⟨-, -, -, -, hnames⟩ := spec_of_exposure hexposure
  have hlength : (s.drawn columns).length = d.arity := by
    rw [Supply.length_drawn]
    exact length_of_exposure hexposure
  have hbound : (s.bind columns).1.length = d.arity := by
    rw [← hlength, Supply.drawn, List.length_map]
  refine ⟨hlength, ?_, ?_⟩
  · rw [Leaf.expression_atoms, Placement.leaf_columns, Placement.leaf_relation, hbound, Supply.drawn, List.map_map]
    rfl
  · intro R column v
    have hdistinct : (Placement.leaf ⟨d.id, qualifier, columns⟩ (s.bind columns).1).Distinct := by
      rw [Leaf.Distinct, Leaf.names, Placement.leaf_columns, Supply.map_fst_bind]
      exact hnodup
    rw [Leaf.get?_qualified hdistinct, answersTo_iff hexposure, Placement.leaf_columns, mem_bind_iff hnames]

/-- **What a table reference comes to.** It comes to a leaf exactly when it refers to a relation of the catalog, its
alias does not name more columns than there are, and no two columns go by one name. If it refers to a relation,
an alias that names too many columns is reported with both numbers, and otherwise the first name that repeats is
reported. A leaf denotes the relation, over variables that are drawn for its columns. If there is none, no variable is
drawn. -/
theorem outcome_leaf_reference (c : Catalog) (name : ObjectName) (label : Option TableAlias) (p : Progress) :
    let result := outcome (leaf c name label) p
    let given := (c.folding.newNames label).length
    ((∃ l, result.1 = .ok l) ↔ ∃ d, Refers c name label d ∧ given ≤ d.arity ∧
      (c.folding.effectiveNames d label).Nodup) ∧
    (∀ d, Refers c name label d → d.arity < given → ∃ exposed, c.folding.Exposes d label exposed ∧
      result.1 = .error (.aliasColumns exposed d.id d.arity given)) ∧
    (∀ d, Refers c name label d → given ≤ d.arity → ¬(c.folding.effectiveNames d label).Nodup →
      ∃ exposed column, c.folding.Exposes d label exposed ∧
        FirstRepeated (c.folding.effectiveNames d label) column.text ∧
        result.1 = .error (.catalog (.duplicateColumn exposed column))) ∧
    (∀ l, result.1 = .ok l → ∃ d vars, Refers c name label d ∧ Draws p.supply vars result.2.supply ∧
      Denotes c.folding d label vars l.expression) ∧
    ∀ e, result.1 = .error e → result.2.supply = p.supply := by
  intro result given
  obtain ⟨events, hresult⟩ := outcome_leaf c name label p
  have hresult : result = _ := hresult
  have herror : ∀ {e}, placement c name label = .error e → result = (.error e, ⟨p.supply, events⟩) := by
    intro e he
    rw [hresult, he]
  refine ⟨?_, fun d hrefers hmany => ?_, fun d hrefers hfew hrepeats => ?_, fun l hl => ?_, fun e he => ?_⟩
  · rw [← exists_placement_iff, hresult]
    cases placement c name label with
    | ok place => simp
    | error e => simp
  · obtain ⟨exposed, hexposed, hexposure⟩ := hrefers.exposure_eq_error hmany
    exact ⟨exposed, hexposed, by rw [herror (hrefers.placement_eq_error hexposure)]⟩
  · obtain ⟨qualifier, columns, hexposure⟩ := hrefers.exists_exposure hfew
    obtain ⟨-, -, -, hexposed, hnames⟩ := spec_of_exposure hexposure
    have hcolumns : ¬columns.Nodup := fun hnodup =>
      hrepeats (hnames ▸ hnodup.map Identifier.text_injective)
    obtain ⟨column, hfirst, hplacement⟩ := hrefers.placement_of_not_nodup hexposure hcolumns
    have htext := hfirst.map Identifier.text_injective
    rw [hnames] at htext
    exact ⟨_, column, hexposed, htext, by rw [herror hplacement]⟩
  · cases hplacement : placement c name label with
    | error e =>
      rw [herror hplacement] at hl
      cases hl
    | ok place =>
      rw [hplacement] at hresult
      rw [hresult] at hl ⊢
      cases hl
      obtain ⟨d, hrefers, hrelation, hexposure, hnodup⟩ := exists_refers_of_placement hplacement
      exact ⟨d, _, hrefers, draws_drawn p.supply place.columns, denotes_leaf hrelation hexposure hnodup p.supply⟩
  · cases hplacement : placement c name label with
    | error e' => rw [herror hplacement]
    | ok place =>
      rw [hplacement] at hresult
      rw [hresult] at he
      cases he

end Lowering

/-! ## One table under new names -/

namespace Sample

open Lowering

/-- `AS s (…)` with some new names. -/
def labelled (new : List String) : Option TableAlias :=
  some ⟨true, ⟨"s", none⟩, new.map fun n => ⟨⟨n, none⟩, none⟩⟩

/-- Whatever the new names, `staff AS s (…)` refers to the staff and its two columns, unless one of them is empty. -/
theorem exists_refers_labelled (new texts : List String)
    (h : staffCatalog.folding.newNames (labelled new) = texts) (hne : ∀ n ∈ texts, n ≠ "") :
    ∃ d, Refers staffCatalog [.name ⟨"staff", none⟩] (labelled new) d ∧ d.id = staff.relation ∧ d.arity = 2 ∧
      staffCatalog.folding.effectiveNames d (labelled new) = texts ++ ["ID", "NAME"].drop texts.length := by
  have hmap : (staffCatalog.get? staff.relation).map
      (fun d => (d.id, d.columns.map fun column => column.name.text)) = some (staff.relation, ["ID", "NAME"]) := by
    decide +kernel
  obtain ⟨d, hd, heq⟩ := Option.map_eq_some_iff.1 hmap
  obtain ⟨hid, hcolumns⟩ := Prod.mk.inj heq
  have hlabel : staffCatalog.folding.normalised ⟨"s", none⟩ ≠ "" := by decide +kernel
  refine ⟨d, ⟨⟨staff.relation, .table (by decide +kernel), hd⟩, ?_, h ▸ hne⟩, hid, ?_, ?_⟩
  · rintro a ⟨⟩
    exact hlabel
  · have hlength := congrArg List.length hcolumns
    rwa [List.length_map] at hlength
  · rw [Folding.effectiveNames, h, hcolumns]

/-- The names of two columns can be swapped. Three names are too many, and one new name must not be that of the column
behind it. -/
theorem outcome_leaf_labelled :
    let result (new : List String) :=
      outcome (leaf staffCatalog [.name ⟨"staff", none⟩] (labelled new)) .start
    (∃ l, (result ["name", "id"]).1 = .ok l ∧ ∃ v w, l.expression.atoms = [.data ⟨"STAFF", 2⟩ [.var v, .var w]] ∧
      l.expression.dictionary.get? (.qualified staff.exposed id) = some w) ∧
    (∃ exposed, (result ["a", "b", "c"]).1 = .error (.aliasColumns exposed staff.relation 2 3)) ∧
    (∃ exposed column, (result ["name"]).1 = .error (.catalog (.duplicateColumn exposed column))) ∧
    (result ["name"]).2.supply = .initial := by
  intro result
  refine ⟨?_, ?_, ?_⟩
  · obtain ⟨d, hrefers, hid, harity, hnames⟩ :=
      exists_refers_labelled ["name", "id"] ["NAME", "ID"] (by decide +kernel) (by decide)
    obtain ⟨hiff, -, -, hok, -⟩ :=
      outcome_leaf_reference staffCatalog [.name ⟨"staff", none⟩] (labelled ["name", "id"]) .start
    obtain ⟨l, hl⟩ := hiff.2 ⟨d, hrefers, harity ▸ (by decide +kernel), hnames ▸ (by decide)⟩
    obtain ⟨d', vars, hrefers', -, hdenotes⟩ := hok l hl
    obtain rfl := hrefers.unique hrefers'
    obtain ⟨v, w, rfl⟩ := List.length_eq_two.1 (hdenotes.length.trans harity)
    refine ⟨l, hl, v, w, ?_, hdenotes.qualified.2 ⟨.inl (.label (by decide +kernel)), 1, ?_, rfl⟩⟩
    · rw [hdenotes.atoms, hid, harity]
      rfl
    · rw [hnames]
      rfl
  · obtain ⟨d, hrefers, hid, harity, -⟩ :=
      exists_refers_labelled ["a", "b", "c"] ["A", "B", "C"] (by decide +kernel) (by decide)
    obtain ⟨-, hmany, -⟩ :=
      outcome_leaf_reference staffCatalog [.name ⟨"staff", none⟩] (labelled ["a", "b", "c"]) .start
    obtain ⟨exposed, -, heq⟩ := hmany d hrefers (harity ▸ (by decide +kernel))
    rw [hid, harity] at heq
    exact ⟨exposed, heq⟩
  · obtain ⟨d, hrefers, -, harity, hnames⟩ :=
      exists_refers_labelled ["name"] ["NAME"] (by decide +kernel) (by decide)
    obtain ⟨-, -, hrepeats, -, hnone⟩ :=
      outcome_leaf_reference staffCatalog [.name ⟨"staff", none⟩] (labelled ["name"]) .start
    obtain ⟨exposed, column, -, -, heq⟩ :=
      hrepeats d hrefers (harity ▸ (by decide +kernel)) (hnames ▸ (by decide))
    exact ⟨⟨exposed, column, heq⟩, hnone _ heq⟩

end Sample

end FromClause
