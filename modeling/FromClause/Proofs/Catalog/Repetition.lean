import FromClause.Proofs.Catalog.Loading
/-!
# Columns that repeat

Two scans look for a column that repeats. The catalog goes through the columns of a relation and remembers the names
that it has passed; a FROM clause compares each column of a table with all columns before it. Both find the column at
the least place whose name stands before it as well, so they agree on every list (`scans_agree`).

The catalog lets in no relation in which its scan finds a column. A table reference without new names has the columns
of its relation, so the scan of the FROM clause finds nothing there either (`duplicate_columns`), and a statement is
refused for a column that repeats only if one of its tables has new names (`outcome_statement_keepsNames`).
-/

namespace FromClause

open Sql

namespace Lowering

/-! ## Places that repeat -/

section Places

variable {α : Type} {as : List α} {a : α}

/-- The places of a list whose member stands in the list before. -/
def repeats (as : List α) : Set Nat := {i | ∃ a, as[i]? = some a ∧ a ∈ as.take i}

/-- A place in the first part of a list repeats there when it does in the whole. -/
theorem mem_repeats_take {i k : Nat} (h : i < k) : i ∈ repeats (as.take k) ↔ i ∈ repeats as := by
  rw [repeats, repeats, Set.mem_ofPred_eq, Set.mem_ofPred_eq, List.getElem?_take_of_lt h, List.take_take,
    Nat.min_eq_left (Nat.le_of_lt h)]

/-- A list has no member twice when no place of it repeats. -/
theorem nodup_iff_repeats : as.Nodup ↔ ∀ i, i ∉ repeats as := by
  rw [List.nodup_iff_getElem?_ne_getElem?]
  constructor
  · rintro h j ⟨a, ha, hbefore⟩
    obtain ⟨i, hi, heq⟩ := List.mem_take_iff_getElem.1 hbefore
    obtain ⟨hj, -⟩ := List.getElem?_eq_some_iff.1 ha
    have hearlier : as[i]? = some a := List.getElem?_eq_some_iff.2 ⟨by omega, heq⟩
    exact h i j (by omega) hj (hearlier.trans ha.symm)
  · intro h i j hij hj heq
    have hlater : as[j]? = some as[j] := List.getElem?_eq_getElem hj
    obtain ⟨hi, heq⟩ := List.getElem?_eq_some_iff.1 (heq.trans hlater)
    exact h j ⟨_, hlater, List.mem_take_iff_getElem.2 ⟨i, by omega, heq⟩⟩

/-- **The first member to repeat stands at the least place that repeats.** -/
theorem firstRepeated_iff_isLeast : FirstRepeated as a ↔ ∃ i, IsLeast (repeats as) i ∧ as[i]? = some a := by
  constructor
  · rintro ⟨before, after, rfl, hnodup, hmem⟩
    have hbefore : (before ++ a :: after).take before.length = before := List.take_left' rfl
    have hplace : (before ++ a :: after)[before.length]? = some a := by simp
    refine ⟨before.length, ⟨⟨a, hplace, hbefore.symm ▸ hmem⟩, fun j hj => ?_⟩, hplace⟩
    by_contra hlt
    have hearlier := (mem_repeats_take (Nat.lt_of_not_le hlt)).2 hj
    rw [hbefore] at hearlier
    exact nodup_iff_repeats.1 hnodup j hearlier
  · rintro ⟨i, ⟨⟨b, hb, hmem⟩, hleast⟩, ha⟩
    obtain rfl := Option.some.inj (hb.symm.trans ha)
    obtain ⟨hi, hget⟩ := List.getElem?_eq_some_iff.1 ha
    refine ⟨as.take i, as.drop (i + 1), ?_, nodup_iff_repeats.2 fun j hj => ?_, hmem⟩
    · rw [← hget, ← List.drop_eq_getElem_cons hi, List.take_append_drop]
    · -- a place of the part before would be less than the least one
      have hlt : j < i := by
        obtain ⟨c, hc, -⟩ := hj
        obtain ⟨hlength, -⟩ := List.getElem?_eq_some_iff.1 hc
        rw [List.length_take] at hlength
        omega
      have hle : i ≤ j := hleast ((mem_repeats_take hlt).1 hj)
      omega

end Places

/-! ## The two scans -/

section Scans

variable {names : List Identifier} {name : Identifier}

/-- The scan of a FROM clause finds the first column to repeat. -/
theorem firstDuplicate?_eq_some : firstDuplicate? names = some name ↔ FirstRepeated names name := by
  refine ⟨firstRepeated_of_firstDuplicate?, fun h => ?_⟩
  cases hscan : firstDuplicate? names with
  | none => exact absurd (firstDuplicate?_eq_none.1 hscan) h.not_nodup
  | some found =>
    have hfound := Definition.repeatedAfter?_iff.2 (firstRepeated_of_firstDuplicate? hscan)
    have hname := Definition.repeatedAfter?_iff.2 h
    exact hfound.symm.trans hname

/-- **The two scans agree**: they find the same column, or both find none. -/
theorem scans_agree (names : List Identifier) : firstDuplicate? names = repeatedAfter? [] names := by
  refine Option.ext fun name => ?_
  rw [firstDuplicate?_eq_some, Definition.repeatedAfter?_iff]

variable {id : RelationId} {columns : List Column}

/-- The catalog refuses the columns in which the scan of a FROM clause finds one, and reports the same one. -/
theorem ofColumns_eq_error : Definition.ofColumns id columns = .error (.duplicateColumn id name) ↔
    firstDuplicate? (columns.map Column.name) = some name := by
  rw [firstDuplicate?_eq_some]
  refine ⟨fun h => ?_, Definition.ofColumns_of_firstRepeated⟩
  rcases Definition.ofColumns_cases id columns with ⟨hnodup, hok⟩ | ⟨column, hfirst, herror⟩
  · cases hok.symm.trans h
  · cases herror.symm.trans h
    exact hfirst

/-- It makes a definition of those in which the scan finds none. -/
theorem exists_ofColumns_iff : (∃ d, Definition.ofColumns id columns = .ok d) ↔
    firstDuplicate? (columns.map Column.name) = none := by
  rw [firstDuplicate?_eq_none]
  constructor
  · rintro ⟨d, hd⟩
    rcases Definition.ofColumns_cases id columns with ⟨hnodup, -⟩ | ⟨column, -, herror⟩
    · exact hnodup
    · cases herror.symm.trans hd
  · exact fun hnodup => ⟨_, Definition.ofColumns_of_nodup hnodup⟩

end Scans

/-! ## Table references that keep the names of the columns -/

/-- A table reference gives no new names to columns. An alias for the table itself is no new name. -/
def KeepsNames (label : Option TableAlias) : Prop := ∀ a ∈ label, a.columns = []

end Lowering

/-- An error does not complain about a column that repeats. -/
def LoweringError.NotRepeated : LoweringError → Prop
  | .catalog (.duplicateColumn ..) => False
  | _ => True

namespace Lowering

open LoweringError (NotRepeated)

section References

variable {folding : Folding} {c : Catalog} {d : Definition} {label : Option TableAlias}

theorem identifier_notRepeated (n : Name) : FailsOnly NotRepeated (identifier folding n) :=
  .mapError (fun _ => trivial) _

theorem plainNames_notRepeated (name : ObjectName) : FailsOnly NotRepeated (plainNames name) := by
  refine .mapM (fun part => ?_) name
  cases part with
  | name n => exact .ok n
  | computed text => exact .error trivial

theorem relationId_notRepeated (name : ObjectName) : FailsOnly NotRepeated (relationId folding name) := by
  refine (plainNames_notRepeated name).bind fun names _ => ?_
  split
  · exact (identifier_notRepeated _).bind fun table _ => .ok _
  · exact (identifier_notRepeated _).bind fun schema _ => (identifier_notRepeated _).bind fun table _ => .ok _
  · exact .error trivial

theorem exposure_notRepeated : FailsOnly NotRepeated (exposure folding d label) := by
  cases label with
  | none => exact .ok _
  | some a =>
    refine (identifier_notRepeated a.name).bind fun exposed _ => ?_
    dsimp only
    split
    · exact .error trivial
    · exact (FailsOnly.mapM (fun column => identifier_notRepeated column.name) a.columns).bind fun new _ => .ok _

/-- Without new names the columns have those of the catalog. -/
theorem KeepsNames.columns_eq (h : KeepsNames label) {qualifier : Option RelationId} {columns : List Identifier}
    (hexposure : exposure folding d label = .ok (qualifier, columns)) : columns = d.columns.map Column.name := by
  cases label with
  | none =>
    cases hexposure
    rfl
  | some a =>
    obtain ⟨exposed, new, -, hnew, -, -, rfl⟩ := exposure_some_eq_ok.1 hexposure
    rw [h a rfl, List.forall₂_nil_left_iff] at hnew
    rw [hnew]
    rfl

/-- **A table reference that keeps the names** is never refused for a column that repeats: the catalog has looked at
its columns before. -/
theorem KeepsNames.placement (h : KeepsNames label) (c : Catalog) (name : ObjectName) :
    FailsOnly NotRepeated (placement c name label) := by
  refine (relationId_notRepeated name).bind fun reference _ => ?_
  cases c.get? reference with
  | none => exact .error trivial
  | some d =>
    refine exposure_notRepeated.bind ?_
    rintro ⟨qualifier, columns⟩ hexposure
    have hnodup : columns.Nodup := h.columns_eq hexposure ▸ d.distinct
    dsimp only
    rw [firstDuplicate?_eq_none.2 hnodup]
    exact .ok _

/-- So its leaf is not, either. -/
theorem KeepsNames.leaf (h : KeepsNames label) (c : Catalog) (name : ObjectName) (p : Progress) :
    FailsOnly NotRepeated (outcome (leaf c name label) p).1 := by
  obtain ⟨events, hleaf⟩ := outcome_leaf c name label p
  rw [hleaf]
  cases hplace : Lowering.placement c name label with
  | ok place => exact .ok _
  | error e => exact .error (h.placement c name e hplace)

/-- **The two checks for columns that repeat agree.** For any columns, the scan of a FROM clause finds a name exactly
when the catalog refuses a relation with these columns for that name, under any id; this is the name at the least place
that has an equal one before it. Where the scan finds none, the catalog makes a definition. Every definition in a
catalog is made so, and no table reference without new names for columns is refused for one that repeats, be there an
alias or not, over any catalog and from any supply. -/
theorem duplicate_columns (id : RelationId) (columns : List Column) (c : Catalog) :
    let names := columns.map Column.name
    (∀ name, firstDuplicate? names = some name ↔
      Definition.ofColumns id columns = .error (.duplicateColumn id name)) ∧
    (∀ name, firstDuplicate? names = some name ↔ ∃ i, IsLeast (repeats names) i ∧ names[i]? = some name) ∧
    (firstDuplicate? names = none ↔ ∃ d, Definition.ofColumns id columns = .ok d) ∧
    (∀ d ∈ c.definitions, Definition.ofColumns d.id d.columns = .ok d) ∧
    ∀ (reference : ObjectName) (label : Option TableAlias), KeepsNames label → ∀ (p : Progress) (R : RelationId)
      (name : Identifier), (outcome (leaf c reference label) p).1 ≠ .error (.catalog (.duplicateColumn R name)) := by
  intro names
  refine ⟨fun name => ofColumns_eq_error.symm, fun name => ?_, exists_ofColumns_iff.symm, fun d _ => ?_, ?_⟩
  · rw [firstDuplicate?_eq_some, firstRepeated_iff_isLeast]
  · exact Definition.ofColumns_of_nodup d.distinct
  · intro reference label hkeeps p R name herror
    exact hkeeps.leaf c reference p _ herror

end References

end Lowering

namespace Sample

open Lowering

/-- Of five columns the fourth is the first one to repeat, though the column that it equals stands behind the one that
the fifth equals. -/
def shelves : List Column := [shelf, desk, lamp, desk, shelf].map (⟨·, none, false⟩)

/-- A catalog with one relation, `LAMP(SHELF, DESK)`. -/
def lampCatalog : Catalog :=
  ((Catalog.empty .upper).declare [⟨none, "lamp", [⟨"shelf", none, false⟩, ⟨"desk", none, false⟩]⟩]).catalog

/-- The catalog reports the fourth column, and an alias of a table makes none repeat. -/
theorem duplicate_columns_shelves :
    Definition.ofColumns (.bare lamp) shelves = .error (.duplicateColumn (.bare lamp) desk) ∧
      (∃ i, IsLeast (repeats (shelves.map Column.name)) i ∧ (shelves.map Column.name)[i]? = some desk) ∧
      KeepsNames (some ⟨true, ⟨"l", none⟩, []⟩) ∧ ∀ p R name,
        (outcome (leaf lampCatalog [.name ⟨"lamp", none⟩] (some ⟨true, ⟨"l", none⟩, []⟩)) p).1 ≠
          .error (.catalog (.duplicateColumn R name)) := by
  have hfound : firstDuplicate? (shelves.map Column.name) = some desk := by decide
  have hkeeps : KeepsNames (some ⟨true, ⟨"l", none⟩, []⟩) := by
    rintro a ⟨⟩
    rfl
  obtain ⟨hsame, hleast, -, -, hleaf⟩ := duplicate_columns (.bare lamp) shelves lampCatalog
  exact ⟨(hsame desk).1 hfound, (hleast desk).1 hfound, hkeeps, hleaf _ _ hkeeps⟩

end Sample

namespace Lowering

open LoweringError (NotRepeated)

/-! ## Statements -/

/-- A source gives no new names to columns. -/
def SourceKeepsNames : TableFactor → Prop
  | .table _ _ label => KeepsNames label
  | .nested .. | .derived .. | .other .. => True

section Statements

variable {c : Catalog}

theorem usingColumn_notRepeated (folding : Folding) (name : ObjectName) :
    FailsOnly NotRepeated (usingColumn folding name) := by
  refine (plainNames_notRepeated name).bind fun names _ => ?_
  split
  · exact identifier_notRepeated _
  · exact .error trivial

theorem joinKind_notRepeated (folding : Folding) (operator : JoinOperator) :
    FailsOnly NotRepeated (joinKind folding operator) := by
  rw [joinKind]
  split
  · exact .ok _
  · exact .error trivial
  · exact .error trivial
  · split
    · exact .ok _
    · exact (FailsOnly.mapM (usingColumn_notRepeated folding) _).bind fun columns _ => .ok _
    · exact .ok _
    · exact .ok _

mutual

theorem factorPlan_notRepeated : ∀ source : TableFactor, (∀ f ∈ source.sources, SourceKeepsNames f) →
    FailsOnly NotRepeated (factorPlan c source)
  | .table name none label, h => by
    rw [TableFactor.sources, List.forall_mem_singleton] at h
    rw [factorPlan]
    exact (KeepsNames.placement h c name).bind fun place _ => .ok _
  | .table name (some _) _, _ => by
    rw [factorPlan]
    exact .error trivial
  | .nested item none, h => by
    rw [TableFactor.sources] at h
    rw [factorPlan]
    exact itemPlan_notRepeated item h
  | .nested _ (some label), _ => by
    rw [factorPlan]
    exact .error trivial
  | .derived .., _ => by
    rw [factorPlan]
    exact .error trivial
  | .other text label, _ => by
    rw [factorPlan]
    exact .error trivial

theorem itemPlan_notRepeated : ∀ item : TableItem, (∀ f ∈ item.sources, SourceKeepsNames f) →
    FailsOnly NotRepeated (itemPlan c item)
  | .factor source, h => by
    rw [TableItem.sources] at h
    rw [itemPlan]
    exact factorPlan_notRepeated source h
  | .join left operator right, h => by
    rw [TableItem.sources, List.forall_mem_append] at h
    rw [itemPlan]
    exact (itemPlan_notRepeated left h.1).bind fun l _ => (factorPlan_notRepeated right h.2).bind fun r _ =>
      (joinKind_notRepeated c.folding operator).bind fun kind _ => .ok _

end

/-- Items that are cross joined to a plan are refused for no column that repeats, if they keep the names. -/
theorem foldlM_notRepeated (rest : List TableItem) (h : ∀ f ∈ rest.flatMap TableItem.sources, SourceKeepsNames f)
    (first : Plan) : FailsOnly NotRepeated
      (rest.foldlM (fun t item => do return .join .cross t (← itemPlan c item)) first) := by
  induction rest generalizing first with
  | nil => exact .ok _
  | cons item rest ih =>
    rw [List.flatMap_cons, List.forall_mem_append] at h
    rw [List.foldlM_cons]
    exact ((itemPlan_notRepeated item h.1).bind fun t _ => .ok _).bind fun joined _ => ih h.2 joined

theorem itemsPlan_notRepeated (items : List TableItem)
    (h : ∀ f ∈ items.flatMap TableItem.sources, SourceKeepsNames f) :
    FailsOnly NotRepeated (itemsPlan c items) := by
  cases items with
  | nil => exact .error trivial
  | cons first rest =>
    rw [List.flatMap_cons, List.forall_mem_append] at h
    exact (itemPlan_notRepeated first h.1).bind fun t _ => foldlM_notRepeated rest h.2 t

theorem plainSelect_notRepeated (s : Statement) : FailsOnly NotRepeated (plainSelect s) := by
  rw [plainSelect.eq_def]
  split
  · split
    · exact .ok _
    · exact .error trivial
  · exact .error trivial

/-- **A statement is refused for a column that repeats only if one of its tables has new names for columns**, whatever
else it consists of. -/
theorem outcome_statement_keepsNames (s : Statement) (h : ∀ f ∈ s.sources, SourceKeepsNames f) (p : Progress) :
    FailsOnly NotRepeated (outcome (statement c s) p).1 := by
  obtain ⟨columns, events, houtcome, -⟩ := outcome_statement c s p
  have hplan : FailsOnly NotRepeated (statementPlan c s) := by
    refine (plainSelect_notRepeated s).bind fun query hquery => ?_
    rw [sources_eq_of_plainSelect hquery] at h
    exact itemsPlan_notRepeated query.items h
  rw [houtcome]
  exact hplan.bind fun plan _ => .mapError (fun _ => trivial) _

end Statements

end Lowering

end FromClause
