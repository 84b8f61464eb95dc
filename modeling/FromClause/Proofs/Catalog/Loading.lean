import FromClause.Catalog.Document
import FromClause.Proofs.Catalog.Additions
import FromClause.Proofs.Lowering.Placement
/-!
# Catalogs while they are loaded

A catalog changes by two calls: a relation is added, or the relations that a text declares are loaded. Either may fail,
and loading may fail half-way: at a name that is empty, at a column that repeats, or at a relation that is there
already, be it from before or from the same text (`Catalog.Refused`).

Whatever a call comes to, the catalog after it is the one before it with some definitions more, each of them as it was
given or declared (`perform_adds`). What can be said of many calls follows from this step: definitions that are there
stay as they are, and none is added in part. Which definitions a text adds is settled by its entries: those before the
first one that is refused, and it fails if there is such an entry (`loads_declare`).
-/

namespace FromClause

open Lowering (FirstRepeated)

/-! ## Columns that repeat -/

section Repeated

variable {seen names : List Identifier} {name : Identifier}

/-- The scan finds the first name that stands among those before it. -/
theorem repeatedAfter?_eq_some (hseen : seen.Nodup) : repeatedAfter? seen names = some name ↔
    ∃ before after, names = before ++ name :: after ∧ (before.reverse ++ seen).Nodup ∧
      name ∈ before.reverse ++ seen := by
  induction names generalizing seen with
  | nil =>
    refine ⟨nofun, ?_⟩
    rintro ⟨before, after, h, -⟩
    exact absurd h.symm (List.append_ne_nil_of_right_ne_nil before (List.cons_ne_nil name after))
  | cons first rest ih =>
    rw [repeatedAfter?]
    split
    next hfirst =>
      constructor
      · intro h
        cases h
        exact ⟨[], rest, rfl, hseen, hfirst⟩
      · rintro ⟨before, after, heq, hnodup, -⟩
        cases before with
        | nil =>
          obtain ⟨rfl, -⟩ := List.cons.inj heq
          rfl
        | cons b before =>
          -- the first name is among those seen, so nothing behind it is the first to repeat
          obtain ⟨rfl, -⟩ := List.cons.inj heq
          rw [List.reverse_cons, List.append_assoc] at hnodup
          exact absurd hfirst (List.nodup_cons.1 (List.nodup_append.1 hnodup).2.1).1
    next hfirst =>
      rw [ih (List.nodup_cons.2 ⟨hfirst, hseen⟩)]
      constructor
      · rintro ⟨before, after, rfl, hnodup, hmem⟩
        refine ⟨first :: before, after, rfl, ?_⟩
        rw [List.reverse_cons, List.append_assoc]
        exact ⟨hnodup, hmem⟩
      · rintro ⟨before, after, heq, hnodup, hmem⟩
        cases before with
        | nil =>
          obtain ⟨rfl, -⟩ := List.cons.inj heq
          exact absurd hmem hfirst
        | cons b before =>
          obtain ⟨rfl, rfl⟩ := List.cons.inj heq
          rw [List.reverse_cons, List.append_assoc] at hnodup hmem
          exact ⟨before, after, rfl, hnodup, hmem⟩

end Repeated

/-- A list with a member that repeats has a member twice. -/
theorem Lowering.FirstRepeated.not_nodup {α : Type} {as : List α} {a : α} (h : FirstRepeated as a) : ¬as.Nodup := by
  obtain ⟨before, after, rfl, -, hmem⟩ := h
  exact fun hnodup => (List.nodup_append.1 hnodup).2.2 a hmem a List.mem_cons_self rfl

namespace Definition

variable {id : RelationId} {columns : List Column} {column : Identifier}

/-- Columns that repeat are found by the scan. -/
theorem repeatedAfter?_iff {names : List Identifier} {name : Identifier} :
    repeatedAfter? [] names = some name ↔ FirstRepeated names name := by
  rw [repeatedAfter?_eq_some .nil]
  simp only [List.append_nil, List.nodup_reverse, List.mem_reverse]
  rfl

theorem ofColumns_of_nodup (h : (columns.map Column.name).Nodup) : ofColumns id columns = .ok ⟨id, columns, h⟩ := by
  unfold ofColumns
  split
  next name hname => exact absurd h (repeatedAfter?_iff.1 hname).not_nodup
  next => rfl

theorem ofColumns_of_firstRepeated (h : FirstRepeated (columns.map Column.name) column) :
    ofColumns id columns = .error (.duplicateColumn id column) := by
  rw [← repeatedAfter?_iff] at h
  unfold ofColumns
  split
  next name hname =>
    obtain rfl := Option.some.inj (h.symm.trans hname)
    rfl
  next hnone => cases h.symm.trans hnone

/-- **A definition is made of columns** exactly when none of them repeats; the first one to do so is reported. -/
theorem ofColumns_cases (id : RelationId) (columns : List Column) :
    (∃ h : (columns.map Column.name).Nodup, ofColumns id columns = .ok ⟨id, columns, h⟩) ∨
      ∃ column, FirstRepeated (columns.map Column.name) column ∧
        ofColumns id columns = .error (.duplicateColumn id column) := by
  cases hscan : repeatedAfter? [] (columns.map Column.name) with
  | none =>
    have hnodup := (nodup_of_repeatedAfter?_eq_none hscan).1
    exact .inl ⟨hnodup, ofColumns_of_nodup hnodup⟩
  | some column =>
    have hfirst := repeatedAfter?_iff.1 hscan
    exact .inr ⟨column, hfirst, ofColumns_of_firstRepeated hfirst⟩

end Definition

/-! ## Entries -/

/-- A declared column is read: its name is one, and the rest is as declared. -/
structure ColumnDeclaration.Reads (folding : Folding) (entry : ColumnDeclaration) (column : Column) : Prop where
  /-- The name is read. -/
  name : folding.read entry.name = .ok column.name
  /-- The type is the declared one. -/
  type : column.type = entry.type
  /-- Values may be missing if declared so. -/
  nullable : column.nullable = entry.nullable

namespace Declaration

/-- The names in an entry, as they are written. -/
def texts (entry : Declaration) : List String :=
  entry.schema.toList ++ entry.name :: entry.columns.map ColumnDeclaration.name

/-- **The names of an entry are read**: the entry declares a relation with this id and these columns. -/
structure Reads (folding : Folding) (entry : Declaration) (id : RelationId) (columns : List Column) : Prop where
  /-- There is a schema if one is declared. -/
  schema : Option.Rel (fun text name => folding.read text = .ok name) entry.schema id.schema
  /-- The table has the declared name. -/
  table : folding.read entry.name = .ok id.table
  /-- The columns are those declared, in their order. -/
  columns : List.Forall₂ (ColumnDeclaration.Reads folding) entry.columns columns

variable {folding : Folding} {entry : Declaration} {id id' : RelationId} {columns columns' : List Column}

theorem column_eq_ok {entry : ColumnDeclaration} {column : Column} :
    entry.column folding = .ok column ↔ entry.Reads folding column := by
  rw [ColumnDeclaration.column, bind_eq_ok]
  constructor
  · rintro ⟨name, hname, h⟩
    cases h
    exact ⟨hname, rfl, rfl⟩
  · rintro ⟨hname, htype, hnullable⟩
    refine ⟨column.name, hname, ?_⟩
    rw [← htype, ← hnullable]
    rfl

theorem readRelation_eq_ok {schema : Option String} {table : String} : folding.readRelation schema table = .ok id ↔
    Option.Rel (fun text name => folding.read text = .ok name) schema id.schema ∧
      folding.read table = .ok id.table := by
  rw [Folding.readRelation, bind_eq_ok]
  constructor
  · rintro ⟨schemaName, hschema, h⟩
    obtain ⟨tableName, htable, h⟩ := bind_eq_ok.1 h
    cases h
    exact ⟨optionMapM_eq_ok.1 hschema, htable⟩
  · rintro ⟨hschema, htable⟩
    exact ⟨id.schema, optionMapM_eq_ok.2 hschema, bind_eq_ok.2 ⟨id.table, htable, rfl⟩⟩

/-- Texts that can all be read are read side by side. -/
theorem exists_forall₂_reads {entries : List ColumnDeclaration}
    (h : ∀ entry ∈ entries, ∃ name, folding.read entry.name = .ok name) :
    ∃ columns, List.Forall₂ (ColumnDeclaration.Reads folding) entries columns := by
  induction entries with
  | nil => exact ⟨[], .nil⟩
  | cons entry rest ih =>
    obtain ⟨⟨name, hname⟩, hrest⟩ := List.forall_mem_cons.1 h
    obtain ⟨columns, hcolumns⟩ := ih hrest
    exact ⟨⟨name, entry.type, entry.nullable⟩ :: columns, .cons ⟨hname, rfl, rfl⟩ hcolumns⟩

/-- **An entry is read when each of its names is.** -/
theorem exists_reads_iff :
    (∃ id columns, entry.Reads folding id columns) ↔ ∀ text ∈ entry.texts, ∃ name, folding.read text = .ok name := by
  simp only [texts, List.forall_mem_append, List.forall_mem_cons, List.forall_mem_map, Option.mem_toList]
  constructor
  · rintro ⟨id, columns, hschema, htable, hcolumns⟩
    refine ⟨?_, ⟨id.table, htable⟩, fun column hcolumn => ?_⟩
    · intro text htext
      rw [htext] at hschema
      generalize id.schema = schema at hschema
      cases hschema with
      | some hname => exact ⟨_, hname⟩
    · obtain ⟨read, -, hread⟩ := exists_of_mem_forall₂ hcolumns.flip hcolumn
      exact ⟨read.name, hread.name⟩
  · rintro ⟨hschema, ⟨table, htable⟩, hcolumns⟩
    obtain ⟨columns, hcolumns⟩ := exists_forall₂_reads hcolumns
    cases hdeclared : entry.schema with
    | none => exact ⟨.bare table, columns, hdeclared ▸ .none, htable, hcolumns⟩
    | some text =>
      obtain ⟨schema, hname⟩ := hschema text hdeclared
      exact ⟨⟨some schema, table⟩, columns, hdeclared ▸ .some hname, htable, hcolumns⟩

namespace Reads

/-- What an entry declares is settled. -/
theorem unique (h : entry.Reads folding id columns) (h' : entry.Reads folding id' columns') :
    id = id' ∧ columns = columns' := by
  constructor
  · exact Except.ok.inj ((readRelation_eq_ok.2 ⟨h.schema, h.table⟩).symm.trans
      (readRelation_eq_ok.2 ⟨h'.schema, h'.table⟩))
  · have hmap := mapM_eq_ok.2 (h.columns.imp fun _ _ => column_eq_ok.2)
    exact Except.ok.inj (hmap.symm.trans (mapM_eq_ok.2 (h'.columns.imp fun _ _ => column_eq_ok.2)))

/-- An entry that is read makes a definition of its columns. -/
theorem definition_eq (h : entry.Reads folding id columns) :
    entry.definition folding = Definition.ofColumns id columns := by
  have hmap := mapM_eq_ok.2 (h.columns.imp fun _ _ => column_eq_ok.2)
  rw [definition, readRelation_eq_ok.2 ⟨h.schema, h.table⟩, hmap]
  rfl

end Reads

/-- **What an entry comes to**: the definition that it declares, or the error that one of its names is empty. -/
theorem definition_cases (folding : Folding) (entry : Declaration) :
    (∃ id columns, entry.Reads folding id columns ∧ entry.definition folding = Definition.ofColumns id columns) ∨
      (∃ text ∈ entry.texts, ∀ name, folding.read text ≠ .ok name) ∧
        entry.definition folding = .error (.name .empty) := by
  by_cases hread : ∃ id columns, entry.Reads folding id columns
  · obtain ⟨id, columns, h⟩ := hread
    exact .inl ⟨id, columns, h, h.definition_eq⟩
  · refine .inr ⟨?_, ?_⟩
    · rw [exists_reads_iff] at hread
      simpa using hread
    · -- there is one error of names, and one of the two steps that read names fails
      rw [definition]
      cases hid : folding.readRelation entry.schema entry.name with
      | error e =>
        cases e
        rfl
      | ok id =>
        cases hcolumns : entry.columns.mapM (ColumnDeclaration.column folding) with
        | error e =>
          cases e
          rfl
        | ok columns =>
          obtain ⟨hschema, htable⟩ := readRelation_eq_ok.1 hid
          exact absurd ⟨id, columns, hschema, htable, (mapM_eq_ok.1 hcolumns).imp fun _ _ => column_eq_ok.1⟩ hread

end Declaration

namespace Catalog

/-! ## Entries that are refused -/

/-- An id is taken where an entry stands: a definition of the catalog has it, or an entry before this one declares
it. -/
def Taken (c : Catalog) (before : List Declaration) (id : RelationId) : Prop :=
  (∃ d ∈ c.definitions, d.id = id) ∨ ∃ earlier ∈ before, ∃ columns, earlier.Reads c.folding id columns

/-- **An entry is refused** by a catalog, behind some other entries. -/
inductive Refused (c : Catalog) (before : List Declaration) (entry : Declaration) : CatalogError → Prop
  /-- One of its names is empty once it is normalised. -/
  | name {text : String} :
    text ∈ entry.texts → (∀ name, c.folding.read text ≠ .ok name) → Refused c before entry (.name .empty)
  /-- A column of it repeats. -/
  | column {id : RelationId} {columns : List Column} {column : Identifier} :
    entry.Reads c.folding id columns → FirstRepeated (columns.map Column.name) column →
      Refused c before entry (.duplicateColumn id column)
  /-- The relation is there already. -/
  | relation {id : RelationId} {columns : List Column} :
    entry.Reads c.folding id columns → (columns.map Column.name).Nodup → c.Taken before id →
      Refused c before entry (.duplicateRelation id)

/-- None of the entries is refused behind those before it. -/
def Admits (c : Catalog) (entries : List Declaration) : Prop :=
  ∀ before entry after error, entries = before ++ entry :: after → ¬c.Refused before entry error

section Entries

variable {c c₁ c' : Catalog} {before entries : List Declaration} {entry : Declaration} {d : Definition}
  {ds : List Definition} {error : CatalogError}

/-- Entries declare definitions, one beside the other. -/
def Declared (folding : Folding) : List Declaration → List Definition → Prop :=
  List.Forall₂ fun entry d => entry.Reads folding d.id d.columns

/-- **Entries whose definitions are added are admitted**: the names of each are read, no column of it repeats, and its
id is free. -/
theorem admits_of_addAll (hdeclared : Declared c.folding entries ds) (hadd : c.addAll ds = .ok c') :
    c.Admits entries := by
  rintro before entry after error rfl hrefused
  obtain ⟨hnodup, hfree, -⟩ := spec_of_addAll hadd
  obtain ⟨front, back, rfl, hfront, hback⟩ := exists_append_of_forall₂ hdeclared
  obtain ⟨d, back, hd, -, rfl⟩ := List.forall₂_cons_left_iff.1 hback
  cases hrefused with
  | name htext hnone =>
    obtain ⟨name, hname⟩ := Declaration.exists_reads_iff.1 ⟨_, _, hd⟩ _ htext
    exact hnone name hname
  | column hreads hfirst =>
    obtain ⟨-, rfl⟩ := hreads.unique hd
    exact hfirst.not_nodup d.distinct
  | relation hreads _ htaken =>
    obtain ⟨rfl, -⟩ := hreads.unique hd
    rcases htaken with ⟨d', hd', hid⟩ | ⟨earlier, hearlier, columns, hread⟩
    · exact hfree d (List.mem_append_right _ List.mem_cons_self) d' hd' hid
    · -- the definition of the earlier entry stands before this one and has its id
      obtain ⟨d', hd', hread'⟩ := exists_of_mem_forall₂ hfront.flip hearlier
      have hid : d.id = d'.id := (hread.unique hread').1
      rw [List.map_append, List.map_cons] at hnodup
      exact (List.nodup_append.1 hnodup).2.2 d'.id (List.mem_map_of_mem hd') d.id List.mem_cons_self hid.symm

/-- What a catalog refuses with a definition more, the smaller one refuses behind the entry for it. -/
theorem Refused.of_add (hread : entry.Reads c.folding d.id d.columns) (hadd : c.add d = .ok c₁)
    {refused : Declaration} (h : c₁.Refused before refused error) : c.Refused (entry :: before) refused error := by
  obtain ⟨-, hfolding, hmem⟩ := add_eq_ok.1 hadd
  cases h with
  | name htext hnone => exact .name htext (hfolding ▸ hnone)
  | column hreads hfirst => exact .column (hfolding ▸ hreads) hfirst
  | relation hreads hnodup htaken =>
    refine .relation (hfolding ▸ hreads) hnodup ?_
    rw [Taken, hfolding] at htaken
    rcases htaken with ⟨d', hd', rfl⟩ | ⟨earlier, hearlier, hread'⟩
    · rcases (hmem d').1 hd' with hd' | rfl
      · exact .inl ⟨d', hd', rfl⟩
      · exact .inr ⟨entry, List.mem_cons_self, _, hread⟩
    · exact .inr ⟨earlier, List.mem_cons_of_mem _ hearlier, hread'⟩

end Entries

/-! ## Calls -/

/-- A call that may change a catalog. -/
inductive Call where
  /-- A relation with some columns is added. -/
  | add (id : RelationId) (columns : List Column)
  /-- The relations that a text declares are loaded. -/
  | load (text : String)

/-- Why a call fails. -/
inductive CallError where
  /-- The text is no catalog document. -/
  | malformed
  /-- A relation is kept out. -/
  | refused (error : CatalogError)
  deriving DecidableEq

/-- What a call comes to. -/
structure Reply where
  /-- The catalog after the call. -/
  catalog : Catalog
  /-- The failure, if there is one. -/
  failure : Option CallError

/-- The reply to a text whose relations were loaded. -/
def Loaded.reply (loaded : Loaded) : Reply := ⟨loaded.catalog, loaded.failure.map .refused⟩

/-- What a call comes to in a catalog. -/
def perform (c : Catalog) : Call → Reply
  | .add id columns =>
    match Definition.ofColumns id columns >>= c.add with
    | .ok c' => ⟨c', none⟩
    | .error e => ⟨c, some (.refused e)⟩
  | .load text =>
    match c.load? text with
    | some loaded => loaded.reply
    | none => ⟨c, some .malformed⟩

/-- The catalog after some calls, those that fail included. -/
def after (c : Catalog) (calls : List Call) : Catalog := calls.foldl (fun c call => (c.perform call).catalog) c

/-- A definition is what a call gives, or what an entry of its text declares. -/
def Call.Offers (folding : Folding) (d : Definition) : Call → Prop
  | .add id columns => d.id = id ∧ d.columns = columns
  | .load text => ∃ entries, Declaration.listOfText? text = some entries ∧
      ∃ entry ∈ entries, entry.Reads folding d.id d.columns

/-- **What loading some entries comes to.** -/
structure Loads (c : Catalog) (entries : List Declaration) (reply : Reply) : Prop where
  /-- The definitions of the entries before the first one that is refused are added in order. -/
  added : ∃ before rest ds, entries = before ++ rest ∧ c.Admits before ∧ Declared c.folding before ds ∧
    c.addAll ds = .ok reply.catalog ∧
      (rest = [] ∨ ∃ entry after error, rest = entry :: after ∧ c.Refused before entry error ∧
        reply.failure = some (.refused error))
  /-- It fails if there is such an entry. -/
  fails : reply.failure ≠ none ↔
    ∃ before entry after error, entries = before ++ entry :: after ∧ c.Refused before entry error

section Calls

variable {c : Catalog} {d : Definition} {calls : List Call}

/-- **What becomes of the first entry**: it is refused, and nothing is added, or its definition is added and loading
goes on behind it. -/
theorem declare_cons (c : Catalog) (entry : Declaration) (rest : List Declaration) :
    let loaded := c.declare (entry :: rest)
    (∃ error, c.Refused [] entry error ∧ loaded.catalog = c ∧ loaded.failure = some error) ∨
      ∃ d c₁, entry.Reads c.folding d.id d.columns ∧ c.add d = .ok c₁ ∧
        loaded.catalog = (c₁.declare rest).catalog ∧ loaded.failure = (c₁.declare rest).failure := by
  intro loaded
  have hloaded : loaded = c.declare (entry :: rest) := rfl
  rw [declare] at hloaded
  rcases Declaration.definition_cases c.folding entry with
    ⟨id, columns, hread, hdefinition⟩ | ⟨⟨text, htext, hnone⟩, hdefinition⟩
  · rcases Definition.ofColumns_cases id columns with ⟨hnodup, hd⟩ | ⟨column, hfirst, hrepeats⟩
    · rw [hdefinition, hd] at hloaded
      dsimp only at hloaded
      cases hadd : c.add ⟨id, columns, hnodup⟩ with
      | error error =>
        obtain ⟨htaken, rfl⟩ := add_eq_error.1 hadd
        rw [hadd] at hloaded
        rw [hloaded]
        exact .inl ⟨_, .relation hread hnodup (.inl htaken), rfl, rfl⟩
      | ok c₁ =>
        rw [hadd] at hloaded
        rw [hloaded]
        exact .inr ⟨_, c₁, hread, hadd, rfl, rfl⟩
    · rw [hdefinition, hrepeats] at hloaded
      rw [hloaded]
      exact .inl ⟨_, .column hread hfirst, rfl, rfl⟩
  · rw [hdefinition] at hloaded
    rw [hloaded]
    exact .inl ⟨_, .name htext hnone, rfl, rfl⟩

/-- Entries are added up to the first one that is refused. -/
theorem exists_added (c : Catalog) (entries : List Declaration) :
    ∃ before rest ds, entries = before ++ rest ∧ Declared c.folding before ds ∧
      c.addAll ds = .ok (c.declare entries).catalog ∧
        (rest = [] ∧ (c.declare entries).failure = none ∨
          ∃ entry after error, rest = entry :: after ∧ c.Refused before entry error ∧
            (c.declare entries).failure = some error) := by
  induction entries generalizing c with
  | nil => exact ⟨[], [], [], rfl, .nil, rfl, .inl ⟨rfl, rfl⟩⟩
  | cons entry rest ih =>
    rcases declare_cons c entry rest with ⟨error, hrefused, hcatalog, hfailure⟩ | ⟨d, c₁, hread, hadd, hcatalog, hfailure⟩
    · exact ⟨[], entry :: rest, [], rfl, .nil, congrArg Except.ok hcatalog.symm,
        .inr ⟨entry, rest, error, rfl, hrefused, hfailure⟩⟩
    · obtain ⟨-, hfolding, -⟩ := add_eq_ok.1 hadd
      obtain ⟨before, behind, ds, rfl, hdeclared, hall, hend⟩ := ih c₁
      rw [hcatalog, hfailure]
      refine ⟨entry :: before, behind, d :: ds, rfl, .cons hread (hfolding ▸ hdeclared), ?_, ?_⟩
      · rw [addAll_cons, hadd]
        exact hall
      · refine hend.imp_right ?_
        rintro ⟨refused, after, error, hbehind, hrefused, hfailure⟩
        exact ⟨refused, after, error, hbehind, hrefused.of_add hread hadd, hfailure⟩

/-- **Entries are loaded** up to the first one that is refused. -/
theorem loads_declare (c : Catalog) (entries : List Declaration) : c.Loads entries (c.declare entries).reply := by
  obtain ⟨before, rest, ds, rfl, hdeclared, hadd, hend⟩ := exists_added c entries
  have hadmits := admits_of_addAll hdeclared hadd
  refine ⟨⟨before, rest, ds, rfl, hadmits, hdeclared, hadd, ?_⟩, ?_⟩
  · rcases hend with ⟨rfl, -⟩ | ⟨entry, after, error, rfl, hrefused, hfailure⟩
    · exact .inl rfl
    · exact .inr ⟨entry, after, error, rfl, hrefused, congrArg (Option.map CallError.refused) hfailure⟩
  · rcases hend with ⟨rfl, hfailure⟩ | ⟨entry, after, error, rfl, hrefused, hfailure⟩
    · rw [Loaded.reply, hfailure, List.append_nil]
      refine ⟨fun h => absurd rfl h, ?_⟩
      rintro ⟨front, entry, after, error, heq, hrefused⟩
      exact absurd hrefused (hadmits front entry after error heq)
    · rw [Loaded.reply, hfailure]
      exact ⟨fun _ => ⟨before, entry, after, error, rfl, hrefused⟩, fun _ => nofun⟩

/-- **Every call adds definitions**, and changes nothing else: those of a relation that is added or of the entries of a
text that are loaded, and none if it fails before. -/
theorem perform_adds (c : Catalog) (call : Call) :
    ∃ ds, c.addAll ds = .ok (c.perform call).catalog ∧ ∀ d ∈ ds, call.Offers c.folding d := by
  cases call with
  | add id columns =>
    rw [perform]
    cases hadd : Definition.ofColumns id columns >>= c.add with
    | error e => exact ⟨[], rfl, List.forall_mem_nil _⟩
    | ok c' =>
      obtain ⟨d, hd, hadd⟩ := bind_eq_ok.1 hadd
      refine ⟨[d], ?_, List.forall_mem_singleton.2 ?_⟩
      · rw [addAll_cons, hadd]
        rfl
      · rcases Definition.ofColumns_cases id columns with ⟨hnodup, hok⟩ | ⟨column, -, herror⟩
        · obtain rfl := Except.ok.inj (hok.symm.trans hd)
          exact ⟨rfl, rfl⟩
        · cases herror.symm.trans hd
  | load text =>
    rw [perform, load?]
    cases hentries : Declaration.listOfText? text with
    | none => exact ⟨[], rfl, List.forall_mem_nil _⟩
    | some entries =>
      obtain ⟨before, rest, ds, rfl, hdeclared, hadd, -⟩ := exists_added c entries
      refine ⟨ds, hadd, fun d hd => ?_⟩
      obtain ⟨entry, hentry, hread⟩ := exists_of_mem_forall₂ hdeclared hd
      exact ⟨_, hentries, entry, List.mem_append_left _ hentry, hread⟩

/-- So do many calls. -/
theorem after_adds (c : Catalog) (calls : List Call) :
    ∃ ds, c.addAll ds = .ok (c.after calls) ∧ ∀ d ∈ ds, ∃ call ∈ calls, call.Offers c.folding d := by
  induction calls generalizing c with
  | nil => exact ⟨[], rfl, List.forall_mem_nil _⟩
  | cons call rest ih =>
    obtain ⟨ds, hadd, hoffers⟩ := perform_adds c call
    obtain ⟨more, hmore, hothers⟩ := ih (c.perform call).catalog
    obtain ⟨-, -, hfolding, -⟩ := spec_of_addAll hadd
    refine ⟨ds ++ more, ?_, List.forall_mem_append.2 ⟨fun d hd => ?_, fun d hd => ?_⟩⟩
    · rw [addAll, List.foldlM_append]
      exact bind_eq_ok.2 ⟨_, hadd, hmore⟩
    · exact ⟨call, List.mem_cons_self, hoffers d hd⟩
    · obtain ⟨other, hother, hoffer⟩ := hothers d hd
      exact ⟨other, List.mem_cons_of_mem _ hother, hfolding ▸ hoffer⟩

/-- What a catalog holds after some calls was there before, or is as one of the calls gave it. -/
theorem get?_or_offers_of_after {id : RelationId} (h : (c.after calls).relations.get? id = some d) :
    c.relations.get? id = some d ∨ ∃ call ∈ calls, call.Offers c.folding d := by
  obtain ⟨ds, hadd, hoffers⟩ := after_adds c calls
  obtain ⟨-, -, -, hall⟩ := spec_of_addAll hadd
  obtain ⟨hmem, hid⟩ := get?_relations_eq_some.1 h
  rcases (hall d).1 hmem with hold | hnew
  · exact .inl (get?_relations_eq_some.2 ⟨hold, hid⟩)
  · exact .inr (hoffers d hnew)

/-- **What a catalog holds is still there after any calls**, unchanged. -/
theorem get?_after {id : RelationId} (h : c.relations.get? id = some d) (calls : List Call) :
    (c.after calls).relations.get? id = some d := by
  obtain ⟨ds, hadd, -⟩ := after_adds c calls
  obtain ⟨-, -, -, hall⟩ := spec_of_addAll hadd
  obtain ⟨hmem, hid⟩ := get?_relations_eq_some.1 h
  exact get?_relations_eq_some.2 ⟨(hall d).2 (.inl hmem), hid⟩

/-- A relation is added exactly when its columns do not repeat and its id is free. Then it joins the others as it is
given, and else the catalog stays as it is. -/
theorem perform_add (c : Catalog) (id : RelationId) (columns : List Column) :
    let reply := c.perform (.add id columns)
    (reply.failure = none ↔ (columns.map Column.name).Nodup ∧ c.relations.get? id = none) ∧
      (reply.failure = none → ∀ d, d ∈ reply.catalog.definitions ↔
        d ∈ c.definitions ∨ d.id = id ∧ d.columns = columns) ∧
      (reply.failure ≠ none → reply.catalog = c) := by
  intro reply
  have hreply : reply = c.perform (.add id columns) := rfl
  rw [perform] at hreply
  rcases Definition.ofColumns_cases id columns with ⟨hnodup, hd⟩ | ⟨column, hfirst, herror⟩
  · rw [hd, ok_bind] at hreply
    rw [and_iff_right hnodup, get?_relations_eq_none]
    cases hadd : c.add ⟨id, columns, hnodup⟩ with
    | error e =>
      obtain ⟨⟨d, hd, hid⟩, -⟩ := add_eq_error.1 hadd
      rw [hadd] at hreply
      rw [hreply]
      exact ⟨⟨nofun, fun hfree => absurd hid (hfree d hd)⟩, nofun, fun _ => rfl⟩
    | ok c' =>
      obtain ⟨hfree, -, hmem⟩ := add_eq_ok.1 hadd
      rw [hadd] at hreply
      rw [hreply]
      refine ⟨⟨fun _ => hfree, fun _ => rfl⟩, fun _ d => ?_, fun h => absurd rfl h⟩
      have heq : d = ⟨id, columns, hnodup⟩ ↔ d.id = id ∧ d.columns = columns := by
        obtain ⟨id', columns', -⟩ := d
        rw [Definition.mk.injEq]
      rw [hmem, heq]
  · rw [herror, error_bind] at hreply
    rw [hreply]
    exact ⟨⟨nofun, fun h => absurd h.1 hfirst.not_nodup⟩, nofun, fun _ => rfl⟩

/-- A text is loaded entry by entry, if it is a catalog document. -/
theorem perform_load (c : Catalog) (text : String) :
    let reply := c.perform (.load text)
    (∀ entries, Declaration.listOfText? text = some entries → c.Loads entries reply) ∧
      (Declaration.listOfText? text = none → reply = ⟨c, some .malformed⟩) := by
  intro reply
  have hreply : reply = c.perform (.load text) := rfl
  rw [perform, load?] at hreply
  constructor
  · intro entries h
    rw [hreply, h]
    exact loads_declare c entries
  · intro h
    rw [hreply, h]
    rfl

/-- **The catalog never loses, replaces or half-adds a relation.** Take any catalog after any calls, those that fail
included. A relation in it stands under its own id, its columns have different names, and it was there before or is
as a call gave it. It is there unchanged after any further calls. A relation is added exactly when its columns do not
repeat and its id is free; then it joins the others as it is given, and else the catalog stays as it is. A text adds
the relations of its entries before the first one that is refused, and fails exactly when there is one. A text that is
no catalog document adds nothing. -/
theorem relations_after (c : Catalog) (calls : List Call) :
    let now := c.after calls
    (∀ id d, now.relations.get? id = some d → d.id = id ∧ (d.columns.map Column.name).Nodup ∧
      (c.relations.get? id = some d ∨ ∃ call ∈ calls, call.Offers c.folding d)) ∧
    (∀ more id d, now.relations.get? id = some d → (c.after (calls ++ more)).relations.get? id = some d) ∧
    (∀ id columns, let reply := now.perform (.add id columns)
      (reply.failure = none ↔ (columns.map Column.name).Nodup ∧ now.relations.get? id = none) ∧
        (reply.failure = none → ∀ d, d ∈ reply.catalog.definitions ↔
          d ∈ now.definitions ∨ d.id = id ∧ d.columns = columns) ∧
        (reply.failure ≠ none → reply.catalog = now)) ∧
    ∀ text, let reply := now.perform (.load text)
      (∀ entries, Declaration.listOfText? text = some entries → now.Loads entries reply) ∧
        (Declaration.listOfText? text = none → reply = ⟨now, some .malformed⟩) := by
  intro now
  refine ⟨fun id d h => ?_, fun more id d h => ?_, perform_add now, perform_load now⟩
  · exact ⟨(get?_relations_eq_some.1 h).2, d.distinct, get?_or_offers_of_after h⟩
  · have hafter : c.after (calls ++ more) = now.after more := List.foldl_append
    rw [hafter]
    exact get?_after h more

end Calls

/-- The third entry names the relation of the first in other letters, so the fourth one is not read any more. -/
example :
    let reply := (empty .upper).perform (.load
      "relations: [{name: staff, columns: [id]}, {name: grade}, {name: Staff}, {name: salary}]")
    reply.catalog.definitions.map (·.id.text) = ["GRADE", "STAFF"] ∧
      reply.failure = some (.refused (.duplicateRelation (.bare ⟨"STAFF", by decide⟩))) := by
  decide +kernel

end Catalog

end FromClause
