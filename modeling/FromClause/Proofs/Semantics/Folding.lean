import FromClause.Proofs.Semantics.Rows
/-!
# Folding keeps the meaning

The atoms of a folded tree are all true under an assignment exactly when the rows that the assignment gives
are in the result of the tree (`holds_source_iff`). The step is one join: whatever its kind, the atoms that it
adds to those of its two sides say that it keeps the rows of the two sides together. For a condition this is
the reading of its columns over the cross join, for USING and for natural joins the choice of one variable for
a column on either side.
-/

namespace FromClause

open Sql

variable {V : Type} [Ord V]

/-- All atoms of a source are true. -/
def Expression.Holds (D : Database V) (ν : Variable → Cell V) (e : Expression) : Prop :=
  ∀ a ∈ e.atoms, a.truthValue D (D.termValue ν) = .yes

variable {D : Database V} {ν : Variable → Cell V}

namespace Expression

variable {x y : Expression} {atoms : List Atom} {bound : List (Identifier × Variable)}

theorem holds_product : (product x y).Holds D ν ↔ x.Holds D ν ∧ y.Holds D ν :=
  List.forall_mem_append

theorem holds_extend :
    (x.extend atoms bound).Holds D ν ↔
      x.Holds D ν ∧ ∀ a ∈ atoms, a.truthValue D (D.termValue ν) = .yes :=
  List.forall_mem_append

end Expression

/-! ## Leaves -/

/-- The atom of a leaf says that the leaf has the row. -/
theorem Leaf.holds_expression (l : Leaf) :
    l.expression.Holds D ν ↔
      D.rows (.ofRelation l.relation l.columns.length) (l.columns.map fun c => ν c.2) = true := by
  rw [Expression.Holds, l.expression_atoms, List.forall_mem_singleton, Formula.truthValue,
    Truth.ofBool_eq_yes, List.map_map]
  exact Iff.rfl

namespace JoinTree

/-! ## Merged columns -/

section Merged

variable {κ : Type} {left right : JoinTree Leaf κ} {l r : Leaf} {c : Identifier} {v w : Variable}

/-- Two sides agree on a column that one leaf of each exposes when its two variables are equal. -/
theorem agree_rows_iff (hdl : left.Distinct) (hdr : right.Distinct) (hl : left.exposing c = [l])
    (hr : right.exposing c = [r]) (hv : (c, v) ∈ l.columns) (hw : (c, w) ∈ r.columns) :
    Agree (left.rows ν) (right.rows ν) c ↔
      (Formula.equality (.var v) (.var w)).truthValue D (D.termValue ν) = .yes := by
  have hreadl : read? (left.rows ν) (.bare c) = some (ν v) :=
    read?_rows hdl (having_bare.trans hl) hv
  have hreadr : read? (right.rows ν) (.bare c) = some (ν w) :=
    read?_rows hdr (having_bare.trans hr) hw
  constructor
  · rintro ⟨x, y, hx, hy, heq⟩
    obtain rfl : ν v = x := Option.some_inj.1 (hreadl.symm.trans hx)
    obtain rfl : ν w = y := Option.some_inj.1 (hreadr.symm.trans hy)
    exact heq
  · exact fun heq => ⟨ν v, ν w, hreadl, hreadr, heq⟩

/-- **The equalities of USING** say that the two sides agree on every listed column. -/
theorem equalities_eq_yes_iff [JoinCondition κ] {x y : Expression} {columns : List Identifier}
    {pairs : List (Identifier × Variable × Variable)} (hdl : left.Distinct) (hdr : right.Distinct)
    (hx : left.source = .ok x) (hy : right.source = .ok y)
    (hcolumns : ∀ c ∈ columns, Expression.Joinable x y c)
    (hpairs : Expression.Pairs x y columns pairs) :
    (∀ a ∈ Expression.equalities pairs, a.truthValue D (D.termValue ν) = .yes) ↔
      ∀ c ∈ columns, Agree (left.rows ν) (right.rows ν) c := by
  -- a pair of variables stands for the column in the only leaf on either side
  have agree : ∀ c v w, (c, v, w) ∈ pairs → (Agree (left.rows ν) (right.rows ν) c ↔
      (Formula.equality (.var v) (.var w)).truthValue D (D.termValue ν) = .yes) := by
    intro c v w hp
    obtain ⟨hc, hv, hw⟩ := hpairs.mem_iff.1 hp
    obtain ⟨hlenl, hlenr⟩ := (joinable_source hdl hdr hx hy).1 (hcolumns c hc)
    obtain ⟨l, hl⟩ := List.length_eq_one_iff.1 hlenl
    obtain ⟨r, hr⟩ := List.length_eq_one_iff.1 hlenr
    exact agree_rows_iff hdl hdr hl hr ((bare?_source_of_unique hdl hx hl).1 hv)
      ((bare?_source_of_unique hdr hy hr).1 hw)
  rw [Expression.equalities, List.forall_mem_map]
  constructor
  · intro h c hc
    obtain ⟨v, w, hv, hw⟩ := hpairs.bound hc
    have hp : (c, v, w) ∈ pairs := hpairs.mem_iff.2 ⟨hc, hv, hw⟩
    exact (agree c v w hp).2 (h _ hp)
  · rintro h ⟨c, v, w⟩ hp
    exact (agree c v w hp).1 (h c (hpairs.mem_iff.1 hp).1)

end Merged

/-! ## Trees -/

variable {t left right : JoinTree Leaf SqlCondition} {e x y : Expression}

/-- **The atoms of a condition** say that its expression is true of the rows of both sides. -/
theorem conditionAtoms_eq_yes_iff {condition : SqlCondition} {atoms : List Atom} (hdl : left.Distinct)
    (hdr : right.Distinct) (hx : left.source = .ok x) (hy : right.source = .ok y)
    (hs : Expression.shared? x y = none)
    (hatoms : JoinCondition.atoms condition (Expression.product x y) = .ok atoms) :
    (∀ a ∈ atoms, a.truthValue D (D.termValue ν) = .yes) ↔
      (JoinKind.on condition).Keeps D (left.rows ν) (right.rows ν) := by
  -- the condition is read over the cross join, whose root merges nothing
  let product : JoinTree Leaf SqlCondition := join .cross left right
  have hread : ReadsAs (Expression.product x y) ν (read? (product.rows ν)) :=
    readsAs_rows (distinct_join.2 ⟨hdl, hdr⟩) (source_cross hx hy hs) fun _ => id
  rw [rows_join] at hread
  rw [JoinKind.Keeps, conditionAtoms_truthValue hread hatoms, Option.some_inj, Place.combine,
    Truth.all_eq_yes, List.forall_mem_map]

/-- **What a join adds** to the atoms of its sides says that it keeps their rows together. -/
theorem holds_join_iff {kind : JoinKind SqlCondition} (hdl : left.Distinct) (hdr : right.Distinct)
    (hx : left.source = .ok x) (hy : right.source = .ok y) (he : x.join y kind = .ok e) :
    e.Holds D ν ↔ (x.Holds D ν ∧ y.Holds D ν) ∧ kind.Keeps D (left.rows ν) (right.rows ν) := by
  cases kind with
  | cross =>
    obtain ⟨-, rfl⟩ := Expression.crossJoin_eq_ok.1 he
    rw [Expression.holds_product, JoinKind.Keeps, and_true]
  | on condition =>
    obtain ⟨hs, atoms, hatoms, rfl⟩ := Expression.joinOn_eq_ok.1 he
    rw [Expression.holds_extend, Expression.holds_product,
      conditionAtoms_eq_yes_iff hdl hdr hx hy hs hatoms]
  | «using» columns =>
    obtain ⟨-, hcolumns, pairs, hpairs, rfl⟩ := Expression.joinUsing_eq_ok.1 he
    rw [Expression.holds_extend, Expression.holds_product,
      equalities_eq_yes_iff hdl hdr hx hy hcolumns hpairs, JoinKind.Keeps]
  | natural =>
    obtain ⟨-, hcolumns, pairs, hpairs, rfl⟩ := Expression.joinUsing_eq_ok.1 he
    rw [Expression.holds_extend, Expression.holds_product,
      equalities_eq_yes_iff hdl hdr hx hy hcolumns hpairs, JoinKind.Keeps]
    simp only [exists_mem_rows, ← and_imp]
    refine and_congr_right fun _ => forall_congr' fun c => ?_
    rw [Expression.commonColumns, Scope.mem_common, contains_source hdl hx, contains_source hdr hy]

/-- Rows of both sides are in the result of a join when they are in the results of the sides and the join
keeps them. -/
theorem result_rows_join {kind : JoinKind SqlCondition} :
    (join kind left right).Result D ((join kind left right).rows ν) ↔
      (left.Result D (left.rows ν) ∧ right.Result D (right.rows ν)) ∧
        kind.Keeps D (left.rows ν) (right.rows ν) := by
  rw [rows_join, and_assoc]
  constructor
  · rintro ⟨xs, ys, heq, hxs, hys, hkeeps⟩
    -- the rows split where the leaves do
    have hlen : (left.rows ν).length = xs.length := by
      rw [← List.length_map (·.leaf), map_leaf_rows, ← hxs.map_leaf, List.length_map]
    obtain ⟨rfl, rfl⟩ := List.append_inj heq hlen
    exact ⟨hxs, hys, hkeeps⟩
  · rintro ⟨hxs, hys, hkeeps⟩
    exact ⟨_, _, rfl, hxs, hys, hkeeps⟩

/-- **Folding a tree keeps its meaning.** Over any database and under any values of the variables, the missing
value among them, all atoms of the folded tree are true exactly when the rows that the values give, one for
each leaf, are in the result of the tree. -/
theorem holds_source_iff (distinct : t.Distinct) (h : t.source = .ok e) (D : Database V)
    (ν : Variable → Cell V) : e.Holds D ν ↔ t.Result D (t.rows ν) := by
  induction t generalizing e with
  | leaf l =>
    cases h
    rw [l.holds_expression, rows_leaf, Result]
    constructor
    · exact fun hrow => ⟨_, rfl, hrow⟩
    · rintro ⟨values, heq, hrow⟩
      cases heq
      exact hrow
  | join kind left right ihl ihr =>
    obtain ⟨hdl, hdr⟩ := distinct_join.1 distinct
    obtain ⟨x, y, hx, hy, he⟩ := source_join_eq_ok.1 h
    rw [holds_join_iff hdl hdr hx hy he, ihl hdl hx, ihr hdr hy, result_rows_join]

end JoinTree

/-! ## A tree and one of its results -/

namespace Sample

/-- `SALARY.AMOUNT >= GRADE.AMOUNT AND (NAME IS NULL OR S.ID IN (1, 2))`. -/
def paidEnough : SqlCondition where
  folding := .preserve
  expr :=
    .binary .and
      (.binary (.compare .ge) (.column [⟨"SALARY", none⟩, ⟨"AMOUNT", none⟩])
        (.column [⟨"GRADE", none⟩, ⟨"AMOUNT", none⟩]))
      (.nested (.binary .or (.isNull false (.column [⟨"NAME", none⟩]))
        (.inList false (.column [⟨"S", none⟩, ⟨"ID", none⟩])
          [.literal (.number "1" false), .literal (.number "2" false)])))

/-- Every relation has the rows without the value `0`, and whole numbers mean themselves. -/
def withoutZero : Database Int where
  rows _ row := some 0 ∉ row
  constant
    | .integer n => n
    | _ => 0

/-- Somebody without a name is paid `90`, at a level that starts at `80`. -/
def payment (v : Variable) : Cell Int :=
  if v.name = "v2" then some 90
  else if v.name = "v4" then none
  else if v.name = "v6" then some 80
  else some 1

theorem result_clause :
    ∃ e, (clause (.on paidEnough)).source = .ok e ∧ e.Holds withoutZero payment ∧
      (clause (.on paidEnough)).Result withoutZero ((clause (.on paidEnough)).rows payment) := by
  obtain ⟨e, h⟩ := isOk_iff.1 (by decide : (clause (.on paidEnough)).source.isOk = true)
  have hall : ∀ e ∈ (clause (.on paidEnough)).source.toOption,
      ∀ a ∈ e.atoms, a.truthValue withoutZero (withoutZero.termValue payment) = .yes := by
    decide
  have hholds : e.Holds withoutZero payment := hall e (by rw [h]; rfl)
  have hiff := JoinTree.holds_source_iff (distinct_clause _) h withoutZero payment
  exact ⟨e, h, hholds, hiff.1 hholds⟩

end Sample

end FromClause
