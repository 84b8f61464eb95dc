import FromClause.Logic.Supply
import Mathlib.Data.List.Nodup
import Mathlib.Data.List.Perm.Subperm
import Mathlib.Order.Bounds.Basic
/-!
# Fresh variables are fresh

No supply hands out a name that it has handed out before, wherever its counter stands and whatever the columns
are called. A name is a stem with a number, so the numbers that are tried for one column spell different names;
as many of them as there are names given away, and one more, cannot all be taken.

What is drawn for a list of columns is described by two functions, `drawn` and `after`: the variables, and the
supply that is left. The names given away grow by exactly the names drawn (`issued_after`), so a list of names
without repetition stays one.

The number of a variable is looked for by counting on, with no bound in sight (`Search`). The search comes to an
end all the same, at the least number that spells a new name, and its length is bounded by the number of names
given away (`fresh_after`).
-/

namespace FromClause

namespace Supply

variable {taken : List String} {stem : String} {s : Supply} {columns : List Identifier}

/-! ## The search for a number -/

/-- Different numbers behind one stem spell different names. -/
theorem spell_injective (stem : String) : Function.Injective (spell stem) := by
  intro m n h
  have h : toString m = toString n := (String.append_right_inj stem).1 h
  rw [Nat.toString_eq_ofList_toDigits, Nat.toString_eq_ofList_toDigits] at h
  -- a number is read back from its digits
  rw [← Nat.ofDigitChars_ten_toDigits (n := m), String.ofList_injective h, Nat.ofDigitChars_ten_toDigits]

/-- When the search ends at a name that is taken, it has been through taken names only. -/
theorem mem_of_firstFree_mem {tries start : Nat}
    (h : spell stem (firstFree taken stem tries start) ∈ taken) :
    ∀ n, start ≤ n → n ≤ start + tries → spell stem n ∈ taken := by
  induction tries generalizing start with
  | zero =>
    intro n hstart hn
    obtain rfl : n = start := by omega
    exact h
  | succ tries ih =>
    rw [firstFree] at h
    intro n hstart hn
    split at h
    next htaken =>
      by_cases heq : n = start
      · exact heq ▸ htaken
      · exact ih h n (by omega) (by omega)
    next hfree => exact absurd h hfree

/-- **The search finds a name that is not taken**, if it may pass over as many as there are. -/
theorem firstFree_not_mem (start : Nat) :
    spell stem (firstFree taken stem taken.length start) ∉ taken := by
  intro h
  have hall := mem_of_firstFree_mem h
  let names := (List.range' start (taken.length + 1)).map (spell stem)
  have hnodup : names.Nodup := (List.nodup_range' 1).map (spell_injective stem)
  have hsubset : names ⊆ taken := by
    intro name hname
    obtain ⟨n, hn, rfl⟩ := List.mem_map.1 hname
    rw [List.mem_range'_1] at hn
    exact hall n hn.1 (by omega)
  -- one name more than there are would be taken
  have hle : names.length ≤ taken.length := (List.subperm_of_subset hnodup hsubset).length_le
  simp only [names, List.length_map, List.length_range'] at hle
  omega

/-- The search stays within its bounds. -/
theorem firstFree_le (tries start : Nat) : firstFree taken stem tries start ≤ start + tries := by
  induction tries generalizing start with
  | zero => exact Nat.le_refl start
  | succ tries ih =>
    rw [firstFree]
    split
    next =>
      have hrest := ih (start + 1)
      omega
    next => omega

/-- It starts where it is told to, and passes over taken names only. -/
theorem mem_of_lt_firstFree (tries start : Nat) : start ≤ firstFree taken stem tries start ∧
    ∀ n, start ≤ n → n < firstFree taken stem tries start → spell stem n ∈ taken := by
  induction tries generalizing start with
  | zero => exact ⟨Nat.le_refl start, fun n hstart hn => absurd hn (Nat.not_lt.2 hstart)⟩
  | succ tries ih =>
    rw [firstFree]
    split
    next htaken =>
      obtain ⟨hle, hpassed⟩ := ih (start + 1)
      refine ⟨by omega, fun n hstart hn => ?_⟩
      rcases Nat.eq_or_lt_of_le hstart with rfl | hlater
      · exact htaken
      · exact hpassed n hlater hn
    next => exact ⟨Nat.le_refl start, fun n hstart hn => absurd hn (Nat.not_lt.2 hstart)⟩

/-- **The search as it goes**: the counter goes up by one and a name is spelled with it, which ends the search unless
the name is taken. So many steps lead from one counter to the next. -/
inductive Search (taken : List String) (stem : String) : (counter number steps : Nat) → Prop
  /-- The name is not taken. -/
  | free {counter : Nat} : spell stem (counter + 1) ∉ taken → Search taken stem counter (counter + 1) 1
  /-- The name is taken, and the search goes on. -/
  | taken {counter number steps : Nat} : spell stem (counter + 1) ∈ taken →
    Search taken stem (counter + 1) number steps → Search taken stem counter number (steps + 1)

/-- The numbers behind a counter that spell a name which is not taken. -/
def freeNumbers (taken : List String) (stem : String) (counter : Nat) : Set Nat :=
  {n | counter < n ∧ spell stem n ∉ taken}

/-- Behind a taken name the same numbers are free. -/
theorem isLeast_freeNumbers_succ {counter number : Nat} (h : spell stem (counter + 1) ∈ taken) :
    IsLeast (freeNumbers taken stem counter) number ↔ IsLeast (freeNumbers taken stem (counter + 1)) number := by
  have heq : freeNumbers taken stem counter = freeNumbers taken stem (counter + 1) := by
    ext n
    refine and_congr_left fun hfree => ⟨fun hn => ?_, fun hn => by omega⟩
    have hne : n ≠ counter + 1 := fun heq => hfree (heq ▸ h)
    omega
  rw [heq]

/-- **The search ends at the least free number**, after as many steps as the counter goes up, and ends nowhere
else. -/
theorem search_iff {counter number steps : Nat} : Search taken stem counter number steps ↔
    IsLeast (freeNumbers taken stem counter) number ∧ steps = number - counter := by
  constructor
  · intro h
    induction h with
    | @free counter hfree => exact ⟨⟨⟨Nat.lt_succ_self _, hfree⟩, fun n hn => hn.1⟩, by omega⟩
    | @taken counter number steps htaken _ ih =>
      obtain ⟨hleast, hsteps⟩ := ih
      have hlt : counter + 1 < number := hleast.1.1
      exact ⟨(isLeast_freeNumbers_succ htaken).2 hleast, by omega⟩
  · rintro ⟨hleast, hsteps⟩
    induction steps generalizing counter with
    | zero =>
      have hlt : counter < number := hleast.1.1
      omega
    | succ steps ih =>
      by_cases htaken : spell stem (counter + 1) ∈ taken
      · exact .taken htaken (ih ((isLeast_freeNumbers_succ htaken).1 hleast) (by omega))
      · -- no number is less than the one right behind the counter
        have hle : number ≤ counter + 1 := hleast.2 ⟨Nat.lt_succ_self _, htaken⟩
        have hlt : counter < number := hleast.1.1
        obtain rfl : number = counter + 1 := by omega
        obtain rfl : steps = 0 := by omega
        exact .free htaken

/-! ## One variable -/

/-- **A fresh variable is new.** -/
theorem fresh_not_mem (s : Supply) (column : Identifier) : (s.fresh column).1.name ∉ s.issued :=
  firstFree_not_mem (s.counter + 1)

/-- Number 11 would spell a name that a column `A1` was given at number 1, and is passed over. -/
example : ((Supply.mk 10 ["a11"]).fresh ⟨"A", by decide⟩).1.name = "a12" := rfl

/-- It carries the least number behind the counter that spells a new name. -/
theorem isLeast_nextNumber (s : Supply) (column : Identifier) :
    IsLeast (freeNumbers s.issued (Text.lower column.text) s.counter) (s.nextNumber column) := by
  obtain ⟨hle, hpassed⟩ := mem_of_lt_firstFree s.issued.length (s.counter + 1)
  refine ⟨⟨hle, fresh_not_mem s column⟩, fun n hn => ?_⟩
  by_contra hlt
  exact hn.2 (hpassed n hn.1 (Nat.lt_of_not_le hlt))

/-- The counter goes up by one for each name that is given away, at most, and by one more. -/
theorem nextNumber_le (s : Supply) (column : Identifier) :
    s.nextNumber column ≤ s.counter + (s.issuedCount + 1) := by
  have hle : s.nextNumber column ≤ s.counter + 1 + s.issued.length := firstFree_le ..
  rw [issuedCount]
  omega

@[simp] theorem fresh_issued (s : Supply) (column : Identifier) :
    (s.fresh column).2.issued = (s.fresh column).1.name :: s.issued := rfl

/-! ## Variables for several columns -/

/-- The variables that a supply hands out for some columns, in order. -/
def drawn (s : Supply) (columns : List Identifier) : List Variable := (s.bind columns).1.map (·.2)

/-- What is left of a supply that has handed out variables for some columns. -/
def after (s : Supply) (columns : List Identifier) : Supply := (s.bind columns).2

@[simp] theorem drawn_nil (s : Supply) : s.drawn [] = [] := rfl

@[simp] theorem after_nil (s : Supply) : s.after [] = s := rfl

@[simp] theorem drawn_cons (s : Supply) (column : Identifier) (rest : List Identifier) :
    s.drawn (column :: rest) = (s.fresh column).1 :: (s.fresh column).2.drawn rest := rfl

@[simp] theorem after_cons (s : Supply) (column : Identifier) (rest : List Identifier) :
    s.after (column :: rest) = (s.fresh column).2.after rest := rfl

theorem after_append (s : Supply) (columns more : List Identifier) :
    s.after (columns ++ more) = (s.after columns).after more := by
  induction columns generalizing s with
  | nil => rfl
  | cons column rest ih => rw [List.cons_append, after_cons, after_cons, ih]

theorem drawn_append (s : Supply) (columns more : List Identifier) :
    s.drawn (columns ++ more) = s.drawn columns ++ (s.after columns).drawn more := by
  induction columns generalizing s with
  | nil => rfl
  | cons column rest ih => rw [List.cons_append, drawn_cons, ih, drawn_cons, after_cons, List.cons_append]

@[simp] theorem length_drawn (s : Supply) (columns : List Identifier) :
    (s.drawn columns).length = columns.length := by
  induction columns generalizing s with
  | nil => rfl
  | cons column rest ih => rw [drawn_cons, List.length_cons, ih, List.length_cons]

/-- Each column is bound to the variable drawn for it. -/
theorem bind_eq_zip (s : Supply) (columns : List Identifier) :
    (s.bind columns).1 = columns.zip (s.drawn columns) := by
  induction columns generalizing s with
  | nil => rfl
  | cons column rest ih =>
    rw [drawn_cons, List.zip_cons_cons, ← ih]
    rfl

/-- The columns are bound in their order. -/
theorem map_fst_bind (s : Supply) (columns : List Identifier) : (s.bind columns).1.map (·.1) = columns := by
  rw [bind_eq_zip]
  exact List.map_fst_zip (Nat.le_of_eq (length_drawn s columns).symm)

/-- **The names given away grow by the names drawn.** -/
theorem issued_after (s : Supply) (columns : List Identifier) :
    (s.after columns).issued = ((s.drawn columns).map Variable.name).reverse ++ s.issued := by
  induction columns generalizing s with
  | nil => rfl
  | cons column rest ih =>
    rw [after_cons, ih, fresh_issued, drawn_cons, List.map_cons, List.reverse_cons, List.append_assoc]
    rfl

/-- What is drawn was not given away before. -/
theorem not_mem_issued_of_mem_drawn {v : Variable} (hv : v ∈ s.drawn columns) : v.name ∉ s.issued := by
  induction columns generalizing s with
  | nil => cases hv
  | cons column rest ih =>
    rw [drawn_cons] at hv
    rcases List.mem_cons.1 hv with rfl | hv
    · exact fresh_not_mem s column
    · have hrest := ih hv
      rw [fresh_issued] at hrest
      exact fun h => hrest (List.mem_cons_of_mem _ h)

/-- **No name is drawn twice.** -/
theorem nodup_map_name_drawn (s : Supply) (columns : List Identifier) :
    ((s.drawn columns).map Variable.name).Nodup := by
  induction columns generalizing s with
  | nil => exact List.nodup_nil
  | cons column rest ih =>
    rw [drawn_cons, List.map_cons, List.nodup_cons]
    refine ⟨fun h => ?_, ih _⟩
    obtain ⟨v, hv, heq⟩ := List.mem_map.1 h
    -- the name would be given away already when it is drawn again
    have hnot := not_mem_issued_of_mem_drawn hv
    rw [fresh_issued, heq] at hnot
    exact hnot List.mem_cons_self

/-- Nor is a variable. -/
theorem nodup_drawn (s : Supply) (columns : List Identifier) : (s.drawn columns).Nodup :=
  (nodup_map_name_drawn s columns).of_map _

/-! ## A run of a supply -/

/-- From the start on, the names given away are the names drawn. -/
theorem issued_after_initial (columns : List Identifier) :
    (initial.after columns).issued = ((initial.drawn columns).map Variable.name).reverse := by
  rw [issued_after]
  exact List.append_nil _

/-- **A supply always comes to a fresh name.** Take a supply that has handed out variables for any columns, from the
start on, and any column. There are as many names given away as there were columns, all of them different. The search
for the next number comes to an end, after at most one step more than there are names given away, and the
variable is called by the column in lower case with this number behind it: the least one behind the counter that
spells a new name. -/
theorem fresh_after (columns : List Identifier) (column : Identifier) :
    let s := initial.after columns
    let names := (initial.drawn columns).map Variable.name
    let stem := Text.lower column.text
    let number := (s.fresh column).2.counter
    s.issuedCount = columns.length ∧ names.Nodup ∧
      (∃ steps ≤ s.issuedCount + 1, Search names stem s.counter number steps) ∧
      (s.fresh column).1.name = stem ++ toString number ∧
      IsLeast {n | s.counter < n ∧ stem ++ toString n ∉ names} number := by
  intro s names stem number
  have hissued : s.issued = names.reverse := issued_after_initial columns
  have hleast : IsLeast (freeNumbers names stem s.counter) number := by
    have hnext := isLeast_nextNumber s column
    simp only [freeNumbers, hissued, List.mem_reverse] at hnext
    exact hnext
  have hcount : s.issuedCount = columns.length := by
    rw [issuedCount, hissued, List.length_reverse, List.length_map, length_drawn]
  have hsteps : number - s.counter ≤ s.issuedCount + 1 := by
    have hle : number ≤ s.counter + (s.issuedCount + 1) := nextNumber_le s column
    omega
  exact ⟨hcount, nodup_map_name_drawn initial columns, ⟨_, hsteps, search_iff.2 ⟨hleast, rfl⟩⟩, rfl, hleast⟩

end Supply

end FromClause
