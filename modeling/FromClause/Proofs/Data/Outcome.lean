import Mathlib.Data.List.Forall2
/-!
# Steps that may fail

A computation in `Except` that succeeds has succeeded at every step. The two equations here take one apart: a
step followed by another, and one step for each member of a list. The results then stand beside the members,
and a few lemmas on such pairs of lists come first.
-/

namespace FromClause

variable {ε α β γ : Type}

/-! ## Lists side by side -/

/-- Two lists that are related to the same list in between are related to one another. -/
theorem forall₂_trans {R : α → β → Prop} {S : β → γ → Prop} {T : α → γ → Prop} {as : List α} {bs : List β}
    {cs : List γ} (hR : List.Forall₂ R as bs) (hS : List.Forall₂ S bs cs)
    (h : ∀ a b c, R a b → S b c → T a c) : List.Forall₂ T as cs := by
  induction hR generalizing cs with
  | nil =>
    cases hS
    exact .nil
  | cons hab _ ih =>
    obtain ⟨c, cs', hbc, hrest, rfl⟩ := List.forall₂_cons_left_iff.1 hS
    exact .cons (h _ _ _ hab hbc) (ih hrest)

/-- A relation that follows from another one for the members of the list on the left. -/
theorem forall₂_imp_of_mem {R S : α → β → Prop} {as : List α} {bs : List β} (h : List.Forall₂ R as bs)
    (himp : ∀ a ∈ as, ∀ b, R a b → S a b) : List.Forall₂ S as bs := by
  induction h with
  | nil => exact .nil
  | @cons a b as bs hab _ ih =>
    obtain ⟨ha, has⟩ := List.forall_mem_cons.1 himp
    exact .cons (ha b hab) (ih has)

/-- Each member on the right has one on the left beside it. -/
theorem exists_of_mem_forall₂ {R : α → β → Prop} {as : List α} {bs : List β} (h : List.Forall₂ R as bs)
    {b : β} (hb : b ∈ bs) : ∃ a ∈ as, R a b := by
  induction h with
  | nil => cases hb
  | @cons a b' as bs ha _ ih =>
    rcases List.mem_cons.1 hb with rfl | hb
    · exact ⟨a, List.mem_cons_self, ha⟩
    · obtain ⟨a', ha', h⟩ := ih hb
      exact ⟨a', List.mem_cons_of_mem _ ha', h⟩

/-- A list beside two others in a row is cut where the first one ends. -/
theorem exists_append_of_forall₂ {R : α → β → Prop} {front back : List α} {bs : List β}
    (h : List.Forall₂ R (front ++ back) bs) :
    ∃ bs₁ bs₂, bs = bs₁ ++ bs₂ ∧ List.Forall₂ R front bs₁ ∧ List.Forall₂ R back bs₂ :=
  ⟨bs.take front.length, bs.drop front.length, (List.take_append_drop _ _).symm,
    (List.forall₂_take_append _ _ _ h.flip).flip, (List.forall₂_drop_append _ _ _ h.flip).flip⟩

/-- A relation between the members of a list that says of two members what another says of those beside them. -/
theorem pairwise_iff_of_forall₂ {R : α → β → Prop} {P : α → α → Prop} {Q : β → β → Prop} {as : List α}
    {bs : List β} (h : List.Forall₂ R as bs)
    (hiff : ∀ a a' b b', R a b → R a' b' → (P a a' ↔ Q b b')) : as.Pairwise P ↔ bs.Pairwise Q := by
  induction h with
  | nil => exact ⟨fun _ => .nil, fun _ => .nil⟩
  | @cons a b as bs hab hrest ih =>
    rw [List.pairwise_cons, List.pairwise_cons, ih]
    refine and_congr_left fun _ => ⟨fun hall b' hb' => ?_, fun hall a' ha' => ?_⟩
    · obtain ⟨a', ha', hab'⟩ := exists_of_mem_forall₂ hrest hb'
      exact (hiff a a' b b' hab hab').1 (hall a' ha')
    · obtain ⟨b', hb', hab'⟩ := exists_of_mem_forall₂ hrest.flip ha'
      exact (hiff a a' b b' hab hab').2 (hall b' hb')

/-- What stands at one place of two such lists is related. -/
theorem exists_getElem?_of_forall₂ {R : α → β → Prop} {as : List α} {bs : List β} (h : List.Forall₂ R as bs)
    {k : Nat} {a : α} (ha : as[k]? = some a) : ∃ b, bs[k]? = some b ∧ R a b := by
  obtain ⟨hlength, hget⟩ := List.forall₂_iff_get.1 h
  obtain ⟨hk, rfl⟩ := List.getElem?_eq_some_iff.1 ha
  have hk' : k < bs.length := hlength ▸ hk
  exact ⟨bs[k], List.getElem?_eq_getElem hk', hget k hk hk'⟩

/-- In a list whose members are apart from one another, two that are not apart stand at one place. -/
theorem eq_of_pairwise_apart {Apart : α → α → Prop} {as : List α} (h : as.Pairwise Apart) {i j : Nat} {a b : α}
    (ha : as[i]? = some a) (hb : as[j]? = some b) (hab : ¬Apart a b) (hba : ¬Apart b a) : i = j := by
  obtain ⟨hi, rfl⟩ := List.getElem?_eq_some_iff.1 ha
  obtain ⟨hj, rfl⟩ := List.getElem?_eq_some_iff.1 hb
  rw [List.pairwise_iff_getElem] at h
  by_contra hne
  rcases Nat.lt_or_gt_of_ne hne with hlt | hlt
  · exact hab (h i j hi hj hlt)
  · exact hba (h j i hj hi hlt)

/-! ## Steps -/

/-- The test for success. -/
theorem isOk_iff {x : Except ε α} : x.isOk = true ↔ ∃ a, x = .ok a := by
  cases x with
  | error e => exact ⟨(nomatch ·), fun ⟨_, h⟩ => nomatch h⟩
  | ok a => exact ⟨fun _ => ⟨a, rfl⟩, fun _ => rfl⟩

/-- The result of a success, if it is one. -/
theorem toOption_eq_some {x : Except ε α} {a : α} : x.toOption = some a ↔ x = .ok a := by
  cases x with
  | error e => exact ⟨(nomatch ·), (nomatch ·)⟩
  | ok b => exact ⟨fun h => congrArg _ (Option.some.inj h), fun h => congrArg _ (Except.ok.inj h)⟩

@[simp] theorem ok_bind (a : α) (f : α → Except ε β) : (Except.ok a >>= f) = f a := rfl

@[simp] theorem error_bind (e : ε) (f : α → Except ε β) : (Except.error e >>= f) = .error e := rfl

/-- A result that is changed is a result. -/
theorem map_eq_ok {x : Except ε α} {f : α → β} {b : β} : x.map f = .ok b ↔ ∃ a, x = .ok a ∧ f a = b := by
  cases x with
  | error e => simp [Except.map]
  | ok a => simp [Except.map]

/-- A sequence of two steps succeeds when both do. -/
theorem bind_eq_ok {x : Except ε α} {f : α → Except ε β} {b : β} :
    (x >>= f) = .ok b ↔ ∃ a, x = .ok a ∧ f a = .ok b := by
  cases x with
  | error e => exact ⟨(nomatch ·), fun ⟨_, h, _⟩ => nomatch h⟩
  | ok a => exact ⟨fun h => ⟨a, rfl, h⟩, fun ⟨_, h, hf⟩ => by cases h; exact hf⟩

/-- A sequence of two steps fails when the first one does, or the second one after it. -/
theorem bind_eq_error {x : Except ε α} {f : α → Except ε β} {e : ε} :
    (x >>= f) = .error e ↔ x = .error e ∨ ∃ a, x = .ok a ∧ f a = .error e := by
  cases x with
  | error e' =>
    refine ⟨fun h => .inl (by cases h; rfl), ?_⟩
    rintro (h | ⟨a, ha, -⟩)
    · cases h
      rfl
    · cases ha
  | ok a =>
    refine ⟨fun h => .inr ⟨a, rfl, h⟩, ?_⟩
    rintro (h | ⟨a', ha', h⟩)
    · cases h
    · cases ha'
      exact h

/-- **One step for each member of a list succeeds** when all of them do, with their results in order. -/
theorem mapM_eq_ok {f : α → Except ε β} {as : List α} {bs : List β} :
    as.mapM f = .ok bs ↔ List.Forall₂ (fun a b => f a = .ok b) as bs := by
  induction as generalizing bs with
  | nil =>
    rw [List.mapM_nil, List.forall₂_nil_left_iff]
    exact ⟨fun h => by cases h; rfl, fun h => by rw [h]; rfl⟩
  | cons a rest ih =>
    rw [List.mapM_cons, bind_eq_ok, List.forall₂_cons_left_iff]
    constructor
    · rintro ⟨b, hb, h⟩
      obtain ⟨bs', hbs, h⟩ := bind_eq_ok.1 h
      cases h
      exact ⟨b, bs', hb, ih.1 hbs, rfl⟩
    · rintro ⟨b, bs', hb, hbs, rfl⟩
      exact ⟨b, hb, bind_eq_ok.2 ⟨bs', ih.2 hbs, rfl⟩⟩

/-- It fails with the error of the first member that fails. -/
theorem mapM_eq_error {f : α → Except ε β} {as : List α} {e : ε} :
    as.mapM f = .error e ↔
      ∃ before a after, as = before ++ a :: after ∧ (∀ x ∈ before, ∃ b, f x = .ok b) ∧ f a = .error e := by
  induction as with
  | nil =>
    rw [List.mapM_nil]
    exact ⟨nofun, fun ⟨_, _, _, h, _⟩ => absurd h.symm (List.append_ne_nil_of_right_ne_nil _ (List.cons_ne_nil _ _))⟩
  | cons a rest ih =>
    rw [List.mapM_cons, bind_eq_error]
    constructor
    · rintro (h | ⟨b, hb, h⟩)
      · exact ⟨[], a, rest, rfl, List.forall_mem_nil _, h⟩
      · rcases bind_eq_error.1 h with h | ⟨bs, -, h⟩
        · obtain ⟨before, a', after, rfl, hbefore, ha'⟩ := ih.1 h
          exact ⟨a :: before, a', after, rfl, List.forall_mem_cons.2 ⟨⟨b, hb⟩, hbefore⟩, ha'⟩
        · cases h
    · rintro ⟨before, a', after, heq, hbefore, ha'⟩
      cases before with
      | nil =>
        obtain ⟨rfl, rfl⟩ := List.cons.inj heq
        exact .inl ha'
      | cons x before =>
        obtain ⟨rfl, rfl⟩ := List.cons.inj heq
        obtain ⟨⟨b, hb⟩, hbefore⟩ := List.forall_mem_cons.1 hbefore
        exact .inr ⟨b, hb, bind_eq_error.2 (.inl (ih.2 ⟨before, a', after, rfl, hbefore, ha'⟩))⟩

/-- A step for a member that may be missing succeeds when it does for the member, if there is one. -/
theorem optionMapM_eq_ok {f : α → Except ε β} {a? : Option α} {b? : Option β} :
    a?.mapM f = .ok b? ↔ Option.Rel (fun a b => f a = .ok b) a? b? := by
  cases a? with
  | none =>
    rw [Option.mapM_none]
    constructor
    · intro h
      cases h
      exact .none
    · intro h
      cases h
      rfl
  | some a =>
    rw [Option.mapM_some]
    constructor
    · intro h
      obtain ⟨b, hb, rfl⟩ := map_eq_ok.1 h
      exact .some hb
    · intro h
      cases h with
      | some hb => exact map_eq_ok.2 ⟨_, hb, rfl⟩

/-- Each result is the result of a member. -/
theorem exists_of_mem_mapM {f : α → Except ε β} {as : List α} {bs : List β} (h : as.mapM f = .ok bs)
    {b : β} (hb : b ∈ bs) : ∃ a ∈ as, f a = .ok b :=
  exists_of_mem_forall₂ (mapM_eq_ok.1 h) hb

/-- Steps whose results are replaced have the results of the whole list replaced. -/
theorem mapM_eq_map {f : α → Except ε β} {g : α → Except ε γ} {r : β → γ} (h : ∀ a, g a = (f a).map r)
    (as : List α) : as.mapM g = (as.mapM f).map (List.map r) := by
  induction as with
  | nil => rfl
  | cons a rest ih =>
    rw [List.mapM_cons, List.mapM_cons, h, ih]
    cases f a with
    | error e => rfl
    | ok b => cases rest.mapM f <;> rfl

/-- So it succeeds at all exactly when no member fails. -/
theorem exists_mapM_eq_ok {f : α → Except ε β} {as : List α} :
    (∃ bs, as.mapM f = .ok bs) ↔ ∀ a ∈ as, ∃ b, f a = .ok b := by
  simp only [mapM_eq_ok]
  induction as with
  | nil => simp
  | cons a rest ih => simp only [List.forall₂_cons_left_iff, List.forall_mem_cons, ← ih]; grind

/-! ## Errors -/

/-- If the computation fails, its error has a property. -/
def FailsOnly (P : ε → Prop) (x : Except ε α) : Prop := ∀ e, x = .error e → P e

namespace FailsOnly

variable {P : ε → Prop} {x : Except ε α}

theorem ok (a : α) : FailsOnly P (.ok a) := nofun

theorem error {e : ε} (h : P e) : FailsOnly P (.error e : Except ε α) := by
  rintro _ ⟨⟩
  exact h

theorem mapError {δ : Type} {f : δ → ε} (h : ∀ d, P (f d)) (x : Except δ α) : FailsOnly P (x.mapError f) := by
  cases x with
  | error d => exact error (h d)
  | ok a => exact ok a

/-- A sequence of two steps fails with the error of one of them. -/
theorem bind {f : α → Except ε β} (hx : FailsOnly P x) (hf : ∀ a, x = .ok a → FailsOnly P (f a)) :
    FailsOnly P (x >>= f) := by
  cases x with
  | error e => exact error (hx e rfl)
  | ok a => exact hf a rfl

/-- One step for each member of a list fails with the error of one of the members. -/
theorem mapM {f : α → Except ε β} (hf : ∀ a, FailsOnly P (f a)) (as : List α) :
    FailsOnly P (as.mapM f) := by
  induction as with
  | nil => exact ok []
  | cons a rest ih =>
    rw [List.mapM_cons]
    exact (hf a).bind fun b _ => ih.bind fun bs _ => ok (b :: bs)

end FailsOnly

end FromClause
