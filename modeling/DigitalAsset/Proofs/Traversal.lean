import Mathlib.Data.List.Forall2

/-!
# Traversals that can fail

A list is gone through from the front, and the first failure ends it.  `mapM_eq_ok_iff` says when
there is no failure: every item has its own result, and these are the answer in order.
`mapM_of_first_error` says which failure there is otherwise, and `exists_failure_of_foldlM` how far a
fold comes that fails.  Where only the kind of error matters, `FailsOnly` goes through a computation
part by part.  The lemmas on `List.Forall₂` take apart lists that are put together from the lists of
several things.
-/

namespace DigitalAsset.Traversal

/-! ## Item by item -/

theorem forall₂_append_left_iff {R : α → β → Prop} {xs ys : List α} {zs : List β} :
    List.Forall₂ R (xs ++ ys) zs ↔
      ∃ us vs, zs = us ++ vs ∧ List.Forall₂ R xs us ∧ List.Forall₂ R ys vs := by
  constructor
  · intro h
    induction xs generalizing zs with
    | nil => exact ⟨[], zs, rfl, .nil, h⟩
    | cons x rest ih =>
      obtain ⟨z, zs', hxz, hrest, rfl⟩ := List.forall₂_cons_left_iff.mp h
      obtain ⟨us, vs, rfl, hus, hvs⟩ := ih hrest
      exact ⟨z :: us, vs, rfl, .cons hxz hus, hvs⟩
  · rintro ⟨us, vs, rfl, hus, hvs⟩
    exact List.rel_append hus hvs

/-- What is related to a list of groups item by item falls into groups itself. -/
theorem forall₂_flatMap_left_iff {R : γ → β → Prop} {f : α → List γ} {xs : List α} {zs : List β} :
    List.Forall₂ R (xs.flatMap f) zs ↔
      ∃ groups, zs = groups.flatten ∧ List.Forall₂ (fun x => List.Forall₂ R (f x)) xs groups := by
  constructor
  · intro h
    induction xs generalizing zs with
    | nil => exact ⟨[], List.forall₂_nil_left_iff.mp h, .nil⟩
    | cons x rest ih =>
      obtain ⟨us, vs, rfl, hus, hvs⟩ := forall₂_append_left_iff.mp h
      obtain ⟨groups, rfl, hgroups⟩ := ih hvs
      exact ⟨us :: groups, rfl, .cons hus hgroups⟩
  · rintro ⟨groups, rfl, hgroups⟩
    rw [List.flatMap]
    exact List.rel_flatten (List.forall₂_map_left_iff.mpr hgroups)

theorem exists_related {R : α → β → Prop} {xs : List α} {ys : List β} (h : List.Forall₂ R xs ys)
    {y : β} (hy : y ∈ ys) : ∃ x ∈ xs, R x y := by
  induction h with
  | nil => cases hy
  | cons hfirst _ ih =>
    rcases List.mem_cons.mp hy with rfl | hrest
    · exact ⟨_, List.mem_cons_self, hfirst⟩
    · obtain ⟨x, hx, hxy⟩ := ih hrest
      exact ⟨x, List.mem_cons_of_mem _ hx, hxy⟩

/-! ## Results in a row -/

theorem bind_eq_ok_iff {x : Except ε α} {f : α → Except ε β} {b : β} :
    x >>= f = .ok b ↔ ∃ a, x = .ok a ∧ f a = .ok b := by
  cases x with
  | error e => simp [bind, Except.bind]
  | ok a => simp [bind, Except.bind]

theorem map_eq_ok_iff {x : Except ε α} {f : α → β} {b : β} :
    x.map f = .ok b ↔ ∃ a, x = .ok a ∧ f a = b := by
  cases x with
  | error e => simp [Except.map]
  | ok a => simp [Except.map]

theorem bind_eq_error_iff {x : Except ε α} {f : α → Except ε β} {e : ε} :
    x >>= f = .error e ↔ x = .error e ∨ ∃ a, x = .ok a ∧ f a = .error e := by
  cases x with
  | error e => simp [bind, Except.bind]
  | ok a => simp [bind, Except.bind]

theorem map_eq_error_iff {x : Except ε α} {f : α → β} {e : ε} :
    x.map f = .error e ↔ x = .error e := by
  cases x with
  | error e => simp [Except.map]
  | ok a => simp [Except.map]

theorem mapError_eq_ok_iff {x : Except ε α} {f : ε → ε'} {a : α} :
    x.mapError f = .ok a ↔ x = .ok a := by
  cases x with
  | error e => simp [Except.mapError]
  | ok b => simp [Except.mapError]

theorem mapError_eq_error_iff {x : Except ε α} {f : ε → ε'} {e' : ε'} :
    x.mapError f = .error e' ↔ ∃ e, x = .error e ∧ f e = e' := by
  cases x with
  | error e => simp [Except.mapError]
  | ok b => simp [Except.mapError]

/-- A traversal succeeds exactly if every item does, and then with the results in order. -/
theorem mapM_eq_ok_iff {f : α → Except ε β} {items : List α} {results : List β} :
    items.mapM f = .ok results ↔ List.Forall₂ (fun a b => f a = .ok b) items results := by
  induction items generalizing results with
  | nil => simp [pure, Except.pure, eq_comm]
  | cons a rest ih =>
    rw [List.mapM_cons, List.forall₂_cons_left_iff, bind_eq_ok_iff]
    constructor
    · rintro ⟨b, hb, h⟩
      obtain ⟨others, hothers, h⟩ := bind_eq_ok_iff.mp h
      cases h
      exact ⟨b, others, hb, ih.mp hothers, rfl⟩
    · rintro ⟨b, others, hb, hothers, rfl⟩
      refine ⟨b, hb, ?_⟩
      rw [ih.mpr hothers]
      rfl

/-- Functions that agree on the items are traversed alike. -/
theorem mapM_congr {f g : α → Except ε β} {items : List α} (h : ∀ a ∈ items, f a = g a) :
    items.mapM f = items.mapM g := by
  induction items with
  | nil => rfl
  | cons a rest ih =>
    rw [List.mapM_cons, List.mapM_cons, h a List.mem_cons_self,
      ih fun b hb => h b (List.mem_cons_of_mem a hb)]

/-- A traversal fails with the error of the first item that fails. -/
theorem mapM_of_first_error {f : α → Except ε β} {before after : List α} {a : α} {e : ε}
    (hbefore : ∀ b ∈ before, ∃ result, f b = .ok result) (ha : f a = .error e) :
    (before ++ a :: after).mapM f = .error e := by
  induction before with
  | nil =>
    rw [List.nil_append, List.mapM_cons, ha]
    rfl
  | cons first rest ih =>
    obtain ⟨result, hresult⟩ := hbefore first List.mem_cons_self
    rw [List.cons_append, List.mapM_cons, hresult]
    show Except.bind _ _ = _
    rw [ih fun b hb => hbefore b (List.mem_cons_of_mem first hb)]
    rfl

/-- A fold comes to the same result by steps that come to the same. -/
theorem foldlM_of_step {f g : β → α → Except ε β}
    (h : ∀ {b : β} {a : α} {c : β}, f b a = .ok c → g b a = .ok c) {items : List α} {init result : β}
    (hfold : items.foldlM f init = .ok result) : items.foldlM g init = .ok result := by
  induction items generalizing init with
  | nil => exact hfold
  | cons a rest ih =>
    rw [List.foldlM_cons] at hfold ⊢
    obtain ⟨b, hb, hrest⟩ := bind_eq_ok_iff.mp hfold
    exact bind_eq_ok_iff.mpr ⟨b, h hb, ih hrest⟩

theorem foldlM_concat_eq_ok_iff {f : β → α → Except ε β} {items : List α} {a : α}
    {init result : β} :
    (items ++ [a]).foldlM f init = .ok result ↔
      ∃ reached, items.foldlM f init = .ok reached ∧ f reached a = .ok result := by
  rw [List.foldlM_append, bind_eq_ok_iff]
  simp only [List.foldlM_cons, List.foldlM_nil, bind_pure]

/-- A fold that succeeds comes to each of its items and gets past it. -/
theorem exists_step_of_foldlM {f : β → α → Except ε β} {items : List α} {init result : β}
    (h : items.foldlM f init = .ok result) {a : α} (ha : a ∈ items) : ∃ b c, f b a = .ok c := by
  induction items generalizing init with
  | nil => cases ha
  | cons first rest ih =>
    rw [List.foldlM_cons] at h
    obtain ⟨next, hnext, hrest⟩ := bind_eq_ok_iff.mp h
    rcases List.mem_cons.mp ha with rfl | ha
    · exact ⟨init, next, hnext⟩
    · exact ih hrest ha

/-- A fold that fails does so at one of its items, having got past all before it. -/
theorem exists_failure_of_foldlM {f : β → α → Except ε β} {items : List α} {init : β} {e : ε}
    (h : items.foldlM f init = .error e) :
    ∃ before a after reached, items = before ++ a :: after ∧
      before.foldlM f init = .ok reached ∧ f reached a = .error e := by
  induction items generalizing init with
  | nil => cases h
  | cons first rest ih =>
    rw [List.foldlM_cons] at h
    rcases bind_eq_error_iff.mp h with hfirst | ⟨next, hnext, hrest⟩
    · exact ⟨[], first, rest, init, rfl, rfl, hfirst⟩
    · obtain ⟨before, a, after, reached, rfl, hbefore, ha⟩ := ih hrest
      refine ⟨first :: before, a, after, reached, rfl, ?_, ha⟩
      rw [List.foldlM_cons]
      exact bind_eq_ok_iff.mpr ⟨next, hnext, hbefore⟩

/-- A fold fails as soon as one of its steps does, whatever comes after it. -/
theorem foldlM_of_failure {f : β → α → Except ε β} {before after : List α} {a : α}
    {init reached : β} {e : ε} (hbefore : before.foldlM f init = .ok reached)
    (ha : f reached a = .error e) : (before ++ a :: after).foldlM f init = .error e := by
  rw [List.foldlM_append, hbefore]
  show List.foldlM f reached (a :: after) = _
  rw [List.foldlM_cons, ha]
  rfl

theorem foldlM_eq_error_iff {f : β → α → Except ε β} {items : List α} {init : β} {e : ε} :
    items.foldlM f init = .error e ↔
      ∃ before a after reached, items = before ++ a :: after ∧
        before.foldlM f init = .ok reached ∧ f reached a = .error e := by
  constructor
  · exact exists_failure_of_foldlM
  · rintro ⟨before, a, after, reached, rfl, hbefore, ha⟩
    exact foldlM_of_failure hbefore ha

/-! ## Errors -/

/-- The computation fails with errors of one kind only. -/
def FailsOnly (P : ε → Prop) (x : Except ε α) : Prop := ∀ e, x = .error e → P e

namespace FailsOnly

variable {P Q : ε → Prop}

theorem ok (a : α) : FailsOnly P (.ok a : Except ε α) := by
  intro e h
  cases h

theorem error {e : ε} (h : P e) : FailsOnly P (.error e : Except ε α) := by
  rintro _ ⟨⟩
  exact h

theorem imp {x : Except ε α} (h : FailsOnly P x) (hPQ : ∀ e, P e → Q e) : FailsOnly Q x :=
  fun e he => hPQ e (h e he)

theorem bind {x : Except ε α} {f : α → Except ε β} (hx : FailsOnly P x)
    (hf : ∀ a, FailsOnly P (f a)) : FailsOnly P (x >>= f) := by
  intro e h
  rcases bind_eq_error_iff.mp h with he | ⟨a, _, he⟩
  · exact hx e he
  · exact hf a e he

theorem map {x : Except ε α} {f : α → β} (h : FailsOnly P x) : FailsOnly P (x.map f) :=
  fun e he => h e (map_eq_error_iff.mp he)

theorem mapM {f : α → Except ε β} (h : ∀ a, FailsOnly P (f a)) (items : List α) :
    FailsOnly P (items.mapM f) := by
  induction items with
  | nil => exact .ok []
  | cons a rest ih =>
    rw [List.mapM_cons]
    exact (h a).bind fun b => ih.bind fun others => .ok (b :: others)

theorem foldlM {f : β → α → Except ε β} (h : ∀ b a, FailsOnly P (f b a)) (items : List α)
    (init : β) : FailsOnly P (items.foldlM f init) := by
  intro e he
  obtain ⟨_, a, _, reached, _, _, hstep⟩ := exists_failure_of_foldlM he
  exact h reached a e hstep

end FailsOnly

/-! ## First items -/

/-- If any item has a property then there is a first one that has it. -/
theorem exists_first {P : α → Prop} {items : List α} (h : ∃ a ∈ items, P a) :
    ∃ before a after, items = before ++ a :: after ∧ (∀ b ∈ before, ¬ P b) ∧ P a := by
  induction items with
  | nil =>
    obtain ⟨a, ha, _⟩ := h
    cases ha
  | cons first rest ih =>
    by_cases hfirst : P first
    · exact ⟨[], first, rest, rfl, by simp, hfirst⟩
    · obtain ⟨a, ha, hP⟩ := h
      have hrest : a ∈ rest := (List.mem_cons.mp ha).resolve_left fun hsame => hfirst (hsame ▸ hP)
      obtain ⟨before, b, after, rfl, hbefore, hb⟩ := ih ⟨a, hrest, hP⟩
      refine ⟨first :: before, b, after, rfl, ?_, hb⟩
      intro c hc
      rcases List.mem_cons.mp hc with rfl | hc
      · exact hfirst
      · exact hbefore c hc

end DigitalAsset.Traversal
