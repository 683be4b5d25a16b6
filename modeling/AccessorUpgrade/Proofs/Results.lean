/-!
# Results

Steps that can fail, one after the other, have a result only if each of them has.
-/

namespace AccessorUpgrade

variable {α β γ δ ε : Type}

/-- What a result becomes is made of the result itself. -/
theorem exists_of_map {x : Except ε α} {f : α → β} {b : β} (h : x.map f = .ok b) :
    ∃ a, x = .ok a ∧ f a = b := by
  cases x with
  | error e => cases h
  | ok a => exact ⟨a, rfl, Except.ok.inj h⟩

/-- The result of two steps follows from a result of the first. -/
theorem exists_of_bind {x : Except ε α} {f : α → Except ε β} {b : β} (h : x.bind f = .ok b) :
    ∃ a, x = .ok a ∧ f a = .ok b := by
  cases x with
  | error e => cases h
  | ok a => exact ⟨a, rfl, h⟩

/-- Two results of which the same is made, errors included, are the same value or two errors. -/
theorem cases_of_mapError_eq {x y : Except ε α} {h : ε → δ} (heq : x.mapError h = y.mapError h) :
    (∃ a, x = .ok a ∧ y = .ok a) ∨ ∃ e e', x = .error e ∧ y = .error e' ∧ h e = h e' := by
  cases x with
  | ok a =>
    cases y with
    | ok b => exact .inl ⟨a, rfl, congrArg Except.ok (Except.ok.inj heq).symm⟩
    | error e' => cases heq
  | error e =>
    cases y with
    | ok b => cases heq
    | error e' => exact .inr ⟨e, e', rfl, rfl, Except.error.inj heq⟩

/-- What is made of a value and of an error does not depend on the order. -/
theorem mapError_map (x : Except ε α) (f : α → β) (h : ε → δ) :
    (x.map f).mapError h = (x.mapError h).map f := by
  cases x <;> rfl

variable {f : α → Except ε β}

/-- The results of some inputs are that of the first and those of the others. -/
theorem exists_of_mapM_cons {a : α} {as : List α} {bs : List β}
    (h : (a :: as).mapM f = .ok bs) :
    ∃ first rest, f a = .ok first ∧ as.mapM f = .ok rest ∧ bs = first :: rest := by
  rw [List.mapM_cons] at h
  obtain ⟨first, hfirst, h⟩ := exists_of_bind h
  obtain ⟨rest, hrest, h⟩ := exists_of_bind h
  exact ⟨first, rest, hfirst, hrest, (Except.ok.inj h).symm⟩

/-- Each of some results is the result of one of the inputs. -/
theorem exists_mem_of_mapM {as : List α} {bs : List β} (h : as.mapM f = .ok bs) :
    ∀ b ∈ bs, ∃ a ∈ as, f a = .ok b := by
  induction as generalizing bs with
  | nil =>
    obtain rfl : bs = [] := (Except.ok.inj h).symm
    simp
  | cons a as ih =>
    obtain ⟨first, rest, hfirst, hrest, rfl⟩ := exists_of_mapM_cons h
    rw [List.forall_mem_cons]
    refine ⟨⟨a, List.mem_cons_self, hfirst⟩, fun b hb => ?_⟩
    obtain ⟨a', ha', hb⟩ := ih hrest b hb
    exact ⟨a', List.mem_cons_of_mem _ ha', hb⟩

/-- Inputs that have results each have them together, in their order. -/
theorem mapM_eq_ok_map {g : α → β} {as : List α} (h : ∀ a ∈ as, f a = .ok (g a)) :
    as.mapM f = .ok (as.map g) := by
  induction as with
  | nil => rfl
  | cons a as ih =>
    obtain ⟨ha, has⟩ := List.forall_mem_cons.mp h
    rw [List.mapM_cons, ha, ih has]
    rfl

/-- A function that undoes another does so on lists. -/
theorem mapM_map_eq_ok {g : β → α} {bs : List β} (h : ∀ b ∈ bs, f (g b) = .ok b) :
    (bs.map g).mapM f = .ok bs := by
  rw [List.mapM_map]
  have hall := mapM_eq_ok_map (f := f ∘ g) (g := id) h
  rwa [List.map_id] at hall

/-- What is made of all results can be made of each of them. -/
theorem mapM_map (g : β → γ) (as : List α) :
    (as.mapM fun a => (f a).map g) = (as.mapM f).map (List.map g) := by
  induction as with
  | nil => rfl
  | cons a as ih =>
    rw [List.mapM_cons, List.mapM_cons, ih]
    cases f a with
    | error e => rfl
    | ok b => cases as.mapM f <;> rfl

/-- What is made of the error can be made where it occurs. -/
theorem mapM_mapError (h : ε → δ) (as : List α) :
    (as.mapM fun a => (f a).mapError h) = (as.mapM f).mapError h := by
  induction as with
  | nil => rfl
  | cons a as ih =>
    rw [List.mapM_cons, List.mapM_cons, ih]
    cases f a with
    | error e => rfl
    | ok b => cases as.mapM f <;> rfl

/-- Two functions that agree on all of some inputs do so on the list of them. -/
theorem mapM_congr {g : α → Except ε β} {as : List α} (h : ∀ a ∈ as, f a = g a) :
    as.mapM f = as.mapM g := by
  induction as with
  | nil => rfl
  | cons a as ih =>
    obtain ⟨ha, has⟩ := List.forall_mem_cons.mp h
    rw [List.mapM_cons, List.mapM_cons, ha, ih has]

/-- Each of some inputs has one of the results. -/
theorem exists_result_of_mapM {as : List α} {bs : List β} (h : as.mapM f = .ok bs) :
    ∀ a ∈ as, ∃ b ∈ bs, f a = .ok b := by
  induction as generalizing bs with
  | nil => simp
  | cons a as ih =>
    obtain ⟨first, rest, hfirst, hrest, rfl⟩ := exists_of_mapM_cons h
    rw [List.forall_mem_cons]
    refine ⟨⟨first, List.mem_cons_self, hfirst⟩, fun a' ha' => ?_⟩
    obtain ⟨b, hb, ha'⟩ := ih hrest a' ha'
    exact ⟨b, List.mem_cons_of_mem _ hb, ha'⟩

/-- If one of some inputs has no result, there are no results of them all. -/
theorem exists_error_of_mapM {as : List α} {a : α} {e : ε} (ha : a ∈ as) (he : f a = .error e) :
    ∃ e', as.mapM f = .error e' := by
  cases hall : as.mapM f with
  | error e' => exact ⟨e', rfl⟩
  | ok bs =>
    obtain ⟨b, -, hb⟩ := exists_result_of_mapM hall a ha
    rw [he] at hb
    contradiction

end AccessorUpgrade
