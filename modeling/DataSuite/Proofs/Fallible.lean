import Mathlib.Data.List.Forall2

/-!
# Steps that may fail

A chain of steps succeeds if and only if each step does.
-/

namespace DataSuite

section Steps

variable {α β γ ε ε' : Type}

theorem bind_eq_ok_iff
    {first : Except ε α}
    {next : α → Except ε β}
    {result : β} :
    first >>= next = .ok result ↔ ∃ found, first = .ok found ∧ next found = .ok result := by
  cases first with
  | error cause => exact iff_of_false (by rintro ⟨⟩) (by rintro ⟨_, ⟨⟩, _⟩)
  | ok found => simp [bind, Except.bind]

/-- A chain of steps fails if and only if one of them is the first to fail. -/
theorem bind_eq_error_iff
    {first : Except ε α}
    {next : α → Except ε β}
    {cause : ε} :
    first >>= next = .error cause ↔
      first = .error cause ∨ ∃ found, first = .ok found ∧ next found = .error cause := by
  cases first with
  | error cause' => simp [bind, Except.bind]
  | ok found => simp [bind, Except.bind]

theorem map_eq_ok_iff
    {first : Except ε α}
    {change : α → β}
    {result : β} :
    first.map change = .ok result ↔ ∃ found, first = .ok found ∧ change found = result := by
  cases first <;> simp [Except.map]

theorem map_eq_error_iff
    {first : Except ε α}
    {change : α → β}
    {cause : ε} :
    first.map change = .error cause ↔ first = .error cause := by
  cases first <;> simp [Except.map]

theorem exists_map_eq_ok_iff
    {first : Except ε α}
    {change : α → β} :
    (∃ result, first.map change = .ok result) ↔ ∃ found, first = .ok found := by
  cases first <;> simp [Except.map]

@[simp] theorem mapError_ok
    (blame : ε → ε')
    (value : α) :
    (Except.ok value).mapError blame = .ok value := rfl

@[simp] theorem mapError_error
    (blame : ε → ε')
    (cause : ε) :
    (Except.error cause : Except ε α).mapError blame = .error (blame cause) := rfl

theorem mapError_eq_ok_iff
    {first : Except ε α}
    {blame : ε → ε'}
    {result : α} :
    first.mapError blame = .ok result ↔ first = .ok result := by
  cases first <;> simp

theorem mapError_eq_error_iff
    {first : Except ε α}
    {blame : ε → ε'}
    {cause : ε'} :
    first.mapError blame = .error cause ↔ ∃ fault, first = .error fault ∧ blame fault = cause := by
  cases first <;> simp

theorem mapError_map
    (change : α → β)
    (blame : ε → ε')
    (first : Except ε α) :
    (first.map change).mapError blame = (first.mapError blame).map change := by
  cases first <;> rfl

/-- A step succeeds on each item if and only if it gives all the results. -/
theorem mapM_eq_ok_iff_forall₂
    {step : α → Except ε β}
    {items : List α}
    {results : List β} :
    items.mapM step = .ok results ↔
      List.Forall₂ (fun item result => step item = .ok result) items results := by
  induction items generalizing results with
  | nil =>
      rw [List.mapM_nil, List.forall₂_nil_left_iff]
      exact ⟨fun same => (Except.ok.inj same).symm, fun same => same ▸ rfl⟩
  | cons first rest inductionHypothesis =>
      rw [List.mapM_cons, List.forall₂_cons_left_iff]
      simp only [bind_eq_ok_iff, inductionHypothesis]
      constructor
      · rintro ⟨result, found, others, foundOthers, same⟩
        exact ⟨result, others, found, foundOthers, (Except.ok.inj same).symm⟩
      · rintro ⟨result, others, found, foundOthers, rfl⟩
        exact ⟨result, found, others, foundOthers, rfl⟩

/-- A step fails on items because it fails on one of them. -/
theorem exists_mem_of_mapM_eq_error
    {step : α → Except ε β}
    {items : List α}
    {cause : ε}
    (fails : items.mapM step = .error cause) :
    ∃ item ∈ items, step item = .error cause := by
  induction items with
  | nil => cases fails
  | cons first rest inductionHypothesis =>
      rw [List.mapM_cons, bind_eq_error_iff] at fails
      rcases fails with failsFirst | ⟨_, -, failsLater⟩
      · exact ⟨first, List.mem_cons_self, failsFirst⟩
      · rcases bind_eq_error_iff.mp failsLater with failsRest | ⟨_, -, ⟨⟩⟩
        obtain ⟨item, member, failsItem⟩ := inductionHypothesis failsRest
        exact ⟨item, List.mem_cons_of_mem first member, failsItem⟩

/-- Where each fault is blamed in one way, a failure on items is a fault that is blamed so. -/
theorem exists_blame_of_mapM_eq_error
    {step : α → Except ε β}
    {blame : ε → ε'}
    {items : List α}
    {cause : ε'}
    (fails : (items.mapM fun item => (step item).mapError blame) = .error cause) :
    ∃ fault, blame fault = cause := by
  obtain ⟨item, -, failsItem⟩ := exists_mem_of_mapM_eq_error fails
  obtain ⟨fault, -, blamed⟩ := mapError_eq_error_iff.mp failsItem
  exact ⟨fault, blamed⟩

/-- Items can be related place by place if and only if each of them can be related. -/
theorem exists_forall₂_iff
    {related : α → β → Prop}
    {items : List α} :
    (∃ results, List.Forall₂ related items results) ↔ ∀ item ∈ items, ∃ result, related item result := by
  induction items with
  | nil => exact iff_of_true ⟨[], .nil⟩ nofun
  | cons first rest inductionHypothesis =>
      rw [List.forall_mem_cons, ← inductionHypothesis]
      constructor
      · rintro ⟨_, _ | ⟨relatesFirst, relatesRest⟩⟩
        exact ⟨⟨_, relatesFirst⟩, _, relatesRest⟩
      · rintro ⟨⟨result, relatesFirst⟩, results, relatesRest⟩
        exact ⟨result :: results, .cons relatesFirst relatesRest⟩

/-- What holds of each result to which an item can be related holds of all results. -/
theorem forall_mem_of_forall₂
    {related : α → β → Prop}
    {holds : β → Prop}
    {items : List α}
    {results : List β}
    (all : List.Forall₂ related items results)
    (each : ∀ {item result}, related item result → holds result) :
    ∀ result ∈ results, holds result := by
  intro result member
  obtain ⟨item, relates⟩ := exists_forall₂_iff.mp ⟨items, all.flip⟩ result member
  exact each relates

/-- Items are related place by place. -/
theorem exists_getElem?_of_forall₂
    {related : α → β → Prop}
    {items : List α}
    {results : List β}
    (all : List.Forall₂ related items results)
    {place : Nat}
    {item : α}
    (found : items[place]? = some item) :
    ∃ result, results[place]? = some result ∧ related item result := by
  induction all generalizing place with
  | nil => simp at found
  | cons first _ inductionHypothesis =>
      cases place with
      | zero =>
          obtain rfl := Option.some.inj found
          exact ⟨_, rfl, first⟩
      | succ place => exact inductionHypothesis found

theorem map_mapM
    (step : α → Except ε β)
    (change : β → γ)
    (items : List α) :
    (items.mapM step).map (List.map change) = items.mapM fun item => (step item).map change := by
  induction items with
  | nil => rfl
  | cons first rest inductionHypothesis =>
      rw [List.mapM_cons, List.mapM_cons, ← inductionHypothesis]
      cases step first with
      | error cause => rfl
      | ok result => cases rest.mapM step <;> rfl

theorem isOk_iff
    {result : Except ε α} :
    result.isOk = true ↔ ∃ value, result = .ok value := by
  cases result <;> simp [Except.isOk, Except.toBool]

theorem isOk_eq_false_iff
    {result : Except ε α} :
    result.isOk = false ↔ ∃ cause, result = .error cause := by
  cases result <;> simp [Except.isOk, Except.toBool]

theorem exists_error_iff
    {result : Except ε α} :
    (∃ cause, result = .error cause) ↔ ¬ ∃ value, result = .ok value := by
  cases result <;> simp

/-- Whether a result is such a value, unless it is a failure. -/
def IfOk (holds : α → Prop) : Except ε α → Prop
  | .error _ => True
  | .ok value => holds value

end Steps
end DataSuite
