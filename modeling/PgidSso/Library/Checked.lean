import Mathlib.Data.List.Forall2

/-! Computations that may reject their input with a message. -/

namespace checked

/-- `if (condition) throw new Error(message)`. -/
def throwIf {ε : Type} (condition : Prop) [Decidable condition] (message : ε) : Except ε Unit :=
  if condition then .error message else .ok ()

@[simp] theorem throwIf_eq_ok_iff {ε : Type} {condition : Prop} [Decidable condition] {message : ε}
    {result : Unit} : throwIf condition message = .ok result ↔ ¬ condition := by
  unfold throwIf
  split <;> simp_all

theorem throwIf_of_not {ε : Type} {condition : Prop} [Decidable condition] {message : ε}
    (hnot : ¬ condition) : throwIf condition message = .ok () :=
  throwIf_eq_ok_iff.mpr hnot

@[simp] theorem bind_eq_ok_iff {ε A B : Type} {x : Except ε A} {f : A → Except ε B} {y : B} :
    (x >>= f) = .ok y ↔ ∃ a, x = .ok a ∧ f a = .ok y := by
  cases x <;> simp [Bind.bind, Except.bind]

@[simp] theorem pure_eq_ok_iff {ε A : Type} {x y : A} :
    (pure x : Except ε A) = .ok y ↔ x = y := by
  simp [Pure.pure, Except.pure]

@[simp] theorem throw_ne_ok {ε A : Type} {message : ε} {y : A} :
    (throw message : Except ε A) ≠ .ok y := by
  simp [throw, throwThe, MonadExceptOf.throw]

/-- A guard in front of a computation: it accepts exactly when the guard lets
the input through and the rest accepts. -/
theorem throwIf_bind_eq_ok_iff {ε B : Type} {condition : Prop} [Decidable condition]
    {message : ε} {next : Unit → Except ε B} {y : B} :
    (throwIf condition message >>= next) = .ok y ↔ ¬ condition ∧ next () = .ok y := by
  rw [bind_eq_ok_iff]
  constructor
  · rintro ⟨⟨⟩, hguard, hnext⟩
    exact ⟨throwIf_eq_ok_iff.mp hguard, hnext⟩
  · rintro ⟨hguard, hnext⟩
    exact ⟨(), throwIf_eq_ok_iff.mpr hguard, hnext⟩

@[simp] theorem ok_bind {ε A B : Type} {value : A} {next : A → Except ε B} :
    (Except.ok value >>= next) = next value := rfl

theorem throwIf_bind_of {ε B : Type} {condition : Prop} [Decidable condition] {message : ε}
    {next : Unit → Except ε B} (hcondition : condition) :
    (throwIf condition message >>= next) = .error message := by
  rw [throwIf, if_pos hcondition]
  rfl

theorem throwIf_bind_of_not {ε B : Type} {condition : Prop} [Decidable condition] {message : ε}
    {next : Unit → Except ε B} (hnot : ¬ condition) :
    (throwIf condition message >>= next) = next () := by
  rw [throwIf_of_not hnot]
  rfl

/-- `value ?? fallback` in a checking parser: absent values are accepted as they are. -/
def nullable {ε A B : Type} (parser : A → Except ε B) : Option A → Except ε (Option B)
  | none => .ok none
  | some value => (parser value).map some

@[simp] theorem nullable_none {ε A B : Type} (parser : A → Except ε B) :
    nullable parser none = .ok none := rfl

theorem nullable_some_eq_ok_iff {ε A B : Type} {parser : A → Except ε B} {value : A}
    {result : Option B} :
    nullable parser (some value) = .ok result ↔ ∃ b, parser value = .ok b ∧ result = some b := by
  cases hparser : parser value <;> simp [nullable, hparser, Except.map, eq_comm]

/-- A check of a value that has to be there. -/
def required {ε A B : Type} (value : Option A) (message : ε) (check : A → Except ε B) : Except ε B :=
  match value with
  | some value => check value
  | none => .error message

@[simp] theorem required_eq_ok_iff {ε A B : Type} {value : Option A} {message : ε} {check : A → Except ε B}
    {result : B} : required value message check = .ok result ↔ ∃ a, value = some a ∧ check a = .ok result := by
  cases value <;> simp [required]

/-- A check that returns what it accepts. -/
def Returns {ε A : Type} (check : A → Except ε A) : Prop :=
  ∀ value result, check value = .ok result → result = value

theorem nullable_returns {ε A : Type} {check : A → Except ε A} (hcheck : Returns check) :
    Returns (nullable check) := by
  rintro (_ | value) result hresult
  · rw [nullable_none, Except.ok.injEq] at hresult
    exact hresult.symm
  · obtain ⟨checked, hvalue, rfl⟩ := nullable_some_eq_ok_iff.mp hresult
    rw [hcheck value checked hvalue]

/-- A list of checked values is accepted when each of them is. -/
theorem mapM_eq_ok_iff_of_returns {ε A : Type} {check : A → Except ε A} (hcheck : Returns check)
    {values results : List A} :
    values.mapM check = .ok results ↔
      results = values ∧ ∀ value ∈ values, check value = .ok value := by
  induction values generalizing results with
  | nil => simp [Pure.pure, Except.pure, eq_comm]
  | cons value values ih =>
    rw [List.mapM_cons]
    simp only [bind_eq_ok_iff, pure_eq_ok_iff, ih, List.forall_mem_cons]
    constructor
    · rintro ⟨result, hvalue, rest, ⟨rfl, hrest⟩, rfl⟩
      obtain rfl := hcheck value result hvalue
      exact ⟨rfl, hvalue, hrest⟩
    · rintro ⟨rfl, hvalue, hrest⟩
      exact ⟨value, hvalue, values, ⟨rfl, hrest⟩, rfl⟩

/-- Computations that all have a result have the list of them. -/
theorem exists_mapM_eq_ok {ε A B : Type} {f : A → Except ε B} {values : List A}
    (hvalues : ∀ value ∈ values, ∃ result, f value = .ok result) : ∃ results, values.mapM f = .ok results := by
  induction values with
  | nil => exact ⟨[], rfl⟩
  | cons value values ih =>
    rw [List.forall_mem_cons] at hvalues
    obtain ⟨⟨result, hresult⟩, hrest⟩ := hvalues
    obtain ⟨results, hresults⟩ := ih hrest
    refine ⟨result :: results, ?_⟩
    rw [List.mapM_cons, hresult, ok_bind, hresults, ok_bind]
    rfl

/-- The list of results has one for each of the values. -/
theorem mapM_eq_ok_iff {ε A B : Type} {f : A → Except ε B} {values : List A} {results : List B} :
    values.mapM f = .ok results ↔ List.Forall₂ (fun value result => f value = .ok result) values results := by
  induction values generalizing results with
  | nil =>
    rw [List.mapM_nil, pure_eq_ok_iff, List.forall₂_nil_left_iff]
    exact eq_comm
  | cons value values ih =>
    rw [List.mapM_cons, List.forall₂_cons_left_iff]
    simp only [bind_eq_ok_iff, pure_eq_ok_iff, ih]
    constructor
    · rintro ⟨result, hvalue, rest, hrest, rfl⟩
      exact ⟨result, rest, hvalue, hrest, rfl⟩
    · rintro ⟨result, rest, hvalue, hrest, rfl⟩
      exact ⟨result, hvalue, rest, hrest, rfl⟩

/-- Computations with the results of a function have the list of them. -/
theorem mapM_eq_ok_map {ε A B : Type} {f : A → Except ε B} {g : A → B} {values : List A}
    (hvalues : ∀ value ∈ values, f value = .ok (g value)) : values.mapM f = .ok (values.map g) := by
  induction values with
  | nil => rfl
  | cons value values ih =>
    obtain ⟨hvalue, hrest⟩ := List.forall_mem_cons.mp hvalues
    rw [List.mapM_cons, hvalue, ok_bind, ih hrest, ok_bind]
    rfl

/-- Of computations that fail alike, one that fails is enough. -/
theorem mapM_eq_error {ε A B : Type} {f : A → Except ε B} {failure : ε} {values : List A}
    (hall : ∀ value ∈ values, (∃ result, f value = .ok result) ∨ f value = .error failure)
    (hsome : ∃ value ∈ values, f value = .error failure) : values.mapM f = .error failure := by
  induction values with
  | nil =>
    obtain ⟨value, hvalue, -⟩ := hsome
    exact absurd hvalue List.not_mem_nil
  | cons value values ih =>
    obtain ⟨hvalue, hrest⟩ := List.forall_mem_cons.mp hall
    rw [List.mapM_cons]
    rcases hvalue with ⟨result, hresult⟩ | hfailure
    · obtain ⟨other, hother, hfails⟩ := hsome
      have hlater : other ∈ values := by
        rcases List.mem_cons.mp hother with rfl | hother
        · rw [hresult] at hfails
          cases hfails
        · exact hother
      rw [hresult, ok_bind, ih hrest ⟨other, hlater, hfails⟩]
      rfl
    · rw [hfailure]
      rfl

/-- A computation that has a result is that result. -/
theorem eq_ok_get {ε α : Type} {computation : Except ε α}
    (hreturns : computation.toOption.isSome = true) :
    computation = .ok (computation.toOption.get hreturns) := by
  cases computation with
  | ok value => rfl
  | error error => cases hreturns

end checked
