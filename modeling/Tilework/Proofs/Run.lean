import Mathlib.Data.List.Forall2
import Mathlib.Data.List.Zip

/-!
# Runs of fallible steps

A step that can fail either returns a value or an error, and a step with a state
leaves a state behind in both cases.  The laws say when a sequence of steps
succeeds, what all its steps keep, and where its errors come from.
-/

namespace Tilework

/-! ## Lists member by member -/

section Members

variable {α β : Type}

/-- What corresponds to a member of a list. -/
theorem exists_mem_zip {R : α → β → Prop} {values : List α} {others : List β}
    (each : List.Forall₂ R values others) {value : α} (member : value ∈ values) :
    ∃ other, (value, other) ∈ values.zip others ∧ R value other := by
  obtain ⟨long, related⟩ := List.forall₂_iff_zip.mp each
  rw [← List.map_fst_zip (Nat.le_of_eq long), List.mem_map] at member
  obtain ⟨⟨value, other⟩, pair, rfl⟩ := member
  exact ⟨other, pair, related pair⟩

theorem exists_mem_zip_right {R : α → β → Prop} {values : List α} {others : List β}
    (each : List.Forall₂ R values others) {other : β} (member : other ∈ others) :
    ∃ value, (value, other) ∈ values.zip others ∧ R value other := by
  obtain ⟨value, pair, related⟩ := exists_mem_zip each.flip member
  rw [← List.zip_swap others values]
  exact ⟨value, List.mem_map_of_mem pair, related⟩

/-- Of a list with at most one member, the front is nothing or all of it. -/
theorem eq_nil_or_eq_toList {front rest : List α} {given : Option α}
    (parts : front ++ rest = given.toList) : front = [] ∨ front = given.toList := by
  cases given with
  | none => exact Or.inl (List.append_eq_nil_iff.mp parts).1
  | some value =>
      rcases List.append_eq_singleton_iff.mp parts with ⟨nothing, _⟩ | ⟨all, _⟩
      · exact Or.inl nothing
      · exact Or.inr all

/-- A prefix of two lists in a row is a prefix of the first and one of the second. -/
theorem exists_append_of_prefix {front first second : List α} (inside : front <+: first ++ second) :
    ∃ before after, front = before ++ after ∧ before <+: first ∧ after <+: second := by
  obtain ⟨rest, whole⟩ := inside
  rcases List.append_eq_append_iff.mp whole with ⟨more, within, _⟩ | ⟨after, beyond, remaining⟩
  · exact ⟨front, [], (List.append_nil front).symm, ⟨more, within.symm⟩, List.nil_prefix⟩
  · exact ⟨first, after, beyond, List.prefix_rfl, ⟨rest, remaining.symm⟩⟩

/-- What two lists have to do with each other through a third one. -/
theorem forall₂_of_common {γ : Type} {R : α → β → Prop} {S : α → γ → Prop} {T : β → γ → Prop}
    {values : List α} {others : List β} {last : List γ} (first : List.Forall₂ R values others)
    (second : List.Forall₂ S values last)
    (related : ∀ value ∈ values, ∀ other third, R value other → S value third → T other third) :
    List.Forall₂ T others last := by
  induction first generalizing last with
  | nil =>
      cases second
      exact .nil
  | cons first later ih =>
      cases second with
      | cons second rest =>
          rw [List.forall_mem_cons] at related
          exact .cons (related.1 _ _ first second) (ih rest related.2)

/-- Three lists, each two of which have to do with each other. -/
theorem forall₂_of_triangle {γ : Type} {R T : α → β → Prop} {S : α → γ → Prop} {U : β → γ → Prop}
    {values : List α} {others : List β} {last : List γ} (first : List.Forall₂ R values others)
    (second : List.Forall₂ S values last) (third : List.Forall₂ U others last)
    (related : ∀ value other common, R value other → S value common → U other common →
      T value other) : List.Forall₂ T values others := by
  induction first generalizing last with
  | nil => exact .nil
  | cons first _ ih =>
      cases second with
      | cons second later =>
          cases third with
          | cons third rest => exact .cons (related _ _ _ first second third) (ih later rest)

/-- What is done with the members of a list decides what is done with the list. -/
theorem mapM_congr_of_mem {m : Type → Type} [Monad m] [LawfulMonad m] {f g : α → m β}
    {values : List α} (agree : ∀ value ∈ values, f value = g value) :
    values.mapM f = values.mapM g := by
  induction values with
  | nil => rfl
  | cons value values ih =>
      rw [List.forall_mem_cons] at agree
      rw [List.mapM_cons, List.mapM_cons, agree.1, ih agree.2]

end Members

/-! ## Outcomes -/

section Outcomes

variable {ε α β : Type}

theorem bind_eq_ok_iff {outcome : Except ε α} {next : α → Except ε β} {b : β} :
    (outcome >>= next) = .ok b ↔ ∃ a, outcome = .ok a ∧ next a = .ok b := by
  cases outcome <;> simp [bind, Except.bind]

theorem bind_eq_error_iff {outcome : Except ε α} {next : α → Except ε β} {e : ε} :
    (outcome >>= next) = .error e ↔
      outcome = .error e ∨ ∃ a, outcome = .ok a ∧ next a = .error e := by
  cases outcome <;> simp [bind, Except.bind]

/-- A row of steps fails at the first step that does. -/
theorem foldlM_eq_error_iff {values : List β} {step : α → β → Except ε α} {start : α} {e : ε} :
    values.foldlM step start = .error e ↔
      ∃ before value after state, values = before ++ value :: after ∧
        before.foldlM step start = .ok state ∧ step state value = .error e := by
  induction values generalizing start with
  | nil => simp [pure, Except.pure]
  | cons value values ih =>
      rw [List.foldlM_cons, bind_eq_error_iff]
      constructor
      · rintro (fails | ⟨next, first, fails⟩)
        · exact ⟨[], value, values, start, rfl, rfl, fails⟩
        · obtain ⟨before, other, after, state, rfl, runs, fails⟩ := ih.mp fails
          refine ⟨value :: before, other, after, state, rfl, ?_, fails⟩
          rw [List.foldlM_cons]
          exact bind_eq_ok_iff.mpr ⟨next, first, runs⟩
      · rintro ⟨before, other, after, state, split, runs, fails⟩
        cases before with
        | nil =>
            cases split
            cases runs
            exact Or.inl fails
        | cons first before =>
            cases split
            obtain ⟨next, first, runs⟩ := bind_eq_ok_iff.mp runs
            exact Or.inr ⟨next, first, ih.mpr ⟨before, other, after, state, rfl, runs, fails⟩⟩

/-- What every step of a row keeps of the members so far holds of the whole row. -/
theorem holds_of_foldlM {I : List β → α → Prop} {step : α → β → Except ε α} {last : α}
    (kept : ∀ {earlier value state next}, I earlier state → step state value = .ok next →
      I (earlier ++ [value]) next)
    {earlier values : List β} {state : α} (holds : I earlier state)
    (runs : values.foldlM step state = .ok last) : I (earlier ++ values) last := by
  induction values generalizing earlier state with
  | nil =>
      cases runs
      rwa [List.append_nil]
  | cons value values ih =>
      obtain ⟨next, first, rest⟩ := bind_eq_ok_iff.mp runs
      rw [List.append_cons]
      exact ih (kept holds first) rest

/-- A refusal ends in a value when it does not apply and what follows it ends in one. -/
theorem throw_if_eq_ok_iff {refused : Prop} [Decidable refused] {error : ε}
    {outcome : Except ε α} {a : α} :
    (if refused then (do throw error; outcome) else outcome) = .ok a ↔
      ¬ refused ∧ outcome = .ok a := by
  by_cases applies : refused
  · simp [applies, throw, throwThe, MonadExceptOf.throw, bind, Except.bind]
  · simp [applies]

theorem map_eq_ok_iff {outcome : Except ε α} {f : α → β} {b : β} :
    outcome.map f = .ok b ↔ ∃ a, outcome = .ok a ∧ f a = b := by
  cases outcome <;> simp [Except.map]

theorem map_eq_error_iff {outcome : Except ε α} {f : α → β} {e : ε} :
    outcome.map f = .error e ↔ outcome = .error e := by
  cases outcome <;> simp [Except.map]

theorem mapError_eq_ok_iff {ε' : Type} {outcome : Except ε α} {f : ε → ε'} {a : α} :
    outcome.mapError f = .ok a ↔ outcome = .ok a := by
  cases outcome <;> simp [Except.mapError]

theorem mapError_eq_error_iff {ε' : Type} {outcome : Except ε α} {f : ε → ε'} {e : ε'} :
    outcome.mapError f = .error e ↔ ∃ inner, outcome = .error inner ∧ f inner = e := by
  cases outcome <;> simp [Except.mapError]

theorem mem_toOption_iff {outcome : Except ε α} {a : α} :
    a ∈ outcome.toOption ↔ outcome = .ok a := by
  cases outcome <;> simp [Except.toOption]

theorem forM_eq_ok_iff {values : List α} {f : α → Except ε Unit} :
    values.forM f = .ok () ↔ ∀ value ∈ values, f value = .ok () := by
  rw [List.forM_eq_forM]
  induction values with
  | nil => simp [pure, Except.pure]
  | cons value values ih =>
      simp only [List.forM_cons, bind_eq_ok_iff, ih, List.forall_mem_cons]
      constructor
      · rintro ⟨⟨⟩, first, later⟩
        exact ⟨first, later⟩
      · rintro ⟨first, later⟩
        exact ⟨(), first, later⟩

theorem mapM_eq_ok_iff {values : List α} {f : α → Except ε β} {results : List β} :
    values.mapM f = .ok results ↔
      List.Forall₂ (fun value result => f value = .ok result) values results := by
  induction values generalizing results with
  | nil => simp [pure, Except.pure, eq_comm]
  | cons value values ih =>
      simp only [List.mapM_cons, bind_eq_ok_iff, ih, List.forall₂_cons_left_iff]
      constructor
      · rintro ⟨first, found, later, each, same⟩
        cases same
        exact ⟨first, later, found, each, rfl⟩
      · rintro ⟨first, later, found, each, rfl⟩
        exact ⟨first, found, later, each, rfl⟩

theorem mapM_eq_some_iff {values : List α} {f : α → Option β} {results : List β} :
    values.mapM f = some results ↔
      List.Forall₂ (fun value result => f value = some result) values results := by
  induction values generalizing results with
  | nil => simp [eq_comm]
  | cons value values ih =>
      simp only [List.mapM_cons, Option.bind_eq_bind, Option.bind_eq_some_iff, ih,
        List.forall₂_cons_left_iff]
      constructor
      · rintro ⟨first, found, later, each, same⟩
        cases same
        exact ⟨first, later, found, each, rfl⟩
      · rintro ⟨first, later, found, each, rfl⟩
        exact ⟨first, found, later, each, rfl⟩

/-! ### Errors -/

variable {P : ε → Prop}

/-- An outcome that is an error is one of those described. -/
def Rejects (P : ε → Prop) (outcome : Except ε α) : Prop :=
  ∀ error, outcome = .error error → P error

theorem rejects_ok (value : α) : Rejects P (.ok value) := nofun

theorem rejects_error {error : ε} (described : P error) :
    Rejects P (.error error : Except ε α) := by
  rintro _ ⟨⟩
  exact described

theorem rejects_bind {outcome : Except ε α} {next : α → Except ε β} (first : Rejects P outcome)
    (later : ∀ value, Rejects P (next value)) : Rejects P (outcome >>= next) := by
  intro error failed
  rcases bind_eq_error_iff.mp failed with failed | ⟨value, _, failed⟩
  · exact first error failed
  · exact later value error failed

theorem rejects_map {outcome : Except ε α} (f : α → β) (described : Rejects P outcome) :
    Rejects P (outcome.map f) := by
  intro error failed
  exact described error (map_eq_error_iff.mp failed)

theorem rejects_mapError {ε' : Type} {outcome : Except ε' α} {f : ε' → ε}
    (described : Rejects (fun inner => P (f inner)) outcome) : Rejects P (outcome.mapError f) := by
  intro error failed
  rcases mapError_eq_error_iff.mp failed with ⟨inner, within, rfl⟩
  exact described inner within

theorem Rejects.imp {Q : ε → Prop} {outcome : Except ε α} (weaker : ∀ error, P error → Q error)
    (described : Rejects P outcome) : Rejects Q outcome :=
  fun error failed => weaker error (described error failed)

theorem rejects_foldlM {values : List β} {f : α → β → Except ε α} {start : α}
    (each : ∀ result value, Rejects P (f result value)) : Rejects P (values.foldlM f start) := by
  induction values generalizing start with
  | nil => exact rejects_ok start
  | cons value values ih =>
      rw [List.foldlM_cons]
      exact rejects_bind (each start value) fun result => ih

theorem rejects_mapM {values : List α} {f : α → Except ε β}
    (each : ∀ value, Rejects P (f value)) : Rejects P (values.mapM f) := by
  induction values with
  | nil => exact rejects_ok []
  | cons value values ih =>
      rw [List.mapM_cons]
      apply rejects_bind (each value)
      intro result
      exact rejects_bind ih fun results => rejects_ok (result :: results)

end Outcomes

/-! ## Runs -/

section Runs

variable {ε σ α β : Type} {action : ExceptT ε (StateM σ) α}
  {next : α → ExceptT ε (StateM σ) β} {before after : σ} {outcome : Except ε α}

/-- A step started in one state ends with an outcome in another. -/
def Runs (action : ExceptT ε (StateM σ) α) (before : σ) (outcome : Except ε α) (after : σ) :
    Prop :=
  (show Except ε α × σ from action.run before) = (outcome, after)

theorem runs_pure {value : α} :
    Runs (pure value : ExceptT ε (StateM σ) α) before outcome after ↔
      outcome = .ok value ∧ after = before := by
  rw [Runs, eq_comm, Prod.ext_iff]
  exact Iff.rfl

theorem runs_throw {error : ε} :
    Runs (throw error : ExceptT ε (StateM σ) α) before outcome after ↔
      outcome = .error error ∧ after = before := by
  rw [Runs, eq_comm, Prod.ext_iff]
  exact Iff.rfl

theorem runs_lift {result : Except ε α} :
    Runs (liftM result : ExceptT ε (StateM σ) α) before outcome after ↔
      outcome = result ∧ after = before := by
  rw [Runs, eq_comm, Prod.ext_iff]
  exact Iff.rfl

theorem runs_get {outcome : Except ε σ} :
    Runs (get : ExceptT ε (StateM σ) σ) before outcome after ↔
      outcome = .ok before ∧ after = before := by
  rw [Runs, eq_comm, Prod.ext_iff]
  exact Iff.rfl

theorem runs_set {state : σ} {outcome : Except ε PUnit} :
    Runs (set state : ExceptT ε (StateM σ) PUnit) before outcome after ↔
      outcome = .ok ⟨⟩ ∧ after = state := by
  rw [Runs, eq_comm, Prod.ext_iff]
  exact Iff.rfl

theorem runs_modify {f : σ → σ} {outcome : Except ε PUnit} :
    Runs (modify f : ExceptT ε (StateM σ) PUnit) before outcome after ↔
      outcome = .ok ⟨⟩ ∧ after = f before := by
  rw [Runs, eq_comm, Prod.ext_iff]
  exact Iff.rfl

theorem Runs.unique {other : Except ε α} {last : σ} (run : Runs action before outcome after)
    (again : Runs action before other last) : outcome = other ∧ after = last :=
  Prod.mk.inj (run.symm.trans again)

theorem runs_bind {outcome : Except ε β} :
    Runs (action >>= next) before outcome after ↔
      (∃ value middle, Runs action before (.ok value) middle ∧
        Runs (next value) middle outcome after) ∨
      ∃ error, Runs action before (.error error) after ∧ outcome = .error error := by
  obtain ⟨result, middle, ran⟩ : ∃ result middle, Runs action before result middle :=
    ⟨(action.run before).1, (action.run before).2, rfl⟩
  have step : Runs (action >>= next) before outcome after ↔
      Runs (ExceptT.mk (ExceptT.bindCont next result)) middle outcome after := by
    simp only [Runs] at ran ⊢
    have first : (action >>= next).run before =
        ExceptT.bindCont next (action.run before).1 (action.run before).2 := rfl
    rw [first, ran]
    rfl
  rw [step]
  cases result with
  | ok value =>
      constructor
      · intro run
        exact Or.inl ⟨value, middle, ran, run⟩
      · rintro (⟨other, state, first, run⟩ | ⟨error, first, _⟩)
        · obtain ⟨same, rfl⟩ := ran.unique first
          cases same
          exact run
        · cases (ran.unique first).1
  | error error =>
      have thrown : Runs (ExceptT.mk (ExceptT.bindCont next (.error error))) middle outcome after ↔
          outcome = .error error ∧ after = middle := runs_throw
      rw [thrown]
      constructor
      · rintro ⟨rfl, rfl⟩
        exact Or.inr ⟨error, ran, rfl⟩
      · rintro (⟨value, state, first, _⟩ | ⟨other, first, rfl⟩)
        · cases (ran.unique first).1
        · obtain ⟨same, rfl⟩ := ran.unique first
          cases same
          exact ⟨rfl, rfl⟩

/-- Reading the state goes on with the state as it is. -/
theorem runs_get_bind {next : σ → ExceptT ε (StateM σ) β} {outcome : Except ε β} :
    Runs (get >>= next) before outcome after ↔ Runs (next before) before outcome after :=
  Iff.rfl

/-- What follows a lifted outcome matters for its value only. -/
theorem lift_bind_congr {result : Except ε α} {next other : α → ExceptT ε (StateM σ) β}
    (same : ∀ value, result = .ok value → next value = other value) :
    (liftM result >>= next) = (liftM result >>= other) := by
  cases result with
  | ok value => exact same value rfl
  | error error => rfl

theorem runs_bind_ok {result : β} :
    Runs (action >>= next) before (.ok result) after ↔
      ∃ value middle, Runs action before (.ok value) middle ∧
        Runs (next value) middle (.ok result) after := by
  simp [runs_bind]

theorem runs_map_ok {f : α → β} {result : β} :
    Runs (f <$> action) before (.ok result) after ↔
      ∃ value, Runs action before (.ok value) after ∧ f value = result := by
  rw [← bind_pure_comp, runs_bind_ok]
  simp only [runs_pure, Except.ok.injEq]
  constructor
  · rintro ⟨value, middle, run, rfl, rfl⟩
    exact ⟨value, run, rfl⟩
  · rintro ⟨value, run, rfl⟩
    exact ⟨value, after, run, rfl, rfl⟩

theorem runs_mapM_nil {f : β → ExceptT ε (StateM σ) α} {results : List α} :
    Runs (([] : List β).mapM f) before (.ok results) after ↔ results = [] ∧ after = before := by
  rw [List.mapM_nil, runs_pure, Except.ok.injEq]

theorem runs_mapM_cons {f : β → ExceptT ε (StateM σ) α} {value : β} {values : List β}
    {results : List α} :
    Runs ((value :: values).mapM f) before (.ok results) after ↔
      ∃ result middle later, Runs (f value) before (.ok result) middle ∧
        Runs (values.mapM f) middle (.ok later) after ∧ results = result :: later := by
  simp only [List.mapM_cons, runs_bind_ok, runs_pure, Except.ok.injEq]
  constructor
  · rintro ⟨result, middle, first, later, state, rest, rfl, rfl⟩
    exact ⟨result, middle, later, first, rest, rfl⟩
  · rintro ⟨result, middle, later, first, rest, rfl⟩
    exact ⟨result, middle, first, later, after, rest, rfl, rfl⟩

theorem runs_mapM_append {f : β → ExceptT ε (StateM σ) α} {values later : List β}
    {results : List α} :
    Runs ((values ++ later).mapM f) before (.ok results) after ↔
      ∃ front middle rest, Runs (values.mapM f) before (.ok front) middle ∧
        Runs (later.mapM f) middle (.ok rest) after ∧ results = front ++ rest := by
  simp only [List.mapM_append, runs_bind_ok, runs_pure, Except.ok.injEq]
  constructor
  · rintro ⟨front, middle, first, rest, state, second, rfl, rfl⟩
    exact ⟨front, middle, rest, first, second, rfl⟩
  · rintro ⟨front, middle, rest, first, second, rfl⟩
    exact ⟨front, middle, first, rest, after, second, rfl, rfl⟩

end Runs

/-! ## What steps keep -/

section Keeps

variable {ε σ α β : Type} {R : σ → σ → Prop}

/-- A step relates the state before it to the state after it, whether or not it
succeeds. -/
def Keeps (R : σ → σ → Prop) (action : ExceptT ε (StateM σ) α) : Prop :=
  ∀ before outcome after, Runs action before outcome after → R before after

theorem keeps_pure [Std.Refl R] (value : α) : Keeps R (pure value : ExceptT ε (StateM σ) α) := by
  intro before outcome after run
  rcases runs_pure.mp run with ⟨_, rfl⟩
  exact Std.Refl.refl after

theorem keeps_throw [Std.Refl R] (error : ε) :
    Keeps R (throw error : ExceptT ε (StateM σ) α) := by
  intro before outcome after run
  rcases runs_throw.mp run with ⟨_, rfl⟩
  exact Std.Refl.refl after

theorem keeps_lift [Std.Refl R] (result : Except ε α) :
    Keeps R (liftM result : ExceptT ε (StateM σ) α) := by
  intro before outcome after run
  rcases runs_lift.mp run with ⟨_, rfl⟩
  exact Std.Refl.refl after

theorem keeps_get [Std.Refl R] : Keeps R (get : ExceptT ε (StateM σ) σ) := by
  intro before outcome after run
  rcases runs_get.mp run with ⟨_, rfl⟩
  exact Std.Refl.refl after

theorem keeps_bind [IsTrans σ R] {action : ExceptT ε (StateM σ) α}
    {next : α → ExceptT ε (StateM σ) β} (first : Keeps R action)
    (later : ∀ value, Keeps R (next value)) : Keeps R (action >>= next) := by
  intro before outcome after run
  rcases runs_bind.mp run with ⟨value, middle, ran, rest⟩ | ⟨error, failed, _⟩
  · exact IsTrans.trans before middle after (first before _ middle ran)
      (later value middle _ after rest)
  · exact first before _ after failed

/-- After a step that leaves the state alone, only its value matters. -/
theorem keeps_lift_bind [Std.Refl R] {result : Except ε α} {next : α → ExceptT ε (StateM σ) β}
    (later : ∀ value, result = .ok value → Keeps R (next value)) :
    Keeps R (liftM result >>= next) := by
  intro before outcome after run
  rcases runs_bind.mp run with ⟨value, middle, ran, rest⟩ | ⟨error, failed, _⟩
  · rcases runs_lift.mp ran with ⟨found, rfl⟩
    exact later value found.symm middle outcome after rest
  · rw [(runs_lift.mp failed).2]
    exact Std.Refl.refl before

theorem keeps_map [Std.Refl R] [IsTrans σ R] {action : ExceptT ε (StateM σ) α} (f : α → β)
    (kept : Keeps R action) : Keeps R (f <$> action) := by
  rw [← bind_pure_comp]
  exact keeps_bind kept fun value => keeps_pure (f value)

end Keeps

/-! ## What steps overlook -/

section Overlooks

variable {ε σ α β : Type} {change : σ → σ}

/-- A step does not notice a change of its state: it has the same outcome, and the states
after it differ by the same change. -/
def Overlooks (change : σ → σ) (action : ExceptT ε (StateM σ) α) : Prop :=
  ∀ before outcome after, Runs action before outcome after →
    Runs action (change before) outcome (change after)

theorem overlooks_pure (value : α) :
    Overlooks change (pure value : ExceptT ε (StateM σ) α) := by
  intro before outcome after run
  obtain ⟨same, rfl⟩ := runs_pure.mp run
  exact runs_pure.mpr ⟨same, rfl⟩

theorem overlooks_throw (error : ε) :
    Overlooks change (throw error : ExceptT ε (StateM σ) α) := by
  intro before outcome after run
  obtain ⟨same, rfl⟩ := runs_throw.mp run
  exact runs_throw.mpr ⟨same, rfl⟩

theorem overlooks_lift (result : Except ε α) :
    Overlooks change (liftM result : ExceptT ε (StateM σ) α) := by
  intro before outcome after run
  obtain ⟨same, rfl⟩ := runs_lift.mp run
  exact runs_lift.mpr ⟨same, rfl⟩

theorem overlooks_modify {f : σ → σ} (commutes : ∀ state, change (f state) = f (change state)) :
    Overlooks change (modify f : ExceptT ε (StateM σ) PUnit) := by
  intro before outcome after run
  obtain ⟨same, rfl⟩ := runs_modify.mp run
  exact runs_modify.mpr ⟨same, commutes before⟩

theorem overlooks_bind {action : ExceptT ε (StateM σ) α} {next : α → ExceptT ε (StateM σ) β}
    (first : Overlooks change action) (later : ∀ value, Overlooks change (next value)) :
    Overlooks change (action >>= next) := by
  intro before outcome after run
  rcases runs_bind.mp run with ⟨value, middle, ran, rest⟩ | ⟨error, failed, same⟩
  · exact runs_bind.mpr (Or.inl ⟨value, change middle, first before _ middle ran,
      later value middle outcome after rest⟩)
  · exact runs_bind.mpr (Or.inr ⟨error, first before _ after failed, same⟩)

/-- After a step that leaves the state alone, only its value matters. -/
theorem overlooks_lift_bind {result : Except ε α} {next : α → ExceptT ε (StateM σ) β}
    (later : ∀ value, result = .ok value → Overlooks change (next value)) :
    Overlooks change (liftM result >>= next) := by
  intro before outcome after run
  rcases runs_bind.mp run with ⟨value, middle, ran, rest⟩ | ⟨error, failed, same⟩
  · obtain ⟨found, rfl⟩ := runs_lift.mp ran
    exact runs_bind.mpr (Or.inl ⟨value, change middle, runs_lift.mpr ⟨found, rfl⟩,
      later value found.symm middle outcome after rest⟩)
  · exact runs_bind.mpr (Or.inr ⟨error, overlooks_lift result before _ after failed, same⟩)

theorem overlooks_map {action : ExceptT ε (StateM σ) α} (f : α → β)
    (overlooked : Overlooks change action) : Overlooks change (f <$> action) := by
  rw [← bind_pure_comp]
  exact overlooks_bind overlooked fun value => overlooks_pure (f value)

end Overlooks

/-! ## Where errors come from -/

section Fails

variable {ε σ α β : Type} {P : ε → Prop}

/-- A step fails with no errors but those described. -/
def Fails (P : ε → Prop) (action : ExceptT ε (StateM σ) α) : Prop :=
  ∀ before error after, Runs action before (.error error) after → P error

theorem Fails.imp {Q : ε → Prop} {action : ExceptT ε (StateM σ) α}
    (weaker : ∀ error, P error → Q error) (described : Fails P action) : Fails Q action :=
  fun before error after failed => weaker error (described before error after failed)

theorem fails_pure (value : α) : Fails P (pure value : ExceptT ε (StateM σ) α) := by
  intro before error after run
  cases (runs_pure.mp run).1

theorem fails_throw {error : ε} (described : P error) :
    Fails P (throw error : ExceptT ε (StateM σ) α) := by
  intro before other after run
  cases (runs_throw.mp run).1
  exact described

theorem fails_lift {result : Except ε α} (described : Rejects P result) :
    Fails P (liftM result : ExceptT ε (StateM σ) α) := by
  intro before error after run
  exact described error (runs_lift.mp run).1.symm

theorem fails_get : Fails P (get : ExceptT ε (StateM σ) σ) := by
  intro before error after run
  cases (runs_get.mp run).1

theorem fails_set (state : σ) : Fails P (set state : ExceptT ε (StateM σ) PUnit) := by
  intro before error after run
  cases (runs_set.mp run).1

theorem fails_modify (f : σ → σ) : Fails P (modify f : ExceptT ε (StateM σ) PUnit) := by
  intro before error after run
  cases (runs_modify.mp run).1

theorem fails_bind {action : ExceptT ε (StateM σ) α} {next : α → ExceptT ε (StateM σ) β}
    (first : Fails P action) (later : ∀ value, Fails P (next value)) :
    Fails P (action >>= next) := by
  intro before error after run
  rcases runs_bind.mp run with ⟨value, middle, _, rest⟩ | ⟨other, failed, same⟩
  · exact later value middle error after rest
  · cases same
    exact first before error after failed

theorem fails_map {action : ExceptT ε (StateM σ) α} (f : α → β) (described : Fails P action) :
    Fails P (f <$> action) := by
  rw [← bind_pure_comp]
  exact fails_bind described fun value => fails_pure (f value)

end Fails

/-! ## Where steps lead -/

section Leads

variable {ε σ α β : Type} {P : ε → Prop} {pre : σ → Prop} {action : ExceptT ε (StateM σ) α}
  {next : α → ExceptT ε (StateM σ) β}

/-- From a state that satisfies a condition, a step leads to a value and a state that
satisfy another one, or to one of the errors described. -/
def Leads (P : ε → Prop) (pre : σ → Prop) (action : ExceptT ε (StateM σ) α)
    (post : α → σ → Prop) : Prop :=
  ∀ before outcome after, pre before → Runs action before outcome after →
    (∀ value, outcome = .ok value → post value after) ∧ ∀ error, outcome = .error error → P error

theorem leads_of_fails {post : α → σ → Prop} (described : Fails P action)
    (reached : ∀ before value after, pre before → Runs action before (.ok value) after →
      post value after) : Leads P pre action post := by
  intro before outcome after holds run
  constructor
  · rintro value rfl
    exact reached before value after holds run
  · rintro error rfl
    exact described before error after run

theorem leads_pure {value : α} {post : α → σ → Prop}
    (reached : ∀ state, pre state → post value state) :
    Leads P pre (pure value : ExceptT ε (StateM σ) α) post := by
  apply leads_of_fails (fails_pure value)
  intro before other after holds run
  obtain ⟨same, rfl⟩ := runs_pure.mp run
  cases same
  exact reached after holds

theorem leads_lift {result : Except ε α} {post : α → σ → Prop} (described : Rejects P result)
    (reached : ∀ state value, pre state → result = .ok value → post value state) :
    Leads P pre (liftM result : ExceptT ε (StateM σ) α) post := by
  apply leads_of_fails (fails_lift described)
  intro before value after holds run
  obtain ⟨same, rfl⟩ := runs_lift.mp run
  exact reached after value holds same.symm

theorem leads_bind {middle : α → σ → Prop} {post : β → σ → Prop} (first : Leads P pre action middle)
    (later : ∀ value, Leads P (middle value) (next value) post) :
    Leads P pre (action >>= next) post := by
  intro before outcome after holds run
  rcases runs_bind.mp run with ⟨value, state, ran, rest⟩ | ⟨error, failed, rfl⟩
  · exact later value state outcome after ((first before _ state holds ran).1 value rfl) rest
  · refine ⟨nofun, ?_⟩
    rintro _ ⟨⟩
    exact (first before _ after holds failed).2 error rfl

theorem Leads.imp {pre' : σ → Prop} {post post' : α → σ → Prop} (leads : Leads P pre action post)
    (stronger : ∀ state, pre' state → pre state)
    (weaker : ∀ value state, post value state → post' value state) :
    Leads P pre' action post' := by
  intro before outcome after holds run
  obtain ⟨reached, described⟩ := leads before outcome after (stronger before holds) run
  exact ⟨fun value same => weaker value after (reached value same), described⟩

/-- What else is known of a step that succeeds. -/
theorem Leads.and_then {post other : α → σ → Prop} (leads : Leads P pre action post)
    (reached : ∀ before value after, pre before → Runs action before (.ok value) after →
      other value after) : Leads P pre action other := by
  intro before outcome after holds run
  refine ⟨?_, (leads before outcome after holds run).2⟩
  rintro value rfl
  exact reached before value after holds run

/-- A condition on the members so far that every member keeps holds of all members in the
end. -/
theorem leads_mapM {I : List β → σ → Prop} {f : β → ExceptT ε (StateM σ) α} {values : List β}
    (step : ∀ earlier value later, values = earlier ++ value :: later →
      Leads P (I earlier) (f value) fun _ => I (earlier ++ [value])) :
    Leads P (I []) (values.mapM f) fun _ => I values := by
  have from_there (later earlier : List β) (split : values = earlier ++ later) :
      Leads P (I earlier) (later.mapM f) fun _ => I values := by
    induction later generalizing earlier with
    | nil =>
        rw [List.append_nil] at split
        subst split
        exact leads_pure fun state known => known
    | cons value later ih =>
        have whole : values = (earlier ++ [value]) ++ later := by simp [split]
        rw [List.mapM_cons]
        apply leads_bind (step earlier value later split)
        intro result
        apply leads_bind (ih _ whole)
        intro results
        exact leads_pure fun state known => known
  exact from_there values [] rfl

/-- A condition that every member keeps. -/
theorem leads_mapM_of_forall {f : β → ExceptT ε (StateM σ) α} {values : List β}
    (each : ∀ value ∈ values, Leads P pre (f value) fun _ => pre) :
    Leads P pre (values.mapM f) fun _ => pre := by
  apply leads_mapM (I := fun _ => pre)
  intro earlier value later split
  exact each value (by simp [split])

end Leads

/-! ## What steps add -/

section Adds

variable {ε σ κ α β : Type} {holds : σ → κ → Prop} {pre : σ → Prop} {keys later : List κ}

/-- A step that succeeds makes some keys hold, next to those that held before it, and keeps a
condition on the state. -/
def Adds (holds : σ → κ → Prop) (pre : σ → Prop) (keys : List κ)
    (action : ExceptT ε (StateM σ) α) : Prop :=
  ∀ before value after, pre before → Runs action before (.ok value) after →
    pre after ∧ ∀ key, holds after key ↔ holds before key ∨ key ∈ keys

theorem adds_pure (value : α) :
    Adds holds pre [] (pure value : ExceptT ε (StateM σ) α) := by
  intro before other after known run
  obtain ⟨_, rfl⟩ := runs_pure.mp run
  exact ⟨known, by simp⟩

theorem adds_throw (error : ε) :
    Adds holds pre keys (throw error : ExceptT ε (StateM σ) α) := by
  intro before value after _ run
  cases (runs_throw.mp run).1

theorem adds_bind {action : ExceptT ε (StateM σ) α} {next : α → ExceptT ε (StateM σ) β}
    (first : Adds holds pre keys action) (rest : ∀ value, Adds holds pre later (next value)) :
    Adds holds pre (keys ++ later) (action >>= next) := by
  intro before value after known run
  obtain ⟨given, middle, ran, continued⟩ := runs_bind_ok.mp run
  obtain ⟨knownMiddle, added⟩ := first before given middle known ran
  obtain ⟨knownAfter, addedLater⟩ := rest given middle value after knownMiddle continued
  refine ⟨knownAfter, fun key => ?_⟩
  rw [addedLater, added, List.mem_append, or_assoc]

/-- A step that goes on to use its value. -/
theorem adds_bind_pure {action : ExceptT ε (StateM σ) α} (f : α → β)
    (adds : Adds holds pre keys action) :
    Adds holds pre keys (action >>= fun value => pure (f value)) := by
  have whole := adds_bind adds fun value => adds_pure (f value)
  rwa [List.append_nil] at whole

/-- After a step that leaves the state alone, only its value matters. -/
theorem adds_lift_bind {result : Except ε α} {next : α → ExceptT ε (StateM σ) β}
    (rest : ∀ value, result = .ok value → Adds holds pre keys (next value)) :
    Adds holds pre keys (liftM result >>= next) := by
  intro before value after known run
  obtain ⟨given, middle, ran, continued⟩ := runs_bind_ok.mp run
  obtain ⟨found, rfl⟩ := runs_lift.mp ran
  exact rest given found.symm middle value after known continued

theorem adds_map {action : ExceptT ε (StateM σ) α} (f : α → β)
    (adds : Adds holds pre keys action) : Adds holds pre keys (f <$> action) := by
  rw [← bind_pure_comp]
  exact adds_bind_pure f adds

theorem adds_mapM {f : β → ExceptT ε (StateM σ) α} {keysOf : β → List κ} {values : List β}
    (each : ∀ value ∈ values, Adds holds pre (keysOf value) (f value)) :
    Adds holds pre (values.flatMap keysOf) (values.mapM f) := by
  induction values with
  | nil =>
      rw [List.mapM_nil]
      exact adds_pure []
  | cons value values ih =>
      obtain ⟨first, others⟩ := List.forall_mem_cons.mp each
      intro before results after known run
      obtain ⟨result, middle, rest, ran, continued, _⟩ := runs_mapM_cons.mp run
      obtain ⟨knownMiddle, added⟩ := first before result middle known ran
      obtain ⟨knownAfter, addedLater⟩ := ih others middle rest after knownMiddle continued
      refine ⟨knownAfter, fun key => ?_⟩
      rw [addedLater, added, List.flatMap_cons, List.mem_append, or_assoc]

end Adds

/-! ## What steps enter in order -/

section Enters

variable {ε σ κ α β : Type} [DecidableEq κ] {log : σ → List κ} {entries later : List κ}

/-- A list, newest first, after some entries one after another.  What is listed already is not
entered again. -/
def entered (listed entries : List κ) : List κ :=
  entries.foldl (fun listed entry => listed.insert entry) listed

theorem entered_append (listed entries later : List κ) :
    entered listed (entries ++ later) = entered (entered listed entries) later :=
  List.foldl_append

/-- Entries that differ from each other, and from what is listed, are all new. -/
theorem entered_eq_reverse_append {listed entries : List κ} (distinct : entries.Nodup)
    (separate : List.Disjoint entries listed) :
    entered listed entries = entries.reverse ++ listed := by
  induction entries generalizing listed with
  | nil => rfl
  | cons entry entries ih =>
      obtain ⟨fresh, distinct⟩ := List.nodup_cons.mp distinct
      obtain ⟨unlisted, separate⟩ := List.disjoint_cons_left.mp separate
      have first : listed.insert entry = entry :: listed := List.insert_of_not_mem unlisted
      have step : entered listed (entry :: entries) = entered (entry :: listed) entries := by
        rw [entered, List.foldl_cons, first, entered]
      rw [step, ih distinct (List.disjoint_cons_right.mpr ⟨fresh, separate⟩), List.reverse_cons,
        List.append_assoc, List.singleton_append]

/-- A step that succeeds enters some entries in a list that is part of the state. -/
def Enters (log : σ → List κ) (entries : List κ) (action : ExceptT ε (StateM σ) α) : Prop :=
  ∀ before value after, Runs action before (.ok value) after →
    log after = entered (log before) entries

theorem enters_pure (value : α) : Enters log [] (pure value : ExceptT ε (StateM σ) α) := by
  intro before other after run
  rw [(runs_pure.mp run).2]
  rfl

theorem enters_throw (error : ε) :
    Enters log entries (throw error : ExceptT ε (StateM σ) α) := by
  intro before value after run
  cases (runs_throw.mp run).1

theorem enters_bind {action : ExceptT ε (StateM σ) α} {next : α → ExceptT ε (StateM σ) β}
    (first : Enters log entries action) (rest : ∀ value, Enters log later (next value)) :
    Enters log (entries ++ later) (action >>= next) := by
  intro before value after run
  obtain ⟨given, middle, ran, continued⟩ := runs_bind_ok.mp run
  rw [rest given _ _ _ continued, first _ _ _ ran, entered_append]

/-- A step that goes on to use its value. -/
theorem enters_bind_pure {action : ExceptT ε (StateM σ) α} (f : α → β)
    (enters : Enters log entries action) :
    Enters log entries (action >>= fun value => pure (f value)) := by
  have whole := enters_bind enters fun value => enters_pure (f value)
  rwa [List.append_nil] at whole

/-- After a step that leaves the state alone, only its value matters. -/
theorem enters_lift_bind {result : Except ε α} {next : α → ExceptT ε (StateM σ) β}
    (rest : ∀ value, result = .ok value → Enters log entries (next value)) :
    Enters log entries (liftM result >>= next) := by
  intro before value after run
  obtain ⟨given, middle, ran, continued⟩ := runs_bind_ok.mp run
  obtain ⟨found, rfl⟩ := runs_lift.mp ran
  exact rest given found.symm _ _ _ continued

theorem enters_mapM {f : β → ExceptT ε (StateM σ) α} {entriesOf : β → List κ} {values : List β}
    (each : ∀ value ∈ values, Enters log (entriesOf value) (f value)) :
    Enters log (values.flatMap entriesOf) (values.mapM f) := by
  induction values with
  | nil =>
      rw [List.mapM_nil]
      exact enters_pure []
  | cons value values ih =>
      obtain ⟨first, others⟩ := List.forall_mem_cons.mp each
      rw [List.mapM_cons, List.flatMap_cons]
      exact enters_bind first fun result => enters_bind_pure _ (ih others)

end Enters

/-! ## When steps succeed -/

section Succeeds

variable {ε σ α β : Type} {can later : Prop} {pre middle post : σ → Prop}

/-- From the states that satisfy a condition, a step succeeds exactly when it can, and then
leads to states that satisfy another one. -/
def Succeeds (can : Prop) (pre : σ → Prop) (action : ExceptT ε (StateM σ) α) (post : σ → Prop) :
    Prop :=
  ∀ before, pre before →
    ((∃ value after, Runs action before (.ok value) after) ↔ can) ∧
      ∀ value after, Runs action before (.ok value) after → post after

theorem succeeds_pure (value : α) :
    Succeeds True pre (pure value : ExceptT ε (StateM σ) α) pre := by
  intro before known
  constructor
  · exact iff_true_intro ⟨value, before, runs_pure.mpr ⟨rfl, rfl⟩⟩
  · intro other after run
    rwa [(runs_pure.mp run).2]

theorem succeeds_throw (error : ε) :
    Succeeds False pre (throw error : ExceptT ε (StateM σ) α) post := by
  intro before known
  have never (value : α) (after : σ) :
      ¬ Runs (throw error : ExceptT ε (StateM σ) α) before (.ok value) after := by
    intro run
    cases (runs_throw.mp run).1
  constructor
  · exact iff_false_intro fun ⟨value, after, run⟩ => never value after run
  · exact fun value after run => absurd run (never value after)

theorem succeeds_modify {f : σ → σ} (reached : ∀ state, pre state → post (f state)) :
    Succeeds True pre (modify f : ExceptT ε (StateM σ) PUnit) post := by
  intro before known
  constructor
  · exact iff_true_intro ⟨⟨⟩, f before, runs_modify.mpr ⟨rfl, rfl⟩⟩
  · intro other after run
    rw [(runs_modify.mp run).2]
    exact reached before known

/-- What else is known of the states before and after a step. -/
theorem Succeeds.and_then {pre' post' : σ → Prop} {action : ExceptT ε (StateM σ) α}
    (succeeds : Succeeds can pre action post) (stronger : ∀ state, pre' state → pre state)
    (reached : ∀ before value after, pre' before → Runs action before (.ok value) after →
      post' after) : Succeeds can pre' action post' :=
  fun before known =>
    ⟨(succeeds before (stronger before known)).1,
      fun value after => reached before value after known⟩

theorem Succeeds.congr {action : ExceptT ε (StateM σ) α} (succeeds : Succeeds can pre action post)
    (same : can ↔ later) : Succeeds later pre action post :=
  fun before known =>
    ⟨(succeeds before known).1.trans same, (succeeds before known).2⟩

theorem succeeds_bind {action : ExceptT ε (StateM σ) α} {next : α → ExceptT ε (StateM σ) β}
    (first : Succeeds can pre action middle)
    (rest : ∀ value, Succeeds later middle (next value) post) :
    Succeeds (can ∧ later) pre (action >>= next) post := by
  intro before known
  obtain ⟨succeeds, reached⟩ := first before known
  constructor
  · constructor
    · rintro ⟨result, after, run⟩
      obtain ⟨value, state, ran, continued⟩ := runs_bind_ok.mp run
      exact ⟨succeeds.mp ⟨value, state, ran⟩,
        (rest value state (reached value state ran)).1.mp ⟨result, after, continued⟩⟩
    · rintro ⟨able, ableLater⟩
      obtain ⟨value, state, ran⟩ := succeeds.mpr able
      obtain ⟨result, after, continued⟩ :=
        (rest value state (reached value state ran)).1.mpr ableLater
      exact ⟨result, after, runs_bind_ok.mpr ⟨value, state, ran, continued⟩⟩
  · intro result after run
    obtain ⟨value, state, ran, continued⟩ := runs_bind_ok.mp run
    exact (rest value state (reached value state ran)).2 result after continued

/-- A step that goes on to use its value. -/
theorem succeeds_bind_pure {action : ExceptT ε (StateM σ) α} (f : α → β)
    (succeeds : Succeeds can pre action post) :
    Succeeds can pre (action >>= fun value => pure (f value)) post :=
  (succeeds_bind succeeds fun value => succeeds_pure (f value)).congr (and_iff_left trivial)

theorem succeeds_map {action : ExceptT ε (StateM σ) α} (f : α → β)
    (succeeds : Succeeds can pre action post) : Succeeds can pre (f <$> action) post := by
  rw [← bind_pure_comp]
  exact succeeds_bind_pure f succeeds

/-- After a step that leaves the state alone, only its value matters. -/
theorem succeeds_lift_bind {can : α → Prop} {result : Except ε α}
    {next : α → ExceptT ε (StateM σ) β}
    (rest : ∀ value, result = .ok value → Succeeds (can value) pre (next value) post) :
    Succeeds (∃ value, result = .ok value ∧ can value) pre (liftM result >>= next) post := by
  intro before known
  constructor
  · constructor
    · rintro ⟨last, after, run⟩
      obtain ⟨value, state, ran, continued⟩ := runs_bind_ok.mp run
      obtain ⟨found, rfl⟩ := runs_lift.mp ran
      exact ⟨value, found.symm, (rest value found.symm state known).1.mp ⟨last, after, continued⟩⟩
    · rintro ⟨value, found, able⟩
      obtain ⟨last, after, continued⟩ := (rest value found before known).1.mpr able
      exact ⟨last, after,
        runs_bind_ok.mpr ⟨value, before, runs_lift.mpr ⟨found.symm, rfl⟩, continued⟩⟩
  · intro last after run
    obtain ⟨value, state, ran, continued⟩ := runs_bind_ok.mp run
    obtain ⟨found, rfl⟩ := runs_lift.mp ran
    exact (rest value found.symm state known).2 last after continued

theorem succeeds_lift {result : Except ε α} :
    Succeeds (∃ value, result = .ok value) pre (liftM result : ExceptT ε (StateM σ) α) pre := by
  intro before known
  constructor
  · constructor
    · rintro ⟨value, after, run⟩
      exact ⟨value, (runs_lift.mp run).1.symm⟩
    · rintro ⟨value, found⟩
      exact ⟨value, before, runs_lift.mpr ⟨found.symm, rfl⟩⟩
  · intro value after run
    rwa [(runs_lift.mp run).2]

/-- All members of a list succeed exactly when each of them can, where a condition on the
members so far is kept. -/
theorem succeeds_mapM {able : β → Prop} {I : List β → σ → Prop} {f : β → ExceptT ε (StateM σ) α}
    {values : List β}
    (step : ∀ earlier value rest, values = earlier ++ value :: rest →
      Succeeds (able value) (I earlier) (f value) (I (earlier ++ [value]))) :
    Succeeds (∀ value ∈ values, able value) (I []) (values.mapM f) (I values) := by
  have from_there (rest earlier : List β) (split : values = earlier ++ rest) :
      Succeeds (∀ value ∈ rest, able value) (I earlier) (rest.mapM f) (I values) := by
    induction rest generalizing earlier with
    | nil =>
        rw [List.append_nil] at split
        subst split
        exact (succeeds_pure []).congr (iff_of_true trivial nofun)
    | cons value rest ih =>
        have whole : values = (earlier ++ [value]) ++ rest := by simp [split]
        rw [List.mapM_cons, List.forall_mem_cons]
        exact succeeds_bind (step earlier value rest split) fun result =>
          succeeds_bind_pure (result :: ·) (ih _ whole)
  exact from_there values [] rfl

/-- A condition that every member keeps. -/
theorem succeeds_mapM_of_forall {able : β → Prop} {f : β → ExceptT ε (StateM σ) α}
    {values : List β} (each : ∀ value ∈ values, Succeeds (able value) pre (f value) pre) :
    Succeeds (∀ value ∈ values, able value) pre (values.mapM f) pre := by
  apply succeeds_mapM (I := fun _ => pre)
  intro earlier value rest split
  exact each value (by simp [split])

end Succeeds

end Tilework
