import Tilework.Lowering.Linking
import Tilework.Proofs.Module.Root

/-!
# Chains of aliases

While a function is lowered, every result that is written into a tensor becomes
an alias of it.  The instructions of a well-formed function add their aliases in
such an order that no chain returns to itself, and following a chain leads to the
root of the value that it begins with.
-/

namespace Tilework

/-! ## Ordered aliases -/

namespace Aliases

/-- Every alias is new when it is added: nothing was an alias of it, and it was
an alias of nothing. -/
def Ordered : Aliases → Prop
  | [] => True
  | (value, output) :: older =>
      Ordered older ∧ value ≠ output ∧ ∀ pair ∈ older, pair.1 ≠ value ∧ pair.2 ≠ value

variable {aliases : Aliases} {value output other : ValueId}

theorem mem_of_lookup {next : ValueId} (found : aliases.lookup other = some next) :
    (other, next) ∈ aliases := by
  rcases List.lookup_eq_some_iff.mp found with ⟨newer, older, rfl, _⟩
  simp

theorem lookup_cons_of_ne (different : other ≠ value) :
    List.lookup other ((value, output) :: aliases) = aliases.lookup other := by
  have notHere : (other == value) = false := by simpa using different
  simp only [List.lookup_cons, notHere]

/-- A chain that begins elsewhere does not come by a new alias. -/
theorem follow_cons_of_ne (fresh : ∀ pair ∈ aliases, pair.1 ≠ value ∧ pair.2 ≠ value)
    (different : other ≠ value) (steps : Nat) :
    follow ((value, output) :: aliases) steps other = follow aliases steps other := by
  induction steps generalizing other with
  | zero => rfl
  | succ steps ih =>
      simp only [follow, lookup_cons_of_ne different]
      cases found : aliases.lookup other with
      | none => rfl
      | some next => exact ih (fresh (other, next) (mem_of_lookup found)).2

theorem follow_cons_self (ordered : Ordered ((value, output) :: aliases)) (steps : Nat) :
    follow ((value, output) :: aliases) (steps + 1) value = follow aliases steps output := by
  rcases ordered with ⟨_, different, fresh⟩
  simp only [follow, List.lookup_cons, beq_self_eq_true]
  exact follow_cons_of_ne fresh different.symm steps

/-- A chain ends after at most as many steps as there are aliases. -/
theorem follow_eq_resolve (ordered : aliases.Ordered) {steps : Nat}
    (enough : aliases.length ≤ steps) : aliases.follow steps other = aliases.resolve other := by
  induction aliases generalizing steps other with
  | nil =>
      cases steps <;> rfl
  | cons pair older ih =>
      rcases pair with ⟨value, output⟩
      have older_ordered := ordered.1
      rw [List.length_cons] at enough
      obtain ⟨steps, rfl⟩ : ∃ fewer, steps = fewer + 1 := ⟨steps - 1, by omega⟩
      rw [resolve, List.length_cons]
      by_cases same : other = value
      · rw [same, follow_cons_self ordered, follow_cons_self ordered,
          ih older_ordered (by omega), ih older_ordered (Nat.le_refl _)]
      · rw [follow_cons_of_ne ordered.2.2 same, follow_cons_of_ne ordered.2.2 same,
          ih older_ordered (by omega), ih older_ordered (by omega)]

theorem resolve_cons_self (ordered : Ordered ((value, output) :: aliases)) :
    resolve ((value, output) :: aliases) value = resolve aliases output :=
  follow_cons_self ordered aliases.length

theorem resolve_cons_of_ne (ordered : Ordered ((value, output) :: aliases))
    (different : other ≠ value) :
    resolve ((value, output) :: aliases) other = resolve aliases other := by
  rw [resolve, follow_cons_of_ne ordered.2.2 different]
  exact follow_eq_resolve ordered.1 (Nat.le_succ _)

end Aliases

/-! ## Aliases of instructions -/

/-- The alias that an instruction gives rise to. -/
def Instruction.alias? (instruction : Instruction) : Option (ValueId × ValueId) :=
  match instruction.operation.destination, instruction.operation.results with
  | some destination, [result] => some (result, destination)
  | _, _ => none

/-- The aliases that some instructions give rise to, newest first. -/
def aliasesAfter (body : List Instruction) : Aliases :=
  (body.filterMap Instruction.alias?).reverse

theorem aliasesAfter_append_singleton (body : List Instruction) (instruction : Instruction) :
    aliasesAfter (body ++ [instruction]) = instruction.alias?.toList ++ aliasesAfter body := by
  cases given : instruction.alias? <;> simp [aliasesAfter, given]

theorem Instruction.alias?_eq_some_iff {instruction : Instruction} {result destination : ValueId} :
    instruction.alias? = some (result, destination) ↔
      instruction.operation.destination = some destination ∧
        instruction.operation.results = [result] := by
  simp only [alias?]
  split
  · rename_i found results
    simp [found, results, and_comm]
  · rename_i other
    constructor
    · nofun
    · rintro ⟨written, results⟩
      exact absurd results (other destination result written)

theorem Instruction.alias?_eq_none_iff {instruction : Instruction} :
    instruction.alias? = none ↔ instruction.operation.destination = none := by
  simp only [alias?]
  split
  · rename_i found _
    simp [found]
  · rename_i other
    cases written : instruction.operation.destination with
    | none => simp
    | some destination =>
        obtain ⟨result, results⟩ := Operation.exists_results_eq written
        exact absurd results (other destination result written)

/-- No result is written into itself. -/
theorem Instruction.alias?_proper {m : Module} {function : Function}
    (wellFormed : function.WellFormed m) {earlier later : List Instruction}
    {instruction : Instruction} (split : function.body = earlier ++ instruction :: later)
    {pair : ValueId × ValueId} (given : instruction.alias? = some pair) : pair.1 ≠ pair.2 := by
  obtain ⟨written, only⟩ := Instruction.alias?_eq_some_iff.mp given
  have known := wellFormed.ordered earlier instruction later split pair.2
    (Operation.destination_mem written)
  intro same
  refine not_known_of_result wellFormed split ?_ known
  rw [only]
  exact List.mem_singleton.mpr same.symm

/-- A step of the body adds at most one alias, for a value that is new. -/
theorem ordered_aliasesAfter {m : Module} {function : Function}
    (wellFormed : function.WellFormed m) {earlier later : List Instruction}
    (split : function.body = earlier ++ later) :
    (aliasesAfter earlier).Ordered ∧ ∀ pair ∈ aliasesAfter earlier,
      pair.1 ∈ function.arguments ++ resultsOf earlier ∧
        pair.2 ∈ function.arguments ++ resultsOf earlier := by
  induction earlier using List.reverseRecOn generalizing later with
  | nil => exact ⟨trivial, nofun⟩
  | append_singleton earlier instruction ih =>
      have before : function.body = earlier ++ instruction :: later := by simp [split]
      have results : resultsOf (earlier ++ [instruction]) =
          resultsOf earlier ++ instruction.operation.results := by simp [resultsOf]
      obtain ⟨ordered, within⟩ := ih before
      rw [aliasesAfter_append_singleton, results, ← List.append_assoc]
      cases given : instruction.alias? with
      | none =>
          refine ⟨ordered, fun pair member => ?_⟩
          exact ⟨List.mem_append_left _ (within pair member).1,
            List.mem_append_left _ (within pair member).2⟩
      | some pair =>
          rcases pair with ⟨result, destination⟩
          rcases Instruction.alias?_eq_some_iff.mp given with ⟨written, only⟩
          have known := wellFormed.ordered earlier instruction later before destination
            (Operation.destination_mem written)
          have isNew : ∀ value ∈ function.arguments ++ resultsOf earlier, value ≠ result := by
            rintro value member rfl
            exact not_known_of_result wellFormed before (by simp [only]) member
          refine ⟨⟨ordered, (isNew destination known).symm, ?_⟩, ?_⟩
          · intro pair member
            exact ⟨isNew pair.1 (within pair member).1, isNew pair.2 (within pair member).2⟩
          · intro pair member
            rcases List.mem_cons.mp member with rfl | member
            · exact ⟨List.mem_append_right _ (by simp [only]), List.mem_append_left _ known⟩
            · exact ⟨List.mem_append_left _ (within pair member).1,
                List.mem_append_left _ (within pair member).2⟩

/-- Following the aliases of the instructions so far leads to the root among
them. -/
theorem resolve_aliasesAfter {m : Module} {function : Function}
    (wellFormed : function.WellFormed m) {earlier later : List Instruction}
    (split : function.body = earlier ++ later) (value : ValueId) :
    (aliasesAfter earlier).resolve value = rootAmong earlier.reverse value := by
  induction earlier using List.reverseRecOn generalizing later value with
  | nil => rfl
  | append_singleton earlier instruction ih =>
      have before : function.body = earlier ++ instruction :: later := by simp [split]
      have ordered := (ordered_aliasesAfter wellFormed split).1
      rw [aliasesAfter_append_singleton] at ordered ⊢
      rw [List.reverse_append, List.reverse_singleton, List.singleton_append, rootAmong]
      cases given : instruction.alias? with
      | none =>
          rw [Instruction.alias?_eq_none_iff.mp given]
          exact ih before value
      | some pair =>
          rcases pair with ⟨result, destination⟩
          rcases Instruction.alias?_eq_some_iff.mp given with ⟨written, only⟩
          rw [given, Option.toList_some, List.singleton_append] at ordered
          simp only [written, only, List.mem_singleton, Option.toList_some, List.singleton_append]
          by_cases same : value = result
          · rw [if_pos same, same, Aliases.resolve_cons_self ordered]
            exact ih before destination
          · rw [if_neg same, Aliases.resolve_cons_of_ne ordered same]
            exact ih before value

/-- A value that is known so far is resolved to its root. -/
theorem resolve_aliasesAfter_of_known {m : Module} {function : Function}
    (wellFormed : function.WellFormed m) {earlier later : List Instruction}
    (split : function.body = earlier ++ later) {value : ValueId}
    (known : value ∈ function.arguments ++ resultsOf earlier) :
    (aliasesAfter earlier).resolve value = function.root value := by
  rw [resolve_aliasesAfter wellFormed split, root_eq_of_split wellFormed split known]

/-- Once all of a function is lowered, every value is resolved to its root. -/
theorem resolve_aliasesAfter_body {m : Module} {function : Function}
    (wellFormed : function.WellFormed m) (value : ValueId) :
    (aliasesAfter function.body).resolve value = function.root value :=
  resolve_aliasesAfter wellFormed (List.append_nil _).symm value

end Tilework
