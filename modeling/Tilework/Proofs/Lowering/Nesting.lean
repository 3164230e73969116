import Tilework.Proofs.Lowering.Tables

/-!
# Nested requests

A plan is a tree of requests.  The record of a request is built by a plan of its own,
which may request other records, read the tables, number tensors, and fail; what comes
after a request goes on with its handle or with its error.

A run of a plan is a list of events: a key is found, or its record begins to be built and
then is built or fails.  As long as no plan requests the record that it is building, the
tables keep their discipline at every moment between two events.
-/

namespace Tilework

open Artifact

namespace Interning

/-- Steps that request records. -/
inductive Plan : Type → Type 1
  | done {α : Type} (value : α) : Plan α
  | fail {α : Type} (error : LoweringError) : Plan α
  /-- Request a record that is built by a plan, and go on with the outcome. -/
  | request {α : Type} (table : Table) (key : Key) (build : Plan table.Record)
      (next : Except LoweringError Handle → Plan α) : Plan α
  /-- Read the tables. -/
  | inspect {α : Type} (next : Interner → Plan α) : Plan α
  /-- Take a new number for a tensor. -/
  | number {α : Type} (next : UInt32 → Plan α) : Plan α

/-- What happens in the run of a plan. -/
inductive Event
  /-- A requested record is there already. -/
  | found (table : Table) (key : Key)
  /-- A requested record is not there, and begins to be built. -/
  | begun (table : Table) (key : Key)
  /-- A build returns a record. -/
  | built (table : Table) (key : Key) (record : table.Record)
  /-- A build fails. -/
  | failed (table : Table) (key : Key)
  /-- A number is taken. -/
  | numbered

/-- The state between two events: what is being built, innermost first, and the tables. -/
structure Moment where
  underway : List (Table × Key) := []
  interner : Interner := {}

variable {α : Type}

/-! ## Runs of plans -/

/-- The outcome of a step, as a value. -/
def attempt (action : Interning α) : Interning (Except LoweringError α) :=
  ExceptT.lift action.run

theorem runs_attempt {action : Interning α} {before after : Interner}
    {outcome : Except LoweringError (Except LoweringError α)} :
    Runs (attempt action) before outcome after ↔
      ∃ result, outcome = .ok result ∧ Runs action before result after := by
  have whole : Runs (attempt action) before (.ok (action.run before).1) (action.run before).2 :=
    rfl
  have given : Runs action before (action.run before).1 (action.run before).2 := rfl
  constructor
  · intro run
    obtain ⟨same, rfl⟩ := run.unique whole
    exact ⟨_, same, given⟩
  · rintro ⟨result, rfl, run⟩
    obtain ⟨rfl, rfl⟩ := run.unique given
    exact whole

namespace Plan

/-- Make the requests of a plan. -/
def run {α : Type} : Plan α → Interning α
  | done value => pure value
  | fail error => throw error
  | request table key build next => do
      let outcome ← attempt (intern table key build.run)
      (next outcome).run
  | inspect next => do
      let interner ← get
      (next interner).run
  | number next => do
      let globalId ← freshGlobalId
      (next globalId).run

/-- What happens in the run of a plan, in order. -/
def events {α : Type} : Plan α → Interner → List Event
  | done _, _ => []
  | fail _, _ => []
  | request table key build next, interner =>
      match interner.handle? table key with
      | some handle => .found table key :: (next (.ok handle)).events interner
      | none =>
          .begun table key :: build.events interner ++
            match build.run.run interner with
            | (.ok record, built) =>
                let handle := UInt32.ofNat (built.rows table).length
                .built table key record ::
                  (next (.ok handle)).events (built.push table key record)
            | (.error error, failed) =>
                .failed table key :: (next (.error error)).events failed
  | inspect next, interner => (next interner).events interner
  | number next, interner =>
      .numbered :: (next interner.nextGlobalId).events
        { interner with nextGlobalId := interner.nextGlobalId + 1 }

section Requests

variable {table : Table} {key : Key} {build : Plan table.Record}
  {next : Except LoweringError Handle → Plan α} {before middle : Interner}

theorem events_of_found {handle : Handle} (found : before.handle? table key = some handle) :
    (request table key build next).events before =
      .found table key :: (next (.ok handle)).events before := by
  rw [events, found]

theorem events_of_built (absent : before.handle? table key = none) {record : table.Record}
    (returned : Runs build.run before (.ok record) middle) :
    (request table key build next).events before =
      .begun table key :: (build.events before ++ .built table key record ::
        (next (.ok (UInt32.ofNat (middle.rows table).length))).events
          (middle.push table key record)) := by
  have result : build.run.run before = (.ok record, middle) := returned
  rw [events, absent]
  simp only [List.cons_append]
  rw [result]

theorem events_of_failed (absent : before.handle? table key = none) {error : LoweringError}
    (failed : Runs build.run before (.error error) middle) :
    (request table key build next).events before =
      .begun table key :: (build.events before ++ .failed table key ::
        (next (.error error)).events middle) := by
  have result : build.run.run before = (.error error, middle) := failed
  rw [events, absent]
  simp only [List.cons_append]
  rw [result]

end Requests

end Plan

/-! ## Moments -/

namespace Moment

variable {moment : Moment} {event : Event} {first second earlier events : List Event}

/-- The moment after an event. -/
def next (moment : Moment) : Event → Moment
  | .found _ _ => moment
  | .begun table key => { moment with underway := (table, key) :: moment.underway }
  | .built table key record =>
      { underway := moment.underway.tail, interner := moment.interner.push table key record }
  | .failed _ _ => { moment with underway := moment.underway.tail }
  | .numbered =>
      { moment with
        interner := { moment.interner with nextGlobalId := moment.interner.nextGlobalId + 1 } }

/-- The moment after some events. -/
def after (moment : Moment) (events : List Event) : Moment :=
  events.foldl next moment

/-- When an event takes place: a build begins where its key is absent, and the build that
ends is the innermost one. -/
def Allows (moment : Moment) : Event → Prop
  | .found table key => moment.interner.handle? table key ≠ none
  | .begun table key => moment.interner.handle? table key = none
  | .built table key _ => moment.underway.head? = some (table, key)
  | .failed table key => moment.underway.head? = some (table, key)
  | .numbered => True

/-- The record that begins to be built is not being built already. -/
def Fresh (moment : Moment) : Event → Prop
  | .begun table key => (table, key) ∉ moment.underway
  | _ => True

instance : (event : Event) → Decidable (moment.Fresh event)
  | .begun table key => inferInstanceAs (Decidable ((table, key) ∉ moment.underway))
  | .found _ _ | .built _ _ _ | .failed _ _ | .numbered => .isTrue trivial

/-- A condition that every event satisfies at its moment. -/
def Throughout (holds : Moment → Event → Prop) : Moment → List Event → Prop
  | _, [] => True
  | moment, event :: events => holds moment event ∧ Throughout holds (moment.next event) events

instance decidableThroughout {holds : Moment → Event → Prop}
    [∀ moment event, Decidable (holds moment event)] :
    (moment : Moment) → (events : List Event) → Decidable (Throughout holds moment events)
  | _, [] => .isTrue trivial
  | moment, event :: events =>
      have : Decidable (Throughout holds (moment.next event) events) :=
        decidableThroughout (moment.next event) events
      inferInstanceAs (Decidable (_ ∧ _))

theorem after_append : moment.after (first ++ second) = (moment.after first).after second :=
  List.foldl_append

theorem throughout_append {holds : Moment → Event → Prop} :
    Throughout holds moment (first ++ second) ↔
      Throughout holds moment first ∧ Throughout holds (moment.after first) second := by
  induction first generalizing moment with
  | nil => simp [Throughout, after]
  | cons event first ih => simp [Throughout, after, ih, and_assoc]

/-- Events that each take place when they can lead from one moment to another. -/
def Reaches (moment : Moment) (events : List Event) (last : Moment) : Prop :=
  Throughout Allows moment events ∧ moment.after events = last

theorem reaches_nil (moment : Moment) : moment.Reaches [] moment :=
  ⟨trivial, rfl⟩

theorem reaches_cons {last : Moment} (allowed : moment.Allows event)
    (rest : (moment.next event).Reaches events last) : moment.Reaches (event :: events) last :=
  ⟨⟨allowed, rest.1⟩, rest.2⟩

theorem reaches_append {middle last : Moment} (front : moment.Reaches first middle)
    (rest : middle.Reaches second last) : moment.Reaches (first ++ second) last := by
  obtain ⟨allowed, rfl⟩ := front
  exact ⟨throughout_append.mpr ⟨allowed, rest.1⟩, after_append.trans rest.2⟩

/-- Events only add rows. -/
theorem grows_after (moment : Moment) (events : List Event) :
    moment.interner.Grows (moment.after events).interner := by
  induction events generalizing moment with
  | nil => exact Std.Refl.refl moment.interner
  | cons event events ih =>
      have step : moment.interner.Grows (moment.next event).interner := by
        cases event with
        | found | begun | failed => exact Std.Refl.refl moment.interner
        | built table key record => exact Interner.grows_push moment.interner table key record
        | numbered =>
            intro table
            cases table <;> exact List.suffix_rfl
      exact IsTrans.trans _ _ _ step (ih (moment.next event))

end Moment

/-- The events of a plan lead from the tables before its run to those after it. -/
theorem Plan.reaches_events (plan : Plan α) (underway : List (Table × Key))
    {before after : Interner} {outcome : Except LoweringError α}
    (run : Runs plan.run before outcome after) :
    Moment.Reaches ⟨underway, before⟩ (plan.events before) ⟨underway, after⟩ := by
  induction plan generalizing underway before after with
  | done value =>
      obtain ⟨_, rfl⟩ := runs_pure.mp run
      exact Moment.reaches_nil _
  | fail error =>
      obtain ⟨_, rfl⟩ := runs_throw.mp run
      exact Moment.reaches_nil _
  | inspect next ih => exact ih before underway (runs_get_bind.mp run)
  | number next ih =>
      obtain ⟨globalId, middle, numbered, rest⟩ | ⟨error, numbered, _⟩ := runs_bind.mp run
      · obtain ⟨same, rfl⟩ := runs_freshGlobalId.mp numbered
        cases same
        exact Moment.reaches_cons trivial (ih before.nextGlobalId underway rest)
      · cases (runs_freshGlobalId.mp numbered).1
  | request table key build next ihBuild ihNext =>
      obtain ⟨answer, middle, attempted, rest⟩ | ⟨error, attempted, _⟩ := runs_bind.mp run
      · obtain ⟨answer, same, requested⟩ := runs_attempt.mp attempted
        cases same
        rw [runs_intern] at requested
        cases found : before.handle? table key with
        | some handle =>
            have known : before.handle? table key ≠ none := by simp [found]
            rw [found] at requested
            obtain ⟨rfl, rfl⟩ := runs_pure.mp requested
            rw [events_of_found found]
            exact Moment.reaches_cons known (ihNext (.ok handle) underway rest)
        | none =>
            -- While the record is built, its key is the innermost one underway.
            rw [found] at requested
            obtain ⟨record, built, returned, pushed⟩ | ⟨error, failed, rfl⟩ :=
              runs_bind.mp requested
            · obtain ⟨rfl, rfl⟩ := runs_push.mp pushed
              have inner := ihBuild ((table, key) :: underway) returned
              rw [events_of_built found returned]
              exact Moment.reaches_cons found
                (Moment.reaches_append inner (Moment.reaches_cons rfl (ihNext _ underway rest)))
            · have inner := ihBuild ((table, key) :: underway) failed
              rw [events_of_failed found failed]
              exact Moment.reaches_cons found
                (Moment.reaches_append inner (Moment.reaches_cons rfl (ihNext _ underway rest)))
      · obtain ⟨result, same, _⟩ := runs_attempt.mp attempted
        cases same

/-! ## What holds at every moment -/

/-- What holds at a moment, given the events before it. -/
structure Moment.Follows (earlier : List Event) (moment : Moment) : Prop where
  mem_rows_iff : ∀ table key record,
    (key, record) ∈ moment.interner.rows table ↔ .built table key record ∈ earlier
  distinct : moment.interner.Distinct
  absent : ∀ request ∈ moment.underway, moment.interner.handle? request.1 request.2 = none
  nodup : moment.underway.Nodup

namespace Moment.Follows

variable {moment : Moment} {event : Event} {earlier events : List Event}

theorem start : Follows [] {} where
  mem_rows_iff table key record := by cases table <;> simp [Interner.rows]
  distinct table := by cases table <;> exact List.nodup_nil
  absent request member := by cases member
  nodup := List.nodup_nil

/-- An event that builds nothing. -/
theorem of_rows {last : Moment} (follows : Follows earlier moment)
    (builds : ∀ table key record, event ≠ .built table key record)
    (rows : ∀ table, last.interner.rows table = moment.interner.rows table)
    (absent : ∀ request ∈ last.underway, moment.interner.handle? request.1 request.2 = none)
    (nodup : last.underway.Nodup) : Follows (earlier ++ [event]) last where
  mem_rows_iff table key record := by
    have other : Event.built table key record ≠ event := (builds table key record).symm
    rw [rows, follows.mem_rows_iff, List.mem_append, List.mem_singleton, or_iff_left other]
  distinct table := by
    rw [rows]
    exact follows.distinct table
  absent request member := by
    rw [Interner.handle?, rows]
    exact absent request member
  nodup := nodup

/-- A build that ends with a record adds the row of its key. -/
theorem built {table : Table} {key : Key} {outer : List (Table × Key)} {before : Interner}
    (follows : Follows earlier ⟨(table, key) :: outer, before⟩) (record : table.Record) :
    Follows (earlier ++ [.built table key record]) ⟨outer, before.push table key record⟩ where
  mem_rows_iff other otherKey otherRecord := by
    rw [List.mem_append, ← follows.mem_rows_iff, List.mem_singleton]
    by_cases same : other = table
    · subst same
      simp [or_comm]
    · rw [Interner.rows_push_of_ne before key record same]
      simp [same]
  distinct :=
    Interner.distinct_push follows.distinct record
      (follows.absent (table, key) List.mem_cons_self)
  absent request member := by
    have other : request ≠ (table, key) := by
      rintro rfl
      exact (List.nodup_cons.mp follows.nodup).1 member
    rw [Interner.handle?_push_of_ne before record other]
    exact follows.absent request (List.mem_cons_of_mem _ member)
  nodup := (List.nodup_cons.mp follows.nodup).2

/-- One event. -/
theorem next (follows : Follows earlier moment) (allowed : moment.Allows event)
    (fresh : moment.Fresh event) : Follows (earlier ++ [event]) (moment.next event) := by
  obtain ⟨underway, before⟩ := moment
  cases event with
  | found table key =>
      exact follows.of_rows (by simp) (fun _ => rfl) follows.absent follows.nodup
  | begun table key =>
      have absent : ∀ request ∈ (table, key) :: underway,
          before.handle? request.1 request.2 = none :=
        List.forall_mem_cons.mpr ⟨allowed, follows.absent⟩
      exact follows.of_rows (by simp) (fun _ => rfl) absent
        (List.nodup_cons.mpr ⟨fresh, follows.nodup⟩)
  | built table key record =>
      obtain ⟨outer, rfl⟩ : ∃ outer, underway = (table, key) :: outer :=
        List.head?_eq_some_iff.mp allowed
      exact follows.built record
  | failed table key =>
      obtain ⟨outer, rfl⟩ : ∃ outer, underway = (table, key) :: outer :=
        List.head?_eq_some_iff.mp allowed
      have absent : ∀ request ∈ outer, before.handle? request.1 request.2 = none :=
        (List.forall_mem_cons.mp follows.absent).2
      exact follows.of_rows (by simp) (fun _ => rfl) absent (List.nodup_cons.mp follows.nodup).2
  | numbered =>
      refine follows.of_rows (by simp) (fun table => ?_) follows.absent follows.nodup
      cases table <;> rfl

/-- A row of events. -/
theorem after (follows : Follows earlier moment) (allowed : Throughout Allows moment events)
    (fresh : Throughout Fresh moment events) :
    Follows (earlier ++ events) (moment.after events) := by
  induction events generalizing earlier moment with
  | nil => rwa [List.append_nil]
  | cons event events ih =>
      rw [List.append_cons]
      exact ih (follows.next allowed.1 fresh.1) allowed.2 fresh.2

end Moment.Follows

/-! ## Discipline -/

/-- The tables after some events, which start from empty ones. -/
def tablesAfter (events : List Event) : Interner :=
  (Moment.after {} events).interner

/-- Tables that hold one row for each record that was built. -/
structure HoldsBuilt (earlier : List Event) (interner : Interner) : Prop where
  /-- The position of a key is inside its table. -/
  position_lt : ∀ table key position, (interner.rows table).position? key = some position →
    position < (interner.objects.records table).length
  /-- Different keys of a table have different positions. -/
  position_inj : ∀ table key other position, (interner.rows table).position? key = some position →
    (interner.rows table).position? other = some position → key = other
  /-- Every record is at the position of exactly one key, and its build returned it. -/
  exists_key : ∀ table position record,
    (interner.objects.records table)[position]? = some record →
      ∃ key, (interner.rows table).position? key = some position ∧
        .built table key record ∈ earlier ∧
        ∀ other, (interner.rows table).position? other = some position → other = key
  /-- Every record that was built is at the position of its key. -/
  exists_position : ∀ table key record, .built table key record ∈ earlier →
    ∃ position, (interner.rows table).position? key = some position ∧
      (interner.objects.records table)[position]? = some record
  /-- Handles are positions in 32 bits, and inside the table in any case. -/
  handle_lt : ∀ table key handle, interner.handle? table key = some handle →
    handle.toNat < (interner.objects.records table).length
  /-- Different keys of a table have different handles, while 32 bits can tell them apart. -/
  handle_inj : ∀ table key other handle,
    (interner.objects.records table).length ≤ UInt32.size →
      interner.handle? table key = some handle → interner.handle? table other = some handle →
        key = other

/-- What the tables keep to between the events of a run. -/
structure Disciplined (events : List Event) : Prop where
  /-- At every moment the tables hold what was built so far. -/
  holds : ∀ earlier, earlier <+: events → HoldsBuilt earlier (tablesAfter earlier)
  /-- Tables only grow. -/
  grows : ∀ earlier later, earlier <+: later → later <+: events →
    (tablesAfter earlier).Grows (tablesAfter later)
  /-- What is recorded for a key stays. -/
  stays : ∀ earlier later, earlier <+: later → later <+: events → ∀ table key,
    (∀ position, ((tablesAfter earlier).rows table).position? key = some position →
      ((tablesAfter later).rows table).position? key = some position) ∧
    ∀ handle, (tablesAfter earlier).handle? table key = some handle →
      (tablesAfter later).handle? table key = some handle
  /-- A build begins when its key is absent. -/
  absent : ∀ earlier table key, earlier ++ [.begun table key] <+: events →
    (tablesAfter earlier).handle? table key = none
  /-- A build that fails leaves its key absent, and everything else as it was. -/
  failed : ∀ earlier table key, earlier ++ [.failed table key] <+: events →
    (tablesAfter (earlier ++ [.failed table key])).handle? table key = none ∧
      tablesAfter (earlier ++ [.failed table key]) = tablesAfter earlier

/-- No build requests the record that it is building, be it through other builds. -/
def Plan.Acyclic (plan : Plan α) : Prop :=
  Moment.Throughout Moment.Fresh {} (plan.events {})

instance (plan : Plan α) : Decidable plan.Acyclic :=
  inferInstanceAs (Decidable (Moment.Throughout Moment.Fresh {} (plan.events {})))

theorem Moment.Follows.holds {earlier : List Event} {moment : Moment}
    (follows : Follows earlier moment) : HoldsBuilt earlier moment.interner where
  position_lt table key position found := by
    rw [Interner.records_objects, Rows.length_records]
    exact Rows.position?_lt found
  position_inj table key other position found foundOther := Rows.position?_inj found foundOther
  exists_key table position record stored := by
    rw [Interner.records_objects] at stored
    have inside : position < (moment.interner.rows table).length := by
      have bound := (List.getElem?_eq_some_iff.mp stored).1
      rwa [Rows.length_records] at bound
    obtain ⟨key, found⟩ := Rows.exists_key_of_lt (follows.distinct table) inside
    obtain ⟨same, row, storedSame⟩ := Rows.exists_row found
    obtain rfl : same = record := Option.some.inj (storedSame.symm.trans stored)
    exact ⟨key, found, (follows.mem_rows_iff table key same).mp row,
      fun other foundOther => Rows.position?_inj foundOther found⟩
  exists_position table key record built := by
    have row := (follows.mem_rows_iff table key record).mpr built
    obtain ⟨position, found⟩ := Rows.mem_keys_iff.mp (List.mem_map_of_mem row)
    obtain ⟨same, rowSame, stored⟩ := Rows.exists_row found
    obtain rfl : same = record := Rows.record_eq (follows.distinct table) rowSame row
    refine ⟨position, found, ?_⟩
    rwa [Interner.records_objects]
  handle_lt table key handle found := Interner.handle?_lt found
  handle_inj table key other handle fits found foundOther :=
    Interner.handle?_inj_of_le fits found foundOther

theorem grows_tablesAfter {earlier later : List Event} (longer : earlier <+: later) :
    (tablesAfter earlier).Grows (tablesAfter later) := by
  obtain ⟨between, rfl⟩ := longer
  rw [tablesAfter, tablesAfter, Moment.after_append]
  exact Moment.grows_after _ between

section

variable (plan : Plan α) {earlier : List Event} {event : Event}

/-- The events of a plan lead from the empty tables to those after its run. -/
theorem Plan.exists_reaches : ∃ outcome,
    Runs plan.run {} outcome (tablesAfter (plan.events {})) ∧
      Moment.Throughout Moment.Allows {} (plan.events {}) := by
  have run : Runs plan.run {} (plan.run.run {}).1 (plan.run.run {}).2 := rfl
  obtain ⟨allowed, reached⟩ := plan.reaches_events [] run
  refine ⟨(plan.run.run {}).1, ?_, allowed⟩
  rw [tablesAfter, reached]
  exact run

/-- The events of a plan can take place in their order. -/
theorem Plan.allows_of_prefix (inside : earlier ++ [event] <+: plan.events {}) :
    (Moment.after {} earlier).Allows event := by
  obtain ⟨_, _, allowed⟩ := plan.exists_reaches
  obtain ⟨later, split⟩ := inside
  rw [← split, List.append_assoc] at allowed
  exact (Moment.throughout_append.mp allowed).2.1

theorem Plan.Acyclic.follows_of_prefix (acyclic : plan.Acyclic)
    (inside : earlier <+: plan.events {}) : Moment.Follows earlier (Moment.after {} earlier) := by
  obtain ⟨_, _, allowed⟩ := plan.exists_reaches
  obtain ⟨later, split⟩ := inside
  rw [← split] at allowed
  rw [Plan.Acyclic, ← split] at acyclic
  exact Moment.Follows.start.after (Moment.throughout_append.mp allowed).1
    (Moment.throughout_append.mp acyclic).1

/-- Tables keep their discipline in every run of a plan whose builds do not request
themselves. -/
theorem disciplined_of_acyclic (acyclic : plan.Acyclic) :
    Disciplined (plan.events {}) ∧
      ∃ outcome, Runs plan.run {} outcome (tablesAfter (plan.events {})) := by
  refine ⟨⟨?_, ?_, ?_, ?_, ?_⟩, ?_⟩
  · exact fun earlier inside => (acyclic.follows_of_prefix plan inside).holds
  · exact fun earlier later longer _ => grows_tablesAfter longer
  · intro earlier later longer inside table key
    have grows := grows_tablesAfter longer
    have distinct := (acyclic.follows_of_prefix plan inside).distinct
    exact ⟨fun position => Rows.position?_of_suffix (distinct table) (grows table),
      fun handle => Interner.handle?_of_grows grows distinct⟩
  · exact fun earlier table key inside => plan.allows_of_prefix inside
  · intro earlier table key inside
    have same : tablesAfter (earlier ++ [.failed table key]) = tablesAfter earlier := by
      rw [tablesAfter, Moment.after_append]
      rfl
    refine ⟨?_, same⟩
    obtain ⟨outer, underway⟩ := List.head?_eq_some_iff.mp (plan.allows_of_prefix inside)
    have before := acyclic.follows_of_prefix plan ((List.prefix_append _ _).trans inside)
    rw [same]
    exact before.absent (table, key) (by rw [underway]; exact List.mem_cons_self)
  · obtain ⟨outcome, run, _⟩ := plan.exists_reaches
    exact ⟨outcome, run⟩

end

/-- A request within a build, a build that fails after another one within it, and a second
attempt at the one that failed. -/
def retried : Plan (List (Except LoweringError Handle)) :=
  .request .shards (.shard [2, 2])
    (.request .shards (.shard [1]) (.done { shape := [1] }) fun inner =>
      match inner with
      | .ok handle => .done { shape := [2, 2, handle.toUInt64.toInt64] }
      | .error error => .fail error)
    fun outer =>
      .request .devices .debugInfo
        (.request .shards (.shard [3]) (.done { shape := [3] }) fun _ => .fail .emptyDevice)
        fun failed =>
          .request .devices .debugInfo (.done { globalId := 7 }) fun again =>
            .request .shards (.shard [3]) (.fail .emptyDevice) fun known =>
              .done [outer, failed, again, known]

theorem disciplined_retried : retried.Acyclic ∧ Disciplined (retried.events {}) := by
  have acyclic : retried.Acyclic := by decide
  exact ⟨acyclic, (disciplined_of_acyclic retried acyclic).1⟩

/-- The shard that the failed build requested is found afterwards. -/
example :
    retried.events {} =
      [.begun .shards (.shard [2, 2]), .begun .shards (.shard [1]),
        .built .shards (.shard [1]) { shape := [1] },
        .built .shards (.shard [2, 2]) { shape := [2, 2, 0] },
        .begun .devices .debugInfo, .begun .shards (.shard [3]),
        .built .shards (.shard [3]) { shape := [3] }, .failed .devices .debugInfo,
        .begun .devices .debugInfo, .built .devices .debugInfo { globalId := 7 },
        .found .shards (.shard [3])] := by
  rfl

end Interning

end Tilework
