import Tilework.Proofs.Sharding.Reading

/-!
# Annotations that split no tensor

Without a `devices=` token an annotation leaves the tensor whole: it is passed through, or
every device holds it, or one device does.  The shard shape of such a sharding is put together
token by token, and the entry of a `manual` token stays in it when another kind of sharding
follows.  So the device of a maximal sharding is the last entry of its shape, and comes right
after the leading one only where no `manual` token stands in front.
-/

namespace Tilework.Sharding

variable {text id payload : List Char} {texts : List (List Char)}

/-! ## Tokens -/

/-- The text after `device=` of a token that has one. -/
def deviceId? (text : List Char) : Option (List Char) :=
  match Token.ofText text with
  | .device id => some id
  | _ => none

theorem deviceId?_eq_some_iff : deviceId? text = some id ↔ text = "device=".toList ++ id := by
  rw [← ofText_eq_iff (.device id) rfl, deviceId?]
  cases Token.ofText text <;> simp

/-- The number of `manual` tokens. -/
def manuals (texts : List (List Char)) : Nat :=
  texts.count "manual".toList

theorem manuals_append_singleton (texts : List (List Char)) (text : List Char) :
    manuals (texts ++ [text]) =
      if Token.ofText text = .manual then manuals texts + 1 else manuals texts := by
  have spelled : Token.ofText text = .manual ↔ text = "manual".toList := ofText_eq_iff .manual rfl
  rw [manuals, List.count_append, List.count_singleton, manuals]
  by_cases manual : text = "manual".toList
  · rw [if_pos (spelled.mpr manual), if_pos (beq_iff_eq.mpr manual)]
  · rw [if_neg (mt spelled.mp manual), if_neg (mt beq_iff_eq.mp manual), Nat.add_zero]

/-! ## Tokens in order -/

/-- What some tokens have put together, as long as none of them is a `devices=` token: an entry
for each `manual` token, and then the entries of the kind of sharding decided upon. -/
inductive Collects (texts : List (List Char)) : ShardingProgress × Sharding → Prop
  | passing {progress : ShardingProgress} (none_named : texts.filterMap deviceId? = [])
      (opening : progress = .start ∨ progress = .manual) :
      Collects texts (progress, { shardShape := List.replicate (manuals texts) 1 })
  | decided {progress : ShardingProgress} (none_named : texts.filterMap deviceId? = [])
      (held : progress = .replicated ∨ progress = .awaitingDevice) :
      Collects texts (progress, { shardShape := List.replicate (manuals texts) 1 ++ [1] })
  | placed {id : List Char} {device : Int64} (one_named : texts.filterMap deviceId? = [id])
      (reads : readInteger id = .ok device) :
      Collects texts (.maximal, { shardShape := List.replicate (manuals texts) 1 ++ [1, device] })
  | divided (sharding : Sharding) : Collects texts (.devices, sharding)

variable {state next : ShardingProgress × Sharding}

theorem collects_start : Collects [] (.start, {}) :=
  .passing rfl (Or.inl rfl)

/-- Every token that is read goes on with what was put together. -/
theorem Collects.read (collects : Collects texts state) (read : readToken state text = .ok next) :
    Collects (texts ++ [text]) next := by
  have named : (texts ++ [text]).filterMap deviceId? =
      texts.filterMap deviceId? ++ (deviceId? text).toList := by
    rw [List.filterMap_append, List.filterMap_cons]
    cases deviceId? text <;> rfl
  have counted := manuals_append_singleton texts text
  cases collects with
  | passing none_named opening =>
      rw [none_named, deviceId?] at named
      cases token : Token.ofText text
      all_goals
        simp only [readToken, token, opening, if_true, reduceCtorEq, if_false] at read named counted
      case manual =>
        cases read
        rw [← List.replicate_succ', ← counted]
        exact .passing named (Or.inr rfl)
      case replicated =>
        cases read
        rw [← counted]
        exact .decided named (Or.inl rfl)
      case maximal =>
        cases read
        rw [← counted]
        exact .decided named (Or.inr rfl)
      case device id =>
        split at read
        · rename_i awaits
          rcases opening with rfl | rfl <;> cases awaits
        · cases read
      case devices payload =>
        obtain ⟨sharding, -, rfl⟩ := map_eq_ok_iff.mp read
        exact .divided sharding
      case lastTileReplicates =>
        split at read
        · rename_i divided
          rcases opening with rfl | rfl <;> cases divided
        · cases read
      case unknown =>
        cases read
        rw [← counted]
        exact .passing named opening
  | @decided progress none_named held =>
      have closed : ¬ (progress = .start ∨ progress = .manual) := by
        rcases held with rfl | rfl <;> simp
      rw [none_named, deviceId?] at named
      cases token : Token.ofText text
      all_goals simp only [readToken, token, closed, if_false, reduceCtorEq] at read named counted
      case device id =>
        split at read
        · obtain ⟨device, reads, rfl⟩ := map_eq_ok_iff.mp read
          rw [List.append_assoc, ← counted]
          exact .placed named reads
        · cases read
      case lastTileReplicates =>
        split at read
        · rename_i divided
          rcases held with rfl | rfl <;> cases divided
        · cases read
      case unknown =>
        cases read
        rw [← counted]
        exact .decided named held
  | placed one_named reads =>
      rw [one_named, deviceId?] at named
      -- After a device only unknown tokens are legal.
      cases token : Token.ofText text
      all_goals simp only [readToken, token, reduceCtorEq, or_self, if_false] at read named counted
      case unknown =>
        cases read
        rw [← counted]
        exact .placed named reads
  | divided sharding =>
      cases token : Token.ofText text
      all_goals simp only [readToken, token, reduceCtorEq, or_self, if_false] at read
      case lastTileReplicates | unknown =>
        cases read
        exact .divided _

theorem Collects.readAll {later : List (List Char)} (collects : Collects texts state)
    (read : later.foldlM readToken state = .ok next) : Collects (texts ++ later) next :=
  holds_of_foldlM Collects.read collects read

/-! ## Annotations -/

/-- What is true of a sharding that was read from some tokens and splits no tensor. -/
structure LeavesWhole (tokens : List (List Char)) (result : Sharding) : Prop where
  meshShape : result.meshShape = [-1]
  shardDims : result.shardDims = [-1]
  replicas : result.lastTileReplicates = false
  line : result.isLine = false
  devices : result.deviceCount? = none
  /-- A sharding by hand has an entry for each `manual` token. -/
  manual : result.kind = .manual → result.shardShape = List.replicate (manuals tokens) 1
  /-- A replicated sharding has one more. -/
  replicate : result.kind = .replicate →
    result.shardShape = List.replicate (manuals tokens) 1 ++ [1] ∧
      (result.shardShape = [1] ↔ "manual".toList ∉ tokens)
  /-- A maximal sharding has two more, the second of which is the device that its one `device=`
  token names. -/
  maximal : result.kind = .maximal → ∃ id device,
    (∀ other, "device=".toList ++ other ∈ tokens ↔ other = id) ∧ readInteger id = .ok device ∧
      result.shardShape = List.replicate (manuals tokens) 1 ++ [1, device] ∧
      (result.shardShape = [1, device] ↔ "manual".toList ∉ tokens)

variable {input : String} {sharding result : Sharding} {shape : List Int64}

/-- A shape begins with entries for `manual` tokens unless there are none. -/
theorem replicate_manuals_append_eq_iff :
    List.replicate (manuals texts) 1 ++ shape = shape ↔ "manual".toList ∉ texts := by
  rw [List.append_left_eq_self, List.replicate_eq_nil_iff, manuals, List.count_eq_zero]

/-- A sharding without devices is settled by filling in the placeholders. -/
theorem settle_of_whole (whole : sharding.kind ≠ .devices) :
    sharding.settle = .ok { sharding with meshShape := [-1], shardDims := [-1] } := by
  rw [settle, if_neg]
  exact mt eq_of_beq whole

/-- An annotation that is read as a sharding without devices leaves the tensor whole.  Its shard
shape is `[1]`, or `[1, device]`, exactly when it has no `manual` token in front. -/
theorem leavesWhole_of_parse (parses : parse input = .ok result) (whole : result.kind ≠ .devices) :
    ∃ body, input.toList = '{' :: (body ++ ['}']) ∧ LeavesWhole (pieces ' ' body) result := by
  obtain ⟨body, progress, read, kind, braces, reads, ends, settles⟩ := parse_eq_ok_iff.mp parses
  have kind_eq : result.kind = kind := kind_of_settle settles
  rw [kind_eq] at whole
  rw [settle_of_whole whole] at settles
  cases settles
  refine ⟨body, braces, ?_⟩
  have devices : deviceCount? { read with kind, meshShape := [-1], shardDims := [-1] } = none :=
    if_neg (mt eq_of_beq whole)
  cases collects_start.readAll reads with
  | passing none_named opening =>
      have manual : kind = .manual := by
        rcases opening with rfl | rfl <;> exact (Except.ok.inj ends).symm
      subst manual
      exact ⟨rfl, rfl, rfl, rfl, devices, fun _ => rfl, nofun, nofun⟩
  | decided none_named held =>
      have replicate : kind = .replicate := by
        rcases held with rfl | rfl
        · exact (Except.ok.inj ends).symm
        · cases ends
      subst replicate
      exact ⟨rfl, rfl, rfl, rfl, devices, nofun,
        fun _ => ⟨rfl, replicate_manuals_append_eq_iff⟩, nofun⟩
  | @placed id device one_named names =>
      obtain rfl : .maximal = kind := Except.ok.inj ends
      have only := append_mem_iff deviceId?_eq_some_iff one_named
      exact ⟨rfl, rfl, rfl, rfl, devices, nofun, nofun,
        fun _ => ⟨id, device, only, names, rfl, replicate_manuals_append_eq_iff⟩⟩
  | divided => exact absurd (Except.ok.inj ends).symm whole

/-- The sharding that `{manual maximal device=3}` denotes. -/
def heldByThree : Sharding where
  kind := .maximal
  shardShape := [1, 1, 3]
  meshShape := [-1]
  shardDims := [-1]

/-- The sharding that `{manual replicated}` denotes. -/
def heldByAll : Sharding where
  kind := .replicate
  shardShape := [1, 1]
  meshShape := [-1]
  shardDims := [-1]

theorem leavesWhole_heldByThree :
    parse "\x7bmanual  maximal owner=x device=3\x7d" = .ok heldByThree ∧
      heldByThree.kind ≠ .devices ∧
      ∃ body, "\x7bmanual  maximal owner=x device=3\x7d".toList = '{' :: (body ++ ['}']) ∧
        LeavesWhole (pieces ' ' body) heldByThree :=
  ⟨by decide +kernel, by decide, leavesWhole_of_parse (by decide +kernel) (by decide)⟩

/-- The entry of a `manual` token stands between the leading one and the device, and next to
the one of a replicated sharding. -/
theorem shardShape_heldByThree_and_heldByAll :
    (parse "\x7bmanual maximal device=3\x7d" = .ok heldByThree ∧ heldByThree.kind = .maximal ∧
      "device=3".toList ∈ pieces ' ' "manual maximal device=3".toList ∧
      readInteger "3".toList = .ok 3 ∧ heldByThree.shardShape ≠ [1, 3]) ∧
    parse "\x7bmanual replicated\x7d" = .ok heldByAll ∧ heldByAll.kind = .replicate ∧
      heldByAll.shardShape ≠ [1] := by
  decide +kernel

end Tilework.Sharding
