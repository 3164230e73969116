import Tilework.Proofs.Sharding.Reading

/-!
# Annotations as they are written

A shard shape and a mesh can be written out, in an annotation with one `devices=` token, or
given as the fields of a sharding.  Both ways lead to the same completion: numbers and lists
are read as they were written, and what else an annotation may hold, `manual` tokens in
front, a permutation behind the mesh and replica marks at the end, does not come between.
-/

namespace Tilework.Sharding

/-! ## Numbers -/

theorem digit?_of_isDigit {char : Char} (digit : char.isDigit = true) :
    digit? char = some (char.toNat - '0'.toNat) := by
  simp only [Char.isDigit, Bool.and_eq_true, decide_eq_true_eq] at digit
  exact if_pos digit

/-- A row of digits is read as the number that it stands for. -/
theorem foldlM_digit?_eq {digits : List Char} (all : ∀ char ∈ digits, char.isDigit = true)
    (start : Nat) :
    digits.foldlM (fun value char => (digit? char).map (10 * value + ·)) start =
      some (Nat.ofDigitChars 10 digits start) := by
  induction digits generalizing start with
  | nil => rfl
  | cons char digits ih =>
      rw [List.forall_mem_cons] at all
      rw [List.foldlM_cons, digit?_of_isDigit all.1]
      exact ih all.2 _

theorem isDigit_of_mem_toDigits {number : Nat} {char : Char}
    (member : char ∈ Nat.toDigits 10 number) : char.isDigit = true :=
  Nat.isDigit_of_mem_toDigits (by decide) (by decide) member

theorem natural?_toDigits (number : Nat) : natural? (Nat.toDigits 10 number) = some number := by
  have all : ∀ char ∈ Nat.toDigits 10 number, char.isDigit = true :=
    fun _ => isDigit_of_mem_toDigits
  have reads := foldlM_digit?_eq all 0
  rw [Nat.ofDigitChars_toDigits (by decide) (by decide)] at reads
  cases digits : Nat.toDigits 10 number with
  | nil => exact absurd digits Nat.toDigits_ne_nil
  | cons char rest =>
      rw [digits] at reads
      exact reads

theorem integer?_toDigits (number : Nat) :
    integer? (Nat.toDigits 10 number) = Number.int64? number := by
  have reads := natural?_toDigits number
  unfold integer?
  split
  · rename_i digits written
    have sign : '+' ∈ Nat.toDigits 10 number := by simp [written]
    cases isDigit_of_mem_toDigits sign
  · rename_i digits written
    have sign : '-' ∈ Nat.toDigits 10 number := by simp [written]
    cases isDigit_of_mem_toDigits sign
  · rw [reads, Option.bind_some]

/-- A number is written as its digits, behind a sign if it is negative. -/
theorem exists_toList_toString_eq (value : Int64) : ∃ number : Nat,
    value.toInt = number ∧ (toString value).toList = Nat.toDigits 10 number ∨
      value.toInt = -number ∧ (toString value).toList = '-' :: Nat.toDigits 10 number := by
  have written : toString value = value.toInt.repr := rfl
  rw [written]
  cases value.toInt with
  | ofNat size => exact ⟨size, Or.inl ⟨rfl, Nat.toList_repr⟩⟩
  | negSucc size =>
      refine ⟨size + 1, Or.inr ⟨rfl, ?_⟩⟩
      rw [Int.repr, String.toList_append, Nat.toList_repr]
      rfl

theorem readInteger_toString (value : Int64) :
    readInteger (toString value).toList = .ok value := by
  have stored : Number.int64? value.toInt = some value := Number.int64?_eq_some_iff.mpr rfl
  have reads : integer? (toString value).toList = some value := by
    obtain ⟨number, ⟨same, written⟩ | ⟨same, written⟩⟩ := exists_toList_toString_eq value
    · rw [written, integer?_toDigits, ← same, stored]
    · rw [written, integer?, natural?_toDigits, Option.bind_some, ← same, stored]
  rw [readInteger, reads]

theorem comma_not_mem_toString (value : Int64) : ',' ∉ (toString value).toList := by
  have not_digit (number : Nat) : ',' ∉ Nat.toDigits 10 number := fun member =>
    absurd (isDigit_of_mem_toDigits member) (by decide)
  obtain ⟨number, ⟨-, written⟩ | ⟨-, written⟩⟩ := exists_toList_toString_eq value
  · rw [written]
    exact not_digit number
  · rw [written, List.mem_cons, not_or]
    exact ⟨by decide, not_digit number⟩

/-! ## Lists of numbers -/

/-- A list of sizes as annotations have it. -/
def dimensions (sizes : List Int64) : String :=
  "[" ++ ",".intercalate (sizes.map toString) ++ "]"

variable {shards devices sizes : List Int64} {suffix : String}

/-- A list of sizes is read as it was written. -/
theorem readDimensions_dimensions (given : sizes ≠ []) :
    readDimensions (dimensions sizes).toList = .ok sizes := by
  rw [readDimensions_eq_ok_iff]
  refine ⟨[','].intercalate ((sizes.map toString).map String.toList), by simp [dimensions], ?_⟩
  rw [pieces_intercalate (by simpa using given)]
  · rw [List.forall₂_map_left_iff, List.forall₂_map_left_iff, List.forall₂_same]
    exact fun value _ => readInteger_toString value
  · simp only [List.forall_mem_map]
    exact fun value _ => comma_not_mem_toString value

/-! ## Declarations -/

/-- The tokens of an annotation that declares a shard shape and a mesh. -/
def declaration (manuals : Nat) (shards devices : List Int64) (suffix : String)
    (replicates : Nat) : List String :=
  List.replicate manuals "manual" ++
    ("devices=" ++ dimensions shards ++ "<=" ++ dimensions devices ++ suffix) ::
      List.replicate replicates "last_tile_dim_replicate"

/-- The sharding that declares the same, its mesh neither settled nor assigned. -/
def declared (shards devices : List Int64) (replicates : Nat) : Sharding where
  kind := .devices
  shardShape := shards
  meshShape := devices
  lastTileReplicates := decide (0 < replicates)

/-- The outcome of completing a sharding: what it is then, or why it cannot be completed. -/
def completed (sharding : Sharding) : Except ShardingError Sharding :=
  sharding.complete.2.map fun () => sharding.complete.1

theorem settle_eq_completed {sharding : Sharding} (splits : sharding.kind = .devices) :
    sharding.settle = sharding.completed := by
  have devices : sharding.splitsDevices = true := beq_iff_eq.mpr splits
  rw [settle, if_pos devices, completed]
  cases sharding.complete with
  | mk after outcome => cases outcome <;> rfl

theorem ofText_devices (payload : String) :
    Token.ofText ("devices=" ++ payload).toList = .devices payload.toList :=
  (ofText_eq_iff (.devices payload.toList) rfl).mpr String.toList_append

/-- The text after `devices=` spells the lists that it was made of. -/
theorem spells_dimensions (givenShards : shards ≠ []) (givenDevices : devices ≠ [])
    (marked : suffix = "" ∨ suffix.toList.head? = some 'T') :
    Spells (dimensions shards ++ "<=" ++ dimensions devices ++ suffix).toList shards devices := by
  refine ⟨_, _, suffix.toList, ?_, ?_, readDimensions_dimensions givenShards,
    readDimensions_dimensions givenDevices⟩
  · simp
  · rcases marked with rfl | marked
    · exact Or.inl rfl
    · exact Or.inr marked

/-- Tokens `manual` leave it open how an annotation goes on. -/
theorem foldlM_manuals (manuals : Nat) : ∃ progress shards,
    (progress = .start ∨ progress = .manual) ∧
      (List.replicate manuals "manual").foldlM (fun state token => readToken state token.toList)
        (.start, {}) = .ok (progress, { shardShape := shards }) := by
  induction manuals with
  | zero => exact ⟨.start, [], Or.inl rfl, rfl⟩
  | succ manuals ih =>
      obtain ⟨progress, shards, opens, runs⟩ := ih
      refine ⟨.manual, shards ++ [1], Or.inr rfl, ?_⟩
      rw [List.replicate_succ', List.foldlM_append, runs]
      rcases opens with rfl | rfl <;> rfl

/-- Replica marks are noted, however many there are. -/
theorem foldlM_replicaMarks (replicates : Nat) (sharding : Sharding) :
    (List.replicate replicates "last_tile_dim_replicate").foldlM
        (fun state token => readToken state token.toList) (.devices, sharding) =
      .ok (.devices, { sharding with
        lastTileReplicates := sharding.lastTileReplicates || decide (0 < replicates) }) := by
  induction replicates generalizing sharding with
  | zero => simp [pure, Except.pure]
  | succ replicates ih =>
      rw [List.replicate_succ, List.foldlM_cons]
      have marks : readToken (.devices, sharding) "last_tile_dim_replicate".toList =
          .ok (.devices, { sharding with lastTileReplicates := true }) := rfl
      rw [marks]
      exact (ih _).trans (by simp)

/-- The tokens of a declaration say what it declares. -/
theorem readUnsettled_declaration (manuals replicates : Nat) (givenShards : shards ≠ [])
    (givenDevices : devices ≠ []) (marked : suffix = "" ∨ suffix.toList.head? = some 'T') :
    readUnsettled (declaration manuals shards devices suffix replicates) =
      .ok (declared shards devices replicates) := by
  obtain ⟨progress, ones, opens, manual⟩ := foldlM_manuals manuals
  have token : readToken (progress, { shardShape := ones })
      ("devices=" ++ (dimensions shards ++ "<=" ++ dimensions devices ++ suffix)).toList =
        .ok (.devices, { shardShape := shards, meshShape := devices }) := by
    have reads : readDevices (dimensions shards ++ "<=" ++ dimensions devices ++ suffix).toList
        { shardShape := ones } = .ok { shardShape := shards, meshShape := devices } :=
      readDevices_eq_ok_iff.mpr
        ⟨shards, devices, spells_dimensions givenShards givenDevices marked, rfl⟩
    simp only [readToken, ofText_devices]
    rw [if_pos opens, reads]
    rfl
  have replicas := foldlM_replicaMarks replicates
    { shardShape := shards, meshShape := devices }
  have same : "devices=" ++ dimensions shards ++ "<=" ++ dimensions devices ++ suffix =
      "devices=" ++ (dimensions shards ++ "<=" ++ dimensions devices ++ suffix) := by
    simp only [String.append_assoc]
  have runs : (declaration manuals shards devices suffix replicates).foldlM
      (fun state token => readToken state token.toList) (.start, {}) =
        .ok (.devices, { declared shards devices replicates with kind := .manual }) := by
    rw [declaration, same, List.foldlM_append, manual]
    refine bind_eq_ok_iff.mpr ⟨_, rfl, ?_⟩
    rw [List.foldlM_cons, token]
    refine bind_eq_ok_iff.mpr ⟨_, rfl, ?_⟩
    rw [replicas, Bool.false_or]
    rfl
  rw [readUnsettled, runs]
  rfl

theorem blank_not_mem_dimensions (given : sizes ≠ []) : ' ' ∉ (dimensions sizes).toList := by
  intro member
  have numeral := isNumeral_of_readDimensions (readDimensions_dimensions given) member
  exact absurd numeral (by decide)

/-- An annotation that declares a shard shape and a mesh is read as the sharding that
declares the same is completed. -/
theorem parse_declaration (manuals replicates : Nat) (givenShards : shards ≠ [])
    (givenDevices : devices ≠ []) (marked : suffix = "" ∨ suffix.toList.head? = some 'T')
    (clean : ' ' ∉ suffix.toList) :
    parse (annotationOf (declaration manuals shards devices suffix replicates)) =
      (declared shards devices replicates).completed := by
  have cleanTokens : ∀ token ∈ declaration manuals shards devices suffix replicates,
      ' ' ∉ token.toList := by
    intro token member
    rw [declaration, List.mem_append, List.mem_cons] at member
    rcases member with manual | rfl | replica
    · rw [List.eq_of_mem_replicate manual]
      decide
    · simp [blank_not_mem_dimensions givenShards, blank_not_mem_dimensions givenDevices, clean]
    · rw [List.eq_of_mem_replicate replica]
      decide
  rw [parse_annotationOf cleanTokens,
    readUnsettled_declaration manuals replicates givenShards givenDevices marked]
  have splits : (declared shards devices replicates).kind = .devices := rfl
  exact settle_eq_completed splits

theorem parse_declaration_braceInSuffix :
    annotationOf (declaration 1 [1, 4, 2] [8] "T(1,0)\x7d<=[" 1) =
        "\x7bmanual devices=[1,4,2]<=[8]T(1,0)\x7d<=[ last_tile_dim_replicate\x7d" ∧
      parse (annotationOf (declaration 1 [1, 4, 2] [8] "T(1,0)\x7d<=[" 1)) =
        (declared [1, 4, 2] [8] 1).completed :=
  ⟨by decide +kernel,
    parse_declaration 1 1 (by decide) (by decide) (by decide) (by decide)⟩

end Tilework.Sharding
