import Tilework.Proofs.Run
import Tilework.Sharding.Annotation

/-!
# What a sharding annotation declares

An annotation declares a shard shape and a mesh in its `devices=` token: the lists before
and after the arrow.  Reading is right about them.  A list that can be read holds neither
an arrow nor the letter `T`, so both are cut off where they were written, and the order in
which tokens are legal leaves room for one such token.
-/

namespace Tilework.Sharding

/-! ## Pieces of text -/

section Pieces

variable {separator char : Char} {text piece before after beginning rest : List Char}

theorem enclosed?_eq_some_iff {opening closing : Char} {inner : List Char} :
    enclosed? opening closing text = some inner ↔ text = opening :: (inner ++ [closing]) := by
  cases text with
  | nil => simp [enclosed?]
  | cons char text =>
      simp only [enclosed?, Option.ite_none_right_eq_some, Option.some.injEq, List.cons.injEq]
      constructor
      · rintro ⟨⟨first, last⟩, rfl⟩
        have closes := List.dropLast_append_getLast? closing last
        exact ⟨first, closes.symm⟩
      · rintro ⟨rfl, rfl⟩
        simp

theorem after?_eq_some_iff : after? beginning text = some rest ↔ text = beginning ++ rest := by
  induction beginning generalizing text with
  | nil => simp [after?]
  | cons wanted beginning ih =>
      cases text with
      | nil => simp [after?]
      | cons char text =>
          rw [after?, List.cons_append, List.cons.injEq, Option.ite_none_right_eq_some, ih]
          exact and_congr_left' eq_comm

theorem pieces_cons_self (separator : Char) (text : List Char) :
    pieces separator (separator :: text) = [] :: pieces separator text := by
  simp [pieces]

theorem pieces_cons_of_ne (different : char ≠ separator) (text : List Char) :
    pieces separator (char :: text) =
      (char :: (pieces separator text).headD []) :: (pieces separator text).tail := by
  simp only [pieces, if_neg different]
  cases pieces separator text <;> rfl

theorem headD_pieces_cons_tail (separator : Char) (text : List Char) :
    (pieces separator text).headD [] :: (pieces separator text).tail = pieces separator text := by
  cases text with
  | nil => rfl
  | cons char text =>
      by_cases separates : char = separator
      · subst separates
        rw [pieces_cons_self]
        rfl
      · rw [pieces_cons_of_ne separates]
        rfl

/-- The first piece ends where the text does or where a separator stands. -/
theorem exists_eq_headD_pieces_append (separator : Char) (text : List Char) :
    ∃ rest, text = (pieces separator text).headD [] ++ rest ∧
      (rest = [] ∨ rest.head? = some separator) := by
  induction text with
  | nil => exact ⟨[], rfl, Or.inl rfl⟩
  | cons char text ih =>
      by_cases separates : char = separator
      · subst separates
        rw [pieces_cons_self]
        exact ⟨char :: text, rfl, Or.inr rfl⟩
      · obtain ⟨rest, same, ends⟩ := ih
        rw [pieces_cons_of_ne separates]
        exact ⟨rest, congrArg (char :: ·) same, ends⟩

/-- A piece without separators is the first one, in front of a separator or at the end. -/
theorem headD_pieces_append (clean : separator ∉ before)
    (ends : rest = [] ∨ rest.head? = some separator) :
    (pieces separator (before ++ rest)).headD [] = before := by
  induction before with
  | nil =>
      rcases ends with rfl | starts
      · rfl
      · obtain ⟨later, rfl⟩ := List.head?_eq_some_iff.mp starts
        rw [List.nil_append, pieces_cons_self]
        rfl
  | cons char before ih =>
      rw [List.mem_cons, not_or] at clean
      rw [List.cons_append, pieces_cons_of_ne (Ne.symm clean.1)]
      exact congrArg (char :: ·) (ih clean.2)

theorem pieces_eq_singleton (clean : separator ∉ text) : pieces separator text = [text] := by
  induction text with
  | nil => rfl
  | cons char text ih =>
      rw [List.mem_cons, not_or] at clean
      rw [pieces_cons_of_ne (Ne.symm clean.1), ih clean.2]
      rfl

theorem pieces_append_cons (clean : separator ∉ before) :
    pieces separator (before ++ separator :: rest) = before :: pieces separator rest := by
  induction before with
  | nil => exact pieces_cons_self separator rest
  | cons char before ih =>
      rw [List.mem_cons, not_or] at clean
      rw [List.cons_append, pieces_cons_of_ne (Ne.symm clean.1), ih clean.2]
      rfl

/-- Texts without separators are the pieces of the text that they make up. -/
theorem pieces_intercalate {texts : List (List Char)} (given : texts ≠ [])
    (clean : ∀ text ∈ texts, separator ∉ text) :
    pieces separator ([separator].intercalate texts) = texts := by
  induction texts with
  | nil => exact absurd rfl given
  | cons text texts ih =>
      rw [List.forall_mem_cons] at clean
      cases texts with
      | nil => rw [List.intercalate_singleton, pieces_eq_singleton clean.1]
      | cons next texts =>
          rw [List.intercalate_cons_cons, List.append_assoc, List.singleton_append,
            pieces_append_cons clean.1, ih (List.cons_ne_nil next texts) clean.2]

/-- A character is a separator or belongs to a piece. -/
theorem mem_piece_of_mem (separator : Char) (member : char ∈ text) :
    char = separator ∨ ∃ piece ∈ pieces separator text, char ∈ piece := by
  induction text with
  | nil => cases member
  | cons first text ih =>
      by_cases separates : first = separator
      · subst separates
        rw [pieces_cons_self]
        rcases List.mem_cons.mp member with rfl | later
        · exact Or.inl rfl
        · rcases ih later with same | ⟨piece, among, inside⟩
          · exact Or.inl same
          · exact Or.inr ⟨piece, List.mem_cons_of_mem [] among, inside⟩
      · rw [pieces_cons_of_ne separates]
        rcases List.mem_cons.mp member with rfl | later
        · exact Or.inr ⟨_, List.mem_cons_self, List.mem_cons_self⟩
        · rcases ih later with same | ⟨piece, among, inside⟩
          · exact Or.inl same
          · rw [← headD_pieces_cons_tail] at among
            rcases List.mem_cons.mp among with rfl | among
            · exact Or.inr ⟨_, List.mem_cons_self, List.mem_cons_of_mem first inside⟩
            · exact Or.inr ⟨piece, List.mem_cons_of_mem _ among, inside⟩

theorem sublist_of_mem_pieces (member : piece ∈ pieces separator text) : piece.Sublist text := by
  induction text generalizing piece with
  | nil =>
      cases List.mem_singleton.mp member
      exact List.Sublist.refl []
  | cons char text ih =>
      by_cases separates : char = separator
      · subst separates
        rw [pieces_cons_self] at member
        rcases List.mem_cons.mp member with rfl | among
        · exact List.nil_sublist _
        · exact (ih among).cons char
      · rw [pieces_cons_of_ne separates] at member
        rw [← headD_pieces_cons_tail] at ih
        rcases List.mem_cons.mp member with rfl | among
        · exact (ih List.mem_cons_self).cons_cons char
        · exact (ih (List.mem_cons_of_mem _ among)).cons char

theorem length_pieces_le (separator : Char) (text : List Char) :
    (pieces separator text).length ≤ text.length + 1 := by
  induction text with
  | nil => exact Nat.le_refl 1
  | cons char text ih =>
      by_cases separates : char = separator
      · subst separates
        rw [pieces_cons_self]
        exact Nat.succ_le_succ ih
      · rw [pieces_cons_of_ne separates]
        rw [← headD_pieces_cons_tail] at ih
        exact Nat.le_succ_of_le ih

/-- The text after the first arrow is what follows a text without its first mark. -/
theorem cutAtArrow?_append (clean : '<' ∉ before) :
    cutAtArrow? (before ++ '<' :: '=' :: after) = some (before, after) := by
  induction before with
  | nil => simp [cutAtArrow?]
  | cons char before ih =>
      rw [List.mem_cons, not_or] at clean
      simp [cutAtArrow?, Ne.symm clean.1, ih clean.2]

theorem eq_append_of_cutAtArrow? (cut : cutAtArrow? text = some (before, after)) :
    text = before ++ '<' :: '=' :: after := by
  induction text generalizing before with
  | nil => cases cut
  | cons char text ih =>
      simp only [cutAtArrow?] at cut
      split at cut
      · rename_i arrow
        cases cut
        obtain ⟨rfl, next⟩ := arrow
        cases text with
        | nil => cases next
        | cons char text =>
            cases next
            rfl
      · rcases Option.map_eq_some_iff.mp cut with ⟨⟨earlier, later⟩, found, same⟩
        cases same
        exact congrArg (char :: ·) (ih found)

end Pieces

/-! ## Lists of numbers -/

/-- The characters of a list of numbers. -/
def IsNumeral (char : Char) : Prop :=
  (digit? char).isSome ∨ char ∈ ['[', ']', ',', '+', '-']

instance : DecidablePred IsNumeral :=
  fun char => inferInstanceAs (Decidable ((digit? char).isSome ∨ _))

variable {text payload : List Char} {char : Char} {sizes shards devices : List Int64}

theorem digit_of_mem_foldlM {start value : Nat}
    (folded : text.foldlM (fun value char => (digit? char).map (10 * value + ·)) start = some value)
    (member : char ∈ text) : (digit? char).isSome := by
  induction text generalizing start with
  | nil => cases member
  | cons first text ih =>
      rw [List.foldlM_cons] at folded
      obtain ⟨next, read, folded⟩ := Option.bind_eq_some_iff.mp folded
      obtain ⟨digit, read, -⟩ := Option.map_eq_some_iff.mp read
      rcases List.mem_cons.mp member with rfl | later
      · rw [read]
        rfl
      · exact ih folded later

theorem isNumeral_of_natural? {f : Nat → Option Int64} {value : Int64}
    (found : (natural? text).bind f = some value) (member : char ∈ text) : IsNumeral char := by
  obtain ⟨number, found, -⟩ := Option.bind_eq_some_iff.mp found
  cases text with
  | nil => cases member
  | cons first text => exact Or.inl (digit_of_mem_foldlM found member)

theorem isNumeral_of_readInteger {value : Int64} (read : readInteger text = .ok value)
    (member : char ∈ text) : IsNumeral char := by
  have found : integer? text = some value := by
    rw [readInteger] at read
    split at read
    · cases read
      assumption
    · cases read
  unfold integer? at found
  split at found
  · rcases List.mem_cons.mp member with rfl | digit
    · decide
    · exact isNumeral_of_natural? found digit
  · rcases List.mem_cons.mp member with rfl | digit
    · decide
    · exact isNumeral_of_natural? found digit
  · exact isNumeral_of_natural? found member

theorem readDimensions_eq_ok_iff :
    readDimensions text = .ok sizes ↔ ∃ inner, text = '[' :: (inner ++ [']']) ∧
      List.Forall₂ (fun piece size => readInteger piece = .ok size) (pieces ',' inner) sizes := by
  rw [readDimensions]
  cases found : enclosed? '[' ']' text with
  | none =>
      simp only [reduceCtorEq, false_iff]
      rintro ⟨inner, rfl, -⟩
      rw [enclosed?_eq_some_iff.mpr rfl] at found
      cases found
  | some inner =>
      obtain rfl := enclosed?_eq_some_iff.mp found
      simp [mapM_eq_ok_iff]

theorem isNumeral_of_readDimensions (read : readDimensions text = .ok sizes)
    (member : char ∈ text) : IsNumeral char := by
  obtain ⟨inner, rfl, each⟩ := readDimensions_eq_ok_iff.mp read
  rw [List.mem_cons, List.mem_append, List.mem_singleton] at member
  rcases member with rfl | inside | rfl
  · decide
  · rcases mem_piece_of_mem ',' inside with rfl | ⟨piece, among, inside⟩
    · decide
    · obtain ⟨size, -, read⟩ := exists_mem_zip each among
      exact isNumeral_of_readInteger read inside
  · decide

theorem length_le_of_readDimensions (read : readDimensions text = .ok sizes) :
    sizes.length ≤ text.length := by
  obtain ⟨inner, rfl, each⟩ := readDimensions_eq_ok_iff.mp read
  calc
    sizes.length = (pieces ',' inner).length := each.length_eq.symm
    _ ≤ inner.length + 1 := length_pieces_le ',' inner
    _ ≤ ('[' :: (inner ++ [']'])).length := by simp

/-! ## The `devices=` token -/

/-- The text after `devices=` writes a shard shape, an arrow and a mesh, and what follows
the mesh, if anything does, starts with the letter `T`. -/
def Spells (payload : List Char) (shards devices : List Int64) : Prop :=
  ∃ axes mesh rest, payload = axes ++ '<' :: '=' :: (mesh ++ rest) ∧
    (rest = [] ∨ rest.head? = some 'T') ∧
    readDimensions axes = .ok shards ∧ readDimensions mesh = .ok devices

/-- Reading what follows `devices=` finds the lists that it spells. -/
theorem readDevices_eq_ok_iff {sharding read : Sharding} :
    readDevices payload sharding = .ok read ↔ ∃ shards devices, Spells payload shards devices ∧
      read = { sharding with shardShape := shards, meshShape := devices } := by
  rw [readDevices]
  constructor
  · intro succeeds
    cases cut : cutAtArrow? payload with
    | none =>
        rw [cut] at succeeds
        obtain ⟨shards, -, succeeds⟩ := bind_eq_ok_iff.mp succeeds
        cases succeeds
    | some parts =>
        obtain ⟨axes, after⟩ := parts
        rw [cut] at succeeds
        obtain ⟨shards, readAxes, succeeds⟩ := bind_eq_ok_iff.mp succeeds
        obtain ⟨devices, readMesh, succeeds⟩ := bind_eq_ok_iff.mp succeeds
        cases succeeds
        obtain ⟨rest, same, ends⟩ := exists_eq_headD_pieces_append 'T' after
        refine ⟨shards, devices, ⟨axes, _, rest, ?_, ends, readAxes, readMesh⟩, rfl⟩
        rw [← same]
        exact eq_append_of_cutAtArrow? cut
  · rintro ⟨shards, devices, ⟨axes, mesh, rest, rfl, ends, readAxes, readMesh⟩, rfl⟩
    have noArrow : '<' ∉ axes := fun member =>
      absurd (isNumeral_of_readDimensions readAxes member) (by decide)
    have noLetter : 'T' ∉ mesh := fun member =>
      absurd (isNumeral_of_readDimensions readMesh member) (by decide)
    rw [cutAtArrow?_append noArrow]
    simp only [Option.getD_some, headD_pieces_append noLetter ends]
    exact bind_eq_ok_iff.mpr ⟨shards, readAxes, bind_eq_ok_iff.mpr ⟨devices, readMesh, rfl⟩⟩

/-- A text spells at most one shard shape and one mesh. -/
theorem Spells.unique {otherShards otherDevices : List Int64}
    (spells : Spells payload shards devices) (other : Spells payload otherShards otherDevices) :
    otherShards = shards ∧ otherDevices = devices := by
  have reads {shards devices : List Int64} (spells : Spells payload shards devices) :
      readDevices payload {} = .ok { shardShape := shards, meshShape := devices } :=
    readDevices_eq_ok_iff.mpr ⟨shards, devices, spells, rfl⟩
  have same := (reads spells).symm.trans (reads other)
  cases same
  exact ⟨rfl, rfl⟩

theorem Spells.length_le (spells : Spells payload shards devices) :
    shards.length ≤ payload.length := by
  obtain ⟨axes, mesh, rest, rfl, -, read, -⟩ := spells
  have short := length_le_of_readDimensions read
  rw [List.length_append]
  omega

/-! ## Tokens and their spellings -/

/-- How a token is spelled, unless it is unknown. -/
def Token.spelling? : Token → Option (List Char)
  | .manual => some "manual".toList
  | .replicated => some "replicated".toList
  | .maximal => some "maximal".toList
  | .device id => some ("device=".toList ++ id)
  | .devices payload => some ("devices=".toList ++ payload)
  | .lastTileReplicates => some "last_tile_dim_replicate".toList
  | .unknown => none

/-- A spelling is read as the token that it is the spelling of. -/
theorem ofText_eq_of_spelling? {token : Token} (spelled : token.spelling? = some text) :
    Token.ofText text = token := by
  cases token with
  | unknown => cases spelled
  | device id | devices payload =>
      cases spelled
      simp [Token.ofText, after?]
  | _ =>
      cases spelled
      rfl

/-- Only the spelling of a token is read as that token. -/
theorem spelling?_ofText (known : Token.ofText text ≠ .unknown) :
    (Token.ofText text).spelling? = some text := by
  rw [Token.ofText] at known ⊢
  split_ifs at known ⊢ with manual replicated maximal replicates
  · rw [manual, Token.spelling?]
  · rw [replicated, Token.spelling?]
  · rw [maximal, Token.spelling?]
  · rw [replicates, Token.spelling?]
  split at known
  · rename_i found
    rw [Token.spelling?, after?_eq_some_iff.mp found]
  · rename_i found
    rw [Token.spelling?, after?_eq_some_iff.mp found]
  · exact absurd rfl known

theorem ofText_eq_iff (token : Token) {spelled : List Char}
    (spelling : token.spelling? = some spelled) : Token.ofText text = token ↔ text = spelled := by
  constructor
  · rintro rfl
    have known : Token.ofText text ≠ .unknown := by
      intro unknown
      rw [unknown] at spelling
      cases spelling
    exact Option.some.inj ((spelling?_ofText known).symm.trans spelling)
  · rintro rfl
    exact ofText_eq_of_spelling? spelling

/-! ## Tokens in order -/

/-- The text after `devices=` of a token that has one. -/
def payload? (text : List Char) : Option (List Char) :=
  match Token.ofText text with
  | .devices payload => some payload
  | _ => none

theorem payload?_eq_some_iff :
    payload? text = some payload ↔ text = "devices=".toList ++ payload := by
  rw [← ofText_eq_iff (.devices payload) rfl, payload?]
  cases Token.ofText text <;> simp

/-- When one token has a text after some beginning, it is the one that writes it. -/
theorem append_mem_iff {texts : List (List Char)} {beginning : List Char}
    {rest? : List Char → Option (List Char)}
    (begins : ∀ {text rest}, rest? text = some rest ↔ text = beginning ++ rest)
    (one_read : texts.filterMap rest? = [payload]) (other : List Char) :
    beginning ++ other ∈ texts ↔ other = payload := by
  rw [← List.mem_singleton, ← one_read, List.mem_filterMap]
  simp only [begins, exists_eq_right]

/-- When one token has a text after `devices=`, it is the one that writes it. -/
theorem devices_mem_iff {texts : List (List Char)} (one_read : texts.filterMap payload? = [payload])
    (other : List Char) : "devices=".toList ++ other ∈ texts ↔ other = payload :=
  append_mem_iff payload?_eq_some_iff one_read other

/-- What reading some tokens has found out.  Before the one `devices=` token nothing but
the shard shape has been touched. -/
inductive Tracks (texts : List (List Char)) : ShardingProgress × Sharding → Prop
  | undivided {progress : ShardingProgress} {shards : List Int64}
      (none_read : texts.filterMap payload? = []) (early : progress ≠ .devices) :
      Tracks texts (progress, { shardShape := shards })
  | divided {payload : List Char} {shards devices : List Int64} {replicates : Bool}
      (one_read : texts.filterMap payload? = [payload]) (spells : Spells payload shards devices) :
      Tracks texts (.devices,
        { shardShape := shards, meshShape := devices, lastTileReplicates := replicates })

variable {texts : List (List Char)} {state next : ShardingProgress × Sharding}

theorem tracks_start : Tracks [] (.start, {}) :=
  .undivided rfl (by decide)

/-- Every token that is read keeps track of what was found out. -/
theorem Tracks.read (tracks : Tracks texts state) (read : readToken state text = .ok next) :
    Tracks (texts ++ [text]) next := by
  have more : (texts ++ [text]).filterMap payload? =
      texts.filterMap payload? ++ (payload? text).toList := by
    rw [List.filterMap_append, List.filterMap_cons]
    cases payload? text <;> rfl
  cases tracks with
  | undivided none_read early =>
      rw [none_read, payload?] at more
      cases token : Token.ofText text
      all_goals simp only [readToken, token] at read more
      case manual | replicated | maximal =>
        split at read
        · cases read
          exact .undivided more (by decide)
        · cases read
      case device id =>
        split at read
        · obtain ⟨device, -, rfl⟩ := map_eq_ok_iff.mp read
          exact .undivided more (by decide)
        · cases read
      case devices payload =>
        split at read
        · obtain ⟨sharding, succeeds, rfl⟩ := map_eq_ok_iff.mp read
          obtain ⟨shards, devices, spells, rfl⟩ := readDevices_eq_ok_iff.mp succeeds
          exact .divided more spells
        · cases read
      case lastTileReplicates =>
        rw [if_neg early] at read
        cases read
      case unknown =>
        cases read
        exact .undivided more early
  | divided one_read spells =>
      rw [one_read, payload?] at more
      -- After `devices=` only the replica mark and unknown tokens are legal.
      cases token : Token.ofText text
      all_goals simp only [readToken, token, reduceCtorEq, or_self, if_false] at read more
      case lastTileReplicates | unknown =>
        cases read
        exact .divided more spells

theorem Tracks.readAll {later : List (List Char)} (tracks : Tracks texts state)
    (read : later.foldlM readToken state = .ok next) : Tracks (texts ++ later) next :=
  holds_of_foldlM Tracks.read tracks read

/-! ## Annotations -/

/-- An annotation has a `devices=` token, and what follows the equals sign there spells a
shard shape and a mesh. -/
def Declares (input : String) (shards devices : List Int64) : Prop :=
  ∃ body payload, input.toList = '{' :: (body ++ ['}']) ∧
    "devices=".toList ++ payload ∈ pieces ' ' body ∧ Spells payload shards devices

variable {input : String} {result sharding : Sharding}

/-- An annotation is read token by token between its braces, and settled at the end. -/
theorem parse_eq_ok_iff :
    parse input = .ok result ↔ ∃ body progress read kind,
      input.toList = '{' :: (body ++ ['}']) ∧
      (pieces ' ' body).foldlM readToken (.start, {}) = .ok (progress, read) ∧
      kindAfter progress = .ok kind ∧ settle { read with kind } = .ok result := by
  rw [parse]
  constructor
  · intro parses
    split at parses
    · rename_i body found
      obtain ⟨⟨progress, read⟩, reads, parses⟩ := bind_eq_ok_iff.mp parses
      obtain ⟨kind, ends, settles⟩ := bind_eq_ok_iff.mp parses
      exact ⟨body, progress, read, kind, enclosed?_eq_some_iff.mp found, reads, ends, settles⟩
    · cases parses
  · rintro ⟨body, progress, read, kind, braces, reads, ends, settles⟩
    rw [enclosed?_eq_some_iff.mpr braces]
    exact bind_eq_ok_iff.mpr ⟨_, reads, bind_eq_ok_iff.mpr ⟨kind, ends, settles⟩⟩

theorem devices_of_kindAfter {progress : ShardingProgress}
    (ends : kindAfter progress = .ok .devices) : progress = .devices := by
  cases progress <;> cases ends
  rfl

/-- A device sharding is settled by completing it. -/
theorem complete_of_settle (settles : sharding.settle = .ok result)
    (splits : result.kind = .devices) :
    sharding.kind = .devices ∧ sharding.complete = (result, .ok ()) := by
  rw [settle] at settles
  split at settles
  · rename_i devices
    split at settles
    · rename_i completes
      cases settles
      exact ⟨eq_of_beq devices, completes⟩
    · cases settles
  · rename_i none
    cases settles
    exact absurd (beq_iff_eq.mpr splits) none

/-- An annotation that is read as a device sharding declares one shard shape and one mesh,
and the sharding is completed from them. -/
theorem exists_complete_of_parse (parses : parse input = .ok result)
    (splits : result.kind = .devices) :
    ∃ read : Sharding, read.complete = (result, .ok ()) ∧
      read.shardShape.length ≤ input.length ∧
      ∀ shards devices, Declares input shards devices ↔
        shards = read.shardShape ∧ devices = read.meshShape := by
  obtain ⟨body, progress, sharding, kind, braces, read, ends, settles⟩ := parse_eq_ok_iff.mp parses
  obtain ⟨rfl, completes⟩ := complete_of_settle settles splits
  obtain rfl := devices_of_kindAfter ends
  cases tracks_start.readAll read with
  | undivided _ early => exact absurd rfl early
  | @divided payload shards devices replicates one_read spells =>
      have only := devices_mem_iff one_read
      refine ⟨_, completes, ?_, ?_⟩
      · have token := sublist_of_mem_pieces ((only payload).mpr rfl)
        have longer := token.length_le
        have shorter := spells.length_le
        rw [List.length_append] at longer
        rw [← String.length_toList, braces, List.length_cons, List.length_append]
        change shards.length ≤ _
        omega
      · intro otherShards otherDevices
        constructor
        · rintro ⟨otherBody, otherPayload, enclosed, among, otherSpells⟩
          rw [enclosed, List.cons.injEq, List.append_cancel_right_eq] at braces
          obtain ⟨-, rfl⟩ := braces
          obtain rfl := (only otherPayload).mp among
          exact spells.unique otherSpells
        · rintro ⟨rfl, rfl⟩
          exact ⟨body, payload, braces, (only payload).mpr rfl, spells⟩

end Tilework.Sharding
