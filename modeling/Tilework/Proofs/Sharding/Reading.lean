import Tilework.Proofs.Sharding.Annotation
import Tilework.Proofs.Sharding.Completion
import Tilework.Proofs.Sharding.Grammar

/-!
# Annotations read token by token

Reading keeps no more of the tokens behind it than the language needs: a token is legal, or
it is not, by the kind of the token before it.  So the language alone decides whether an
annotation is read to its end, which token is reported when it is not, and which kind of
sharding it describes.  Unknown tokens play no part.
-/

namespace Tilework.Sharding

/-! ## Annotations as rows of tokens -/

/-- The error of an outcome, if it has failed. -/
def failure? {ε α : Type} : Except ε α → Option ε
  | .ok _ => none
  | .error error => some error

theorem failure?_eq_some_iff {ε α : Type} {outcome : Except ε α} {error : ε} :
    failure? outcome = some error ↔ outcome = .error error := by
  cases outcome <;> simp [failure?]

/-- The annotation that is made of some tokens. -/
def annotationOf (tokens : List String) : String :=
  "\x7b" ++ " ".intercalate tokens ++ "\x7d"

/-- The kind of the token that a text spells, unless it is unknown. -/
def tokenKind? (token : String) : Option TokenKind :=
  (Token.ofText token.toList).kind?

/-- The texts that tokens of a kind are written as. -/
def TokenKind.IsSpelledBy (text : String) : TokenKind → Prop
  | .manual => text = "manual"
  | .replicated => text = "replicated"
  | .maximal => text = "maximal"
  | .device => ∃ id, text = "device=" ++ id
  | .devices => ∃ payload, text = "devices=" ++ payload
  | .lastTileReplicates => text = "last_tile_dim_replicate"

/-- The tokens that are not unknown. -/
def knownTokens (tokens : List String) : List String :=
  tokens.filter fun token => (tokenKind? token).isSome

/-- The kinds of the known tokens. -/
def word (tokens : List String) : List TokenKind :=
  tokens.filterMap tokenKind?

theorem word_append (tokens others : List String) :
    word (tokens ++ others) = word tokens ++ word others :=
  List.filterMap_append

/-- What is wrong with the text after the equals sign of a token, if anything is. -/
def fault? (token : String) : Option ShardingError :=
  match Token.ofText token.toList with
  | .device id => failure? (readInteger id)
  | .devices payload => failure? (readDevices payload {})
  | _ => none

/-- What follows the equals signs of some tokens can be read. -/
def IsReadable (tokens : List String) : Prop :=
  ∀ token ∈ tokens, fault? token = none

/-- What the tokens of an annotation say, before the sharding is settled. -/
def readUnsettled (tokens : List String) : Except ShardingError Sharding := do
  let (progress, sharding) ←
    tokens.foldlM (fun state token => readToken state token.toList) (.start, {})
  let kind ← kindAfter progress
  pure { sharding with kind }

/-! ## One token -/

/-- The texts of a kind are the spellings of its tokens. -/
theorem isSpelledBy_iff {text : String} {kind : TokenKind} :
    kind.IsSpelledBy text ↔
      ∃ token : Token, token.kind? = some kind ∧ token.spelling? = some text.toList := by
  constructor
  · intro spelled
    cases kind with
    | device =>
        obtain ⟨id, rfl⟩ := spelled
        exact ⟨.device id.toList, rfl, congrArg some String.toList_append.symm⟩
    | devices =>
        obtain ⟨payload, rfl⟩ := spelled
        exact ⟨.devices payload.toList, rfl, congrArg some String.toList_append.symm⟩
    | manual => exact ⟨.manual, rfl, by rw [spelled, Token.spelling?]⟩
    | replicated => exact ⟨.replicated, rfl, by rw [spelled, Token.spelling?]⟩
    | maximal => exact ⟨.maximal, rfl, by rw [spelled, Token.spelling?]⟩
    | lastTileReplicates => exact ⟨.lastTileReplicates, rfl, by rw [spelled, Token.spelling?]⟩
  · rintro ⟨token, known, spelled⟩
    have begins {beginning : String} {rest : List Char}
        (same : beginning.toList ++ rest = text.toList) : ∃ rest, text = beginning ++ rest := by
      refine ⟨String.ofList rest, String.toList_inj.mp ?_⟩
      rw [String.toList_append, String.toList_ofList, same]
    cases token with
    | unknown => cases known
    | device id | devices payload =>
        cases known
        exact begins (Option.some.inj spelled)
    | _ =>
        cases known
        exact String.toList_inj.mp (Option.some.inj spelled).symm

/-- A token has the kind whose texts it is one of. -/
theorem tokenKind?_eq_some_iff {token : String} {kind : TokenKind} :
    tokenKind? token = some kind ↔ kind.IsSpelledBy token := by
  rw [isSpelledBy_iff]
  constructor
  · intro known
    refine ⟨Token.ofText token.toList, known, spelling?_ofText ?_⟩
    intro unknown
    rw [tokenKind?, unknown] at known
    cases known
  · rintro ⟨read, known, spelled⟩
    rw [tokenKind?, ofText_eq_of_spelling? spelled, known]

/-- What a token adds to the sharding, where it is legal. -/
def Token.apply (sharding : Sharding) : Token → Except ShardingError Sharding
  | .manual | .replicated | .maximal =>
      .ok { sharding with shardShape := sharding.shardShape ++ [1] }
  | .device id =>
      (readInteger id).map fun device =>
        { sharding with shardShape := sharding.shardShape ++ [device] }
  | .devices payload => readDevices payload sharding
  | .lastTileReplicates => .ok { sharding with lastTileReplicates := true }
  | .unknown => .ok sharding

variable {tokens : List String} {token : String} {progress next : ShardingProgress}
  {sharding after result : Sharding} {error : ShardingError} {kind : TokenKind}

theorem readToken_of_unknown (unknown : tokenKind? token = none) :
    readToken (progress, sharding) token.toList = .ok (progress, sharding) := by
  rw [tokenKind?] at unknown
  rw [readToken]
  cases spelled : Token.ofText token.toList <;> simp_all [Token.kind?]

/-- A known token is read when it is legal, and takes the progress to its own kind. -/
theorem readToken_of_known (known : tokenKind? token = some kind) :
    readToken (progress, sharding) token.toList =
      if kind.IsLegal progress then
        ((Token.ofText token.toList).apply sharding).map (kind.progress, ·)
      else .error (.unexpectedToken token progress) := by
  rw [tokenKind?] at known
  rw [readToken]
  cases spelled : Token.ofText token.toList
  case unknown =>
    rw [spelled] at known
    cases known
  case device id =>
    rw [spelled] at known
    cases known
    simp only [TokenKind.IsLegal, Token.apply, TokenKind.progress, String.ofList_toList]
    cases readInteger id <;> rfl
  all_goals
    rw [spelled] at known
    cases known
    simp only [TokenKind.IsLegal, Token.apply, TokenKind.progress, String.ofList_toList]
    rfl

/-- Whether the text of a `devices=` token can be read does not depend on what was read
before it. -/
theorem readDevices_eq_error_iff {payload : List Char} :
    readDevices payload sharding = .error error ↔ readDevices payload {} = .error error := by
  simp only [readDevices, bind_eq_error_iff]
  simp [pure, Except.pure]

theorem apply_eq_error_iff :
    (Token.ofText token.toList).apply sharding = .error error ↔ fault? token = some error := by
  rw [fault?]
  cases Token.ofText token.toList with
  | device id =>
      rw [failure?_eq_some_iff]
      exact map_eq_error_iff
  | devices payload =>
      rw [failure?_eq_some_iff]
      exact readDevices_eq_error_iff
  | _ => simp [Token.apply]

theorem exists_apply_eq_ok_iff :
    (∃ after, (Token.ofText token.toList).apply sharding = .ok after) ↔ fault? token = none := by
  cases outcome : (Token.ofText token.toList).apply sharding with
  | error error => simp [apply_eq_error_iff.mp outcome]
  | ok after =>
      have readable : fault? token = none := by
        rw [Option.eq_none_iff_forall_ne_some]
        intro error faulty
        have fails : (Token.ofText token.toList).apply sharding = .error error :=
          apply_eq_error_iff.mpr faulty
        rw [outcome] at fails
        cases fails
      simp [readable]

/-- What is wrong with a token is wrong with the text after its equals sign. -/
theorem fault?_eq_some_iff :
    fault? token = some error ↔
      (∃ id, token.toList = "device=".toList ++ id ∧ readInteger id = .error error) ∨
        ∃ payload, token.toList = "devices=".toList ++ payload ∧
          readDevices payload {} = .error error := by
  simp only [← ofText_eq_iff (.device _) rfl, ← ofText_eq_iff (.devices _) rfl]
  rw [fault?]
  cases Token.ofText token.toList <;> simp [failure?_eq_some_iff]

theorem fault?_of_unknown (unknown : tokenKind? token = none) : fault? token = none := by
  rw [tokenKind?] at unknown
  rw [fault?]
  cases spelled : Token.ofText token.toList
  case device | devices =>
    rw [spelled] at unknown
    cases unknown
  all_goals rfl

/-- A token stops the reading when it is known, and is not legal or cannot be read. -/
theorem readToken_eq_error_iff :
    readToken (progress, sharding) token.toList = .error error ↔
      ∃ kind, tokenKind? token = some kind ∧
        (¬ kind.IsLegal progress ∧ error = .unexpectedToken token progress ∨
          kind.IsLegal progress ∧ fault? token = some error) := by
  cases known : tokenKind? token with
  | none => simp [readToken_of_unknown known]
  | some kind =>
      rw [readToken_of_known known]
      by_cases legal : kind.IsLegal progress
      · simp [legal, map_eq_error_iff, apply_eq_error_iff]
      · simp [legal, eq_comm]

/-- A token that does not stop the reading takes the progress to its own kind. -/
theorem exists_readToken_eq_ok_iff :
    (∃ after, readToken (progress, sharding) token.toList = .ok (next, after)) ↔
      IsLegalFrom progress (word [token]) ∧ fault? token = none ∧
        next = progressAfter progress (word [token]) := by
  cases known : tokenKind? token with
  | none =>
      simp [readToken_of_unknown known, word, known, fault?_of_unknown known, IsLegalFrom, eq_comm]
  | some kind =>
      have read : (∃ after, (Token.ofText token.toList).apply sharding = .ok after) ↔
          fault? token = none := exists_apply_eq_ok_iff
      rw [readToken_of_known known, ← read]
      by_cases legal : kind.IsLegal progress
      · simp only [legal, if_true, map_eq_ok_iff, word, known, List.filterMap_cons,
          List.filterMap_nil, IsLegalFrom, progressAfter_cons, progressAfter_nil, true_and,
          Prod.mk.injEq]
        constructor
        · rintro ⟨after, state, applied, rfl, rfl⟩
          exact ⟨⟨state, applied⟩, rfl⟩
        · rintro ⟨⟨state, applied⟩, rfl⟩
          exact ⟨state, state, applied, rfl, rfl⟩
      · simp [legal, word, known, IsLegalFrom]

/-! ## Many tokens -/

/-- Reading goes on for as long as every token is legal and can be read. -/
theorem exists_foldlM_eq_ok_iff :
    (∃ after, tokens.foldlM (fun state token => readToken state token.toList)
        (progress, sharding) = .ok (next, after)) ↔
      IsLegalFrom progress (word tokens) ∧ IsReadable tokens ∧
        next = progressAfter progress (word tokens) := by
  induction tokens generalizing progress sharding with
  | nil => simp [word, IsLegalFrom, IsReadable, pure, Except.pure, eq_comm]
  | cons token tokens ih =>
      have joined : word (token :: tokens) = word [token] ++ word tokens :=
        word_append [token] tokens
      have readable : IsReadable (token :: tokens) ↔ fault? token = none ∧ IsReadable tokens :=
        List.forall_mem_cons
      have last : progressAfter progress (word [token] ++ word tokens) =
          progressAfter (progressAfter progress (word [token])) (word tokens) :=
        progressAfter_append progress (word [token]) (word tokens)
      rw [List.foldlM_cons, joined, isLegalFrom_append_iff, readable, last]
      constructor
      · rintro ⟨after, runs⟩
        obtain ⟨⟨middle, state⟩, first, runs⟩ := bind_eq_ok_iff.mp runs
        obtain ⟨legal, read, rfl⟩ := exists_readToken_eq_ok_iff.mp ⟨state, first⟩
        obtain ⟨legalLater, readLater, same⟩ := ih.mp ⟨after, runs⟩
        exact ⟨⟨legal, legalLater⟩, ⟨read, readLater⟩, same⟩
      · rintro ⟨⟨legal, legalLater⟩, ⟨read, readLater⟩, same⟩
        obtain ⟨state, first⟩ := exists_readToken_eq_ok_iff.mpr ⟨legal, read, rfl⟩
        obtain ⟨after, runs⟩ := ih.mpr ⟨legalLater, readLater, same⟩
        exact ⟨after, bind_eq_ok_iff.mpr ⟨_, first, runs⟩⟩

/-- Reading stops at the first token that is known, and is not legal or cannot be read. -/
theorem foldlM_eq_stop_iff :
    tokens.foldlM (fun state token => readToken state token.toList) (.start, {}) = .error error ↔
      ∃ before token after kind, tokens = before ++ token :: after ∧
        IsLegalFrom .start (word before) ∧ IsReadable before ∧ tokenKind? token = some kind ∧
        (¬ kind.IsLegal (progressAfter .start (word before)) ∧
            error = .unexpectedToken token (progressAfter .start (word before)) ∨
          kind.IsLegal (progressAfter .start (word before)) ∧ fault? token = some error) := by
  rw [foldlM_eq_error_iff]
  constructor
  · rintro ⟨before, token, after, ⟨progress, state⟩, split, runs, stops⟩
    obtain ⟨legal, read, rfl⟩ := exists_foldlM_eq_ok_iff.mp ⟨state, runs⟩
    obtain ⟨kind, known, stops⟩ := readToken_eq_error_iff.mp stops
    exact ⟨before, token, after, kind, split, legal, read, known, stops⟩
  · rintro ⟨before, token, after, kind, split, legal, read, known, stops⟩
    obtain ⟨state, runs⟩ := exists_foldlM_eq_ok_iff.mpr ⟨legal, read, rfl⟩
    exact ⟨before, token, after, _, split, runs, readToken_eq_error_iff.mpr ⟨kind, known, stops⟩⟩

/-! ## Whole annotations -/

/-- Unknown tokens can be left out. -/
theorem readUnsettled_knownTokens (tokens : List String) :
    readUnsettled (knownTokens tokens) = readUnsettled tokens := by
  have overlooks : (fun (state : ShardingProgress × Sharding) (token : String) =>
        if (tokenKind? token).isSome then readToken state token.toList else pure state) =
      fun state token => readToken state token.toList := by
    funext state token
    cases known : tokenKind? token with
    | none => exact (readToken_of_unknown known).symm
    | some kind => rfl
  rw [readUnsettled, readUnsettled, knownTokens, List.foldlM_filter, overlooks]

theorem readTokens_eq (tokens : List String) :
    readTokens (tokens.map String.toList) = readUnsettled tokens >>= settle := by
  simp only [readTokens, readUnsettled, List.foldlM_map, bind_assoc, pure_bind]

/-- An annotation is cut into the tokens that it is made of. -/
theorem parse_annotationOf (clean : ∀ token ∈ tokens, ' ' ∉ token.toList) :
    parse (annotationOf tokens) = readUnsettled tokens >>= settle := by
  have enclosed : enclosed? '\x7b' '\x7d' (annotationOf tokens).toList =
      some ([' '].intercalate (tokens.map String.toList)) := by
    rw [enclosed?_eq_some_iff, annotationOf]
    simp
  rw [parse, enclosed]
  cases tokens with
  | nil => rfl
  | cons token tokens =>
      have cut : pieces ' ' ([' '].intercalate ((token :: tokens).map String.toList)) =
          (token :: tokens).map String.toList :=
        pieces_intercalate (List.cons_ne_nil _ _) (List.forall_mem_map.mpr clean)
      simp only [cut, readTokens_eq]

/-! ## Errors by what they concern -/

/-- An error that does not concern the order of tokens. -/
def IsAboutContent : ShardingError → Prop
  | .unexpectedToken _ _ | .missingMaximalDevice => False
  | _ => True

theorem rejects_readInteger (text : List Char) : Rejects IsAboutContent (readInteger text) := by
  rw [readInteger]
  split
  · exact rejects_ok _
  · exact rejects_error trivial

theorem rejects_readDimensions (text : List Char) :
    Rejects IsAboutContent (readDimensions text) := by
  rw [readDimensions]
  split
  · exact rejects_mapM rejects_readInteger
  · exact rejects_error trivial

theorem rejects_readDevices (payload : List Char) (sharding : Sharding) :
    Rejects IsAboutContent (readDevices payload sharding) :=
  rejects_bind (rejects_readDimensions _) fun _ =>
    rejects_bind (rejects_readDimensions _) fun _ => rejects_ok _

theorem isAboutContent_of_fault? (faulty : fault? token = some error) : IsAboutContent error := by
  rw [fault?] at faulty
  split at faulty
  · exact rejects_readInteger _ _ (failure?_eq_some_iff.mp faulty)
  · exact rejects_readDevices _ _ _ (failure?_eq_some_iff.mp faulty)
  · cases faulty

theorem rejects_assign (direction : Direction) (sharding : Sharding) :
    Rejects IsAboutContent (sharding.assign direction) := by
  have from_axis (axis taken : Nat) (dims sizes : List Int64) :
      Rejects IsAboutContent (assignFrom sharding direction axis taken dims sizes) := by
    induction sizes generalizing axis taken dims with
    | nil => exact rejects_ok _
    | cons size sizes ih =>
        rw [assignFrom]
        split
        · exact ih _ _ _
        · dsimp only
          split
          · exact rejects_error trivial
          · split
            · exact ih _ _ _
            · exact rejects_error trivial
  exact from_axis _ _ _ _

theorem rejects_assignEither (written : Bool) (sharding : Sharding) :
    Rejects IsAboutContent (sharding.assignEither written) := by
  rw [assignEither]
  split
  · split
    · exact rejects_ok _
    · rename_i first fails
      have about := rejects_assign _ _ _ fails
      split
      · exact rejects_error about
      · split
        · exact rejects_ok _
        · exact rejects_error about
  · exact rejects_assign _ _

theorem rejects_complete (sharding : Sharding) : Rejects IsAboutContent sharding.complete.2 := by
  rw [complete_eq]
  split
  · exact rejects_error trivial
  · split
    · split
      · exact rejects_ok _
      · rename_i fails
        exact rejects_error (rejects_assignEither _ _ _ fails)
    · exact rejects_error trivial

theorem rejects_settle (sharding : Sharding) : Rejects IsAboutContent sharding.settle := by
  rw [settle]
  split
  · split
    · exact rejects_ok _
    · rename_i fails
      have about := rejects_complete sharding
      rw [fails] at about
      exact rejects_error (about _ rfl)
  · exact rejects_ok _

/-! ## The language decides -/

/-- The tokens say what kind of sharding is described when they can be read and make up a
sentence of that kind. -/
theorem exists_readUnsettled_eq_ok_iff {kind : ShardKind} :
    (∃ read, readUnsettled tokens = .ok read ∧ read.kind = kind) ↔
      IsReadable tokens ∧ word tokens ∈ sentences kind := by
  rw [mem_sentences_iff]
  constructor
  · rintro ⟨read, reads, rfl⟩
    obtain ⟨⟨progress, state⟩, runs, reads⟩ := bind_eq_ok_iff.mp reads
    obtain ⟨kind, ends, reads⟩ := bind_eq_ok_iff.mp reads
    cases reads
    obtain ⟨legal, readable, rfl⟩ := exists_foldlM_eq_ok_iff.mp ⟨state, runs⟩
    exact ⟨readable, legal, ends⟩
  · rintro ⟨readable, legal, ends⟩
    obtain ⟨state, runs⟩ := exists_foldlM_eq_ok_iff.mpr ⟨legal, readable, rfl⟩
    exact ⟨{ state with kind },
      bind_eq_ok_iff.mpr ⟨_, runs, bind_eq_ok_iff.mpr ⟨kind, ends, rfl⟩⟩, rfl⟩

theorem kindAfter_eq_error_iff :
    kindAfter progress = .error error ↔
      progress = .awaitingDevice ∧ error = .missingMaximalDevice := by
  cases progress <;> simp [kindAfter, eq_comm]

/-- Reading fails at the first token that stops it, or for want of a device at the end. -/
theorem readUnsettled_eq_error_iff :
    readUnsettled tokens = .error error ↔
      tokens.foldlM (fun state token => readToken state token.toList) (.start, {}) =
          .error error ∨
        (IsLegalFrom .start (word tokens) ∧ IsReadable tokens ∧
          (word tokens).getLast? = some .maximal ∧ error = .missingMaximalDevice) := by
  rw [readUnsettled, bind_eq_error_iff]
  apply or_congr_right
  rw [← progressAfter_start_eq_awaitingDevice_iff]
  constructor
  · rintro ⟨⟨progress, state⟩, runs, fails⟩
    obtain ⟨legal, readable, rfl⟩ := exists_foldlM_eq_ok_iff.mp ⟨state, runs⟩
    rcases bind_eq_error_iff.mp fails with ends | ⟨kind, _, fails⟩
    · obtain ⟨awaits, rfl⟩ := kindAfter_eq_error_iff.mp ends
      exact ⟨legal, readable, awaits, rfl⟩
    · cases fails
  · rintro ⟨legal, readable, awaits, rfl⟩
    obtain ⟨state, runs⟩ := exists_foldlM_eq_ok_iff.mpr ⟨legal, readable, rfl⟩
    exact ⟨_, runs, bind_eq_error_iff.mpr (Or.inl (kindAfter_eq_error_iff.mpr ⟨awaits, rfl⟩))⟩

theorem kind_of_settle (settles : sharding.settle = .ok result) : result.kind = sharding.kind := by
  rw [settle] at settles
  split at settles
  · split at settles
    · rename_i completes
      cases settles
      obtain ⟨total, dims, -, -, -, rfl⟩ := complete_eq_ok_iff.mp completes
      rfl
    · cases settles
  · cases settles
    rfl

/-- An error about the order of tokens comes from the tokens, not from settling. -/
theorem bind_settle_eq_error_iff (order : ¬ IsAboutContent error) :
    readUnsettled tokens >>= settle = .error error ↔ readUnsettled tokens = .error error := by
  rw [bind_eq_error_iff]
  constructor
  · rintro (fails | ⟨read, -, fails⟩)
    · exact fails
    · exact absurd (rejects_settle read error fails) order
  · exact Or.inl

theorem isExtensible_append_iff (known : tokenKind? token = some kind)
    (legal : IsLegalFrom .start (word tokens)) :
    IsExtensible (word (tokens ++ [token])) ↔
      kind.IsLegal (progressAfter .start (word tokens)) := by
  have last : word [token] = [kind] := by simp [word, known]
  rw [isExtensible_iff, word_append, isLegalFrom_append_iff, last]
  simp [IsLegalFrom, legal]

theorem exists_tokenKind?_of_split {before after : List String}
    (split : knownTokens tokens = before ++ token :: after) :
    ∃ kind, tokenKind? token = some kind := by
  have member : token ∈ knownTokens tokens := by simp [split]
  exact Option.isSome_iff_exists.mp (List.mem_filter.mp member).2

/-- Before a device that is awaited there is nothing that could not be read. -/
theorem isReadable_of_awaits (legal : IsLegalFrom .start (word tokens))
    (awaits : (word tokens).getLast? = some .maximal) : IsReadable tokens := by
  intro token member
  rw [← progressAfter_start_eq_awaitingDevice_iff] at awaits
  cases known : tokenKind? token with
  | none => exact fault?_of_unknown known
  | some kind =>
      have among : kind ∈ word tokens := List.mem_filterMap.mpr ⟨token, member, known⟩
      rw [tokenKind?] at known
      rw [fault?]
      rcases eq_manual_or_eq_maximal_of_awaits legal awaits kind among with rfl | rfl <;>
        cases spelled : Token.ofText token.toList <;> simp_all [Token.kind?]

/-- The token that is unexpected is the first with which no sentence begins. -/
theorem readUnsettled_eq_unexpected_iff :
    readUnsettled tokens = .error (.unexpectedToken token progress) ↔
      ∃ before after kind, tokens = before ++ token :: after ∧ tokenKind? token = some kind ∧
        IsReadable before ∧ IsExtensible (word before) ∧
        ¬ IsExtensible (word (before ++ [token])) ∧
        progress = progressAfter .start (word before) := by
  rw [readUnsettled_eq_error_iff, foldlM_eq_stop_iff]
  constructor
  · rintro (⟨before, other, after, kind, split, legal, readable, known, stops⟩ | ⟨_, _, _, same⟩)
    · rcases stops with ⟨illegal, same⟩ | ⟨_, faulty⟩
      · cases same
        exact ⟨before, after, kind, split, known, readable, isExtensible_iff.mpr legal,
          mt (isExtensible_append_iff known legal).mp illegal, rfl⟩
      · exact (isAboutContent_of_fault? faulty).elim
    · cases same
  · rintro ⟨before, after, kind, split, known, readable, extensible, ends, rfl⟩
    have legal := isExtensible_iff.mp extensible
    exact Or.inl ⟨before, token, after, kind, split, legal, readable, known,
      Or.inl ⟨mt (isExtensible_append_iff known legal).mpr ends, rfl⟩⟩

/-- A device is missing when the tokens end with `maximal`. -/
theorem readUnsettled_eq_missing_iff :
    readUnsettled tokens = .error .missingMaximalDevice ↔
      IsExtensible (word tokens) ∧ (word tokens).getLast? = some .maximal := by
  rw [readUnsettled_eq_error_iff, foldlM_eq_stop_iff]
  constructor
  · rintro (⟨before, other, after, kind, -, -, -, -, stops⟩ | ⟨legal, readable, awaits, -⟩)
    · rcases stops with ⟨_, same⟩ | ⟨_, faulty⟩
      · cases same
      · exact (isAboutContent_of_fault? faulty).elim
    · exact ⟨isExtensible_iff.mpr legal, awaits⟩
  · rintro ⟨extensible, awaits⟩
    have legal := isExtensible_iff.mp extensible
    exact Or.inr ⟨legal, isReadable_of_awaits legal awaits, awaits, rfl⟩

/-- A token that cannot be read is reported, if it could be part of a sentence. -/
theorem readUnsettled_eq_fault {before after : List String}
    (split : tokens = before ++ token :: after) (known : tokenKind? token = some kind)
    (readable : IsReadable before) (extensible : IsExtensible (word (before ++ [token])))
    (faulty : fault? token = some error) : readUnsettled tokens = .error error := by
  have legal := isExtensible_iff.mp extensible
  rw [word_append, isLegalFrom_append_iff] at legal
  rw [readUnsettled_eq_error_iff, foldlM_eq_stop_iff]
  exact Or.inl ⟨before, token, after, kind, split, legal.1, readable, known,
    Or.inr ⟨(isExtensible_append_iff known legal.1).mp extensible, faulty⟩⟩

/-- How an annotation that is made of some tokens is read, as the language of annotations
has it. -/
structure FollowsGrammar (tokens : List String) : Prop where
  /-- A token is known by its text, which is one that tokens of its kind are written as. -/
  spelled : ∀ token ∈ tokens, ∀ kind, tokenKind? token = some kind ↔ kind.IsSpelledBy token
  /-- The empty token between two blanks is unknown. -/
  empty : "" ∉ knownTokens tokens
  /-- Only the text after `device=` or `devices=` can be faulty. -/
  faulty : ∀ token ∈ tokens, ∀ error, fault? token = some error ↔
    (∃ id, token.toList = "device=".toList ++ id ∧ readInteger id = .error error) ∨
      ∃ payload, token.toList = "devices=".toList ++ payload ∧
        readDevices payload {} = .error error
  /-- Unknown tokens can be left out. -/
  skips : parse (annotationOf tokens) = parse (annotationOf (knownTokens tokens))
  /-- The token reported as unexpected is the first with which no sentence begins, and the
  progress reported is the one after the tokens before it, all of which can be read. -/
  unexpected : ∀ token progress,
    parse (annotationOf tokens) = .error (.unexpectedToken token progress) ↔
      ∃ before after, knownTokens tokens = before ++ token :: after ∧ IsReadable before ∧
        IsExtensible (word before) ∧ ¬ IsExtensible (word (before ++ [token])) ∧
        progress = progressAfter .start (word before)
  /-- A device is missing when a sentence goes on after `maximal` and the annotation does
  not. -/
  missing : parse (annotationOf tokens) = .error .missingMaximalDevice ↔
    (∃ rest ≠ [], word (knownTokens tokens) ++ rest ∈ grammar) ∧
      (word (knownTokens tokens)).getLast? = some .maximal
  /-- The first token that cannot be read is reported, unless an unexpected one comes first. -/
  unreadable : ∀ before token after error, knownTokens tokens = before ++ token :: after →
    IsReadable before → IsExtensible (word (before ++ [token])) → fault? token = some error →
      parse (annotationOf tokens) = .error error
  /-- In all other cases the tokens are read to their end and make up a sentence. -/
  succeeds : IsReadable (knownTokens tokens) → IsExtensible (word (knownTokens tokens)) →
    (word (knownTokens tokens)).getLast? ≠ some .maximal →
      ∃ kind read, word (knownTokens tokens) ∈ sentences kind ∧
        readUnsettled tokens = .ok read ∧ read.kind = kind
  /-- The sharding described has the kind that the sentence has. -/
  kind : ∀ kind, (∃ read, readUnsettled tokens = .ok read ∧ read.kind = kind) ↔
    IsReadable (knownTokens tokens) ∧ word (knownTokens tokens) ∈ sentences kind
  /-- What the tokens say is settled at the end, without a change of kind. -/
  settles : parse (annotationOf tokens) = readUnsettled tokens >>= settle ∧
    ∀ read result, readUnsettled tokens = .ok read → settle read = .ok result →
      result.kind = read.kind

/-- Whatever the tokens of an annotation are, it is read as the language has it. -/
theorem followsGrammar_of_clean (tokens : List String)
    (clean : ∀ token ∈ tokens, ' ' ∉ token.toList) : FollowsGrammar tokens := by
  have cleanKnown : ∀ token ∈ knownTokens tokens, ' ' ∉ token.toList := fun token member =>
    clean token (List.mem_filter.mp member).1
  have parses := parse_annotationOf clean
  have parsesKnown := parse_annotationOf cleanKnown
  have skips : parse (annotationOf tokens) = parse (annotationOf (knownTokens tokens)) := by
    rw [parses, parsesKnown, readUnsettled_knownTokens]
  constructor
  case spelled => exact fun token _ kind => tokenKind?_eq_some_iff
  case empty => exact fun member => Bool.false_ne_true (List.mem_filter.mp member).2
  case faulty => exact fun token _ error => fault?_eq_some_iff
  case skips => exact skips
  case unexpected =>
    intro token progress
    have order : ¬ IsAboutContent (.unexpectedToken token progress) := not_false
    rw [skips, parsesKnown, bind_settle_eq_error_iff order, readUnsettled_eq_unexpected_iff]
    constructor
    · rintro ⟨before, after, kind, split, -, stops⟩
      exact ⟨before, after, split, stops⟩
    · rintro ⟨before, after, split, stops⟩
      obtain ⟨kind, known⟩ := exists_tokenKind?_of_split split
      exact ⟨before, after, kind, split, known, stops⟩
  case missing =>
    have order : ¬ IsAboutContent .missingMaximalDevice := not_false
    rw [skips, parsesKnown, bind_settle_eq_error_iff order, readUnsettled_eq_missing_iff]
    constructor
    · rintro ⟨extensible, awaits⟩
      have legal := isExtensible_iff.mp extensible
      exact ⟨⟨_, List.cons_ne_nil _ _, append_device_mem_grammar legal awaits⟩, awaits⟩
    · rintro ⟨⟨rest, -, sentence⟩, awaits⟩
      exact ⟨⟨rest, sentence⟩, awaits⟩
  case unreadable =>
    intro before token after error split readable extensible faulty
    obtain ⟨kind, known⟩ := exists_tokenKind?_of_split split
    rw [skips, parsesKnown, readUnsettled_eq_fault split known readable extensible faulty]
    rfl
  case succeeds =>
    intro readable extensible ended
    have legal := isExtensible_iff.mp extensible
    obtain ⟨kind, sentence⟩ := mem_grammar_iff.mp (mem_grammar_of_isLegalFrom legal ended)
    obtain ⟨read, reads, same⟩ := exists_readUnsettled_eq_ok_iff.mpr ⟨readable, sentence⟩
    rw [readUnsettled_knownTokens] at reads
    exact ⟨kind, read, sentence, reads, same⟩
  case kind =>
    intro kind
    rw [← readUnsettled_knownTokens]
    exact exists_readUnsettled_eq_ok_iff
  case settles =>
    exact ⟨parses, fun read result _ settles => kind_of_settle settles⟩

theorem followsGrammar_lateReplicated_and_devices :
    ((∀ token ∈ ["manual", "", "maximal", "owner=x", "device=3", "replicated"],
        ' ' ∉ token.toList) ∧
      FollowsGrammar ["manual", "", "maximal", "owner=x", "device=3", "replicated"] ∧
      parse "\x7bmanual  maximal owner=x device=3 replicated\x7d" =
        .error (.unexpectedToken "replicated" .maximal)) ∧
    (∀ token ∈ ["manual", "devices=[2,1,2]<=[2,2]", "last_tile_dim_replicate"],
        ' ' ∉ token.toList) ∧
      FollowsGrammar ["manual", "devices=[2,1,2]<=[2,2]", "last_tile_dim_replicate"] ∧
      parse "\x7bmanual devices=[2,1,2]<=[2,2] last_tile_dim_replicate\x7d" =
        .ok { kind := .devices, shardShape := [2, 1], meshShape := [2, 2], shardDims := [-1, 0],
              lastTileReplicates := true } :=
  ⟨⟨by decide, followsGrammar_of_clean _ (by decide), by decide +kernel⟩,
    by decide, followsGrammar_of_clean _ (by decide), by decide +kernel⟩

end Tilework.Sharding
