import Mathlib.Computability.Language
import Tilework.Sharding.Annotation

/-!
# The language of sharding annotations

An annotation, its unknown tokens left out, is any number of `manual` tokens and then one
of four endings, which decides the kind of the sharding.  This file states that language
over the kinds of its tokens, and compares it with the progress that reading keeps: which
kind of token is legal depends on the token before it alone.
-/

namespace Tilework.Sharding

open scoped Computability

/-! ## Kinds of token -/

/-- The kinds of token that annotations are made of. -/
inductive TokenKind
  | manual
  | replicated
  | maximal
  | device
  | devices
  | lastTileReplicates
  deriving DecidableEq

/-- The kind of a token, unless it is unknown. -/
def Token.kind? : Token → Option TokenKind
  | .manual => some .manual
  | .replicated => some .replicated
  | .maximal => some .maximal
  | .device _ => some .device
  | .devices _ => some .devices
  | .lastTileReplicates => some .lastTileReplicates
  | .unknown => none

namespace TokenKind

/-- How far an annotation has been read after a token. -/
def progress : TokenKind → ShardingProgress
  | manual => .manual
  | replicated => .replicated
  | maximal => .awaitingDevice
  | device => .maximal
  | devices | lastTileReplicates => .devices

/-- Whether a token may come next. -/
def IsLegal (kind : TokenKind) (progress : ShardingProgress) : Prop :=
  match kind with
  | device => progress = .awaitingDevice
  | lastTileReplicates => progress = .devices
  | manual | replicated | maximal | devices => progress = .start ∨ progress = .manual

instance (kind : TokenKind) (progress : ShardingProgress) : Decidable (kind.IsLegal progress) := by
  unfold IsLegal
  split <;> infer_instance

end TokenKind

/-! ## The language -/

/-- What comes after the `manual` tokens, for each kind of sharding. -/
def ending : ShardKind → Language TokenKind
  | .manual => 1
  | .replicate => {[.replicated]}
  | .maximal => {[.maximal]} * {[.device]}
  | .devices => {[.devices]} * {[.lastTileReplicates]}∗

/-- The sentences that describe a kind of sharding. -/
def sentences (kind : ShardKind) : Language TokenKind :=
  {[.manual]}∗ * ending kind

/-- The sentences of annotations. -/
def grammar : Language TokenKind :=
  {[.manual]}∗ * (ending .manual + ending .replicate + ending .maximal + ending .devices)

/-- A row of tokens that some sentence begins with. -/
def IsExtensible (word : List TokenKind) : Prop :=
  ∃ rest, word ++ rest ∈ grammar

theorem mem_grammar_iff {word : List TokenKind} :
    word ∈ grammar ↔ ∃ kind, word ∈ sentences kind := by
  have alternatives : grammar =
      sentences .manual + sentences .replicate + sentences .maximal + sentences .devices := by
    simp only [grammar, sentences, mul_add]
  rw [alternatives]
  simp only [Language.mem_add]
  constructor
  · rintro (((found | found) | found) | found)
    exacts [⟨_, found⟩, ⟨_, found⟩, ⟨_, found⟩, ⟨_, found⟩]
  · rintro ⟨kind, found⟩
    cases kind <;> simp [found]

/-! ## Words token by token -/

section Words

variable {α : Type} {first other : α} {word : List α} {language : Language α}

theorem mem_singleton_iff {other : List α} : word ∈ ({other} : Language α) ↔ word = other :=
  Iff.rfl

theorem mem_ite_iff {condition : Prop} [Decidable condition] :
    word ∈ (if condition then language else 0) ↔ condition ∧ word ∈ language := by
  split <;> simp [*]

theorem cons_mem_singleton_mul_iff :
    first :: word ∈ ({[other]} : Language α) * language ↔ first = other ∧ word ∈ language := by
  rw [Language.mem_mul]
  constructor
  · rintro ⟨start, rfl, rest, inside, same⟩
    cases same
    exact ⟨rfl, inside⟩
  · rintro ⟨rfl, inside⟩
    exact ⟨[first], rfl, word, inside, rfl⟩

theorem nil_mem_singleton_mul_iff :
    [] ∈ ({[other]} : Language α) * language ↔ False := by
  rw [Language.mem_mul, iff_false]
  rintro ⟨start, rfl, rest, inside, same⟩
  cases same

/-- A repeated token and then a word of a language: a word of the language, or the token
and then the same again. -/
theorem kstar_mul_eq (other : α) (language : Language α) :
    ({[other]} : Language α)∗ * language =
      language + {[other]} * (({[other]} : Language α)∗ * language) := by
  conv_lhs => rw [← Language.one_add_self_mul_kstar_eq_kstar, add_mul, one_mul, mul_assoc]

theorem nil_mem_kstar_mul_iff :
    [] ∈ ({[other]} : Language α)∗ * language ↔ [] ∈ language := by
  rw [kstar_mul_eq, Language.mem_add, nil_mem_singleton_mul_iff, or_false]

theorem cons_mem_kstar_mul_iff :
    first :: word ∈ ({[other]} : Language α)∗ * language ↔
      first :: word ∈ language ∨ first = other ∧ word ∈ ({[other]} : Language α)∗ * language := by
  rw [kstar_mul_eq, Language.mem_add, cons_mem_singleton_mul_iff, ← kstar_mul_eq]

theorem cons_mem_kstar_iff :
    first :: word ∈ ({[other]} : Language α)∗ ↔
      first = other ∧ word ∈ ({[other]} : Language α)∗ := by
  have split : first :: word ∈ ({[other]} : Language α)∗ * 1 ↔
      first :: word ∈ (1 : Language α) ∨
        first = other ∧ word ∈ ({[other]} : Language α)∗ * 1 := cons_mem_kstar_mul_iff
  simpa only [mul_one, Language.mem_one, reduceCtorEq, false_or] using split

end Words

/-! ## Legal words -/

/-- Whether every token of a word is legal where it stands. -/
def IsLegalFrom : ShardingProgress → List TokenKind → Prop
  | _, [] => True
  | progress, kind :: word => kind.IsLegal progress ∧ IsLegalFrom kind.progress word

/-- How far an annotation has been read after a word. -/
def progressAfter (progress : ShardingProgress) (word : List TokenKind) : ShardingProgress :=
  (word.getLast?.map TokenKind.progress).getD progress

variable {progress : ShardingProgress} {kind : ShardKind} {token : TokenKind}
  {word rest : List TokenKind}

@[simp]
theorem progressAfter_nil (progress : ShardingProgress) : progressAfter progress [] = progress :=
  rfl

@[simp]
theorem progressAfter_cons (progress : ShardingProgress) (token : TokenKind)
    (word : List TokenKind) :
    progressAfter progress (token :: word) = progressAfter token.progress word := by
  rw [progressAfter, List.getLast?_cons, progressAfter]
  cases word.getLast? <;> rfl

theorem progressAfter_append (progress : ShardingProgress) (word rest : List TokenKind) :
    progressAfter progress (word ++ rest) =
      progressAfter (progressAfter progress word) rest := by
  induction word generalizing progress with
  | nil => rfl
  | cons token word ih => simp [ih]

theorem isLegalFrom_append_iff :
    IsLegalFrom progress (word ++ rest) ↔
      IsLegalFrom progress word ∧ IsLegalFrom (progressAfter progress word) rest := by
  induction word generalizing progress with
  | nil => simp [IsLegalFrom]
  | cons token word ih => simp [IsLegalFrom, ih, and_assoc]

/-- What may still come when an annotation has been read so far, if it is to describe a kind
of sharding. -/
def remaining (kind : ShardKind) : ShardingProgress → Language TokenKind
  | .start | .manual => sentences kind
  | .replicated => if kind = .replicate then 1 else 0
  | .awaitingDevice => if kind = .maximal then {[.device]} else 0
  | .maximal => if kind = .maximal then 1 else 0
  | .devices => if kind = .devices then {[.lastTileReplicates]}∗ else 0

theorem nil_mem_remaining_iff :
    [] ∈ remaining kind progress ↔ kindAfter progress = .ok kind := by
  have empty (token : TokenKind) : [] ∈ ({[token]} : Language TokenKind)∗ :=
    Language.nil_mem_kstar _
  cases progress <;> cases kind <;>
    simp [remaining, sentences, ending, kindAfter, nil_mem_kstar_mul_iff,
      nil_mem_singleton_mul_iff, mem_singleton_iff, empty]

theorem cons_mem_sentences_iff :
    token :: word ∈ sentences kind ↔
      token.IsLegal .start ∧ word ∈ remaining kind token.progress := by
  rw [sentences, cons_mem_kstar_mul_iff]
  cases token <;> cases kind <;>
    simp [remaining, sentences, ending, TokenKind.IsLegal, TokenKind.progress,
      cons_mem_singleton_mul_iff, mem_singleton_iff]

theorem cons_mem_remaining_iff :
    token :: word ∈ remaining kind progress ↔
      token.IsLegal progress ∧ word ∈ remaining kind token.progress := by
  cases progress with
  | start => exact cons_mem_sentences_iff
  | manual =>
      have legal : token.IsLegal .manual ↔ token.IsLegal .start := by
        cases token <;> simp [TokenKind.IsLegal]
      rw [legal]
      exact cons_mem_sentences_iff
  | replicated | awaitingDevice | maximal | devices =>
      cases token <;>
        simp [remaining, TokenKind.IsLegal, TokenKind.progress, mem_ite_iff, mem_singleton_iff,
          cons_mem_kstar_iff]

/-- A sentence of a kind is a word of legal tokens after which the annotation may end with
that kind. -/
theorem mem_sentences_iff :
    word ∈ sentences kind ↔
      IsLegalFrom .start word ∧ kindAfter (progressAfter .start word) = .ok kind := by
  have from_progress (progress : ShardingProgress) :
      word ∈ remaining kind progress ↔
        IsLegalFrom progress word ∧ kindAfter (progressAfter progress word) = .ok kind := by
    induction word generalizing progress with
    | nil => simp [nil_mem_remaining_iff, IsLegalFrom]
    | cons token word ih => simp [cons_mem_remaining_iff, IsLegalFrom, ih, and_assoc]
  exact from_progress .start

/-! ## Beginnings of sentences -/

theorem progressAfter_start_eq_awaitingDevice_iff :
    progressAfter .start word = .awaitingDevice ↔ word.getLast? = some .maximal := by
  rw [progressAfter]
  cases word.getLast? with
  | none => simp
  | some token => cases token <;> simp [TokenKind.progress]

/-- Once an annotation has no `manual` or `maximal` to go on from, the progress stays. -/
theorem progressAfter_of_closed (legal : IsLegalFrom progress word)
    (closed : progress = .replicated ∨ progress = .maximal ∨ progress = .devices) :
    progressAfter progress word = progress := by
  induction word with
  | nil => rfl
  | cons token word ih =>
      obtain ⟨here, later⟩ := legal
      have stays : token.progress = progress := by
        rcases closed with rfl | rfl | rfl <;> cases token <;>
          simp_all [TokenKind.IsLegal, TokenKind.progress]
      rw [stays] at later
      rw [progressAfter_cons, stays]
      exact ih later

/-- Only `manual` and `maximal` tokens come before a device that is awaited. -/
theorem eq_manual_or_eq_maximal_of_awaits (legal : IsLegalFrom progress word)
    (awaits : progressAfter progress word = .awaitingDevice) :
    ∀ token ∈ word, token = .manual ∨ token = .maximal := by
  induction word generalizing progress with
  | nil => nofun
  | cons token word ih =>
      rw [progressAfter_cons] at awaits
      refine List.forall_mem_cons.mpr ⟨?_, ih legal.2 awaits⟩
      cases token with
      | manual => exact Or.inl rfl
      | maximal => exact Or.inr rfl
      | _ =>
          rw [progressAfter_of_closed legal.2 (by simp [TokenKind.progress])] at awaits
          cases awaits

/-- A word of legal tokens is a sentence, unless a device has to follow. -/
theorem mem_grammar_of_isLegalFrom (legal : IsLegalFrom .start word)
    (ended : word.getLast? ≠ some .maximal) : word ∈ grammar := by
  rw [Ne, ← progressAfter_start_eq_awaitingDevice_iff] at ended
  have ends : ∃ kind, kindAfter (progressAfter .start word) = .ok kind := by
    cases after : progressAfter .start word with
    | awaitingDevice => exact absurd after ended
    | _ => exact ⟨_, rfl⟩
  obtain ⟨kind, ends⟩ := ends
  exact mem_grammar_iff.mpr ⟨kind, mem_sentences_iff.mpr ⟨legal, ends⟩⟩

theorem append_device_mem_grammar (legal : IsLegalFrom .start word)
    (awaits : word.getLast? = some .maximal) : word ++ [.device] ∈ grammar := by
  have after := progressAfter_start_eq_awaitingDevice_iff.mpr awaits
  apply mem_grammar_of_isLegalFrom
  · rw [isLegalFrom_append_iff, after]
    exact ⟨legal, rfl, trivial⟩
  · simp

/-- The beginnings of sentences are the words of legal tokens. -/
theorem isExtensible_iff : IsExtensible word ↔ IsLegalFrom .start word := by
  constructor
  · rintro ⟨rest, sentence⟩
    obtain ⟨kind, sentence⟩ := mem_grammar_iff.mp sentence
    exact (isLegalFrom_append_iff.mp (mem_sentences_iff.mp sentence).1).1
  · intro legal
    by_cases awaits : word.getLast? = some .maximal
    · exact ⟨[.device], append_device_mem_grammar legal awaits⟩
    · refine ⟨[], ?_⟩
      rw [List.append_nil]
      exact mem_grammar_of_isLegalFrom legal awaits

end Tilework.Sharding
