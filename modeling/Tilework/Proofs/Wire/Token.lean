import Tilework.Wire.Token

/-!
# Reading written tokens

A token is read back from its written form, whatever follows it, when its field
number is legal and the length of its content fits in a word.  Groups are the
exception: their content is not kept, so they are only ever passed over.
-/

namespace Tilework.Wire

/-! ## Keys and words -/

/-- A written key is read back, whatever follows it. -/
theorem readKey_keyBytes {number form : Nat} (rest : Bytes) (positive : 0 < number)
    (fits : 8 * number + 5 < UInt32.size) (known : form ≤ 5) :
    readKey (keyBytes number form ++ rest) = some ((number, form), rest) := by
  have word : (UInt64.ofNat (8 * number + form)).toNat = 8 * number + form := by
    simp only [UInt64.toNat_ofNat', UInt32.size] at fits ⊢
    omega
  simp only [readKey, keyBytes, Varint.read_encode, word]
  rw [if_pos (by omega)]
  simp only [Option.some.injEq, Prod.mk.injEq, and_true]
  omega

/-- A word of fixed width is read back, whatever follows it. -/
theorem readFixed_littleEndian {width n : Nat} (rest : Bytes) (fits : n < Bytes.capacity width) :
    readFixed width (Bytes.littleEndian width n ++ rest) = some (n, rest) := by
  have cut : Bytes.split? width (Bytes.littleEndian width n ++ rest) =
      some (Bytes.littleEndian width n, rest) :=
    Bytes.split?_eq_some_iff.mpr ⟨rfl, Bytes.length_littleEndian width n⟩
  simp [readFixed, cut, Bytes.toNat_littleEndian fits]

/-! ## Tokens -/

/-- What reading asks of a written token: a legal field number, and a payload
other than a group whose length fits in a word. -/
structure Token.Readable (token : Token) : Prop where
  positive : 0 < token.number
  fits : 8 * token.number + 5 < UInt32.size
  notGroup : token.payload ≠ .group
  short : ∀ content, token.payload = .bytes content → content.length < UInt64.size

/-- A written token is read back, whatever follows it. -/
theorem readToken_bytes (room : Nat) {token : Token} (readable : token.Readable) (rest : Bytes) :
    readToken room (token.bytes ++ rest) = some (token, rest) := by
  rcases token with ⟨number, payload⟩
  have key := fun {form : Nat} (later : Bytes) (known : form ≤ 5) =>
    readKey_keyBytes later readable.positive readable.fits known
  cases payload with
  | varint word =>
      simp [readToken, Token.bytes, key _ (Nat.zero_le 5), readPayload, Varint.read_encode]
  | fixed64 word =>
      have fits : word.toNat < Bytes.capacity 8 := word.toNat_lt
      simp [readToken, Token.bytes, key _ (show 1 ≤ 5 by decide), readPayload,
        readFixed_littleEndian _ fits]
  | bytes content =>
      have length : (UInt64.ofNat content.length).toNat = content.length := by
        have short := readable.short content rfl
        simp only [UInt64.toNat_ofNat', UInt64.size] at short ⊢
        omega
      have cut : Bytes.split? content.length (content ++ rest) = some (content, rest) :=
        Bytes.split?_eq_some_iff.mpr ⟨rfl, rfl⟩
      simp [readToken, Token.bytes, key _ (show 2 ≤ 5 by decide), readPayload,
        Varint.read_encode, length, cut]
  | group => exact absurd rfl readable.notGroup
  | fixed32 word =>
      have fits : word.toNat < Bytes.capacity 4 := word.toNat_lt
      simp [readToken, Token.bytes, key _ (show 5 ≤ 5 by decide), readPayload,
        readFixed_littleEndian _ fits]

/-- Every written form begins with the key of its token. -/
theorem Token.bytes_ne_nil (token : Token) : token.bytes ≠ [] := by
  have key (number form : Nat) : keyBytes number form ≠ [] := by
    unfold keyBytes Varint.encode Varint.groups
    split <;> simp
  rcases token with ⟨number, payload⟩
  cases payload <;> simp [Token.bytes, key]

/-- Written tokens are read back in order. -/
theorem readTokens_flatMap (room : Nat) {tokens : List Token}
    (readable : ∀ token ∈ tokens, token.Readable) :
    readTokens room (tokens.flatMap Token.bytes) = some tokens := by
  induction tokens with
  | nil => simp [readTokens]
  | cons token tokens ih =>
      have first := readToken_bytes room (readable token List.mem_cons_self)
        (tokens.flatMap Token.bytes)
      have later := ih fun other member => readable other (List.mem_cons_of_mem token member)
      rw [List.flatMap_cons]
      cases written : token.bytes ++ tokens.flatMap Token.bytes with
      | nil =>
          have empty := (List.append_eq_nil_iff.mp written).1
          exact absurd empty token.bytes_ne_nil
      | cons byte rest =>
          rw [written] at first
          unfold readTokens
          split
          · rename_i failed
            rw [first] at failed
            cases failed
          · rename_i found
            rw [first] at found
            cases found
            rw [later]
            rfl

/-! ## Lengths -/

/-- Every token takes at least one byte. -/
theorem length_le_length_flatMap_bytes (tokens : List Token) :
    tokens.length ≤ (tokens.flatMap Token.bytes).length := by
  induction tokens with
  | nil => exact Nat.le_refl 0
  | cons token tokens ih =>
      have positive := List.length_pos_iff.mpr token.bytes_ne_nil
      simp only [List.flatMap_cons, List.length_cons, List.length_append]
      omega

/-- The content of a token is no longer than what the token is written in. -/
theorem length_content_le {token : Token} {content : Bytes}
    (holds : token.payload = .bytes content) :
    content.length ≤ token.bytes.length := by
  simp only [Token.bytes, holds, List.length_append]
  omega

/-- The written form of a token is no longer than that of a list it belongs to. -/
theorem length_bytes_le_of_mem {token : Token} {tokens : List Token} (member : token ∈ tokens) :
    token.bytes.length ≤ (tokens.flatMap Token.bytes).length := by
  obtain ⟨before, after, rfl⟩ := List.append_of_mem member
  simp only [List.flatMap_append, List.flatMap_cons, List.length_append]
  omega

end Tilework.Wire
