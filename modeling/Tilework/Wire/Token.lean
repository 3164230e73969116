import Tilework.Wire.Varint

/-!
# Tokens of the wire format

A message is a row of tokens, each of which carries a field number and a
payload of one of five forms.  Tokens are read without knowing the message they
belong to; what they mean is decided afterwards.

Groups survive only as something to pass over.  A group holds further tokens up
to its own end mark, and a field that `room` or more groups enclose is refused.
-/

namespace Tilework.Wire

/-- What a token carries. -/
inductive Payload
  | varint (word : UInt64)
  | fixed64 (word : UInt64)
  | bytes (content : Bytes)
  | group
  | fixed32 (word : UInt32)
  deriving DecidableEq

/-- A field number and what it carries. -/
structure Token where
  number : Nat
  payload : Payload
  deriving DecidableEq

/-! ## Writing -/

/-- The key that introduces a token: its field number and the form of its
payload. -/
def keyBytes (number form : Nat) : Bytes :=
  Varint.encode (UInt64.ofNat (8 * number + form))

/-- The written form of a token. -/
def Token.bytes (token : Token) : Bytes :=
  match token.payload with
  | .varint word => keyBytes token.number 0 ++ Varint.encode word
  | .fixed64 word => keyBytes token.number 1 ++ Bytes.littleEndian 8 word.toNat
  | .bytes content =>
      keyBytes token.number 2 ++ Varint.encode (UInt64.ofNat content.length) ++ content
  | .group => keyBytes token.number 3 ++ keyBytes token.number 4
  | .fixed32 word => keyBytes token.number 5 ++ Bytes.littleEndian 4 word.toNat

/-! ## Reading -/

/-- Read a key: a positive field number, one of six forms, and at most 32 bits
in all. -/
def readKey (bytes : Bytes) : Option ((Nat × Nat) × Bytes) :=
  match Varint.read bytes with
  | some (key, rest) =>
      if 8 ≤ key.toNat ∧ key.toNat < UInt32.size ∧ key.toNat % 8 ≤ 5 then
        some ((key.toNat / 8, key.toNat % 8), rest)
      else none
  | none => none

/-- Read a word of `width` bytes. -/
def readFixed (width : Nat) (bytes : Bytes) : Option (Nat × Bytes) :=
  (Bytes.split? width bytes).map fun (word, rest) => (Bytes.toNat word, rest)

/-- Read a payload of the given form, other than a group. -/
def readPayload (form : Nat) (bytes : Bytes) : Option (Payload × Bytes) :=
  match form with
  | 0 => (Varint.read bytes).map fun (word, rest) => (.varint word, rest)
  | 1 => (readFixed 8 bytes).map fun (word, rest) => (.fixed64 (UInt64.ofNat word), rest)
  | 2 =>
      (Varint.read bytes).bind fun (length, rest) =>
        (Bytes.split? length.toNat rest).map fun (content, rest) => (.bytes content, rest)
  | 5 => (readFixed 4 bytes).map fun (word, rest) => (.fixed32 (UInt32.ofNat word), rest)
  | _ => none

theorem length_lt_of_readKey {bytes rest : Bytes} {key : Nat × Nat}
    (found : readKey bytes = some (key, rest)) : rest.length < bytes.length := by
  unfold readKey at found
  split at found
  · rename_i word later foundWord
    split at found
    · cases found
      exact Varint.length_lt_of_read foundWord
    · cases found
  · cases found

theorem length_le_of_split? {count : Nat} {bytes front rest : Bytes}
    (found : Bytes.split? count bytes = some (front, rest)) :
    rest.length ≤ bytes.length := by
  obtain ⟨rfl, _⟩ := Bytes.split?_eq_some_iff.mp found
  simp

theorem length_le_of_readPayload {form : Nat} {bytes rest : Bytes} {payload : Payload}
    (found : readPayload form bytes = some (payload, rest)) :
    rest.length ≤ bytes.length := by
  unfold readPayload readFixed at found
  split at found
  · simp only [Option.map_eq_some_iff, Prod.exists, Prod.mk.injEq] at found
    obtain ⟨word, later, foundWord, _, rfl⟩ := found
    exact Nat.le_of_lt (Varint.length_lt_of_read foundWord)
  · simp only [Option.map_eq_some_iff, Prod.exists, Prod.mk.injEq] at found
    obtain ⟨_, _, ⟨front, later, foundFront, _, rfl⟩, _, rfl⟩ := found
    exact length_le_of_split? foundFront
  · simp only [Option.bind_eq_some_iff, Option.map_eq_some_iff, Prod.exists,
      Prod.mk.injEq] at found
    obtain ⟨length, middle, foundLength, content, later, foundContent, _, rfl⟩ := found
    have first := Varint.length_lt_of_read foundLength
    have second := length_le_of_split? foundContent
    omega
  · simp only [Option.map_eq_some_iff, Prod.exists, Prod.mk.injEq] at found
    obtain ⟨_, _, ⟨front, later, foundFront, _, rfl⟩, _, rfl⟩ := found
    exact length_le_of_split? foundFront
  · cases found

/-- Pass over the rest of the `opened` groups, the innermost of which comes
first. -/
def skipGroups (room : Nat) (opened : List Nat) (bytes : Bytes) : Option Bytes :=
  match opened with
  | [] => some bytes
  | number :: outer =>
      match _foundKey : readKey bytes with
      | none => none
      | some ((inner, form), rest) =>
          if form = 4 then
            if inner = number then skipGroups room outer rest else none
          else if room ≤ opened.length then none
          else if form = 3 then skipGroups room (inner :: opened) rest
          else
            match _foundPayload : readPayload form rest with
            | none => none
            | some (_, rest) => skipGroups room opened rest
termination_by bytes.length
decreasing_by
  · exact length_lt_of_readKey _foundKey
  · exact length_lt_of_readKey _foundKey
  · exact Nat.lt_of_le_of_lt (length_le_of_readPayload _foundPayload)
      (length_lt_of_readKey _foundKey)

/-- Read one token. -/
def readToken (room : Nat) (bytes : Bytes) : Option (Token × Bytes) :=
  (readKey bytes).bind fun ((number, form), rest) =>
    if form = 3 then
      if room = 0 then none
      else (skipGroups room [number] rest).map fun rest => (⟨number, .group⟩, rest)
    else
      (readPayload form rest).map fun (payload, rest) => (⟨number, payload⟩, rest)

theorem length_le_of_skipGroups {room : Nat} {opened : List Nat} {bytes rest : Bytes}
    (found : skipGroups room opened bytes = some rest) : rest.length ≤ bytes.length := by
  fun_induction skipGroups room opened bytes with
  | case1 => simp_all
  | case2 | case4 => cases found
  | case3 bytes outer inner later foundKey ih =>
      have shorter := length_lt_of_readKey foundKey
      have shorterRest := ih found
      omega
  | case5 bytes number outer inner form later foundKey notEnd full =>
      rw [if_pos full] at found
      cases found
  | case6 bytes number outer inner later space foundKey notEnd ih =>
      rw [if_neg space, if_pos rfl] at found
      have shorter := length_lt_of_readKey foundKey
      have shorterRest := ih found
      omega
  | case7 bytes number outer inner form later foundKey notEnd notStart noPayload space =>
      rw [if_neg space, if_neg notStart] at found
      split at found
      · cases found
      · simp_all
  | case8 bytes number outer inner form middle foundKey notEnd notStart payload later
      foundPayload space ih =>
      rw [if_neg space, if_neg notStart] at found
      have shorter := length_lt_of_readKey foundKey
      have shorterPayload := length_le_of_readPayload foundPayload
      split at found
      · cases found
      · rename_i samePayload
        rw [foundPayload] at samePayload
        cases samePayload
        have shorterRest := ih found
        omega

theorem length_lt_of_readToken {room : Nat} {bytes rest : Bytes} {token : Token}
    (found : readToken room bytes = some (token, rest)) : rest.length < bytes.length := by
  unfold readToken at found
  simp only [Option.bind_eq_some_iff, Prod.exists] at found
  obtain ⟨number, form, middle, foundKey, found⟩ := found
  have shorter := length_lt_of_readKey foundKey
  split at found
  · split at found
    · cases found
    · simp only [Option.map_eq_some_iff, Prod.mk.injEq] at found
      obtain ⟨later, foundGroup, _, rfl⟩ := found
      have shorterRest := length_le_of_skipGroups foundGroup
      omega
  · simp only [Option.map_eq_some_iff, Prod.exists, Prod.mk.injEq] at found
    obtain ⟨payload, later, foundPayload, _, rfl⟩ := found
    have shorterRest := length_le_of_readPayload foundPayload
    omega

/-- Read tokens up to the end of the bytes. -/
def readTokens (room : Nat) (bytes : Bytes) : Option (List Token) :=
  match bytes with
  | [] => some []
  | byte :: later =>
      match _found : readToken room (byte :: later) with
      | none => none
      | some (token, rest) => (readTokens room rest).map (token :: ·)
termination_by bytes.length
decreasing_by exact length_lt_of_readToken _found

end Tilework.Wire
