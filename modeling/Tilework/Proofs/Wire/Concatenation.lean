import Tilework.Proofs.Wire.Message

/-!
# Reading one message after another

Reading takes tokens off the front of the bytes, and what it takes does not depend on what
follows.  So bytes that can be read by themselves can be read in front of others, which are
then read into what has been read so far.
-/

namespace Tilework.Wire

variable {room : Nat} {bytes rest : Bytes} (later : Bytes)

/-! ## Numbers and words -/

theorem Varint.readGroups_append {more n : Nat}
    (found : readGroups more bytes = some (n, rest)) :
    readGroups more (bytes ++ later) = some (n, rest ++ later) := by
  induction more generalizing n bytes rest with
  | zero =>
      cases bytes with
      | nil => simp [readGroups] at found
      | cons byte tail =>
          rw [List.cons_append]
          simp only [readGroups] at found ⊢
          split at found
          · rename_i last
            cases found
            rw [if_pos last]
          · cases found
  | succ more ih =>
      cases bytes with
      | nil => simp [readGroups] at found
      | cons byte tail =>
          rw [List.cons_append]
          simp only [readGroups] at found ⊢
          split at found
          · rename_i last
            cases found
            rw [if_pos last]
          · rename_i more
            obtain ⟨⟨high, tail⟩, foundHigh, same⟩ := Option.map_eq_some_iff.mp found
            cases same
            rw [if_neg more, ih foundHigh, Option.map_some]

theorem Varint.read_append {word : UInt64} (found : read bytes = some (word, rest)) :
    read (bytes ++ later) = some (word, rest ++ later) := by
  obtain ⟨⟨n, tail⟩, foundGroups, same⟩ := Option.map_eq_some_iff.mp found
  cases same
  rw [read, readGroups_append later foundGroups, Option.map_some]

theorem split?_append {count : Nat} {front : Bytes}
    (found : Bytes.split? count bytes = some (front, rest)) :
    Bytes.split? count (bytes ++ later) = some (front, rest ++ later) := by
  obtain ⟨rfl, length⟩ := Bytes.split?_eq_some_iff.mp found
  exact Bytes.split?_eq_some_iff.mpr ⟨List.append_assoc _ _ _, length⟩

theorem readFixed_append {width n : Nat} (found : readFixed width bytes = some (n, rest)) :
    readFixed width (bytes ++ later) = some (n, rest ++ later) := by
  obtain ⟨⟨front, tail⟩, cut, same⟩ := Option.map_eq_some_iff.mp found
  cases same
  rw [readFixed, split?_append later cut, Option.map_some]

/-! ## Tokens -/

theorem readKey_append {key : Nat × Nat} (found : readKey bytes = some (key, rest)) :
    readKey (bytes ++ later) = some (key, rest ++ later) := by
  rw [readKey] at found
  split at found
  · rename_i word tail foundWord
    rw [readKey, Varint.read_append later foundWord]
    split at found
    · rename_i legal
      cases found
      simp only [if_pos legal]
    · cases found
  · cases found

theorem readPayload_append {form : Nat} {payload : Payload}
    (found : readPayload form bytes = some (payload, rest)) :
    readPayload form (bytes ++ later) = some (payload, rest ++ later) := by
  unfold readPayload at found ⊢
  split at found
  · obtain ⟨⟨word, tail⟩, foundWord, same⟩ := Option.map_eq_some_iff.mp found
    cases same
    simp only [Varint.read_append later foundWord, Option.map_some]
  · obtain ⟨⟨word, tail⟩, foundWord, same⟩ := Option.map_eq_some_iff.mp found
    cases same
    simp only [readFixed_append later foundWord, Option.map_some]
  · obtain ⟨⟨length, tail⟩, foundLength, rest⟩ := Option.bind_eq_some_iff.mp found
    obtain ⟨⟨content, last⟩, cut, same⟩ := Option.map_eq_some_iff.mp rest
    cases same
    simp only [Varint.read_append later foundLength, Option.bind_some, split?_append later cut,
      Option.map_some]
  · obtain ⟨⟨word, tail⟩, foundWord, same⟩ := Option.map_eq_some_iff.mp found
    cases same
    simp only [readFixed_append later foundWord, Option.map_some]
  · cases found

/-- What a key makes of the groups that it is read in. -/
theorem skipGroups_of_readKey {number inner form : Nat} {outer : List Nat}
    (foundKey : readKey bytes = some ((inner, form), rest)) :
    skipGroups room (number :: outer) bytes =
      if form = 4 then if inner = number then skipGroups room outer rest else none
      else if room ≤ (number :: outer).length then none
      else if form = 3 then skipGroups room (inner :: number :: outer) rest
      else
        (readPayload form rest).bind fun (_, rest) => skipGroups room (number :: outer) rest := by
  rw [skipGroups]
  split
  · rename_i failed
    rw [foundKey] at failed
    cases failed
  · rename_i again
    rw [foundKey] at again
    cases again
    congr 3
    split
    · rename_i failed
      rw [failed, Option.bind_none]
    · rename_i found
      rw [found, Option.bind_some]

theorem skipGroups_append {opened : List Nat} (found : skipGroups room opened bytes = some rest) :
    skipGroups room opened (bytes ++ later) = some (rest ++ later) := by
  fun_induction skipGroups room opened bytes with
  | case1 bytes =>
      cases found
      rw [skipGroups]
  | case2 | case4 => cases found
  | case3 bytes outer inner tail foundKey ih =>
      rw [skipGroups_of_readKey (readKey_append later foundKey), if_pos rfl, if_pos rfl]
      exact ih found
  | case5 bytes number outer inner form tail foundKey notEnd full =>
      rw [if_pos full] at found
      cases found
  | case6 bytes number outer inner tail space foundKey notEnd ih =>
      rw [if_neg space, if_pos rfl] at found
      rw [skipGroups_of_readKey (readKey_append later foundKey), if_neg notEnd, if_neg space,
        if_pos rfl]
      exact ih found
  | case7 bytes number outer inner form tail foundKey notEnd notStart noPayload space =>
      rw [if_neg space, if_neg notStart] at found
      split at found
      · cases found
      · simp_all
  | case8 bytes number outer inner form middle foundKey notEnd notStart payload tail
      foundPayload space ih =>
      rw [if_neg space, if_neg notStart] at found
      rw [skipGroups_of_readKey (readKey_append later foundKey), if_neg notEnd, if_neg space,
        if_neg notStart, readPayload_append later foundPayload, Option.bind_some]
      split at found
      · cases found
      · rename_i samePayload
        rw [foundPayload] at samePayload
        cases samePayload
        exact ih found

theorem readToken_append {token : Token} (found : readToken room bytes = some (token, rest)) :
    readToken room (bytes ++ later) = some (token, rest ++ later) := by
  obtain ⟨⟨⟨number, form⟩, tail⟩, foundKey, found⟩ := Option.bind_eq_some_iff.mp found
  simp only [readToken, readKey_append later foundKey, Option.bind_some]
  simp only at found
  split at found
  · rename_i group
    rw [if_pos group]
    split at found
    · cases found
    · rename_i space
      obtain ⟨last, skipped, same⟩ := Option.map_eq_some_iff.mp found
      cases same
      rw [if_neg space, skipGroups_append later skipped, Option.map_some]
  · rename_i plain
    obtain ⟨⟨payload, last⟩, foundPayload, same⟩ := Option.map_eq_some_iff.mp found
    cases same
    rw [if_neg plain, readPayload_append later foundPayload, Option.map_some]

/-- The tokens of some bytes are read before those of the bytes that follow. -/
theorem readTokens_append {tokens : List Token} (found : readTokens room bytes = some tokens) :
    readTokens room (bytes ++ later) = (readTokens room later).map (tokens ++ ·) := by
  fun_induction readTokens room bytes generalizing tokens with
  | case1 =>
      cases found
      simp
  | case2 => cases found
  | case3 byte tail token rest foundToken ih =>
      obtain ⟨others, foundOthers, rfl⟩ := Option.map_eq_some_iff.mp found
      have first := readToken_append later foundToken
      rw [List.cons_append] at first ⊢
      rw [readTokens]
      split
      · rename_i failed
        rw [first] at failed
        cases failed
      · rename_i again
        rw [first] at again
        cases again
        rw [ih foundOthers, Option.map_map]
        rfl

/-! ## Messages -/

namespace Message

variable {σ : Type} [Message σ]

/-- What follows the bytes of a message is merged into what they have been read as. -/
theorem mergeBytes_append {old read : σ} (found : mergeBytes room old bytes = some read) :
    mergeBytes room old (bytes ++ later) = mergeBytes room read later := by
  obtain ⟨tokens, foundTokens, merged⟩ := Option.bind_eq_some_iff.mp found
  rw [mergeBytes, readTokens_append later foundTokens, Option.bind_map, mergeBytes]
  congr 1
  funext others
  rw [Function.comp_apply, List.foldlM_append, merged]
  rfl

end Message

/-- Two messages that are written one after the other are read back joined. -/
theorem decode?_encode_append {σ : Type} [Message σ] [LawfulMessage σ] (first second : σ)
    (shallow : LawfulMessage.depth σ ≤ Message.maximumDepth)
    (short : (Message.encode first).length < UInt64.size)
    (shortSecond : (Message.encode second).length < UInt64.size) :
    Message.decode? (Message.encode first ++ Message.encode second) =
      some (LawfulMessage.join (LawfulMessage.join default first) second) := by
  have read := LawfulMessage.mergeBytes_encode Message.maximumDepth default first shallow short
  rw [Message.decode?, Message.mergeBytes_append _ read]
  exact LawfulMessage.mergeBytes_encode Message.maximumDepth _ second shallow shortSecond

end Tilework.Wire
