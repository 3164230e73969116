import Mathlib.Data.List.Forall2
import Tilework.Proofs.Wire.Token
import Tilework.Wire.Message

/-!
# Lengths of messages

A longer content takes more bytes together with its key and its length, since a larger
number takes no fewer groups.  So a message none of whose fields takes more bytes than in
another message is no longer than that one.

Lengths are written modulo the size of a word.  All comparisons are with bytes whose length
fits in a word, which holds of the parts of a message when it holds of the message.
-/

namespace Tilework.Wire

/-! ## Numbers -/

theorem Varint.length_groups_pos (more n : Nat) : 0 < (groups more n).length := by
  cases more with
  | zero => exact Nat.zero_lt_one
  | succ more =>
      simp only [groups]
      split <;> simp

/-- A larger number takes no fewer groups. -/
theorem Varint.length_groups_le {more n larger : Nat} (le : n ≤ larger) :
    (groups more n).length ≤ (groups more larger).length := by
  induction more generalizing n larger with
  | zero => exact Nat.le_refl 1
  | succ more ih =>
      by_cases small : n < 128
      · have one : (groups (more + 1) n).length = 1 := by simp [groups, small]
        rw [one]
        exact length_groups_pos (more + 1) larger
      · have large : ¬ larger < 128 := by omega
        have rest := ih (Nat.div_le_div_right (c := 128) le)
        simp only [groups, small, large, if_false, List.length_cons]
        omega

/-! ## Bytes -/

/-- Some bytes are no more than others, provided that the length of the others fits in a
word. -/
def NoLonger (bytes others : Bytes) : Prop :=
  others.length < UInt64.size → bytes.length ≤ others.length

theorem NoLonger.refl (bytes : Bytes) : NoLonger bytes bytes :=
  fun _ => Nat.le_refl _

theorem NoLonger.append {first other later last : Bytes} (front : NoLonger first other)
    (rest : NoLonger later last) : NoLonger (first ++ later) (other ++ last) := by
  intro fits
  rw [List.length_append] at fits
  have frontLe := front (by omega)
  have restLe := rest (by omega)
  simp only [List.length_append]
  omega

theorem noLonger_flatMap {α β : Type} {items : List α} {others : List β} {f : α → Bytes}
    {g : β → Bytes}
    (each : List.Forall₂ (fun item other => NoLonger (f item) (g other)) items others) :
    NoLonger (items.flatMap f) (others.flatMap g) := by
  induction each with
  | nil => exact .refl []
  | cons first rest ih =>
      rw [List.flatMap_cons, List.flatMap_cons]
      exact first.append ih

/-- A token with a longer content takes no fewer bytes. -/
theorem noLonger_token {content other : Bytes} (number : Nat) (shorter : NoLonger content other) :
    NoLonger (Token.mk number (.bytes content)).bytes (Token.mk number (.bytes other)).bytes := by
  intro fits
  have inside : other.length ≤ (Token.mk number (.bytes other)).bytes.length :=
    length_content_le rfl
  have le := shorter (by omega)
  have word : ∀ bytes : Bytes, bytes.length ≤ other.length →
      (UInt64.ofNat bytes.length).toNat = bytes.length := by
    intro bytes bound
    rw [UInt64.toNat_ofNat', Nat.mod_eq_of_lt]
    simp only [UInt64.size] at fits
    omega
  have groups : (Varint.groups 9 content.length).length ≤ (Varint.groups 9 other.length).length :=
    Varint.length_groups_le le
  simp only [Token.bytes, List.length_append, Varint.encode, word content le,
    word other (Nat.le_refl _)]
  omega

/-! ## Messages -/

section

variable {σ : Type} [Message σ]

/-- A message none of whose fields takes more bytes than in another one is no longer. -/
theorem noLonger_encode {message other : σ}
    (each : ∀ field ∈ (Message.fields : List (Field σ)),
      NoLonger ((field.write message).flatMap Token.bytes)
        ((field.write other).flatMap Token.bytes)) :
    NoLonger (Message.encode message) (Message.encode other) := by
  simp only [Message.encode, Message.tokens, List.flatMap_assoc]
  exact noLonger_flatMap (List.forall₂_same.mpr each)

/-- A field takes no more bytes for one value than for another. -/
def Component.NoLonger {τ : Type} [Component τ] (value other : τ) : Prop :=
  ∀ number, Wire.NoLonger
    (((Component.write value).map fun payload => Token.mk number payload).flatMap Token.bytes)
    (((Component.write other).map fun payload => Token.mk number payload).flatMap Token.bytes)

namespace Component

theorem noLonger_of_eq {τ : Type} [Component τ] {value other : τ} (same : value = other) :
    NoLonger value other := by
  intro number
  rw [same]
  exact .refl _

/-- A text takes no more bytes than a longer one. -/
theorem noLonger_text {text longer : String} (le : text.utf8ByteSize ≤ longer.utf8ByteSize) :
    NoLonger text longer := by
  intro number
  have size (text : String) : (Bytes.ofText text).length = text.utf8ByteSize := by
    simp [Bytes.ofText]
  by_cases empty : text.isEmpty = true
  · simp [write, Scalar.isDefault, empty, Wire.NoLonger]
  · have full : ¬ longer.isEmpty = true := by
      rw [String.isEmpty_iff, ← String.utf8ByteSize_eq_zero_iff] at empty ⊢
      omega
    have shorter : Wire.NoLonger (Bytes.ofText text) (Bytes.ofText longer) := by
      intro _
      rwa [size, size]
    simpa [write, Scalar.isDefault, Scalar.toPayload, empty, full] using
      noLonger_token number shorter

/-- A message inside a message. -/
theorem noLonger_some {message other : σ}
    (shorter : Wire.NoLonger (Message.encode message) (Message.encode other)) :
    NoLonger (some message) (some other) := by
  intro number
  simpa [write] using noLonger_token number shorter

/-- Messages in a list, one by one. -/
theorem noLonger_list {messages others : List σ}
    (each : List.Forall₂ (fun message other =>
      Wire.NoLonger (Message.encode message) (Message.encode other)) messages others) :
    NoLonger messages others := by
  intro number
  apply noLonger_flatMap
  exact List.forall₂_map_left_iff.mpr (List.forall₂_map_right_iff.mpr
    (List.forall₂_map_left_iff.mpr (List.forall₂_map_right_iff.mpr
      (each.imp fun _ _ shorter => noLonger_token number shorter))))

/-- The messages at the start of a list. -/
theorem noLonger_of_prefix {messages others : List σ} (start : messages <+: others) :
    NoLonger messages others := by
  obtain ⟨later, rfl⟩ := start
  intro number _
  simp only [write, List.map_append, List.flatMap_append, List.length_append]
  omega

end Component

end

end Tilework.Wire
