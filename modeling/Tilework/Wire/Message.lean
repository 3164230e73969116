import Tilework.Number.Single
import Tilework.Wire.Token

/-!
# Messages

A message type lists its fields.  A field knows which tokens it writes for a
message, and how a token changes a message that is being read.  Writing puts the
tokens of all fields one after another; reading starts from the empty message
and lets every token act on it, passing over the field numbers that the type
does not list.

How a field acts depends on its type alone:

* a scalar is written unless it is the default, and the last one read wins;
* an optional scalar is written whenever it is present;
* a list of scalars is packed into one token, and is read packed or not;
* a message inside a message is written whenever it is present, and what is read
  is merged into it;
* a list of messages takes one token for each;
* a choice between messages writes the chosen one, and reading another member
  starts afresh.

Messages nest at most a hundred deep, counting groups; `room` is how many more
levels there may be.
-/

namespace Tilework.Wire

/-! ## Words -/

/-- Types whose values travel as 64-bit words. -/
class WordCoded (α : Type) where
  toWord : α → UInt64
  ofWord : UInt64 → α

/-- A negative number is extended to 64 bits, and the low 32 bits are read. -/
instance : WordCoded Int32 where
  toWord number := number.toInt64.toUInt64
  ofWord word := word.toInt64.toInt32

instance : WordCoded Int64 where
  toWord number := number.toUInt64
  ofWord word := word.toInt64

instance : WordCoded UInt32 where
  toWord number := number.toUInt64
  ofWord word := word.toUInt32

instance : WordCoded UInt64 where
  toWord number := number
  ofWord word := word

/-- Any word but zero is true. -/
instance : WordCoded Bool where
  toWord flag := if flag then 1 else 0
  ofWord word := word != 0

/-- Read words up to the end of the bytes. -/
def readWords (bytes : Bytes) : Option (List UInt64) :=
  match bytes with
  | [] => some []
  | byte :: later =>
      match _found : Varint.read (byte :: later) with
      | none => none
      | some (word, rest) => (readWords rest).map (word :: ·)
termination_by bytes.length
decreasing_by exact Varint.length_lt_of_read _found

/-! ## Scalars -/

/-- Types whose values take one token each. -/
class Scalar (α : Type) where
  /-- Whether a value need not be written. -/
  isDefault : α → Bool
  toPayload : α → Payload
  ofPayload : Payload → Option α

instance {α : Type} [WordCoded α] : Scalar α where
  isDefault value := WordCoded.toWord value == 0
  toPayload value := .varint (WordCoded.toWord value)
  ofPayload
    | .varint word => some (WordCoded.ofWord word)
    | _ => none

/-- Both zeros are the default. -/
instance : Scalar Single where
  isDefault := Single.isZero
  toPayload number := .fixed32 number.bits
  ofPayload
    | .fixed32 word => some ⟨word⟩
    | _ => none

instance : Scalar String where
  isDefault text := text.isEmpty
  toPayload text := .bytes (Bytes.ofText text)
  ofPayload
    | .bytes content => Bytes.text? content
    | _ => none

instance : Scalar Bytes where
  isDefault bytes := bytes.isEmpty
  toPayload bytes := .bytes bytes
  ofPayload
    | .bytes content => some content
    | _ => none

/-! ## Fields and messages -/

/-- A field of the message type `σ`. -/
structure Field (σ : Type) where
  /-- The numbers of the tokens that act on the field. -/
  numbers : List Nat
  write : σ → List Token
  merge : (room : Nat) → σ → Token → Option σ

/-- Message types.  The default value is the empty message. -/
class Message (σ : Type) extends Inhabited σ where
  fields : List (Field σ)

namespace Message

variable {σ : Type} [Message σ]

/-- The tokens of a message. -/
def tokens (message : σ) : List Token :=
  (fields : List (Field σ)).flatMap fun field => field.write message

/-- The written form of a message. -/
def encode (message : σ) : Bytes :=
  (tokens message).flatMap Token.bytes

/-- Let a token act on a message. -/
def mergeToken (room : Nat) (message : σ) (token : Token) : Option σ :=
  match (fields : List (Field σ)).find? fun field => field.numbers.contains token.number with
  | some field => field.merge room message token
  | none => some message

/-- Let all tokens of a byte string act on a message. -/
def mergeBytes (room : Nat) (message : σ) (bytes : Bytes) : Option σ :=
  (readTokens room bytes).bind fun tokens => tokens.foldlM (mergeToken room) message

/-- The number of levels to which messages and groups may nest. -/
def maximumDepth : Nat := 100

/-- Read a message. -/
def decode? (bytes : Bytes) : Option σ :=
  mergeBytes maximumDepth default bytes

/-- Merge the payload of a token that holds a message. -/
def mergePayload (room : Nat) (message : σ) : Payload → Option σ
  | .bytes content => if room = 0 then none else mergeBytes (room - 1) message content
  | _ => none

end Message

/-! ## Components -/

/-- Types of fields with a single number. -/
class Component (τ : Type) where
  write : τ → List Payload
  merge : (room : Nat) → τ → Payload → Option τ

instance {α : Type} [Scalar α] : Component α where
  write value := if Scalar.isDefault value then [] else [Scalar.toPayload value]
  merge _ _ payload := Scalar.ofPayload payload

instance {α : Type} [Scalar α] : Component (Option α) where
  write value := value.toList.map Scalar.toPayload
  merge _ _ payload := (Scalar.ofPayload payload).map some

instance {α : Type} [WordCoded α] : Component (List α) where
  write values :=
    if values.isEmpty then []
    else [.bytes (values.flatMap fun value => Varint.encode (WordCoded.toWord value))]
  merge _ values
    | .varint word => some (values ++ [WordCoded.ofWord word])
    | .bytes content => (readWords content).map fun words => values ++ words.map WordCoded.ofWord
    | _ => none

instance {σ : Type} [Message σ] : Component (Option σ) where
  write message := message.toList.map fun message => .bytes (Message.encode message)
  merge room message payload :=
    (Message.mergePayload room (message.getD default) payload).map some

instance {σ : Type} [Message σ] : Component (List σ) where
  write messages := messages.map fun message => .bytes (Message.encode message)
  merge room messages payload :=
    (Message.mergePayload room default payload).map fun message => messages ++ [message]

/-- The field with a given number, read and replaced by `get` and `set`. -/
def field {σ τ : Type} [Component τ] (number : Nat) (get : σ → τ) (set : σ → τ → σ) :
    Field σ where
  numbers := [number]
  write message := (Component.write (get message)).map fun payload => ⟨number, payload⟩
  merge room message token :=
    (Component.merge room (get message) token.payload).map (set message)

/-! ## Choices -/

/-- One member of a choice `γ` between messages. -/
structure Member (γ : Type) where
  number : Nat
  write : γ → Option Bytes
  merge : (room : Nat) → Option γ → Payload → Option γ

/-- The member with a given number, made by `wrap` and recognised by `unwrap`.
Only the same member takes part in a merge. -/
def member {γ σ : Type} [Message σ] (number : Nat) (wrap : σ → γ) (unwrap : γ → Option σ) :
    Member γ where
  number
  write choice := (unwrap choice).map Message.encode
  merge room choice payload :=
    (Message.mergePayload room ((choice.bind unwrap).getD default) payload).map wrap

/-- The field that holds a choice, or nothing. -/
def choice {σ γ : Type} (members : List (Member γ)) (get : σ → Option γ)
    (set : σ → Option γ → σ) : Field σ where
  numbers := members.map Member.number
  write message :=
    (get message).toList.flatMap fun choice =>
      members.filterMap fun member =>
        (member.write choice).map fun content => ⟨member.number, .bytes content⟩
  merge room message token :=
    (members.find? fun member => member.number == token.number).bind fun member =>
      (member.merge room (get message) token.payload).map fun choice => set message (some choice)

end Tilework.Wire
