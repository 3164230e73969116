import Tilework.Proofs.Wire.Token
import Tilework.Wire.Message

/-!
# Reading written messages

Reading what was written for one message after another message has been read
joins the two.  How they are joined follows from the types of their fields: a
scalar of the later message replaces the earlier one unless it is the default,
lists are appended, and messages inside messages are joined in turn.

The laws are stated for components, for fields and for messages, each from those
of its parts, so the law of a message type needs no more than the list of its
fields.
-/

namespace Tilework.Wire

/-! ## Words and scalars -/

/-- Words are read back as the values they were written for, and zero stands for
the default. -/
class LawfulWordCoded (α : Type) [WordCoded α] [Inhabited α] : Prop where
  ofWord_toWord (value : α) : WordCoded.ofWord (WordCoded.toWord value) = value
  ofWord_zero : WordCoded.ofWord 0 = (default : α)

instance : LawfulWordCoded Int32 where
  ofWord_toWord value := by simp [WordCoded.ofWord, WordCoded.toWord]
  ofWord_zero := rfl

instance : LawfulWordCoded Int64 where
  ofWord_toWord value := by simp [WordCoded.ofWord, WordCoded.toWord]
  ofWord_zero := rfl

instance : LawfulWordCoded UInt32 where
  ofWord_toWord value := by simp [WordCoded.ofWord, WordCoded.toWord]
  ofWord_zero := rfl

instance : LawfulWordCoded UInt64 where
  ofWord_toWord _ := rfl
  ofWord_zero := rfl

instance : LawfulWordCoded Bool where
  ofWord_toWord value := by cases value <;> rfl
  ofWord_zero := rfl

/-- Scalars are read back from the payload that is written for them. -/
class LawfulScalar (α : Type) [Scalar α] : Prop where
  ofPayload_toPayload (value : α) : Scalar.ofPayload (Scalar.toPayload value) = some value
  toPayload_ne_group (value : α) : Scalar.toPayload value ≠ .group

instance {α : Type} [WordCoded α] [Inhabited α] [LawfulWordCoded α] : LawfulScalar α where
  ofPayload_toPayload value := congrArg some (LawfulWordCoded.ofWord_toWord value)
  toPayload_ne_group _ := nofun

instance : LawfulScalar Single where
  ofPayload_toPayload _ := rfl
  toPayload_ne_group _ := nofun

instance : LawfulScalar String where
  ofPayload_toPayload text := Bytes.text?_ofText text
  toPayload_ne_group _ := nofun

instance : LawfulScalar Bytes where
  ofPayload_toPayload _ := rfl
  toPayload_ne_group _ := nofun

/-- Written words are read back in order. -/
theorem readWords_flatMap (words : List UInt64) :
    readWords (words.flatMap Varint.encode) = some words := by
  induction words with
  | nil => simp [readWords]
  | cons word words ih =>
      have first := Varint.read_encode word (words.flatMap Varint.encode)
      rw [List.flatMap_cons]
      cases written : Varint.encode word ++ words.flatMap Varint.encode with
      | nil =>
          rw [written] at first
          cases first
      | cons byte rest =>
          rw [written] at first
          unfold readWords
          split
          · rename_i failed
            rw [first] at failed
            cases failed
          · rename_i found
            rw [first] at found
            cases found
            rw [ih]
            rfl

/-! ## Components -/

/-- A component whose payloads are read back.  Reading what is written for `new`
turns `old` into `join old new`, as long as messages may nest `depth` deep. -/
class LawfulComponent (τ : Type) [Component τ] where
  join : τ → τ → τ
  depth : Nat
  notGroup (value : τ) : .group ∉ Component.write value
  merge_write (room : Nat) (old new : τ) (enough : depth ≤ room)
    (short : ∀ content, .bytes content ∈ Component.write new → content.length < UInt64.size) :
    (Component.write new).foldlM (Component.merge room) old = some (join old new)

/-- A message type whose messages are read back. -/
class LawfulMessage (σ : Type) [Message σ] where
  join : σ → σ → σ
  depth : Nat
  mergeBytes_encode (room : Nat) (old new : σ) (enough : depth ≤ room)
    (short : (Message.encode new).length < UInt64.size) :
    Message.mergeBytes room old (Message.encode new) = some (join old new)

instance {α : Type} [Scalar α] [LawfulScalar α] : LawfulComponent α where
  join old new := if Scalar.isDefault new then old else new
  depth := 0
  notGroup value := by
    by_cases absent : Scalar.isDefault value
    · simp [Component.write, absent]
    · simpa [Component.write, absent] using (LawfulScalar.toPayload_ne_group value).symm
  merge_write room old new _ _ := by
    by_cases absent : Scalar.isDefault new
    · simp [Component.write, absent]
    · simp [Component.write, Component.merge, absent, LawfulScalar.ofPayload_toPayload]

instance {α : Type} [Scalar α] [LawfulScalar α] : LawfulComponent (Option α) where
  join old new := new.or old
  depth := 0
  notGroup value := by
    cases value with
    | none => simp [Component.write]
    | some value => simpa [Component.write] using (LawfulScalar.toPayload_ne_group value).symm
  merge_write room old new _ _ := by
    cases new with
    | none => rfl
    | some new => simp [Component.write, Component.merge, LawfulScalar.ofPayload_toPayload]

instance {α : Type} [WordCoded α] [Inhabited α] [LawfulWordCoded α] : LawfulComponent (List α) where
  join old new := old ++ new
  depth := 0
  notGroup values := by
    cases values <;> simp [Component.write]
  merge_write room old new _ _ := by
    have words : readWords (new.flatMap fun value => Varint.encode (WordCoded.toWord value)) =
        some (new.map WordCoded.toWord) := by
      rw [← List.flatMap_map, readWords_flatMap]
    have values : (new.map WordCoded.toWord).map WordCoded.ofWord = new := by
      simp [Function.comp_def, LawfulWordCoded.ofWord_toWord]
    cases new with
    | nil => simp [Component.write]
    | cons value later =>
        simp only [Component.write, List.isEmpty_cons, Bool.false_eq_true, if_false,
          List.foldlM_cons, List.foldlM_nil, Component.merge, words, Option.map_some, values]
        rfl

/-- A message inside a message is read back when there is room for it. -/
theorem mergePayload_encode {σ : Type} [Message σ] [LawfulMessage σ] {room : Nat} (old new : σ)
    (enough : LawfulMessage.depth σ + 1 ≤ room)
    (short : (Message.encode new).length < UInt64.size) :
    Message.mergePayload room old (.bytes (Message.encode new)) =
      some (LawfulMessage.join old new) := by
  have positive : room ≠ 0 := by omega
  have inner : LawfulMessage.depth σ ≤ room - 1 := by omega
  simp only [Message.mergePayload, positive, if_false]
  exact LawfulMessage.mergeBytes_encode (room - 1) old new inner short

instance {σ : Type} [Message σ] [LawfulMessage σ] : LawfulComponent (Option σ) where
  join old new := (new.map (LawfulMessage.join (old.getD default))).or old
  depth := LawfulMessage.depth σ + 1
  notGroup value := by
    cases value <;> simp [Component.write]
  merge_write room old new enough short := by
    cases new with
    | none => rfl
    | some new =>
        have shortNew := short (Message.encode new) (by simp [Component.write])
        simp [Component.write, Component.merge,
          mergePayload_encode (old.getD default) new enough shortNew]

instance {σ : Type} [Message σ] [LawfulMessage σ] : LawfulComponent (List σ) where
  join old new := old ++ new.map (LawfulMessage.join default)
  depth := LawfulMessage.depth σ + 1
  notGroup values := by simp [Component.write]
  merge_write room old new enough short := by
    induction new generalizing old with
    | nil => simp [Component.write]
    | cons new later ih =>
        have shortNew := short (Message.encode new) (by simp [Component.write])
        have rest := ih (old ++ [LawfulMessage.join default new]) fun content member =>
          short content (by simp only [Component.write] at member ⊢; simp [member])
        simp only [Component.write, Component.merge] at rest
        simp [Component.write, Component.merge,
          mergePayload_encode default new enough shortNew, rest]

/-! ## Fields -/

/-- What a field does when written messages are read back: its tokens carry its
own numbers, and they turn `old` into `join old new`. -/
structure Field.Lawful {σ : Type} (field : Field σ) (depth : Nat) (join : σ → σ → σ) : Prop where
  number_mem : ∀ message, ∀ token ∈ field.write message, token.number ∈ field.numbers
  notGroup : ∀ message, ∀ token ∈ field.write message, token.payload ≠ .group
  merge_write : ∀ room old new, depth ≤ room →
    (∀ token ∈ field.write new, ∀ content, token.payload = .bytes content →
      content.length < UInt64.size) →
    (field.write new).foldlM (field.merge room) old = some (join old new)

/-- Merging payloads into a field is merging them into its component. -/
theorem foldlM_field {σ τ : Type} [Component τ] (number : Nat) {get : σ → τ} {set : σ → τ → σ}
    (get_set : ∀ message value, get (set message value) = value)
    (set_get : ∀ message, set message (get message) = message)
    (set_set : ∀ message first second, set (set message first) second = set message second)
    (room : Nat) (payloads : List Payload) (old : σ) :
    (payloads.map (Token.mk number)).foldlM ((field number get set).merge room) old =
      (payloads.foldlM (Component.merge room) (get old)).map (set old) := by
  induction payloads generalizing old with
  | nil => simp [set_get]
  | cons payload payloads ih =>
      simp only [List.map_cons, List.foldlM_cons, Option.bind_eq_bind]
      simp only [field] at ih ⊢
      cases merged : Component.merge room (get old) payload with
      | none => rfl
      | some value =>
          simp only [Option.map_some, Option.bind_some, ih, get_set]
          congr 1
          funext last
          exact set_set old value last

/-- A field with a single number is lawful when its component is. -/
theorem lawful_field {σ τ : Type} [Component τ] [LawfulComponent τ] {number : Nat} {get : σ → τ}
    {set : σ → τ → σ} (get_set : ∀ message value, get (set message value) = value)
    (set_get : ∀ message, set message (get message) = message)
    (set_set : ∀ message first second, set (set message first) second = set message second) :
    (field number get set).Lawful (LawfulComponent.depth τ) fun old new =>
      set old (LawfulComponent.join (get old) (get new)) := by
  constructor
  · intro message token member
    rcases List.mem_map.mp member with ⟨payload, _, rfl⟩
    exact List.mem_singleton_self number
  · intro message token member
    rcases List.mem_map.mp member with ⟨payload, written, rfl⟩
    intro group
    exact LawfulComponent.notGroup (get message) (group ▸ written)
  · intro room old new enough short
    have merged := LawfulComponent.merge_write room (get old) (get new) enough
      fun content written => short ⟨number, .bytes content⟩ (List.mem_map_of_mem written)
        content rfl
    have whole := foldlM_field number get_set set_get set_set room
      (Component.write (get new)) old
    rw [merged] at whole
    exact whole

/-! ## Choices -/

/-- How the members of a choice join two values.  Only the same member takes part
in a join. -/
inductive MembersJoin {γ : Type} : List (Member γ) → Nat → (Option γ → γ → γ) → Prop
  | nil : MembersJoin [] 0 fun _ new => new
  | cons {σ : Type} [Message σ] [LawfulMessage σ] {number : Nat} {wrap : σ → γ}
      {unwrap : γ → Option σ} {members : List (Member γ)} {depth : Nat}
      {join : Option γ → γ → γ} (later : MembersJoin members depth join) :
      MembersJoin (member number wrap unwrap :: members)
        (max (LawfulMessage.depth σ + 1) depth)
        fun old new =>
          match unwrap new with
          | some message => wrap (LawfulMessage.join ((old.bind unwrap).getD default) message)
          | none => join old new

/-- The tokens that the members of a choice write for a value. -/
def memberTokens {γ : Type} (members : List (Member γ)) (value : γ) : List Token :=
  members.filterMap fun member =>
    (member.write value).map fun content => ⟨member.number, .bytes content⟩

/-- A token that is written for a value is that of a member, with a message in it. -/
theorem exists_of_mem_memberTokens {γ : Type} {members : List (Member γ)} {value : γ}
    {token : Token} (written : token ∈ memberTokens members value) :
    ∃ number ∈ members.map Member.number, ∃ content, token = ⟨number, .bytes content⟩ := by
  rcases List.mem_filterMap.mp written with ⟨member, isMember, found⟩
  rcases Option.map_eq_some_iff.mp found with ⟨content, _, rfl⟩
  exact ⟨member.number, List.mem_map_of_mem isMember, content, rfl⟩

/-- When a single member writes a value, that member reads it back. -/
theorem MembersJoin.merge_write {γ : Type} {members : List (Member γ)} {depth : Nat}
    {join : Option γ → γ → γ} (joins : MembersJoin members depth join)
    (distinct : (members.map Member.number).Nodup) {room : Nat} {old : Option γ} {new : γ}
    {token : Token} (enough : depth ≤ room) (written : memberTokens members new = [token])
    (short : ∀ content, token.payload = .bytes content → content.length < UInt64.size) :
    ((members.find? fun member => member.number == token.number).bind fun member =>
      member.merge room old token.payload) = some (join old new) := by
  induction joins with
  | nil => cases written
  | @cons σ _ _ number wrap unwrap members depth join later ih =>
      have separate := List.nodup_cons.1 distinct
      cases unwrapped : unwrap new with
      | some message =>
          simp only [memberTokens, List.filterMap_cons, member, unwrapped, Option.map_some,
            List.cons.injEq] at written
          rcases written with ⟨rfl, _⟩
          simp only [List.find?_cons, member, beq_self_eq_true, Option.bind_some, unwrapped,
            mergePayload_encode _ message (show LawfulMessage.depth σ + 1 ≤ room by omega)
              (short _ rfl), Option.map_some]
      | none =>
          simp only [memberTokens, List.filterMap_cons, member, unwrapped, Option.map_none]
            at written
          obtain ⟨later, isLater, content, rfl⟩ := exists_of_mem_memberTokens
            (show token ∈ memberTokens members new by simp [memberTokens, written])
          have different : (number == later) = false := by
            rw [beq_eq_false_iff_ne]
            rintro rfl
            exact separate.1 isLater
          simp only [List.find?_cons, member, different, unwrapped]
          exact ih separate.2 (by omega) written

/-- A choice is lawful when its members are and each value is written by a single
one. -/
theorem lawful_choice {σ γ : Type} {members : List (Member γ)} {get : σ → Option γ}
    {set : σ → Option γ → σ} {depth : Nat} {join : Option γ → γ → γ}
    (joins : MembersJoin members depth join) (distinct : (members.map Member.number).Nodup)
    (single : ∀ value, (memberTokens members value).length = 1) :
    (choice members get set).Lawful depth fun old new =>
      match get new with
      | some value => set old (some (join (get old) value))
      | none => old := by
  have tokens (message : σ) : (choice members get set).write message =
      (get message).toList.flatMap (memberTokens members) := rfl
  have inMember (message : σ) (token : Token)
      (written : token ∈ (choice members get set).write message) :
      ∃ number ∈ members.map Member.number, ∃ content, token = ⟨number, .bytes content⟩ := by
    obtain ⟨value, _, written⟩ := List.mem_flatMap.mp (tokens message ▸ written)
    exact exists_of_mem_memberTokens written
  constructor
  · intro message token written
    obtain ⟨number, isMember, content, rfl⟩ := inMember message token written
    exact isMember
  · intro message token written
    obtain ⟨number, isMember, content, rfl⟩ := inMember message token written
    nofun
  · intro room old new enough short
    rw [tokens] at short ⊢
    cases chosen : get new with
    | none => rfl
    | some value =>
        rcases List.length_eq_one_iff.mp (single value) with ⟨token, written⟩
        have whole : (get new).toList.flatMap (memberTokens members) = [token] := by
          simp [chosen, written]
        have merged : ((members.find? fun member => member.number == token.number).bind
            fun member => member.merge room (get old) token.payload) =
              some (join (get old) value) :=
          joins.merge_write distinct enough written (short token (by simp [whole]))
        rcases Option.bind_eq_some_iff.mp merged with ⟨found, isMember, merges⟩
        simp [choice, written, isMember, merges]

/-! ## Messages -/

/-- How the fields of a message type join two messages. -/
inductive FieldsJoin {σ : Type} : List (Field σ) → Nat → (σ → σ → σ) → Prop
  | nil : FieldsJoin [] 0 fun old _ => old
  | cons {field : Field σ} {first : σ → σ → σ} {fields : List (Field σ)} {later : σ → σ → σ}
      {depth rest : Nat} (lawful : field.Lawful depth first)
      (joins : FieldsJoin fields rest later) :
      FieldsJoin (field :: fields) (max depth rest) fun old new => later (first old new) new

/-- The field that a number belongs to is the one that is found. -/
theorem find?_of_mem {σ : Type} {fields : List (Field σ)} {field : Field σ} {number : Nat}
    (distinct : (fields.flatMap Field.numbers).Nodup) (listed : field ∈ fields)
    (owned : number ∈ field.numbers) :
    (fields.find? fun field => field.numbers.contains number) = some field := by
  induction fields with
  | nil => cases listed
  | cons first fields ih =>
      rw [List.flatMap_cons, List.nodup_append] at distinct
      rcases distinct with ⟨_, distinctLater, disjoint⟩
      rcases List.mem_cons.mp listed with rfl | listed
      · simp [owned]
      · have notFirst : number ∉ first.numbers := fun member =>
          disjoint number member number (List.mem_flatMap.mpr ⟨field, listed, owned⟩) rfl
        have absent : first.numbers.contains number = false := by simpa using notFirst
        simp only [List.find?_cons, absent]
        exact ih distinctLater listed

/-- The fields of a lawful message type are lawful. -/
theorem FieldsJoin.lawful_of_mem {σ : Type} {fields : List (Field σ)} {depth : Nat}
    {join : σ → σ → σ} (joins : FieldsJoin fields depth join) {field : Field σ}
    (listed : field ∈ fields) : ∃ room combine, field.Lawful room combine := by
  induction joins with
  | nil => cases listed
  | cons lawful joins ih =>
      rcases List.mem_cons.mp listed with rfl | listed
      · exact ⟨_, _, lawful⟩
      · exact ih listed

/-- Merging tokens that all belong to one field leaves the choice of the field out
of account. -/
theorem foldlM_mergeToken {σ : Type} [Message σ] {field : Field σ}
    (distinct : (Message.fields.flatMap (Field.numbers (σ := σ))).Nodup)
    (listed : field ∈ Message.fields) (room : Nat) {tokens : List Token}
    (owned : ∀ token ∈ tokens, token.number ∈ field.numbers) (old : σ) :
    tokens.foldlM (Message.mergeToken room) old = tokens.foldlM (field.merge room) old := by
  induction tokens generalizing old with
  | nil => rfl
  | cons token tokens ih =>
      have found := find?_of_mem distinct listed (owned token List.mem_cons_self)
      have first : Message.mergeToken room old token = field.merge room old token := by
        simp only [Message.mergeToken, found]
      simp only [List.foldlM_cons, first]
      congr 1
      funext next
      exact ih (fun other member => owned other (List.mem_cons_of_mem token member)) next

/-- The tokens of the fields join the messages field by field. -/
theorem FieldsJoin.merge_write {σ : Type} [Message σ] {fields : List (Field σ)} {depth : Nat}
    {join : σ → σ → σ} (joins : FieldsJoin fields depth join)
    (distinct : (Message.fields.flatMap (Field.numbers (σ := σ))).Nodup)
    (listed : ∀ field ∈ fields, field ∈ Message.fields) {room : Nat} (enough : depth ≤ room)
    (old new : σ)
    (short : ∀ token ∈ fields.flatMap fun field => field.write new, ∀ content,
      token.payload = .bytes content → content.length < UInt64.size) :
    (fields.flatMap fun field => field.write new).foldlM (Message.mergeToken room) old =
      some (join old new) := by
  induction joins generalizing old with
  | nil => rfl
  | @cons field first fields later depth rest lawful joins ih =>
      simp only [List.flatMap_cons, List.mem_append] at short
      have here := lawful.merge_write room old new (by omega)
        fun token written => short token (Or.inl written)
      have there := ih (fun other member => listed other (List.mem_cons_of_mem field member))
        (by omega) (first old new) fun token written => short token (Or.inr written)
      rw [List.flatMap_cons, List.foldlM_append,
        foldlM_mergeToken distinct (listed field List.mem_cons_self) room
          (lawful.number_mem new), here]
      exact there

/-- A message type is lawful when its fields are and no two of them share a
number. -/
@[reducible]
def LawfulMessage.ofFields {σ : Type} [Message σ] {depth : Nat} {join : σ → σ → σ}
    (joins : FieldsJoin Message.fields depth join)
    (distinct : (Message.fields.flatMap (Field.numbers (σ := σ))).Nodup := by decide)
    (legal : ∀ number ∈ Message.fields.flatMap (Field.numbers (σ := σ)),
      0 < number ∧ 8 * number + 5 < UInt32.size := by decide) : LawfulMessage σ where
  join := join
  depth := depth
  mergeBytes_encode room old new enough short := by
    have contents (token : Token) (written : token ∈ Message.tokens new) (content : Bytes)
        (holds : token.payload = .bytes content) : content.length < UInt64.size := by
      have inToken := length_content_le holds
      have inMessage := length_bytes_le_of_mem written
      simp only [Message.encode] at short
      omega
    have read : readTokens room (Message.encode new) = some (Message.tokens new) := by
      apply readTokens_flatMap
      intro token written
      obtain ⟨field, listed, inField⟩ := List.mem_flatMap.mp written
      obtain ⟨_, _, lawful⟩ := joins.lawful_of_mem listed
      have numbered := lawful.number_mem new token inField
      obtain ⟨positive, fits⟩ := legal token.number (List.mem_flatMap.mpr ⟨field, listed, numbered⟩)
      exact ⟨positive, fits, lawful.notGroup new token inField, contents token written⟩
    rw [Message.mergeBytes, read]
    exact joins.merge_write distinct (fun _ listed => listed) enough old new contents

/-- The law of a message type whose first field has a single number. -/
theorem FieldsJoin.field {σ τ : Type} [Component τ] [LawfulComponent τ] {number : Nat}
    {get : σ → τ} {set : σ → τ → σ} {fields : List (Field σ)} {depth : Nat}
    {later : σ → σ → σ} (joins : FieldsJoin fields depth later)
    (get_set : ∀ message value, get (set message value) = value := by intros; rfl)
    (set_get : ∀ message, set message (get message) = message := by intros; rfl)
    (set_set : ∀ message first second, set (set message first) second = set message second := by
      intros; rfl) :
    FieldsJoin (Wire.field number get set :: fields) (max (LawfulComponent.depth τ) depth)
      fun old new => later (set old (LawfulComponent.join (get old) (get new))) new :=
  .cons (lawful_field get_set set_get set_set) joins

/-- The law of a message type whose first field is a choice. -/
theorem FieldsJoin.choice {σ γ : Type} {members : List (Member γ)} {get : σ → Option γ}
    {set : σ → Option γ → σ} {fields : List (Field σ)} {first depth : Nat}
    {join : Option γ → γ → γ} {later : σ → σ → σ} (choices : MembersJoin members first join)
    (joins : FieldsJoin fields depth later)
    (single : ∀ value, (memberTokens members value).length = 1 := by
      intro value; cases value <;> rfl)
    (distinct : (members.map Member.number).Nodup := by decide) :
    FieldsJoin (Wire.choice members get set :: fields) (max first depth) fun old new =>
      later
        (match get new with
          | some value => set old (some (join (get old) value))
          | none => old)
        new :=
  .cons (lawful_choice choices distinct single) joins

/-! ## Reading into nothing -/

/-- Scalars of which only the default is not written. -/
class ExactScalar (α : Type) [Scalar α] [Inhabited α] : Prop where
  eq_default (value : α) : Scalar.isDefault value = true → value = default

instance {α : Type} [WordCoded α] [Inhabited α] [LawfulWordCoded α] : ExactScalar α where
  eq_default value absent := by
    have zero : WordCoded.toWord value = 0 := by simpa [Scalar.isDefault] using absent
    rw [← LawfulWordCoded.ofWord_toWord value, zero, LawfulWordCoded.ofWord_zero]

instance : ExactScalar String where
  eq_default text absent := by
    simp only [Scalar.isDefault, String.isEmpty_iff] at absent
    rw [absent]
    rfl

instance : ExactScalar Bytes where
  eq_default bytes absent := by
    simp only [Scalar.isDefault, List.isEmpty_iff] at absent
    rw [absent]
    rfl

/-- A component that is read back as it was written when nothing was read
before. -/
class ExactComponent (τ : Type) [Component τ] [LawfulComponent τ] where
  empty : τ
  join_empty (value : τ) : LawfulComponent.join empty value = value

theorem LawfulComponent.join_eq {τ : Type} [Component τ] [LawfulComponent τ] [ExactComponent τ]
    {old : τ} (value : τ) (nothing : old = ExactComponent.empty) :
    LawfulComponent.join old value = value := by
  rw [nothing, ExactComponent.join_empty]

/-- A message type whose messages are read back as they were written. -/
class ExactMessage (σ : Type) [Message σ] [LawfulMessage σ] : Prop where
  join_default (message : σ) : LawfulMessage.join default message = message := by
    intro message
    simp only [LawfulMessage.join]
    repeat rw [LawfulComponent.join_eq]
    all_goals rfl

instance {α : Type} [Scalar α] [LawfulScalar α] [Inhabited α] [ExactScalar α] :
    ExactComponent α where
  empty := default
  join_empty value := by
    by_cases absent : Scalar.isDefault value
    · simp [LawfulComponent.join, absent, ← ExactScalar.eq_default value absent]
    · simp [LawfulComponent.join, absent]

instance {α : Type} [Scalar α] [LawfulScalar α] : ExactComponent (Option α) where
  empty := none
  join_empty _ := Option.or_none

instance {α : Type} [WordCoded α] [Inhabited α] [LawfulWordCoded α] : ExactComponent (List α) where
  empty := []
  join_empty _ := rfl

instance {σ : Type} [Message σ] [LawfulMessage σ] [ExactMessage σ] : ExactComponent (Option σ) where
  empty := none
  join_empty message := by
    cases message with
    | none => rfl
    | some message => exact congrArg some (ExactMessage.join_default message)

instance {σ : Type} [Message σ] [LawfulMessage σ] [ExactMessage σ] : ExactComponent (List σ) where
  empty := []
  join_empty messages := by
    have same : (LawfulMessage.join default : σ → σ) = id := funext ExactMessage.join_default
    simp [LawfulComponent.join, same]

/-- The written form of a message is read back as what joining it to the empty
message gives. -/
theorem decode?_encode {σ : Type} [Message σ] [LawfulMessage σ] (message : σ)
    (shallow : LawfulMessage.depth σ ≤ Message.maximumDepth)
    (short : (Message.encode message).length < UInt64.size) :
    Message.decode? (Message.encode message) = some (LawfulMessage.join default message) :=
  LawfulMessage.mergeBytes_encode Message.maximumDepth default message shallow short

end Tilework.Wire
