import Tilework.Sharding.Dimensions

/-!
# Sharding annotations

Frontends annotate tensors with short strings:

```text
annotation := "{" token (" " token)* "}"
token      := "manual" | "replicated" | "maximal" | "device=" int
            | "devices=" dims "<=" dims ["T" ...] | "last_tile_dim_replicate"
dims       := "[" int ("," int)* "]"
```

A token is legal only after certain others: any of `manual`, `replicated`,
`maximal` and `devices=` may open an annotation or follow `manual`, `device=`
must follow `maximal`, and `last_tile_dim_replicate` must follow `devices=` or
another of its kind.  Unknown tokens, the empty ones between two blanks among
them, are passed over wherever they stand.  What follows a `T` after the device
list is not interpreted.
-/

namespace Tilework.Sharding

/-! ## Pieces of text -/

/-- The pieces between occurrences of a separator. -/
def pieces (separator : Char) : List Char → List (List Char)
  | [] => [[]]
  | char :: rest =>
      if char = separator then [] :: pieces separator rest
      else
        match pieces separator rest with
        | [] => [[char]]
        | piece :: later => (char :: piece) :: later

/-- The text before and after the first arrow `<=`. -/
def cutAtArrow? : List Char → Option (List Char × List Char)
  | [] => none
  | char :: rest =>
      if char = '<' ∧ rest.head? = some '=' then some ([], rest.tail)
      else (cutAtArrow? rest).map fun (before, after) => (char :: before, after)

/-- The text between an opening and a closing mark. -/
def enclosed? (opening closing : Char) : List Char → Option (List Char)
  | [] => none
  | char :: rest =>
      if char = opening ∧ rest.getLast? = some closing then some rest.dropLast else none

/-- The text after a given beginning. -/
def after? : (beginning : List Char) → List Char → Option (List Char)
  | [], text => some text
  | _ :: _, [] => none
  | wanted :: beginning, char :: text =>
      if wanted = char then after? beginning text else none

/-! ## Numbers and lists of numbers -/

/-- The value of a decimal digit. -/
def digit? (char : Char) : Option Nat :=
  if '0' ≤ char ∧ char ≤ '9' then some (char.toNat - 48) else none

/-- The number that a nonempty row of decimal digits denotes. -/
def natural? : List Char → Option Nat
  | [] => none
  | char :: rest =>
      (char :: rest).foldlM (fun value char => (digit? char).map (10 * value + ·)) 0

/-- The integer that a row of digits with an optional sign denotes. -/
def integer? (text : List Char) : Option Int64 :=
  match text with
  | '+' :: digits => (natural? digits).bind fun (value : Nat) => Number.int64? value
  | '-' :: digits => (natural? digits).bind fun (value : Nat) => Number.int64? (-value)
  | digits => (natural? digits).bind fun (value : Nat) => Number.int64? value

/-- Read an integer. -/
def readInteger (text : List Char) : Except ShardingError Int64 :=
  match integer? text with
  | some value => .ok value
  | none => .error (.invalidInteger (String.ofList text))

/-- Read a bracketed list of integers. -/
def readDimensions (text : List Char) : Except ShardingError (List Int64) :=
  match enclosed? '[' ']' text with
  | some inner => (pieces ',' inner).mapM readInteger
  | none => .error (.invalidDimensions (String.ofList text))

/-! ## Tokens -/

/-- The tokens of an annotation. -/
inductive Token
  | manual
  | replicated
  | maximal
  | device (id : List Char)
  | devices (payload : List Char)
  | lastTileReplicates
  | unknown
  deriving DecidableEq

/-- The token that a piece of text spells. -/
def Token.ofText (text : List Char) : Token :=
  if text = "manual".toList then .manual
  else if text = "replicated".toList then .replicated
  else if text = "maximal".toList then .maximal
  else if text = "last_tile_dim_replicate".toList then .lastTileReplicates
  else
    match after? "devices=".toList text, after? "device=".toList text with
    | some payload, _ => .devices payload
    | none, some id => .device id
    | none, none => .unknown

/-- Read the shard shape and the mesh of a `devices=` token. -/
def readDevices (payload : List Char) (sharding : Sharding) :
    Except ShardingError Sharding := do
  let (axes, rest) := (cutAtArrow? payload).getD (payload, [])
  let shardShape ← readDimensions axes
  let meshShape ← readDimensions ((pieces 'T' rest).headD [])
  pure { sharding with shardShape, meshShape }

/-- Read one token. -/
def readToken (state : ShardingProgress × Sharding) (text : List Char) :
    Except ShardingError (ShardingProgress × Sharding) :=
  let (progress, sharding) := state
  let unexpected := .error (.unexpectedToken (String.ofList text) progress)
  let opening := progress = .start ∨ progress = .manual
  let push := fun size => { sharding with shardShape := sharding.shardShape ++ [size] }
  match Token.ofText text with
  | .manual => if opening then .ok (.manual, push 1) else unexpected
  | .replicated => if opening then .ok (.replicated, push 1) else unexpected
  | .maximal => if opening then .ok (.awaitingDevice, push 1) else unexpected
  | .device id =>
      if progress = .awaitingDevice then
        (readInteger id).map fun device => (.maximal, push device)
      else unexpected
  | .devices payload =>
      if opening then
        (readDevices payload sharding).map fun sharding => (.devices, sharding)
      else unexpected
  | .lastTileReplicates =>
      if progress = .devices then
        .ok (.devices, { sharding with lastTileReplicates := true })
      else unexpected
  | .unknown => .ok state

/-- The kind of sharding that an annotation describes when it ends here. -/
def kindAfter : ShardingProgress → Except ShardingError ShardKind
  | .start | .manual => .ok .manual
  | .replicated => .ok .replicate
  | .awaitingDevice => .error .missingMaximalDevice
  | .maximal => .ok .maximal
  | .devices => .ok .devices

/-- Settle the fields that the tokens leave open.  Without devices both the mesh
and its assignment are the placeholder `[-1]`. -/
def settle (sharding : Sharding) : Except ShardingError Sharding :=
  if sharding.splitsDevices then
    match sharding.complete with
    | (sharding, .ok ()) => .ok sharding
    | (_, .error error) => .error error
  else .ok { sharding with meshShape := [-1], shardDims := [-1] }

/-- Read the tokens of an annotation, and complete the sharding. -/
def readTokens (texts : List (List Char)) : Except ShardingError Sharding := do
  let (progress, sharding) ← texts.foldlM readToken (.start, {})
  let kind ← kindAfter progress
  settle { sharding with kind }

/-- Read an annotation. -/
def parse (input : String) : Except ShardingError Sharding :=
  match enclosed? '{' '}' input.toList with
  | some body => readTokens (pieces ' ' body)
  | none => .error (.missingBraces input)

end Tilework.Sharding
