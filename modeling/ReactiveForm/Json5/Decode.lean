import ReactiveForm.Json5.Number
import ReactiveForm.Json5.Parser
import ReactiveForm.StringMap
import ReactiveForm.Text.Printable

/-!
# `ReactiveForm.Json5.Decode` — from values to what a program expects

A record may be written as an object, or as an array of its fields in order. Members that no field
claims are skipped, but what they hold has to be readable. An error is reported at the innermost value
that shows it.

## Contents
- `DataFault` and `DataError`, with `DataFault.message`.
- `Value.asText`, `asBool`, `asItems` and `asTextMap`; `Value.mismatch`; `Value.check` for what is
  skipped.
- `Value.asRecord`, for flat records, and `Value.asVariant`, for choices.
- `ReadError`, a text that cannot be read for either reason.
-/

namespace ReactiveForm

namespace Json5

/-! ## Errors -/

/-- What was found where something else was expected. -/
inductive Found where
  | null
  | bool (value : Bool)
  | number (value : Number)
  | text (value : String)
  | sequence
  | map
  deriving DecidableEq, Repr

/-- How a value is named in a message. -/
def Found.describe : Found → String
  | null => "unit value"
  | bool b => "boolean `" ++ (if b then "true" else "false") ++ "`"
  | number n => n.describe
  | text s => "string " ++ Text.visible s
  | sequence => "sequence"
  | map => "map"

/-- Why a value is not what is expected. -/
inductive DataFault where
  | number (fault : NumberFault)
  | text (fault : TextFault)
  | mismatch (found : Found) (expected : String)
  | missingField (name : String)
  | duplicateField (name : String)
  | tooShort (length : Nat) (expected : String)
  | unknownVariant (found : String) (variants : List String)
  | notVariant
  | emptyVariant
  deriving DecidableEq, Repr

/-- The text of a fault. -/
def DataFault.message : DataFault → String
  | number fault => fault.message
  | text fault => fault.message
  | mismatch found expected => "invalid type: " ++ found.describe ++ ", expected " ++ expected
  | missingField name => "missing field `" ++ name ++ "`"
  | duplicateField name => "duplicate field `" ++ name ++ "`"
  | tooShort length expected =>
    "invalid length " ++ toString length ++ ", expected " ++ expected
  | unknownVariant found variants =>
    "unknown variant `" ++ found ++ "`, expected " ++
      " or ".intercalate (variants.map fun v => "`" ++ v ++ "`")
  | notVariant => "expected a string or an object"
  | emptyVariant => "expected a nonempty object"

/-- A fault, and the number of characters left where the value begins that shows it. -/
structure DataError where
  fault : DataFault
  remaining : Nat
  deriving DecidableEq, Repr

/-- What decoding answers with. -/
abbrev Decoded := Except DataError

/-- Why a text cannot be read. -/
inductive ReadError where
  | syntaxError (at_ : Location)
  | data (fault : DataFault) (at_ : Location)
  deriving DecidableEq, Repr

namespace ReadError

/-- The text of an error. That of a syntax error begins with its place. -/
def message : ReadError → String
  | syntaxError at_ =>
    " --> " ++ toString at_.line ++ ":" ++ toString at_.column ++ "\n  |\n  = not JSON5 from here on"
  | data fault _ => fault.message

end ReadError

/-- Reads a text and decodes its value. -/
def read {α : Type} (decode : Value → Decoded α) (text : String) : Except ReadError α :=
  let cs := text.toList
  match parse cs with
  | .error e => .error (.syntaxError (.ofRemaining cs e.remaining))
  | .ok v => (decode v).mapError fun e => .data e.fault (.ofRemaining cs e.remaining)

/-! ## Simple values -/

/-- The text of a key. -/
def Key.text (k : Key) : Decoded String := (textOf k.pieces).mapError fun f => ⟨.text f, k.remaining⟩

namespace Value

/-- What a value is found to be; numbers and strings have to be readable for that. -/
def found (v : Value) : Decoded Found :=
  match v with
  | .null _ => .ok .null
  | .bool _ b => .ok (.bool b)
  | .number r text => ((numberOf text).map .number).mapError fun f => ⟨.number f, r⟩
  | .string r pieces => ((textOf pieces).map .text).mapError fun f => ⟨.text f, r⟩
  | .array _ _ => .ok .sequence
  | .object _ _ => .ok .map

/-- The error of a value of the wrong kind. -/
def mismatch {α : Type} (v : Value) (expected : String) : Decoded α := do
  throw ⟨.mismatch (← v.found) expected, v.remaining⟩

/-- The text that a value is. -/
def asText (v : Value) : Decoded String :=
  match v with
  | .string r pieces => (textOf pieces).mapError fun f => ⟨.text f, r⟩
  | v => v.mismatch "a string"

/-- The truth value that a value is. -/
def asBool (v : Value) : Decoded Bool :=
  match v with
  | .bool _ b => .ok b
  | v => v.mismatch "a boolean"

/-- The text that a value is, when it is not null. -/
def asOptionalText (v : Value) : Decoded (Option String) :=
  match v with
  | .null _ => .ok none
  | v => v.asText.map some

/-- The texts that the members of an object give to its keys; the last one of a key counts. -/
def asTextMap (v : Value) : Decoded (StringMap String) :=
  match v with
  | .object _ members =>
    members.foldlM (fun m (key, value) => do return m.insert (← key.text) (← value.asText)) .empty
  | v => v.mismatch "a map"

mutual

/-- Makes sure that a value which is skipped can be read. -/
def check : Value → Decoded Unit
  | .array _ items => checkItems items
  | .object _ members => checkMembers members
  | v => v.found.map fun _ => ()

/-- Makes sure that some items can be read. -/
def checkItems : List Value → Decoded Unit
  | [] => .ok ()
  | item :: rest => do
    item.check
    checkItems rest

/-- Makes sure that some members can be read. -/
def checkMembers : List (Key × Value) → Decoded Unit
  | [] => .ok ()
  | (key, value) :: rest => do
    let _ ← key.text
    value.check
    checkMembers rest

end

/-! ## Records and choices -/

/-- A field of a record: its name, and how its value changes what has been decoded so far. -/
structure Field (σ : Type) where
  name : String
  decode : σ → Value → Decoded σ

/-- Decodes the members of an object in order. `seen` holds the names of the fields that have been
decoded, each of which may come once. -/
def decodeMembers {σ : Type} (start : Nat) (fields : List (Field σ)) :
    List String → σ → List (Key × Value) → Decoded σ
  | _, acc, [] => .ok acc
  | seen, acc, (key, value) :: rest => do
    let name ← key.text
    match fields.find? (·.name == name) with
    | some field =>
      if seen.contains name then throw ⟨.duplicateField name, start⟩
      decodeMembers start fields (name :: seen) (← field.decode acc value) rest
    | none =>
      value.check
      decodeMembers start fields seen acc rest

/-- Decodes the items of an array as the fields in order. Items beyond the last field are not looked
at. -/
def decodeItems {σ : Type} : List (Field σ) → σ → List Value → Decoded σ
  | field :: fields, acc, item :: rest => do decodeItems fields (← field.decode acc item) rest
  | _, acc, _ => .ok acc

/-- The record that a value is, all of whose fields have defaults. -/
def asRecord {σ : Type} (v : Value) (expected : String) (fields : List (Field σ)) (default : σ) :
    Decoded σ :=
  match v with
  | .object r members => decodeMembers r fields [] default members
  | .array _ items => decodeItems fields default items
  | v => v.mismatch expected

/-- The choice that a text names, which stands at the given place. -/
def variantOf {α : Type} (variants : List (String × α)) (name : String) (remaining : Nat) :
    Decoded α :=
  match variants.lookup name with
  | some choice => .ok choice
  | none => .error ⟨.unknownVariant name (variants.map Prod.fst), remaining⟩

/-- The choice that a value names: a string, or an object whose first key is the name. -/
def asVariant {α : Type} (v : Value) (variants : List (String × α)) : Decoded α :=
  match v with
  | .string r _ => do variantOf variants (← v.asText) r
  | .object _ ((key, _) :: _) => do variantOf variants (← key.text) key.remaining
  | .object r [] => .error ⟨.emptyVariant, r⟩
  | v => .error ⟨.notVariant, v.remaining⟩

end Value

end Json5

end ReactiveForm
