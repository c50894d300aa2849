import Eligibility.Json.Relaxed
import Eligibility.Json.Strict

/-!
Typed reading of documents. A decoder takes a document or says what is wrong with it, and when several
things are wrong it says the one that comes first in the text.

A record is an object, whose unknown keys are skipped and whose known keys appear once each, or a list
of its fields in their order, which may leave out fields at its end that have a default.
-/

set_option autoImplicit false

namespace Eligibility.Json

abbrev Decoder (α : Type) := Document → Except Problem α

def mismatch {α : Type} (wanted : Wanted) : Decoder α
  | .illegible problem => .error problem
  | .refused problem => .error problem
  | .broken => .error .malformed
  | d => .error (.wrongType d.found wanted)

def decodeText : Decoder String
  | .text s => .ok s
  | d => mismatch .text d

def decodeTruth : Decoder Bool
  | .truth b => .ok b
  | d => mismatch .truth d

def decodeUnit : Decoder Unit
  | .null => .ok ()
  | d => mismatch .unit d

def decodeOptional {α : Type} (decode : Decoder α) : Decoder (Option α)
  | .null => .ok none
  | d => some <$> decode d

def decodeItems {α : Type} (decode : Decoder α) : List Document → Except Problem (List α)
  | [] => .ok []
  | d :: ds => do
    let v ← decode d
    let vs ← decodeItems decode ds
    return v :: vs

def decodeList {α : Type} (decode : Decoder α) : Decoder (List α)
  | .array items closed => do
    let vs ← decodeItems decode items
    if closed then return vs else throw .malformed
  | d => mismatch .sequence d

/-- One of several named variants: its name, or an object that has the name as its key. In a strict
document the object has no other key and its value is null; in a relaxed one neither is looked at. -/
def decodeVariant {α : Type} (form : Form) (ofName : String → Except Problem α) : Decoder α
  | .text s => ofName s
  | .illegible problem => .error problem
  | .object ((key, value) :: rest) closed => do
    let v ← ofName (← key)
    match form with
    | .strict => do
      decodeUnit value
      if rest.isEmpty && closed then return v else throw .malformed
    | .relaxed => return v
  | d => match form, d with
    | .strict, _ => .error .malformed
    | .relaxed, .object _ _ => .error .variantEmpty
    | .relaxed, _ => .error .variantExpected

def skip (form : Form) (d : Document) : Except Problem Unit :=
  match form with
  | .strict => if d.skippable then .ok () else .error .malformed
  | .relaxed => d.value?.map fun _ => ()

/-- A field of a record, as far as reading in the order of the text needs it. -/
structure Field where
  name : String
  required : Bool
  check : Document → Except Problem Unit

structure Fields (α : Type) where
  fields : List Field
  build : (String → Option Document) → Except Problem α

namespace Fields

def required {α : Type} (name : String) (decode : Decoder α) : Fields α where
  fields := [⟨name, true, fun d => discard (decode d)⟩]
  build get := match get name with
    | some d => decode d
    | none => .error (.missingField name)

def withDefault {α : Type} (name : String) (decode : Decoder α) (absent : α) : Fields α where
  fields := [⟨name, false, fun d => discard (decode d)⟩]
  build get := match get name with
    | some d => decode d
    | none => .ok absent

instance : Applicative Fields where
  pure v := ⟨[], fun _ => .ok v⟩
  seq f x :=
    { fields := f.fields ++ (x ()).fields
      build := fun get => do
        let g ← f.build get
        let v ← (x ()).build get
        return g v }

/-- The documents of the known members, each checked as it is met. -/
def readMembers (form : Form) (fields : List Field) :
    List (Key × Document) → List (String × Document) →
      Except Problem (List (String × Document))
  | [], seen => .ok seen
  | (k, d) :: rest, seen => do
    let key ← k
    match fields.find? fun f => f.name == key with
    | none =>
      skip form d
      readMembers form fields rest seen
    | some f =>
      if seen.any fun (name, _) => name == key then throw (.repeatedField key)
      f.check d
      readMembers form fields rest ((key, d) :: seen)

/-- The documents of a list of fields. The list must not go on after the last field of a strict
document; `record` and `total` serve the message about a list that is too short. -/
def readPlaces (form : Form) (record : String) (total : Nat) (closed : Bool) :
    List Field → List Document → Except Problem (List (String × Document))
  | [], [] => if closed then .ok [] else .error .malformed
  | [], _ :: _ => match form with
    | .strict => .error .malformed
    | .relaxed => .ok []
  | f :: fields, [] =>
    if !closed then .error .malformed
    else if f.required then .error (.tooShort (total - (fields.length + 1)) record total)
    else readPlaces form record total closed fields []
  | f :: fields, d :: ds => do
    f.check d
    let rest ← readPlaces form record total closed fields ds
    return (f.name, d) :: rest

def lookup (found : List (String × Document)) (name : String) : Option Document :=
  (found.find? fun (k, _) => k == name).map (·.2)

def decode {α : Type} (x : Fields α) (form : Form) (record : String) : Decoder α
  | .object members closed => do
    let found ← readMembers form x.fields members []
    if closed then x.build (lookup found) else throw .malformed
  | .array items closed => do
    let found ← readPlaces form record x.fields.length closed x.fields items
    x.build (lookup found)
  | d => mismatch (.record record) d

end Fields

/-- Reads a strict text as a whole. What follows the document is looked at last. -/
def decodeStrict {α : Type} (decode : Decoder α) (s : String) : Except Problem α := do
  let (document, clean) := readStrict s
  let v ← decode document
  if clean then return v else throw .malformed

/-- Reads the document that was found in a text, if the text holds one. -/
def decodeFound {α : Type} (decode : Decoder α) : Option Document → Except Problem α
  | some document => decode document
  | none => .error .malformed

def decodeJson : Decoder Json := Document.value?

end Eligibility.Json
