import Eligibility.Json.Problem

/-!
JSON values, and documents as they were read. A document may break off at the first place that is not
well formed; whoever reads it meets what stands before that place first.
-/

set_option autoImplicit false

namespace Eligibility

/-- A well-formed value. Members keep their order and may repeat a key. -/
inductive Json where
  | null
  | truth (b : Bool)
  | integer (n : Int)
  | double (x : Binary64)
  | text (s : String)
  | array (items : List Json)
  | object (members : List (String × Json))

namespace Json

/-- The key of a member: a text, or why its escapes write none. -/
abbrev Key := Except Problem String

inductive Document where
  | null
  | truth (b : Bool)
  | integer (n : Int)
  | double (x : Binary64)
  | text (s : String)
  /-- A text whose escapes write nothing. -/
  | illegible (problem : Problem)
  /-- `closed` is false when the text breaks off after the last item. -/
  | array (items : List Document) (closed : Bool)
  | object (members : List (Key × Document)) (closed : Bool)
  /-- Written well enough to be skipped, but no value: reading it is the given problem. -/
  | refused (problem : Problem)
  /-- The text is not well formed from here on. -/
  | broken

mutual

def Document.value? : Document → Except Problem Json
  | .null => .ok .null
  | .truth b => .ok (.truth b)
  | .integer n => .ok (.integer n)
  | .double x => .ok (.double x)
  | .text s => .ok (.text s)
  | .array items closed => do
    let values ← itemValues? items
    if closed then .ok (.array values) else .error .malformed
  | .object members closed => do
    let values ← memberValues? members
    if closed then .ok (.object values) else .error .malformed
  | .illegible problem => .error problem
  | .refused problem => .error problem
  | .broken => .error .malformed

def itemValues? : List Document → Except Problem (List Json)
  | [] => .ok []
  | d :: ds => do
    let v ← d.value?
    let vs ← itemValues? ds
    .ok (v :: vs)

def memberValues? : List (Key × Document) → Except Problem (List (String × Json))
  | [] => .ok []
  | (key, d) :: ds => do
    let k ← key
    let v ← d.value?
    let vs ← memberValues? ds
    .ok ((k, v) :: vs)

end

mutual

def toDocument : Json → Document
  | .null => .null
  | .truth b => .truth b
  | .integer n => .integer n
  | .double x => .double x
  | .text s => .text s
  | .array items => .array (itemDocuments items) true
  | .object members => .object (memberDocuments members) true

def itemDocuments : List Json → List Document
  | [] => []
  | v :: vs => v.toDocument :: itemDocuments vs

def memberDocuments : List (String × Json) → List (Key × Document)
  | [] => []
  | (k, v) :: vs => (.ok k, v.toDocument) :: memberDocuments vs

end

mutual

/-- Whether the document can be skipped: it is well formed up to its end. -/
def Document.skippable : Document → Bool
  | .array items closed => closed && allSkippable items
  | .object members closed => closed && allMembersSkippable members
  | .broken => false
  | _ => true

def allSkippable : List Document → Bool
  | [] => true
  | d :: ds => d.skippable && allSkippable ds

def allMembersSkippable : List (Key × Document) → Bool
  | [] => true
  | (_, d) :: ds => d.skippable && allMembersSkippable ds

end

def Document.found : Document → Found
  | .truth b => .truth b
  | .integer n => .integer n
  | .double x => .double x
  | .text s => .text s
  | .array _ _ => .sequence
  | .object _ _ => .map
  | _ => .null

mutual

theorem value?_toDocument : (v : Json) → v.toDocument.value? = .ok v
  | .null | .truth _ | .integer _ | .double _ | .text _ => rfl
  | .array items => by
    simp [toDocument, Document.value?, itemValues?_itemDocuments items, bind, Except.bind]
  | .object members => by
    simp [toDocument, Document.value?, memberValues?_memberDocuments members, bind, Except.bind]

theorem itemValues?_itemDocuments : (vs : List Json) → itemValues? (itemDocuments vs) = .ok vs
  | [] => rfl
  | v :: vs => by
    simp [itemDocuments, itemValues?, value?_toDocument v, itemValues?_itemDocuments vs, bind,
      Except.bind]

theorem memberValues?_memberDocuments :
    (vs : List (String × Json)) → memberValues? (memberDocuments vs) = .ok vs
  | [] => rfl
  | (k, v) :: vs => by
    simp [memberDocuments, memberValues?, value?_toDocument v, memberValues?_memberDocuments vs,
      bind, Except.bind]

end

end Json

end Eligibility
