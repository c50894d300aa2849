import Eligibility.Json.Basic

/-!
Tokens, and documents built from them. A reading keeps the containers that are open and what may come
next; each token is one step. When a token does not fit, the open containers are closed as broken off.
-/

set_option autoImplicit false

namespace Eligibility.Json

inductive Token where
  | openArray
  | closeArray
  | openObject
  | closeObject
  | comma
  | colon
  /-- A text, which may be a key, or why its escapes write none. -/
  | text (s : Key)
  /-- A bare name, which may be a key, and the value it stands for if it stands for one. -/
  | name (s : Key) (value : Option Document)
  | scalar (d : Document)
  /-- The characters from here on make no token. -/
  | broken

def textDocument : Key → Document
  | .ok s => .text s
  | .error problem => .illegible problem

abbrev Member := Key × Document

/-- A container that is open. Items and members are kept last first. -/
inductive Frame where
  | array (items : List Document)
  | object (members : List Member)
  /-- An object whose next value belongs to `key`. -/
  | member (members : List Member) (key : Key)

inductive Expecting where
  | value
  /-- A value, or the end of the array. -/
  | item
  /-- A key, or the end of the object if `closable`. -/
  | key (closable : Bool)
  | colon
  | separator
  /-- The root is complete; `clean` is false once something follows it. -/
  | nothing (root : Document) (clean : Bool)
  /-- The text broke off. -/
  | stopped (root : Document)

structure Reading where
  frames : List Frame
  expecting : Expecting

namespace Reading

def start : Reading := ⟨[], .value⟩

/-- At most this many containers may be open in a strict document. -/
def depthLimit : Nat := 127

/-- Wraps a document in the open containers, which all break off after it. -/
def brokenOff (inner : Document) : List Frame → Document
  | [] => inner
  | .array items :: rest => brokenOff (.array (inner :: items).reverse false) rest
  | .member members key :: rest => brokenOff (.object ((key, inner) :: members).reverse false) rest
  | .object members :: rest => brokenOff (.object members.reverse false) rest

/-- What was read when nothing more fits. -/
def abandoned (r : Reading) : Document :=
  match r.expecting, r.frames with
  | .nothing root _, _ => root
  | .stopped root, _ => root
  | .value, frames => brokenOff .broken frames
  | .colon, frames => brokenOff .broken frames
  | _, .array items :: rest => brokenOff (.array items.reverse false) rest
  | _, .object members :: rest => brokenOff (.object members.reverse false) rest
  | _, frames => brokenOff .broken frames

def stop (r : Reading) : Reading := ⟨[], .stopped r.abandoned⟩

def put (frames : List Frame) (d : Document) : Reading :=
  match frames with
  | [] => ⟨[], .nothing d true⟩
  | .array items :: rest => ⟨.array (d :: items) :: rest, .separator⟩
  | .member members key :: rest => ⟨.object ((key, d) :: members) :: rest, .separator⟩
  | .object members :: rest => ⟨.object members :: rest, .separator⟩

/-- Puts a closed container. One that lies too deep is refused in a strict document. -/
def close (form : Form) (frames : List Frame) (d : Document) : Reading :=
  if form = .strict ∧ depthLimit ≤ frames.length then put frames (.refused .malformed)
  else put frames d

def beginValue (r : Reading) : Token → Reading
  | .openArray => ⟨.array [] :: r.frames, .item⟩
  | .openObject => ⟨.object [] :: r.frames, .key true⟩
  | .text s => put r.frames (textDocument s)
  | .name _ (some d) => put r.frames d
  | .scalar d => put r.frames d
  | _ => r.stop

def readKey (r : Reading) (t : Token) : Reading :=
  match t, r.frames with
  | .text s, .object members :: rest => ⟨.member members s :: rest, .colon⟩
  | .name s _, .object members :: rest => ⟨.member members s :: rest, .colon⟩
  | _, _ => r.stop

def endObject (form : Form) (r : Reading) : Reading :=
  match r.frames with
  | .object members :: rest => close form rest (.object members.reverse true)
  | _ => r.stop

def endArray (form : Form) (r : Reading) : Reading :=
  match r.frames with
  | .array items :: rest => close form rest (.array items.reverse true)
  | _ => r.stop

/-- After a comma a relaxed document may close its container at once. -/
def afterComma (form : Form) (r : Reading) : Reading :=
  match r.frames with
  | .array _ :: _ => ⟨r.frames, if form = .relaxed then .item else .value⟩
  | _ => ⟨r.frames, .key (form = .relaxed)⟩

def step (form : Form) (r : Reading) (t : Token) : Reading :=
  match r.expecting with
  | .stopped _ => r
  | .nothing root _ => ⟨[], .nothing root false⟩
  | .value => r.beginValue t
  | .item => match t with
    | .closeArray => r.endArray form
    | t => r.beginValue t
  | .key closable => match t with
    | .closeObject => if closable then r.endObject form else r.stop
    | t => r.readKey t
  | .colon => match t with
    | .colon => ⟨r.frames, .value⟩
    | _ => r.stop
  | .separator => match t with
    | .comma => r.afterComma form
    | .closeArray => r.endArray form
    | .closeObject => r.endObject form
    | _ => r.stop

def finish (r : Reading) : Document × Bool :=
  match r.expecting with
  | .nothing root clean => (root, clean)
  | _ => (r.abandoned, true)

end Reading

/-- The document at the start of a list of tokens, and whether nothing follows it. -/
def readTokens (form : Form) (ts : List Token) : Document × Bool :=
  (ts.foldl (Reading.step form) Reading.start).finish

end Eligibility.Json
