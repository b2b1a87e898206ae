import CoEdit.Json.Token
import CoEdit.Json.Value

/-!
# Reading JSON documents

The reader takes one token at a time and keeps the brackets that are still open. It reads the value of a document (`Json.value?`).
In a tree the brackets may be nested at most 127 deep, and all of the value must be had (`Json.document?`); there every entry of an
object is kept in its order, until of two entries with one key the later stands (`Tree.ofJson?`).
-/

namespace CoEdit.Json

/-- An open bracket, with what stands before the present value inside it, the latest first. -/
inductive Frame where
  | array (items : List Value)
  | object (entries : List (Option String × Value)) (key : Option String)
  deriving Repr

/-- What may come next. -/
inductive Need where
  | value
  | itemOrClose
  | keyOrClose
  | key
  | colon
  | separator
  | nothing (v : Value)
  deriving Repr

/-- The open brackets, innermost first, and what may come next. -/
structure Reader where
  frames : List Frame := []
  need : Need := .value
  deriving Repr

/-- Puts a complete value where it belongs. -/
def Reader.place (frames : List Frame) (v : Value) : Reader :=
  match frames with
  | [] => ⟨[], .nothing v⟩
  | .array items :: rest => ⟨.array (v :: items) :: rest, .separator⟩
  | .object es k :: rest => ⟨.object ((k, v) :: es) k :: rest, .separator⟩

/-- Closes the innermost bracket if it is an array's. -/
def Reader.closeArray : List Frame → Option Reader
  | .array items :: rest => some (.place rest (.array items.reverse))
  | _ => none

/-- Closes the innermost bracket if it is an object's. -/
def Reader.closeObject : List Frame → Option Reader
  | .object es _ :: rest => some (.place rest (.object es.reverse))
  | _ => none

/-- Takes a token where a value is wanted. -/
def Reader.value (frames : List Frame) : Token → Option Reader
  | .null => some (.place frames .null)
  | .bool b => some (.place frames (.bool b))
  | .number n => some (.place frames (.number n))
  | .string s => some (.place frames (.string s))
  | .openArray => some ⟨.array [] :: frames, .itemOrClose⟩
  | .openObject => some ⟨.object [] none :: frames, .keyOrClose⟩
  | _ => none

/-- Takes a token where a key is wanted. -/
def Reader.key : List Frame → Token → Option Reader
  | .object es _ :: rest, .string k => some ⟨.object es k :: rest, .colon⟩
  | _, _ => none

/-- Takes one token. -/
def Reader.step (r : Reader) (t : Token) : Option Reader :=
  match r.need with
  | .value => Reader.value r.frames t
  | .itemOrClose => match t with
    | .closeArray => Reader.closeArray r.frames
    | t => Reader.value r.frames t
  | .keyOrClose => match t with
    | .closeObject => Reader.closeObject r.frames
    | t => Reader.key r.frames t
  | .key => Reader.key r.frames t
  | .colon => match t with
    | .colon => some ⟨r.frames, .value⟩
    | _ => none
  | .separator => match t, r.frames with
    | .comma, .array _ :: _ => some ⟨r.frames, .value⟩
    | .comma, .object _ _ :: _ => some ⟨r.frames, .key⟩
    | .closeArray, frames => Reader.closeArray frames
    | .closeObject, frames => Reader.closeObject frames
    | _, _ => none
  | .nothing _ => none

/-- The value a complete run has read. -/
def Reader.result (r : Reader) : Option Value :=
  match r.need with
  | .nothing v => some v
  | _ => none

/-- The value of a sequence of tokens. -/
def ofTokens? (ts : List Token) : Option Value := (ts.foldlM Reader.step {}).bind Reader.result

/-- The value of a document, as it is written. -/
def value? (text : String) : Option Value := (tokens? text.toList).bind ofTokens?

/-- How deep the brackets of a tree may be nested. -/
def depthLimit : Nat := 127

/-- The tree of a document as it is written, with every entry of its objects. -/
def document? (text : String) : Option Tree :=
  (value? text).bind fun v => if v.depth ≤ depthLimit then v.tree? else none

end CoEdit.Json

namespace CoEdit

/-- The tree of a JSON document, if it is one. -/
def Tree.ofJson? (text : String) : Option Tree := (Json.document? text).map Tree.settled

end CoEdit
