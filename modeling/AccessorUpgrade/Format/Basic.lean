import AccessorUpgrade.DeclaredType.Spelling
import AccessorUpgrade.Format.DecodeError
import AccessorUpgrade.Json.Reader

/-!
# JSON formats

A format writes the values of a type as JSON and reads them back. Reading tells the first fault in
the order of the text. Where JSON comes from makes a difference in a few places, all of them about
input that no format writes.
-/

namespace AccessorUpgrade

/-- Where a decoder takes JSON from. -/
inductive Source where
  /-- A text, read from front to back. -/
  | text
  /-- A part of a text that has been set aside, because another part decides what it means. -/
  | buffered
  /-- A tree that is known to be JSON throughout. -/
  | tree
deriving DecidableEq, Repr

/-- How values of a type stand in JSON. -/
structure Format (α : Type) where
  encode : α → Json
  decode : Source → Json → Except DecodeError α

namespace Format

/-- Strings. -/
def string : Format String where
  encode := .string
  decode _
    | .string s => .ok s
    | value => .error (.mismatch value "a string")

/-- Truth values. -/
def boolean : Format Bool where
  encode := .bool
  decode _
    | .bool b => .ok b
    | value => .error (.mismatch value "a boolean")

/-- Numbers of 32 bits, without sign. -/
def word : Format UInt32 where
  encode n := .natural n.toNat
  decode _
    | .number (.integer n) =>
      if 0 ≤ n && n < 0x100000000 then .ok (UInt32.ofNat n.toNat)
      else .error (.invalidValue (.number (.integer n)) "u32")
    | value => .error (.mismatch value "u32")

/-- Types, by their spelling. -/
def spelled {α : Type} (spelling : α → String) (parse : String → Except SpellingError α) :
    Format α where
  encode t := .string (spelling t)
  decode source value :=
    match string.decode source value with
    | .error e => .error e
    | .ok s => (parse s).mapError .spelling

/-- Lists of values of one format. -/
def list {α : Type} (item : Format α) : Format (List α) where
  encode items := .list (items.map item.encode)
  decode source
    | .array items ending =>
      match items.mapM (item.decode source) with
      | .error e => .error e
      | .ok values => if ending == .closed then .ok values else .error .malformed
    | value => .error (.mismatch value "a sequence")

/-- Values that may be absent, as null. -/
def nullable {α : Type} (f : Format α) : Format (Option α) where
  encode
    | none => .null
    | some value => f.encode value
  decode source
    | .null => .ok none
    | value => (f.decode source value).map some

/-- Reads one of several named alternatives. It is written as its name alone, which `bare` makes a
value of, or as an object with the name as the only key, where `inside` reads what belongs to it. -/
def choice {α : Type} (names : List String) (bare : String → Except DecodeError α)
    (inside : String → Source → Json → Except DecodeError α) (source : Source) (value : Json) :
    Except DecodeError α :=
  match value, source with
  | .string name, _ =>
    if names.contains name then bare name else .error (.unknownVariant name names)
  | .object ((name, value) :: rest) ending, .text =>
    if names.contains name then
      match inside name source value with
      | .error e => .error e
      | .ok a => if rest.isEmpty && ending == .closed then .ok a else .error .malformed
    else .error (.unknownVariant name names)
  | .object [(name, value)] _, _ =>
    if names.contains name then inside name source value else .error (.unknownVariant name names)
  | _, .text => .error .malformed
  | .object .., _ => .error (.invalidValue .map "map with a single key")
  | value, _ => .error (.mismatch value "string or map")

/-- Whether a tree stands for the absence of contents: null, or what has been set aside from an
object without members. -/
def isUnit : Source → Json → Bool
  | _, .null => true
  | .buffered, .object [] _ => true
  | _, _ => false

/-- Constants, by name. -/
def constants {α : Type} (all : List α) (name : α → String) : Format α where
  encode a := .string (name a)
  decode :=
    let find (given : String) : Except DecodeError α :=
      match all.find? (name · == given) with
      | some a => .ok a
      | none => .error (.unknownVariant given (all.map name))
    choice (all.map name) find fun given source value =>
      if isUnit source value then find given else .error (.mismatch value "unit")

end Format

/-- Erased types, by their spelling. -/
def ErasedType.format : Format ErasedType := .spelled ErasedType.spelling ErasedType.parse

/-- Declared types, by their spelling. -/
def DeclaredType.format : Format DeclaredType := .spelled DeclaredType.spelling DeclaredType.parse

/-- Reads a text as a value. A fault of the value counts before the text that follows it. -/
def Format.ofText {α : Type} (f : Format α) (text : String) : Except DecodeError α :=
  let document := Json.read text.toList
  match f.decode .text document.root with
  | .error e => .error e
  | .ok value => if document.clean then .ok value else .error .malformed

end AccessorUpgrade
