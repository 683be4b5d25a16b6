import AccessorUpgrade.Json.Number
import AccessorUpgrade.Text.Hex

/-!
# Reading JSON text

The reader is a machine that takes the text character by character: a stack of open arrays and
objects, and a mode that says what may come next. It never fails; where the text stops being JSON
the machine stops, and `State.finish` closes what is open with a mark. So whoever looks at the tree
in the order of the text meets the first fault where the text has it.
-/

namespace AccessorUpgrade.Json

/-- How many arrays and objects may lie in each other and still have a value. -/
def nestingLimit : Nat := 127

/-- What an open object does with values. -/
inductive Keys where
  /-- Every key so far has been a string, and values are kept. -/
  | readable
  /-- A key has been without a value of its own. What follows it is not kept. -/
  | unreadable
deriving DecidableEq, Repr

/-- The ending of an object that is closed by its brace. -/
def Keys.ending : Keys → Ending
  | .readable => .closed
  | .unreadable => .unreadableKey

/-- An open array or object, with the level it lies at. What it holds stands in reverse order. -/
inductive Frame where
  | array (level : Nat) (items : List Json)
  | object (level : Nat) (members : List (String × Json)) (key : String) (keys : Keys)
deriving Inhabited

/-- The level of an open array or object; the outermost has level one. -/
def Frame.level : Frame → Nat
  | .array level _ => level
  | .object level _ _ _ => level

/-- Takes up a value that has been read. -/
def Frame.add : Frame → Json → Frame
  | .array level items, value => .array level (value :: items)
  | .object level members key .unreadable, _ => .object level members key .unreadable
  | .object level members key keys, value => .object level ((key, value) :: members) key keys

/-- The array or object, closed by its bracket. -/
def Frame.close (frame : Frame) : Json :=
  if nestingLimit < frame.level then
    .unreadable
  else
    match frame with
    | .array _ items => .array items.reverse .closed
    | .object _ members _ keys => .object members.reverse keys.ending

/-- The array or object, stopped before its bracket. -/
def Frame.cut (frame : Frame) : Json :=
  if nestingLimit < frame.level then
    .broken
  else
    match frame with
    | .array _ items => .array items.reverse .cut
    | .object _ members _ _ => .object members.reverse .cut

/-- Where a reader stands inside a string. -/
inductive Escape where
  | none
  | backslash
  /-- Inside `\u`: digits still to come, the code unit so far. -/
  | unit (missing : Nat) (code : Nat)
deriving DecidableEq, Repr

/-- A string as far as it has been read, in reverse order. -/
structure StringText where
  chars : List Char
  escape : Escape
  /-- The first half of a surrogate pair, when the second half has to follow at once. -/
  high : Option Nat
  /-- Whether half of a surrogate pair has been met alone. -/
  unpaired : Bool
deriving Repr

/-- The start of a string. -/
def StringText.start : StringText := ⟨[], .none, none, false⟩

/-- The string, when all of it has a value. -/
def StringText.value (t : StringText) : Option String :=
  if t.unpaired || t.high.isSome then none else some (String.ofList t.chars.reverse)

/-- Appends a character that is written as itself or by a short escape. -/
def StringText.push (t : StringText) (c : Char) : StringText :=
  { t with
    chars := c :: t.chars, escape := .none, high := none, unpaired := t.unpaired || t.high.isSome }

/-- Appends a UTF-16 code unit. -/
def StringText.pushUnit (t : StringText) (code : Nat) : StringText :=
  let t := { t with escape := .none }
  if 0xdc00 ≤ code && code ≤ 0xdfff then
    match t.high with
    | some high =>
      let scalar := 0x10000 + (high - 0xd800) * 0x400 + (code - 0xdc00)
      { t with chars := Char.ofNat scalar :: t.chars, high := none }
    | none => { t with unpaired := true }
  else if 0xd800 ≤ code && code ≤ 0xdbff then
    { t with high := some code, unpaired := t.unpaired || t.high.isSome }
  else
    t.push (Char.ofNat code)

/-- The character of a short escape. -/
def shortEscape? : Char → Option Char
  | '"' => some '"'
  | '\\' => some '\\'
  | '/' => some '/'
  | 'b' => some '\x08'
  | 'f' => some '\x0c'
  | 'n' => some '\n'
  | 'r' => some '\r'
  | 't' => some '\t'
  | _ => none

/-- What a character does to a string. -/
inductive StringText.Next where
  | continues (t : StringText)
  | ends
  | malformed

/-- Reads one character of a string. Control characters must be escaped. -/
def StringText.next (t : StringText) (c : Char) : StringText.Next :=
  match t.escape with
  | .none =>
    if c == '"' then .ends
    else if c == '\\' then .continues { t with escape := .backslash }
    else if c.toNat < 0x20 then .malformed
    else .continues (t.push c)
  | .backslash =>
    if c == 'u' then .continues { t with escape := .unit 4 0 }
    else
      match shortEscape? c with
      | some escaped => .continues (t.push escaped)
      | none => .malformed
  | .unit missing code =>
    match Text.hexValue? c with
    | none => .malformed
    | some digit =>
      let code := code * 16 + digit
      if missing ≤ 1 then .continues (t.pushUnit code)
      else .continues { t with escape := .unit (missing - 1) code }

/-- What may come next. -/
inductive Mode where
  /-- A value; right after an opening bracket also the closing one. -/
  | value (closable : Bool)
  /-- A key; right after an opening brace also the closing one. -/
  | key (closable : Bool)
  | colon
  /-- A value is complete. -/
  | after
  | string (isKey : Bool) (text : StringText)
  /-- The rest of `null`, `true` or `false`, and its value. -/
  | word (rest : List Char) (value : Json)
  | literal (literal : Literal)

/-- The reader between two characters. -/
structure State where
  stack : List Frame
  mode : Mode
  /-- The outermost value, once it is complete. -/
  root : Option Json
  /-- Whether a character has been met that no JSON text has at this place. -/
  stopped : Bool

namespace State

/-- The reader before the first character. -/
def start : State := ⟨[], .value false, none, false⟩

/-- The reader at a character that cannot be. -/
def stop (s : State) : State := { s with stopped := true }

/-- The reader with a value complete. -/
def deliver (s : State) (value : Json) : State :=
  match s.stack with
  | [] => { s with mode := .after, root := some value }
  | frame :: rest => { s with mode := .after, stack := frame.add value :: rest }

/-- The level of the next array or object to open. -/
def nextLevel (s : State) : Nat :=
  match s.stack with
  | [] => 1
  | frame :: _ => frame.level + 1

/-- Closes the innermost array or object. -/
def closeFrame (s : State) : State :=
  match s.stack with
  | [] => s.stop
  | frame :: rest => { s with stack := rest }.deliver frame.close

/-- Records a key of the innermost object. -/
def setKey (s : State) (key : Option String) : State :=
  match s.stack with
  | .object level members _ keys :: rest =>
    let frame : Frame :=
      match key with
      | some key => .object level members key keys
      | none => .object level members "" .unreadable
    { s with mode := .colon, stack := frame :: rest }
  | _ => s.stop

/-- The start of a value. -/
def openValue (s : State) (closable : Bool) (c : Char) : State :=
  if c == '"' then { s with mode := .string false .start }
  else if c == '[' then
    { s with mode := .value true, stack := .array s.nextLevel [] :: s.stack }
  else if c == '{' then
    { s with mode := .key true, stack := .object s.nextLevel [] "" .readable :: s.stack }
  else if c == 'n' then { s with mode := .word ['u', 'l', 'l'] .null }
  else if c == 't' then { s with mode := .word ['r', 'u', 'e'] (.bool true) }
  else if c == 'f' then { s with mode := .word ['a', 'l', 's', 'e'] (.bool false) }
  else if c == '-' then { s with mode := .literal .ofSign }
  else if c.isDigit then { s with mode := .literal (.ofDigit c) }
  else if c == ']' && closable then s.closeFrame
  else s.stop

/-- The character after a complete value. -/
def afterValue (s : State) (c : Char) : State :=
  match s.stack with
  | .array .. :: _ =>
    if c == ',' then { s with mode := .value false }
    else if c == ']' then s.closeFrame
    else s.stop
  | .object .. :: _ =>
    if c == ',' then { s with mode := .key false }
    else if c == '}' then s.closeFrame
    else s.stop
  | [] => s.stop

/-- The white space of JSON. -/
def isSpace (c : Char) : Bool := c == ' ' || c == '\n' || c == '\t' || c == '\r'

/-- Reads one character between the parts of a value. -/
def stepBetween (s : State) (c : Char) : State :=
  if isSpace c then s
  else
    match s.mode with
    | .value closable => s.openValue closable c
    | .key closable =>
      if c == '"' then { s with mode := .string true .start }
      else if c == '}' && closable then s.closeFrame
      else s.stop
    | .colon => if c == ':' then { s with mode := .value false } else s.stop
    | _ => s.afterValue c

/-- Reads one character. -/
def step (s : State) (c : Char) : State :=
  if s.stopped then s
  else
    match s.mode with
    | .string isKey text =>
      match text.next c with
      | .continues text => { s with mode := .string isKey text }
      | .malformed => s.stop
      | .ends =>
        if isKey then s.setKey text.value
        else s.deliver (text.value.elim .unreadable .string)
    | .word rest value =>
      match rest with
      | [] => s.stop
      | expected :: rest =>
        if c != expected then s.stop
        else if rest.isEmpty then s.deliver value
        else { s with mode := .word rest value }
    | .literal literal =>
      match literal.next c with
      | .continues literal => { s with mode := .literal literal }
      | .malformed => { s with mode := .value false }.stop
      | .ends => (s.deliver literal.value).stepBetween c
    | _ => s.stepBetween c

/-- The value that a text has begun and not ended, if it has. -/
def pending (s : State) : Option Json :=
  match s.mode with
  | .value _ | .colon | .string false _ | .word .. | .literal _ => some .broken
  | .key _ | .string true _ | .after => none

/-- Ends a number that the end of the text ends. -/
def settle (s : State) : State :=
  match s.mode with
  | .literal literal => if literal.complete then s.deliver literal.value else s
  | _ => s

/-- Closes what is open, from the innermost array or object outwards. -/
def cutFrames : List Frame → Option Json → Json
  | [], value => value.getD .broken
  | frame :: rest, none => cutFrames rest (some frame.cut)
  | frame :: rest, some value => cutFrames rest (some (frame.add value).cut)

end State

/-- What a text says: its value, and whether nothing else stands in the text. -/
structure Document where
  root : Json
  clean : Bool

/-- What has been read when the text ends. -/
def State.finish (s : State) : Document :=
  let s := s.settle
  match s.stack, s.root with
  | [], some root => ⟨root, !s.stopped⟩
  | stack, _ => ⟨cutFrames stack s.pending, false⟩

/-- Reads a text. -/
def read (text : List Char) : Document := (text.foldl State.step .start).finish

/-- Reads a text as one complete value. -/
def parse? (text : String) : Option Json :=
  let document := read text.toList
  if document.clean && document.root.readable then some document.root else none

end AccessorUpgrade.Json
