import AccessorUpgrade.CommandLine.Run

/-!
# The program

The operating system as the host of a run.
-/

namespace AccessorUpgrade.CommandLine

/-- What is known of an error of the operating system. -/
def FileError.ofSystem : IO.Error → FileError
  | .noFileOrDirectory .. => .notFound
  | .noSuchThing .. => .notFound
  | .inappropriateType _ _ "not a directory" => .notDirectory
  | .inappropriateType .. => .isDirectory
  | e => .other (toString e)

/-- The text that bytes stand for. -/
def textOfBytes (bytes : ByteArray) : Except FileError String :=
  match String.fromUTF8? bytes with
  | some text => .ok text
  | none => .error .notUtf8

/-- The text of a variable: its name up to the first equals sign, and its value. -/
def variableOfBytes? (bytes : ByteArray) : Option (String × String) :=
  match String.fromUTF8? bytes with
  | none => none
  | some text =>
    let chars := text.toList
    match chars.dropWhile (· != '=') with
    | [] => none
    | _ :: value => some (String.ofList (chars.takeWhile (· != '=')), String.ofList value)

/-- The pieces of some bytes, each with a zero after it. -/
def zeroEnded (bytes : ByteArray) : List ByteArray :=
  let (pieces, _) := bytes.toList.foldl (fun (pieces, piece) byte =>
    if byte == 0 then (piece :: pieces, ByteArray.empty) else (pieces, piece.push byte))
    (([] : List ByteArray), ByteArray.empty)
  pieces.reverse

/-- The place where the operating system shows the environment of the program. -/
def environmentFile : String := "/proc/self/environ"

/-- The environment of the program. Where it is not shown, nothing is set. -/
def systemEnvironment : IO (List (String × String)) := do
  match ← (IO.FS.readBinFile environmentFile).toBaseIO with
  | .ok bytes => return (zeroEnded bytes).filterMap variableOfBytes?
  | .error _ => return []

/-- Appends to a stream. -/
def putTo (stream : BaseIO IO.FS.Stream) (text : String) : IO (Except FileError Unit) := do
  let stream ← stream
  match ← (stream.putStr text *> stream.flush).toBaseIO with
  | .ok () => return .ok ()
  | .error e => return .error (.ofSystem e)

/-- The operating system as a host. The log counts as open, so nothing is logged and every text is a
filter. -/
def systemHost : Host IO where
  readFile path := do
    match ← (IO.FS.readBinFile path).toBaseIO with
    | .ok bytes => return textOfBytes bytes
    | .error e => return .error (.ofSystem e)
  writeFile path text := do
    match ← (IO.FS.writeFile path text).toBaseIO with
    | .ok () => return .ok ()
    | .error e => return .error (.ofSystem e)
  readInput := return textOfBytes (← (← IO.getStdin).readBinToEnd)
  environment := systemEnvironment
  hasLog := return true
  filterFault? _ := return none
  openLog _ _ := return .ok ()
  wording := return .plain
  putOutput text := putTo IO.getStdout text
  putError text := putTo IO.getStderr text

end AccessorUpgrade.CommandLine

open AccessorUpgrade.CommandLine in
/-- Carries the command line out. -/
def main (args : List String) : IO UInt32 := do
  match ← run systemHost ("propshim" :: args) with
  | .success => return 0
  | .failure => return 1
