/-!
# Files

The commands read whole files by name. Which files there are is a function, so a command is a pure
function of the files it is given. `Files.inDirectory` is the one of a directory whose contents
are known.
-/

namespace BatteryTelemetry

inductive FileFault where
  | missing
  | denied
  /-- A file stands where the name has a directory. -/
  | notDirectory
  | isDirectory
  | nameTooLong
  | other (text : String)
deriving DecidableEq, Repr

def FileFault.message : FileFault → String
  | .missing => "No such file or directory (os error 2)"
  | .denied => "Permission denied (os error 13)"
  | .notDirectory => "Not a directory (os error 20)"
  | .isDirectory => "Is a directory (os error 21)"
  | .nameTooLong => "File name too long (os error 36)"
  | .other text => text

def readingMessage (reason : String) : String := s!"IO error: {reason}"

/-- The bytes of each readable file. -/
abbrev Files := String → Except FileFault (List UInt8)

def decodeText? (bytes : List UInt8) : Option (List Char) :=
  (String.fromUTF8? ⟨bytes.toArray⟩).map String.toList

namespace Files

def stepLimit : Nat := 255

def pathLimit : Nat := 4095

/-- What a path leads to from a directory in which the files with the given paths are. -/
def follow (entries : List (List String × List UInt8)) (outside : Except FileFault (List UInt8)) :
    List String → List String → Except FileFault (List UInt8)
  | _, [] => .error .isDirectory
  | here, step :: rest =>
    if step = "" ∨ step = "." then follow entries outside here rest
    else if step = ".." then
      if here = [] then outside else follow entries outside here.dropLast rest
    else if stepLimit < step.utf8ByteSize then .error .nameTooLong
    else
      let path := here ++ [step]
      match entries.find? (·.1 = path) with
      | some (_, bytes) => if rest = [] then .ok bytes else .error .notDirectory
      | none =>
        if entries.any (path.isPrefixOf ·.1) then follow entries outside path rest
        else .error .missing

/-- The files as they are named in a directory that holds the given ones, with the rest of the
files for names that lead out of it. -/
def inDirectory (entries : List (String × List UInt8)) (others : Files) : Files := fun name ↦
  let entries := entries.map fun (name, bytes) ↦ (name.splitOn "/", bytes)
  if name = "" then .error .missing
  else if pathLimit < name.utf8ByteSize then .error .nameTooLong
  else if name.startsWith "/" then others name
  else follow entries (others name) [] (name.splitOn "/")

end Files

end BatteryTelemetry
