import VoterSession.Bytes
set_option autoImplicit false

/-!
The files that a configuration names, as a value: what stands at each path, and the ways in which
reading one fails.
-/
namespace VoterSession.Config

inductive FileFault where
  | notFound
  | isDirectory
  | notUtf8
  /-- The path holds a NUL, which no path does. -/
  | nulInPath
deriving DecidableEq

def FileFault.message : FileFault → String
  | notFound => "No such file or directory (os error 2)"
  | isDirectory => "Is a directory (os error 21)"
  | notUtf8 => "stream did not contain valid UTF-8"
  | nulInPath => "file name contained an unexpected NUL byte"

inductive FileNode where
  | file (content : Bytes)
  | directory
deriving DecidableEq

abbrev Disk := String → Option FileNode

namespace Disk

def read (disk : Disk) (path : String) : Except FileFault Bytes :=
  if path.toList.contains '\x00' then .error .nulInPath
  else match disk path with
    | none => .error .notFound
    | some .directory => .error .isDirectory
    | some (.file content) => .ok content

def readText (disk : Disk) (path : String) : Except FileFault String := do
  match Bytes.text? (← disk.read path) with
  | some text => return text
  | none => throw .notUtf8

end Disk

end VoterSession.Config
