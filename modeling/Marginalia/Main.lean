/-
The program.

It reads the folder that a command asks about, carries the command out, and prints and
writes what comes out of it.
-/
import Marginalia.Command.Usage

namespace Marginalia

namespace Program

/-- Reads a file of the working directory. -/
def readFile (path : String) : IO FileContent := do
  try return .ok (← IO.FS.readBinFile ((← IO.currentDir) / path)).toList
  catch _ => return .error (.denied path)

/-- Reads a folder of the working directory and everything below it. -/
partial def readFolder (path : String) : IO Node := do
  let here := (← IO.currentDir) / path
  let mut found := Node.folder []
  for entry in ← here.readDir do
    let inner := path ++ "/" ++ entry.fileName
    let node ←
      if ← entry.path.isDir then readFolder inner
      else Node.file <$> readFile inner
    found := found.put [entry.fileName] node
  return found

/-- The folder that a command asks about. -/
def projectOf (cmd : Command) : IO (Except PathFault Node) := do
  let path := Node.normalText cmd.path
  if ← ((← IO.currentDir) / path).isDir then return .ok (← readFolder path)
  else return .error (.missing path)

/-- Writes a file and makes the folders on the way; answers whether that worked. -/
def writeFile (path text : String) : IO Bool := do
  let target := (← IO.currentDir) / path
  try
    if let some folder := target.parent then IO.FS.createDirAll folder
    IO.FS.writeFile target text
    return true
  catch _ => return false

/-- Prints what an outcome says and answers its status. -/
def conclude (o : Command.Outcome) : IO UInt32 := do
  (← IO.getStdout).putStr o.printed
  (← IO.getStderr).putStr o.complaints
  return UInt32.ofNat o.status

/-- Carries out the command in some words. -/
def start (words : List String) : IO UInt32 := do
  match Command.ofWords words with
  | .error r => conclude r.outcome
  | .ok cmd =>
    match cmd.run {} (← projectOf cmd) with
    | .error f => throw (IO.userError (f.kind ++ ": " ++ f.message))
    | .ok o =>
      match o.file with
      | none => conclude o
      | some (path, text) =>
        if ← writeFile path text then conclude o else conclude (o.unwritten path)

end Program

end Marginalia

/-- The program. -/
def main (words : List String) : IO UInt32 := Marginalia.Program.start words
