import UsageReport.CommandLine.Run

/-! The program: its arguments, its environment and its files are those of the system. -/

namespace UsageReport.Main

open UsageReport.CommandLine (Host ReadFault)

/-- The bytes of a stream up to its end. -/
partial def readAll (read : USize → IO ByteArray) (done : ByteArray) : IO ByteArray := do
  let chunk ← read 65536
  if chunk.isEmpty then return done else readAll read (done ++ chunk)

def readFile (path : String) : IO (Except ReadFault (List UInt8)) := do
  match ← (IO.FS.Handle.mk path .read).toBaseIO with
  | .error _ => return .error .missing
  | .ok handle =>
    match ← (readAll handle.read .empty).toBaseIO with
    | .error _ => return .error .unreadable
    | .ok bytes => return .ok bytes.data.toList

def succeeds (action : IO Unit) : IO Bool := do
  match ← action.toBaseIO with
  | .ok _ => return true
  | .error _ => return false

/-- The files and the standard input of the system. -/
def host : Host IO where
  readFile := readFile
  readInput := do
    let input ← IO.getStdin
    return (← readAll input.read .empty).data.toList
  makeDirectory path := succeeds (IO.FS.createDirAll path)
  writeFile path contents := succeeds (IO.FS.writeFile path contents)

end UsageReport.Main

def main (arguments : List String) : IO UInt32 := do
  let environment ← IO.getEnv "CONFIG_FILE"
  let outcome ← UsageReport.Main.host.run UsageReport.Report.compactSpelling environment arguments
  IO.print outcome.output
  match outcome.complaint with
  | some complaint => IO.eprintln ("Error: " ++ complaint)
  | none => pure ()
  return UInt32.ofNat outcome.code
