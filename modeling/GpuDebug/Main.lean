import GpuDebug.Cli.Program

/-!
# The command line

Connects the program to the files of the system. The shared regions of other processes cannot be
reached from here, so the load map is always taken to be absent.
-/

namespace GpuDebug.Cli

/-- The fault that an error of the system reports. -/
def faultOf (e : IO.Error) : FileFault :=
  match e with
  | .noFileOrDirectory _ _ _ => .notFound
  | .inappropriateType _ code details =>
    if code = 21 then .isDirectory else if code = 20 then .notDirectory
    else .other code.toNat details
  | .permissionDenied _ code details => .other code.toNat details
  | _ => .other 5 e.toString

/-- Reads a file of the system. -/
def readFile (path : String) : IO (Except FileFault Bytes) := do
  try return .ok (← IO.FS.readBinFile path).toList
  catch e => return .error (faultOf e)

/-- Opens a file of the system at its end, which creates it. -/
def touchFile (path : String) : IO Unit := do
  try let _ ← IO.FS.Handle.mk path .append
  catch _ => return ()

/-- The files of the system. -/
def systemFiles : Surroundings IO where
  read := readFile
  touch := touchFile
  loadMap _ := return none

end GpuDebug.Cli

open GpuDebug.Cli in
def main (arguments : List String) : IO UInt32 := do
  let outcome ← run systemFiles arguments
  for line in outcome.output do IO.println line
  for line in outcome.errors do IO.eprintln line
  return outcome.code
