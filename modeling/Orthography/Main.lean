import Orthography.CommandLine.Run

/-! The program itself: a run on the files of the machine. -/
namespace Orthography

open CommandLine

/-- Why a path could not be read. The machine's code for a directory is 21; a directory on
the way that is none has another. -/
def faultOf (path : String) : IO.Error → Files.Fault
  | .inappropriateType _ code _ => if code == 21 then .isDirectory else .notDirectory
  | .invalidArgument .. =>
    if path.toList.contains '\x00' then .zeroInPath else .nameTooLong
  | _ => .notFound

def readText (path : String) : IO (Except Files.Fault String) := do
  try
    let bytes ← IO.FS.readBinFile ((← IO.currentDir) / path)
    match String.fromUTF8? bytes with
    | some text => pure (.ok text)
    | none => pure (.error .notText)
  catch fault => pure (.error (faultOf path fault))

def machineFiles (home : Option String) : Files IO where
  read := readText
  holds path := do ((← IO.currentDir) / path).pathExists
  isFile path := do
    let place := (← IO.currentDir) / path
    pure ((← place.pathExists) && !(← place.isDir))
  isDirectory path := do ((← IO.currentDir) / path).isDir
  names path := do
    try
      let entries ← ((← IO.currentDir) / path).readDir
      pure (Text.insertWords (entries.toList.map (·.fileName)) [])
    catch _ => pure []
  home := home

def writeText (file : Write) : IO (Except String Unit) := do
  try
    IO.FS.writeFile ((← IO.currentDir) / file.path) file.text
    pure (.ok ())
  catch fault => pure (.error (toString fault))

def elapsedSince (start : Nat) : IO Duration := do
  let nanos := (← IO.monoNanosNow) - start
  pure (.ofParts 0 nanos)

end Orthography

open Orthography in
def main (arguments : List String) : IO UInt32 := do
  let start ← IO.monoNanosNow
  let terminal ← (← IO.getStdout).isTty
  let planned ← CommandLine.run
    ⟨machineFiles (← IO.getEnv "HOME"),terminal,elapsedSince start⟩ arguments
  let outcome ← planned.carryOut writeText
  IO.print outcome.output
  match outcome.complaint with
  | some complaint => IO.eprintln ("error: " ++ complaint.message)
  | none => pure ()
  pure (UInt32.ofNat outcome.exitCode)
