import DocQuery.CommandLine.Run

/-
  The program: reads the files a command line names and prints what the command gives.
-/

/-- The text of a file that can be read. -/
def DocQuery.CommandLine.readFile? (path : String) : IO (Option (String × String)) := do
  try
    return some (path, ← IO.FS.readFile path)
  catch _ =>
    return none

open DocQuery.CommandLine in
/-- Runs the command line. -/
def main (args : List String) : IO UInt32 := do
  let files ← (wantedFiles args).filterMapM readFile?
  let outcome := run args fun path => files.lookup path
  if outcome.exit = 0 then IO.println outcome.text else IO.eprintln outcome.text
  return UInt32.ofNat outcome.exit
