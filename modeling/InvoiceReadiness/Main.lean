import InvoiceReadiness.CommandLine.Screen

/-!
# The command

Reads the files that a command names, runs the command, and writes what it leaves
behind. Everything between is a function of the arguments and the files.
-/

open InvoiceReadiness InvoiceReadiness.CommandLine

/-- The content of a file; none if it cannot be read. -/
def readFile? (path : String) : IO (Option ByteArray) := do
  try
    return some (← IO.FS.readBinFile path)
  catch _ =>
    return none

/-- The contents of the files that a command names. -/
def readFiles (options : Options) : IO Files := do
  let paths := options.dataset :: options.checks.toList
  let contents ← paths.mapM fun path => do
    return (path, ← readFile? path)
  return fun path => (contents.find? fun entry => entry.1 == path).bind Prod.snd

/-- Write what a command leaves behind. -/
def perform (effect : Effect) : IO UInt32 := do
  match effect.file with
  | some (path, text) => IO.FS.writeFile path text
  | none => pure ()
  (← IO.getStdout).putStr effect.output
  return effect.exit

/-- What is told about a fault that ends a command. -/
def faultText (fault : Fault) : String :=
  (fault.message? "").getD "The data cannot be processed."

def main (words : List String) : IO UInt32 := do
  match Options.ofWords words with
  | none =>
    (← IO.getStderr).putStrLn usage
    return 2
  | some options =>
    match execute options (← readFiles options) with
    | .ok effect => perform effect
    | .error fault =>
      (← IO.getStderr).putStrLn (faultText fault)
      return 1
