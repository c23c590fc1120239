import EdgeGateway.CommandLine.Run

/-!
# EdgeGateway.Main

The program: settings from the usual place or a path, keys from the standard input, the console on
the standard output, and the report of the simulated board on the standard error.
-/

namespace EdgeGateway.CommandLine

/-- What stands at a path. -/
def sourceAt (path : String) : IO Settings.Source := do
  try
    return .file (← IO.FS.readBinFile path).toList
  catch e =>
    match e with
    | .noFileOrDirectory .. => return .missing
    | _ => return .directory

/-- The directory of the gateway, or the one in the user's home. -/
def usualPath : IO String := do
  match ← IO.getEnv "GATEWAY_HOME" with
  | some directory => return directory ++ "/config.json"
  | none => return ((← IO.getEnv "HOME").getD "") ++ "/.gateway/config.json"

/-- Four digits that set the client identifiers of two gateways apart. -/
def randomSuffix : IO String := do
  return paddedHex 4 (← IO.rand 0 0xffff)

/-- One line of the input with its line feed; empty at its end. -/
partial def readLine (input : IO.FS.Stream) (line : ByteArray) : IO ByteArray := do
  let byte ← input.read 1
  if byte.isEmpty then return line
  let line := line ++ byte
  if byte[0]! = 10 then return line else readLine input line

/-- Prints what the bench has seen, and lets it forget it. -/
def flush (b : Bench) : IO Bench := do
  let (b, record) := b.take
  for line in record.lines do IO.println line
  (← IO.getStdout).flush
  for (_, event) in record.trace do
    match event with
    | .report line => IO.eprintln line
    | .call _ => pure ()
  return b

partial def serve (input : IO.FS.Stream) (b : Bench) : IO Unit := do
  let line ← readLine input .empty
  match if line.isEmpty then none else typedKeys line.toList with
  | some keys => serve input (← flush (feed b keys))
  | none => discard (flush (close b))

def runGateway (settings : Settings) (dropAfterSecs : Option Nat) : IO UInt32 := do
  match open? settings (← randomSuffix) dropAfterSecs with
  | .error e =>
    IO.eprintln e.message
    return 1
  | .ok b =>
    serve (← IO.getStdin) (← flush b)
    return 0

def loadFrom (file : Option String) : IO (Except Settings.Error Settings) := do
  let path ← match file with
    | some path => pure path
    | none => usualPath
  return Settings.load (← sourceAt path)

def answer (request : Request) : IO UInt32 := do
  match request with
  | .help topic =>
    IO.print (joinLines topic.lines)
    return 0
  | .printSettings file =>
    match ← loadFrom file with
    | .ok settings =>
      IO.println settings.render
      return 0
    | .error e =>
      IO.eprintln e.message
      return 1
  | .run file dropAfterSecs =>
    match ← loadFrom file with
    | .ok settings => runGateway settings dropAfterSecs
    | .error e =>
      IO.eprintln e.message
      return 1

end EdgeGateway.CommandLine

open EdgeGateway.CommandLine in
def main (arguments : List String) : IO UInt32 := do
  match Request.ofArguments? arguments with
  | some request => answer request
  | none =>
    IO.eprint (joinLines Topic.program.lines)
    return 2
