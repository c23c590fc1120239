import EdgeGateway.Bench.Fixture
import EdgeGateway.Bench.Step
import EdgeGateway.CommandLine
import EdgeGateway.Settings.Writer
import EdgeGateway.Text.Blank

/-!
# EdgeGateway.CommandLine.Run

What the program does with a request: the settings are read, and printed or run on the simulated
board.

* `typedKeys` : the keys a line of input stands for.
* `open?`, `feed`, `close` : a run, with keys as they come.
* `perform`   : a request with all of its input, as exit code and output.
-/

namespace EdgeGateway.CommandLine

/-- Where settings files are. -/
structure Files where
  /-- what stands at the usual place -/
  usual : Settings.Source
  /-- what stands at a path -/
  named : String → Settings.Source

def Files.load (files : Files) (path : Option String) : Except Settings.Error Settings :=
  Settings.load ((path.map files.named).getD files.usual)

/-- Lines with the line feeds that end them. -/
def lines : Bytes → List Bytes
  | [] => []
  | 10 :: rest => [10] :: lines rest
  | b :: rest =>
    match lines rest with
    | [] => [[b]]
    | line :: more => (b :: line) :: more

/-- Every character that can be seen is a key. None if the line is no text, which ends the
input. -/
def typedKeys (line : Bytes) : Option (List Char) :=
  line.toText?.map fun text => text.toList.filter fun c => !Text.isBlank c

/-- The keys of lines, up to the first that is no text. -/
def keysOf : List Bytes → List Char
  | [] => []
  | line :: rest =>
    match typedKeys line with
    | some keys => keys ++ keysOf rest
    | none => []

/-- A gateway on the simulated board, with its console drawn. -/
def open? (settings : Settings) (suffix : String) (dropAfterSecs : Option Nat) :
    Except BootError Bench :=
  (Bench.simulate settings suffix (dropAfterSecs.map (1000 * ·)) []).map Bench.startConsole

def feed (b : Bench) (keys : List Char) : Bench := (b.perform (.type keys)).1

/-- The end of the input closes the console, and then everything shuts down. -/
def close (b : Bench) : Bench := ((b.perform .endKeys).1.perform .shutdown).1

def joinLines (ls : List String) : String := String.join (ls.map (· ++ "\n"))

/-- Exit code and output. -/
structure Response where
  code : UInt32
  output : String := ""
  deriving DecidableEq

namespace Response

def failure : Response := ⟨1, ""⟩

def wrongArguments : Response := ⟨2, ""⟩

end Response

def perform (files : Files) (suffix : String) (input : Bytes) : Request → Response
  | .help topic => ⟨0, joinLines topic.lines⟩
  | .printSettings path =>
    match files.load path with
    | .ok settings => ⟨0, joinLines [settings.render]⟩
    | .error _ => .failure
  | .run path dropAfterSecs =>
    match files.load path with
    | .error _ => .failure
    | .ok settings =>
      match open? settings suffix dropAfterSecs with
      | .error _ => .failure
      | .ok b => ⟨0, joinLines (close (feed b (keysOf (lines input)))).lines⟩

/-- The program. -/
def respond (files : Files) (suffix : String) (input : Bytes) (arguments : List String) :
    Response :=
  match Request.ofArguments? arguments with
  | some request => perform files suffix input request
  | none => .wrongArguments

end EdgeGateway.CommandLine
