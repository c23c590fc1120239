/-!
# EdgeGateway.CommandLine

The arguments of the program.

* `Request` : what they ask for. `Request.ofArguments?` is none for wrong arguments.
* `tokens`  : the arguments with every option next to its value.
* `Topic.lines` : what is printed where help is asked for.

An option is spelled short or long, its value follows as the next argument or within the same one.
The settings file may be named before or after the command, once at each place, and the place
after the command counts. A value that begins with a hyphen has to be within the same argument; a
hyphen alone is a value.
-/

namespace EdgeGateway.CommandLine

inductive Topic where
  | program
  | run
  | printSettings
  | help
  deriving DecidableEq, Inhabited

inductive Request where
  | help (topic : Topic)
  | printSettings (file : Option String)
  | run (file : Option String) (dropAddressAfterSecs : Option Nat)
  deriving DecidableEq

inductive Command where
  | run
  | printSettings
  deriving DecidableEq

def Command.topic : Command → Topic
  | .run => .run
  | .printSettings => .printSettings

/-- The options at one place. -/
structure Options where
  file : Option String := none
  dropAfter : Option Nat := none
  deriving DecidableEq, Inhabited

/-- An option that takes a value. -/
inductive Key where
  | file
  | dropAfter
  deriving DecidableEq

/-- The shape of one argument. -/
inductive Argument where
  | word (text : String)
  | help
  /-- an option and the value within the argument, if there is one -/
  | option (key : Key) (value : Option String)
  /-- only words follow -/
  | wordsOnly
  | unknown
  deriving DecidableEq

/-- Arguments put together: an option has its value. -/
inductive Token where
  | word (text : String)
  | help
  | setting (key : Key) (value : String)
  | wordsOnly
  | wrong
  deriving DecidableEq

/-- The text before the first equals sign, and the text after it. -/
def splitValue (cs : List Char) : List Char × Option String :=
  match cs.dropWhile (· != '=') with
  | _ :: value => (cs.takeWhile (· != '='), some (String.ofList value))
  | [] => (cs, none)

def longArgument (cs : List Char) : Argument :=
  match splitValue cs with
  | (name, value) =>
    if name = "config".toList then .option .file value
    else if name = "drop-ip-after".toList then .option .dropAfter value
    else if name = "help".toList && value.isNone then .help
    else .unknown

/-- A letter, and what follows it in the same argument. -/
def shortArgument : Char → List Char → Argument
  | 'h', _ => .help
  | 'c', [] => .option .file none
  | 'c', '=' :: value => .option .file (some (String.ofList value))
  | 'c', value => .option .file (some (String.ofList value))
  | _, _ => .unknown

def Argument.ofString (text : String) : Argument :=
  match text.toList with
  | ['-', '-'] => .wordsOnly
  | '-' :: '-' :: name => longArgument name
  | '-' :: letter :: rest => shortArgument letter rest
  | _ => .word text

def tokens : List String → List Token
  | [] => []
  | text :: rest =>
    match Argument.ofString text with
    | .word text => .word text :: tokens rest
    | .help => .help :: tokens rest
    | .wordsOnly => .wordsOnly :: tokens rest
    | .option key (some value) => .setting key value :: tokens rest
    | .option key none =>
      match rest with
      | value :: rest =>
        match Argument.ofString value with
        | .word value => .setting key value :: tokens rest
        | _ => [.wrong]
      | [] => [.wrong]
    | .unknown => [.wrong]

/-- A number of seconds: decimal digits, possibly after a plus sign, below 2^64. -/
def seconds? (text : String) : Option Nat :=
  let digits := match text.toList with
    | '+' :: digits => digits
    | digits => digits
  if digits.isEmpty || !digits.all Char.isDigit then none
  else
    let n := digits.foldl (fun n d => 10 * n + (d.toNat - '0'.toNat)) 0
    if n < UInt64.size then some n else none

/-- Every option may be given once. -/
def Options.set? (o : Options) : Key → String → Option Options
  | .file, value =>
    if value.isEmpty || o.file.isSome then none else some { o with file := some value }
  | .dropAfter, value =>
    if o.dropAfter.isSome then none
    else (seconds? value).map fun n => { o with dropAfter := some n }

def Command.takes : Command → Key → Bool
  | _, .file => true
  | c, .dropAfter => c = .run

def Command.request (c : Command) (before after : Options) : Request :=
  let file := after.file.or before.file
  match c with
  | .run => .run file after.dropAfter
  | .printSettings => .printSettings file

/-- What follows a command. -/
def afterCommand (c : Command) (before : Options) : Options → List Token → Option Request
  | o, [] => some (c.request before o)
  | _, .help :: _ => some (.help c.topic)
  | o, .setting key value :: rest =>
    if c.takes key then (o.set? key value).bind fun o => afterCommand c before o rest else none
  | o, [.wordsOnly] => some (c.request before o)
  | _, _ => none

/-- What help is about, by the words after the help command. -/
def Topic.ofTokens? : List Token → Option Topic
  | [] => some .program
  | [.word "run"] => some .run
  | [.word "print-config"] => some .printSettings
  | [.word "help"] => some .help
  | _ => none

/-- The arguments up to the command, and what follows it. -/
def beforeCommand : Options → List Token → Option Request
  | _, .help :: _ => some (.help .program)
  | o, .setting .file value :: rest => (o.set? .file value).bind fun o => beforeCommand o rest
  | o, .word text :: rest =>
    if text = "run" then afterCommand .run o {} rest
    else if text = "print-config" then afterCommand .printSettings o {} rest
    else if text = "help" then (Topic.ofTokens? rest).map .help
    else none
  | _, _ => none

def Request.ofArguments? (arguments : List String) : Option Request :=
  beforeCommand {} (tokens arguments)

/-! ## Help -/

def runSummary : String := "Boot the gateway and drive the console over stdin"
def printSummary : String := "Print the effective configuration as JSON"
def helpSummary : String := "Print this message or the help of the given subcommand(s)"

def commandLines : List String :=
  [ "Commands:",
    "  run           " ++ runSummary,
    "  print-config  " ++ printSummary,
    "  help          " ++ helpSummary ]

def fileLine (width : Nat) : String :=
  "  -c, --config <CONFIG>" ++ String.ofList (List.replicate width ' ') ++
    "Config file (default: $GATEWAY_HOME/config.json)"

def helpLine (width : Nat) : String :=
  "  -h, --help" ++ String.ofList (List.replicate width ' ') ++ "Print help"

def Topic.lines : Topic → List String
  | .program =>
    [ "Connectivity gateway on simulated hardware", "",
      "Usage: gateway-device [OPTIONS] <COMMAND>", "" ] ++
    commandLines ++ [ "", "Options:", fileLine 2, helpLine 13 ]
  | .run =>
    [ runSummary, "", "Usage: gateway-device run [OPTIONS]", "",
      "Options:",
      fileLine 7,
      "      --drop-ip-after <SECS>  Simulated Wi-Fi and PPP addresses expire this many " ++
        "seconds after",
      "                              connecting",
      helpLine 18 ]
  | .printSettings =>
    [ printSummary, "", "Usage: gateway-device print-config [OPTIONS]", "",
      "Options:", fileLine 2, helpLine 13 ]
  | .help =>
    [ helpSummary, "", "Usage: gateway-device help [COMMAND]", "" ] ++ commandLines

end EdgeGateway.CommandLine
