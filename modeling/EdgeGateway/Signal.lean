/-!
# EdgeGateway.Signal

The notification word of a task. Others set bits in it, the task waits on it.

* `Command`, `Commands` : the four commands every task knows, and a word of them as it was read.
  `Commands.dominant` resolves several that came together.
* `Signal`   : the word with its one waiter. `Signal.wait` drops the bits of its entry mask,
  reads what is left, and clears the bits of its exit mask with the read.
-/

namespace EdgeGateway

inductive Command where
  | start
  | stop
  | restart
  | shutdown
  deriving DecidableEq, Inhabited

namespace Command

def bit : Command → UInt32
  | .start => 1
  | .stop => 2
  | .restart => 4
  | .shutdown => 8

def name : Command → String
  | .start => "Start"
  | .stop => "Stop"
  | .restart => "Restart"
  | .shutdown => "Shutdown"

def all : List Command := [.start, .stop, .restart, .shutdown]

end Command

/-- The commands of one reading. Bits that name no command may be present. -/
structure Commands where
  bits : UInt32 := 0
  deriving DecidableEq, Inhabited

namespace Commands

def empty : Commands := ⟨0⟩

def only (c : Command) : Commands := ⟨c.bit⟩

def contains (cs : Commands) (c : Command) : Bool := cs.bits &&& c.bit != 0

/-- No known command is present. -/
def isEmpty (cs : Commands) : Bool := Command.all.all fun c => !cs.contains c

def insert (cs : Commands) (c : Command) : Commands := ⟨cs.bits ||| c.bit⟩

def erase (cs : Commands) (c : Command) : Commands := ⟨cs.bits &&& ~~~c.bit⟩

/-- The one command to act on. Shutdown wins, then restart; a stop and a start together are a
restart. -/
def dominant (cs : Commands) : Option Command :=
  if cs.contains .shutdown then some .shutdown
  else if cs.contains .restart || (cs.contains .stop && cs.contains .start) then some .restart
  else if cs.contains .stop then some .stop
  else if cs.contains .start then some .start
  else none

/-- The bits that name no command. -/
def unknown (cs : Commands) : UInt32 := cs.bits &&& 0xfffffff0

/-- The set in braces, unknown bits as one hexadecimal number at its end. -/
def render (cs : Commands) : String :=
  let known := (Command.all.filter cs.contains).map Command.name
  let rest := if cs.unknown = 0 then []
    else ["0x" ++ String.ofList (Nat.toDigits 16 cs.unknown.toNat)]
  "\x7b" ++ ", ".intercalate (known ++ rest) ++ "\x7d"

end Commands

/-- A notification word. `waiter` is the thread that waited on it first. -/
structure Signal where
  bits : UInt32 := 0
  waiter : Option Nat := none
  deriving DecidableEq, Inhabited

namespace Signal

/-- How a wait with no time left ends. -/
inductive Wake where
  | woken (bits : UInt32)
  | timedOut
  /-- the signal belongs to another thread -/
  | refused
  deriving DecidableEq

def set (s : Signal) (bits : UInt32) : Signal := { s with bits := s.bits ||| bits }

def post (s : Signal) (c : Command) : Signal := s.set c.bit

def wait (s : Signal) (thread : Nat) (entry exit : UInt32) : Signal × Wake :=
  let owner := s.waiter.getD thread
  if owner ≠ thread then (s, .refused)
  else
    let bits := s.bits &&& ~~~entry
    if bits = 0 then ({ bits, waiter := some owner }, .timedOut)
    else ({ bits := bits &&& ~~~exit, waiter := some owner }, .woken bits)

/-- A wait for commands takes the whole word; an expired one reads the empty set. -/
def waitCommands (s : Signal) (thread : Nat) : Signal × Option Commands :=
  match s.wait thread 0 0xffffffff with
  | (s, .woken bits) => (s, some ⟨bits⟩)
  | (s, .timedOut) => (s, some .empty)
  | (s, .refused) => (s, none)

end Signal

end EdgeGateway
