/-!
# EdgeGateway.Status

What tasks publish about themselves, and what links there are.

* `Status`   : the state of a task.
* `LinkKind` : Wi-Fi, cellular, or no link at all.
* `RetryPolicy` : how often a connect is tried and how long the pause between two tries is.
-/

namespace EdgeGateway

inductive Status where
  | starting
  | started
  | stopping
  | stopped
  | failedToStart
  | unknown
  deriving DecidableEq, Inhabited

namespace Status

def text : Status → String
  | .starting => "Starting"
  | .started => "Started"
  | .stopping => "Stopping"
  | .stopped => "Stopped"
  | .failedToStart => "Failed to start"
  | .unknown => "Unknown status"

/-- The status in one word. -/
def word : Status → String
  | .failedToStart => "FailedToStart"
  | .unknown => "Unknown"
  | s => s.text

end Status

inductive LinkKind where
  | none
  | cellular
  | wifi
  deriving DecidableEq, Inhabited

def LinkKind.text : LinkKind → String
  | .none => "None"
  | .cellular => "Cellular"
  | .wifi => "Wi-Fi"

/-- At most `attempts` tries, with a pause of `interval` milliseconds between them. -/
structure RetryPolicy where
  attempts : Nat
  interval : Nat
  deriving DecidableEq, Inhabited

end EdgeGateway
