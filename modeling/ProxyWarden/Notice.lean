import ProxyWarden.Dispatch.Run
import ProxyWarden.Traffic.Client

/-!
# Notices

What the program reports of itself while it runs: failures of the core and of collecting, and calls
that were refused.
-/
namespace ProxyWarden

inductive Notice where
  /-- A crash was noticed; the restart follows after some seconds. -/
  | crashed (seconds : Nat)
  | loadFailed (error : StoreError)
  | runFailed (error : DispatchError)
  | collectFailed (error : Traffic.StatsError)
  | restartRefused
  | uploadRefused
  | uploadInvalid (fault : Json.Located)
deriving DecidableEq, Repr

namespace Notice

/-- A refused call is only a warning. -/
def level : Notice → String
  | restartRefused => "WARN"
  | uploadRefused => "WARN"
  | uploadInvalid _ => "WARN"
  | _ => "ERROR"

def message : Notice → String
  | crashed seconds => s!"Core crashed, restarting in {seconds}s"
  | loadFailed error => "Failed to load core config: " ++ error.message
  | runFailed error => "Core run failed: " ++ error.message
  | collectFailed error => "Failed to collect stats: " ++ error.message
  | restartRefused => "Core restart request rejected by rate limit"
  | uploadRefused => "Config upload rejected by rate limit"
  | uploadInvalid fault => "Invalid JSON config format: " ++ fault.message

/-- A notice with its level. -/
def text (n : Notice) : String := n.level ++ " " ++ n.message

end Notice

end ProxyWarden
