/-!
# How a process ended

The status word of an ended process holds its exit code in the second byte, or else the signal that
ended it in the lowest seven bits and a mark for a memory dump in the eighth.
-/
namespace ProxyWarden.Dispatch

structure ExitStatus where
  word : Nat
deriving DecidableEq, Repr

namespace ExitStatus

/-- Only the lowest eight bits of an exit code are kept. -/
def ofCode (code : Nat) : ExitStatus := ⟨code % 256 * 256⟩

def ofSignal (signal : Nat) : ExitStatus := ⟨signal⟩

def isSuccess (s : ExitStatus) : Bool := s.word == 0

/-- The names of the signals from one on. -/
def signalNames : List String := [
  "SIGHUP", "SIGINT", "SIGQUIT", "SIGILL", "SIGTRAP", "SIGABRT", "SIGBUS", "SIGFPE", "SIGKILL",
  "SIGUSR1", "SIGSEGV", "SIGUSR2", "SIGPIPE", "SIGALRM", "SIGTERM", "SIGSTKFLT", "SIGCHLD",
  "SIGCONT", "SIGSTOP", "SIGTSTP", "SIGTTIN", "SIGTTOU", "SIGURG", "SIGXCPU", "SIGXFSZ",
  "SIGVTALRM", "SIGPROF", "SIGWINCH", "SIGIO", "SIGPWR", "SIGSYS"]

/-- The number of a signal, by its name without the first three letters. -/
def signalNumber? (name : List Char) : Option Nat :=
  (signalNames.findIdx? fun n => n.toList == "SIG".toList ++ name).map (· + 1)

/-- What a signal does to a process that doesn't handle it. -/
inductive SignalEffect where
  | ends
  | stops
  | nothing
deriving DecidableEq, Repr

/-- Zero is no signal; those that tell of a child, of going on, of urgent data and of a new window
size do nothing. -/
def signalEffect (signal : Nat) : SignalEffect :=
  if signal ∈ [0, 17, 18, 23, 28] then .nothing
  else if signal ∈ [19, 20, 21, 22] then .stops
  else .ends

/-- A signal as a number, and its name if it has one. -/
def signalText (signal : Nat) : String :=
  if signal = 0 then "0"
  else
    match signalNames[signal - 1]? with
    | some name => s!"{signal} ({name})"
    | none => toString signal

def text (s : ExitStatus) : String :=
  let low := s.word % 128
  let second := s.word / 256 % 256
  if low = 0 then s!"exit status: {second}"
  else if low < 127 then
    "signal: " ++ signalText low ++ (if s.word / 128 % 2 = 1 then " (core dumped)" else "")
  else if s.word % 256 = 127 then "stopped (not terminated) by signal: " ++ signalText second
  else if s.word = 65535 then "continued (WIFCONTINUED)"
  else s!"unrecognised wait status: {s.word} 0x" ++ String.ofList (Nat.toDigits 16 s.word)

end ExitStatus

end ProxyWarden.Dispatch
