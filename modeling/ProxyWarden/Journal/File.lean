import ProxyWarden.Disk.Basic
import ProxyWarden.Journal.Tail
import ProxyWarden.Json.Value
import ProxyWarden.Stamp
import ProxyWarden.Text.Utf8

/-!
# Journals

A journal is a file of records, each one JSON object on a line of its own. A fresh handle appends
wherever the end of the file is; a rotation empties the file and from then on the handle writes at
its own offset.
-/
namespace ProxyWarden

inductive JournalError where
  | open (path : Path) (error : IoError)
  | write (error : IoError)
  | tail (error : TailError)
deriving DecidableEq, Repr

namespace JournalError

def message : JournalError → String
  | .open path error => s!"failed to open journal {path.text}: {error.message}"
  | write error => "failed to write journal record: " ++ error.message
  | tail error => error.message

end JournalError

structure Journal where
  path : Path
  handle : Handle
deriving DecidableEq, Repr

namespace Journal

/-- Opens a journal to write at its end. -/
def open? (path : Path) (d : Disk) : Except JournalError (Journal × Disk) :=
  match d.openAppend path with
  | .error e => .error (.open path e)
  | .ok (d', h) => .ok (⟨path, h⟩, d')

/-- Replaces the journal with an empty file at the same path. -/
def rotate (j : Journal) (d : Disk) : Except JournalError (Journal × Disk) :=
  match d.openTruncate j.path with
  | .error e => .error (.open j.path e)
  | .ok (d', h) => .ok ({ j with handle := h }, d')

/-- One record: the moment, a fixed level, a message and the fields of the record. -/
def line (now : Nat) (msg : String) (fields : List (String × Json.Value)) : Bytes :=
  let entry := Json.Value.object
    (("time", .string (Stamp.text now)) :: ("level", .string "INFO") :: ("msg", .string msg) :: fields)
  Utf8.encodeList entry.write ++ [Bytes.newline]

def append (j : Journal) (line : Bytes) (d : Disk) : Except JournalError (Journal × Disk) :=
  match d.write j.handle line with
  | .error e => .error (.write e)
  | .ok (d', h) => .ok ({ j with handle := h }, d')

/-- A write that fails after it has put down some bytes of the line. -/
def appendTorn (j : Journal) (line : Bytes) (written : Nat) (d : Disk) : Journal × Disk :=
  match d.write j.handle (line.take written) with
  | .error _ => (j, d)
  | .ok (d', h) => ({ j with handle := h }, d')

end Journal

end ProxyWarden
