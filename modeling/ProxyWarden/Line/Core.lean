import ProxyWarden.Text.Blank

/-!
# Core log lines

A line of the core's own log is a time stamp of one or more words, a level in brackets and the
payload. `CoreLine.parse?` takes the first bracketed level that a payload follows.
-/
namespace ProxyWarden

structure CoreEntry where
  level : String
  payload : String
deriving DecidableEq, Repr

namespace CoreLine

open Text

def isLetter (c : Char) : Bool := ('A' ≤ c && c ≤ 'Z') || ('a' ≤ c && c ≤ 'z')

/-- The payload is all that follows the white space, or the last white space itself if nothing
follows. It holds no newline. -/
def payload? (cs : List Char) : Option (List Char) :=
  let blanks := cs.takeWhile isBlank
  let rest := cs.dropWhile isBlank
  if rest.isEmpty then
    match blanks.reverse with
    | last :: _ :: _ => if last = '\n' then none else some [last]
    | _ => none
  else if blanks.isEmpty || rest.contains '\n' then none
  else some rest

/-- The level and payload, if a bracketed level stands at the front. -/
def entry? : List Char → Option CoreEntry
  | [] => none
  | c :: cs =>
    if c = '[' then
      let level := cs.takeWhile isLetter
      match cs.dropWhile isLetter with
      | [] => none
      | d :: r =>
        if d = ']' && !level.isEmpty then
          (payload? r).map fun p => ⟨String.ofList level, String.ofList p⟩
        else none
    else none

/-- The text after the rest of a word and the white space behind it. -/
def skipWord (cs : List Char) : List Char :=
  (cs.dropWhile fun c => !isBlank c).dropWhile isBlank

theorem length_skipWord_le (cs : List Char) : (skipWord cs).length ≤ cs.length :=
  Nat.le_trans (List.dropWhile_sublist _).length_le (List.dropWhile_sublist _).length_le

/-- Skips words, at least one, until an entry follows. -/
def seek (cs : List Char) : Option CoreEntry :=
  match cs with
  | [] => none
  | c :: t =>
    if isBlank c then none
    else
      match entry? (skipWord t) with
      | some e => some e
      | none => seek (skipWord t)
termination_by cs.length
decreasing_by
  have := length_skipWord_le t
  simp only [List.length_cons]
  omega

/-- The level and payload of a line. -/
def parse? (line : String) : Option CoreEntry := seek line.toList

end CoreLine

end ProxyWarden
