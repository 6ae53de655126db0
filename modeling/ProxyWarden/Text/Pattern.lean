import ProxyWarden.Text.Alphanumeric
import ProxyWarden.Text.Blank

/-!
# Patterns

The rules of a filter can ask for fields whose values match a pattern. `isPattern` decides whether a
text is one. The text has no capitals, and no closing brace can be part of it, so that counts,
codes and class names in braces are never complete.

A pattern is read from left to right. What was read of an open group comes down to how its
surroundings are read once it is closed, and to whether a repetition may follow. Patterns match
whole texts: where bytes are meant and not characters, nothing may match a byte that is no ASCII
character, and where a word begins and ends can't be asked of characters at all.
-/
namespace ProxyWarden.Text.Pattern

/-- How a part of a pattern is read. -/
structure Mode where
  /-- Blanks and comments do not count. -/
  verbose : Bool
  /-- Characters are meant, not bytes. -/
  unicode : Bool
deriving DecidableEq, Repr

/-- Passes over blanks and comments, perhaps within a comment. -/
def skipBlanks (comment : Bool) : List Char → List Char
  | [] => []
  | c :: r =>
    if comment then skipBlanks (c != '\n') r
    else if isBlank c then skipBlanks false r
    else if c = '#' then skipBlanks true r
    else c :: r

/-- Passes over what does not count. -/
def Mode.skip (m : Mode) (cs : List Char) : List Char := if m.verbose then skipBlanks false cs else cs

/-- Whether a number is the code of an ASCII character. -/
def isAscii (n : Nat) : Bool := n < 0x80

/-! ## Escapes -/

/-- What an escape stands for. -/
inductive Escape where
  | character (code : Nat)
  | characters
  | position
deriving DecidableEq, Repr

def hexValue? (c : Char) : Option Nat :=
  if '0' ≤ c ∧ c ≤ '9' then some (c.toNat - '0'.toNat)
  else if 'a' ≤ c ∧ c ≤ 'f' then some (c.toNat - 'a'.toNat + 10)
  else none

/-- Reads so many digits of a code. -/
def readCode (m : Mode) : Nat → Nat → List Char → Option (Nat × List Char)
  | 0, n, cs => some (n, cs)
  | digits + 1, n, cs =>
    match m.skip cs with
    | [] => none
    | c :: r =>
      match hexValue? c with
      | none => none
      | some d => readCode m digits (16 * n + d) r

/-- The letters of the general categories of characters. -/
def isCategory (c : Char) : Bool := "clmnpsz".toList.contains c

/-- The letters of digits, blanks and word characters. -/
def isClassLetter (c : Char) : Bool := "dsw".toList.contains c

/-- The letters that stand for control characters, with the codes of those. -/
def controlCodes : List (Char × Nat) :=
  [('a', 7), ('t', 9), ('n', 10), ('v', 11), ('f', 12), ('r', 13)]

/-- The characters that stand for the beginning or the end of a word. -/
def isWordPosition (c : Char) : Bool := "b<>".toList.contains c

/-- The characters that stand for themselves after a backslash: all of ASCII but letters and
digits. -/
def standsForItself (c : Char) : Bool := isAscii c.toNat && !isAlphanumeric c

/-- Reads an escape, after its backslash. -/
def readEscape (m : Mode) : List Char → Option (Escape × List Char)
  | [] => none
  | c :: r =>
    if c = 'x' then
      (readCode m 2 0 r).bind fun (n, r) =>
        if m.unicode || isAscii n then some (.character n, r) else none
    else if c = 'u' then
      (readCode m 4 0 r).bind fun (n, r) => if n.isValidChar then some (.character n, r) else none
    else if c = 'p' then
      match m.skip r with
      | l :: r => if m.unicode && isCategory l then some (.characters, r) else none
      | [] => none
    else if isClassLetter c then some (.characters, r)
    else if c = 'z' then some (.position, r)
    else if isWordPosition c then if m.unicode then none else some (.position, r)
    else if standsForItself c then some (.character c.toNat, r)
    else (controlCodes.lookup c).map fun n => (.character n, r)

/-! ## Classes in brackets -/

/-- The named classes of ASCII characters. -/
def className : List String := ["alnum", "alpha", "ascii", "blank", "cntrl", "digit", "graph",
  "lower", "print", "punct", "space", "upper", "word", "xdigit"]

/-- Reads a named class after its opening bracket, and whether it stands for all others. -/
def namedClass? (cs : List Char) : Option (Bool × List Char) :=
  match cs with
  | ':' :: r =>
    let negated := r.head? == some '^'
    let r := if negated then r.tail else r
    let name := r.takeWhile fun c => c != ':'
    match r.dropWhile fun c => c != ':' with
    | ':' :: ']' :: r => if className.contains (String.ofList name) then some (negated, r) else none
    | _ => none
  | _ => none

/-- Passes over the dashes at the front of a class. -/
def skipDashes (m : Mode) : Nat → List Char → List Char
  | 0, cs => cs
  | fuel + 1, cs =>
    match cs with
    | '-' :: r => skipDashes m fuel (m.skip r)
    | cs => cs

/-- Passes over the front of a class, after its opening bracket: a mark that all others are meant,
and characters that would otherwise have a meaning of their own. -/
def openClass (m : Mode) (cs : List Char) : Option (List Char) :=
  let cs := m.skip cs
  let negated := cs.head? == some '^'
  if negated && !m.unicode then none
  else
    let items := if negated then m.skip cs.tail else cs
    let rest := skipDashes m items.length items
    match rest with
    | ']' :: r => some (if rest.length = items.length then m.skip r else rest)
    | _ => some rest

/-- One member of a class. -/
def readMember (m : Mode) : List Char → Option (Escape × List Char)
  | [] => none
  | '\\' :: r => readEscape m r
  | c :: r => some (.character c.toNat, r)

/-- Whether an end of a range, or a member on its own, can be what was read. -/
def Escape.isMember (m : Mode) : Escape → Bool
  | character n => m.unicode || isAscii n
  | characters => true
  | position => false

/-- Whether two members are the ends of a range. -/
def isRange (m : Mode) : Escape → Escape → Bool
  | .character a, .character b => (m.unicode || isAscii b) && a ≤ b
  | _, _ => false

/-- A member or a range of a class. A dash before another one or before the closing bracket makes
no range. -/
def readRange (m : Mode) (cs : List Char) : Option (List Char) :=
  match readMember m cs with
  | none => none
  | some (a, r) =>
    if !a.isMember m then none
    else
      match m.skip r with
      | '-' :: r' =>
        match m.skip r' with
        | [] => none
        | c :: r'' =>
          if c = ']' ∨ c = '-' then some ('-' :: r')
          else
            match readMember m (c :: r'') with
            | some (b, rest) => if isRange m a b then some rest else none
            | none => none
      | rest => some rest

/-- The rest of a class that lies in so many others. -/
def readClass (m : Mode) : Nat → Nat → List Char → Option (List Char)
  | 0, _, _ => none
  | fuel + 1, depth, cs =>
    match m.skip cs with
    | [] => none
    | '[' :: r =>
      match namedClass? r with
      | some (negated, r) => if negated && !m.unicode then none else readClass m fuel depth r
      | none => (openClass m r).bind (readClass m fuel (depth + 1))
    | ']' :: r =>
      match depth with
      | 0 => some r
      | depth + 1 => readClass m fuel depth r
    | '&' :: '&' :: r => readClass m fuel depth r
    | '-' :: '-' :: r => readClass m fuel depth r
    | '~' :: '~' :: r => readClass m fuel depth r
    | c :: r => (readRange m (c :: r)).bind (readClass m fuel depth)

/-! ## Groups -/

/-- Whether a character can stand in the name of a group. -/
def isNameChar (c : Char) : Bool :=
  c == '_' || c == '.' || c == '[' || c == ']' || isAlphanumeric c

/-- Whether the name of a group can begin with a character. -/
def isNameStart (c : Char) : Bool :=
  c == '_' || (isAlphanumeric c && !('0' ≤ c && c ≤ '9'))

def isGroupName (name : List Char) : Bool :=
  name.head?.any isNameStart && name.all isNameChar

def isFlag (c : Char) : Bool := "imsux".toList.contains c

/-- Whether the text between a question mark and the end of the flags is a list of flags: no letter
comes twice, one dash may come before the last ones. -/
def areFlags (cs : List Char) : Bool :=
  cs.all (fun c => c == '-' || isFlag c) && decide cs.Nodup && cs.getLast? != some '-'

/-- The mode that flags ask for; those behind a dash are taken back. -/
def Mode.withFlags (m : Mode) (cs : List Char) : Mode :=
  let given := cs.takeWhile fun c => c != '-'
  let taken := cs.dropWhile fun c => c != '-'
  let value (c : Char) (old : Bool) := given.contains c || (old && !taken.contains c)
  ⟨value 'x' m.verbose, value 'u' m.unicode⟩

/-- What was read so far. -/
structure Reader where
  mode : Mode
  /-- The modes around the open groups, the innermost first. -/
  outer : List Mode
  /-- A repetition may follow. -/
  repeatable : Bool
  /-- The names of groups. -/
  names : List (List Char)
deriving DecidableEq, Repr

def Reader.start : Reader := ⟨⟨false, true⟩, [], false, []⟩

namespace Reader

/-- After something that can be repeated. -/
def item (s : Reader) : Reader := { s with repeatable := true }

/-- Within a new group. -/
def enter (s : Reader) (inside : Mode) : Reader :=
  { s with mode := inside, outer := s.mode :: s.outer, repeatable := false }

/-- The rest of a group's front, after its opening parenthesis. -/
def openGroup (s : Reader) (cs : List Char) : Option (Reader × List Char) :=
  match s.mode.skip cs with
  | '?' :: '<' :: r =>
    let name := r.takeWhile fun c => c != '>'
    match r.dropWhile fun c => c != '>' with
    | [] => none
    | _ :: r =>
      if isGroupName name && !s.names.contains name then
        some ({ s.enter s.mode with names := name :: s.names }, r)
      else none
  | '?' :: r =>
    let isEnd (c : Char) := c == ':' || c == ')'
    let flags := r.takeWhile fun c => !isEnd c
    if !areFlags flags then none
    else
      match r.dropWhile fun c => !isEnd c with
      | [] => none
      | ':' :: r => some (s.enter (s.mode.withFlags flags), r)
      | _ :: r =>
        if flags.isEmpty then none
        else some ({ s with mode := s.mode.withFlags flags, repeatable := false }, r)
  | r => some (s.enter s.mode, r)

/-- Leaves the innermost group. -/
def closeGroup (s : Reader) : Option Reader :=
  match s.outer with
  | [] => none
  | m :: ms => some { s with mode := m, outer := ms, repeatable := true }

/-- Reads one more part of the pattern, which starts with a character. -/
def step (s : Reader) (c : Char) (r : List Char) : Option (Reader × List Char) :=
  if c = '(' then s.openGroup r
  else if c = ')' then s.closeGroup.map fun s => (s, r)
  else if c = '|' then some ({ s with repeatable := false }, r)
  else if c = '?' ∨ c = '*' ∨ c = '+' then
    if s.repeatable then some (s, if r.head? = some '?' then r.tail else r) else none
  else if c = '[' then
    (openClass s.mode r).bind fun r =>
      (readClass s.mode (r.length + 1) 0 r).map fun r => (s.item, r)
  else if c = '\x7b' then none
  else if c = '\\' then (readEscape s.mode r).map fun e => (s.item, e.2)
  else if c = '.' ∧ !s.mode.unicode then none
  else some (s.item, r)

/-- Reads on to the end, in at most so many steps. -/
def accepts : Nat → Reader → List Char → Bool
  | 0, _, _ => false
  | fuel + 1, s, cs =>
    match s.mode.skip cs with
    | [] => s.outer.isEmpty
    | c :: r =>
      match s.step c r with
      | none => false
      | some (s, r) => accepts fuel s r

end Reader

/-- Whether a text is a pattern. Every step reads at least one character. -/
def isPattern (cs : List Char) : Bool := Reader.start.accepts (cs.length + 1) cs

end ProxyWarden.Text.Pattern
