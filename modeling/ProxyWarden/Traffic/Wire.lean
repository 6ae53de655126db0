import ProxyWarden.Text.Utf8
import ProxyWarden.Traffic.Counter

/-!
# The wire format of counter queries

Messages are lists of numbered fields. A field is a word in base-128 groups, the lowest first, a
length and that many bytes, or something that is only passed over: fixed words, and groups, which
may be nested up to a limit. Fields that hold their default are not written; of several fields with
one number the last counts, except for repeated ones.
-/
namespace ProxyWarden.Traffic

namespace Wire

/-! ## Words -/

def writeWord (n : Nat) : Bytes :=
  if n < 128 then [n.toUInt8] else (n % 128 + 128).toUInt8 :: writeWord (n / 128)

/-- Reads at most `groups` groups onto `acc`; the next one counts `place`. A word has 64 bits. -/
def readGroups (place acc : Nat) : Nat → Bytes → Option (Nat × Bytes)
  | 0, _ => none
  | _ + 1, [] => none
  | groups + 1, b :: r =>
    if b < 128 then
      if groups = 0 ∧ 2 ≤ b then none else some (acc + b.toNat * place, r)
    else readGroups (place * 128) (acc + (b.toNat - 128) * place) groups r

/-- Reads a word of up to ten groups. -/
def readWord (bs : Bytes) : Option (Nat × Bytes) := readGroups 1 0 10 bs

theorem length_lt_of_readGroups {place acc n groups : Nat} {bs r : Bytes}
    (h : readGroups place acc groups bs = some (n, r)) : r.length < bs.length := by
  fun_induction readGroups place acc groups bs with
  | case1 => cases h
  | case2 => cases h
  | case3 => cases h
  | case4 => cases h; exact Nat.lt_succ_self _
  | case5 _ _ _ _ _ _ ih => exact Nat.lt_succ_of_lt (ih h)

/-- A signed number as a word. -/
def wordOfInt (v : Int) : Nat := (v % (Word.values64 : Int)).toNat

def intOfWord (n : Nat) : Int := if 2 * n < Word.values64 then n else n - Word.values64

/-! ## Fields -/

inductive WireType where
  | word
  | fixed64
  | bytes
  | startGroup
  | endGroup
  | fixed32
deriving DecidableEq, Repr

def WireType.code : WireType → Nat
  | word => 0
  | fixed64 => 1
  | bytes => 2
  | startGroup => 3
  | endGroup => 4
  | fixed32 => 5

def WireType.ofCode? : Nat → Option WireType
  | 0 => some word
  | 1 => some fixed64
  | 2 => some bytes
  | 3 => some startGroup
  | 4 => some endGroup
  | 5 => some fixed32
  | _ => none

structure Key where
  number : Nat
  type : WireType
deriving DecidableEq, Repr

def writeKey (k : Key) : Bytes := writeWord (k.number * 8 + k.type.code)

/-- Reads a key, which has at most 32 bits and a number above zero. -/
def readKey (bs : Bytes) : Option (Key × Bytes) :=
  match readWord bs with
  | none => none
  | some (n, r) =>
    if Word.values32 ≤ n ∨ n / 8 = 0 then none
    else (WireType.ofCode? (n % 8)).map fun t => (⟨n / 8, t⟩, r)

theorem length_lt_of_readKey {bs r : Bytes} {k : Key} (h : readKey bs = some (k, r)) :
    r.length < bs.length := by
  unfold readKey at h
  split at h
  · cases h
  · next n t hw =>
    have ht : t.length < bs.length := length_lt_of_readGroups hw
    split at h
    · cases h
    · obtain ⟨_, _, he⟩ := Option.map_eq_some_iff.1 h
      cases he
      exact ht

/-- Takes `n` bytes, if that many are left. -/
def takeBytes (n : Nat) (bs : Bytes) : Option (Bytes × Bytes) :=
  if (bs.take n).length = n then some (bs.take n, bs.drop n) else none

/-- What a field holds, as far as it is read. -/
inductive Payload where
  | word (n : Nat)
  | bytes (bs : Bytes)
  | skipped
deriving DecidableEq, Repr

/-- Reads the payload of a field that is no group. -/
def readPlain (type : WireType) (bs : Bytes) : Option (Payload × Bytes) :=
  match type with
  | .word => (readWord bs).map fun w => (.word w.1, w.2)
  | .fixed64 => (takeBytes 8 bs).map fun t => (.skipped, t.2)
  | .fixed32 => (takeBytes 4 bs).map fun t => (.skipped, t.2)
  | .bytes => (readWord bs).bind fun w => (takeBytes w.1 w.2).map fun t => (.bytes t.1, t.2)
  | .startGroup => none
  | .endGroup => none

theorem length_le_of_takeBytes {n : Nat} {bs t r : Bytes} (h : takeBytes n bs = some (t, r)) :
    r.length ≤ bs.length := by
  unfold takeBytes at h
  split at h
  · cases h
    simp
  · cases h

theorem length_le_of_readPlain {type : WireType} {bs r : Bytes} {p : Payload}
    (h : readPlain type bs = some (p, r)) : r.length ≤ bs.length := by
  unfold readPlain at h
  split at h
  · obtain ⟨⟨n, t⟩, hw, he⟩ := Option.map_eq_some_iff.1 h
    cases he
    exact Nat.le_of_lt (length_lt_of_readGroups hw)
  · obtain ⟨⟨u, t⟩, ht, he⟩ := Option.map_eq_some_iff.1 h
    cases he
    exact length_le_of_takeBytes ht
  · obtain ⟨⟨u, t⟩, ht, he⟩ := Option.map_eq_some_iff.1 h
    cases he
    exact length_le_of_takeBytes ht
  · obtain ⟨⟨n, t⟩, hw, hb⟩ := Option.bind_eq_some_iff.1 h
    obtain ⟨⟨u, t'⟩, ht, he⟩ := Option.map_eq_some_iff.1 hb
    cases he
    exact Nat.le_trans (length_le_of_takeBytes ht) (Nat.le_of_lt (length_lt_of_readGroups hw))
  · cases h
  · cases h

/-- Passes over what is left of the open groups, the innermost first; no more than `depth` may be
open when another field starts. -/
def skipGroups (depth : Nat) (stack : List Nat) (bs : Bytes) : Option Bytes :=
  match stack with
  | [] => some bs
  | number :: outer =>
    match _hk : readKey bs with
    | none => none
    | some (key, r) =>
      match key.type with
      | .endGroup => if key.number = number then skipGroups depth outer r else none
      | .startGroup =>
        if depth ≤ stack.length then none else skipGroups depth (key.number :: number :: outer) r
      | t =>
        if depth ≤ stack.length then none
        else
          match _hp : readPlain t r with
          | none => none
          | some (_, r') => skipGroups depth (number :: outer) r'
termination_by bs.length
decreasing_by
  · exact length_lt_of_readKey _hk
  · exact length_lt_of_readKey _hk
  · exact Nat.lt_of_le_of_lt (length_le_of_readPlain _hp) (length_lt_of_readKey _hk)

structure Field where
  number : Nat
  payload : Payload
deriving DecidableEq, Repr

/-- Reads one field of a message that lies `depth` below the limit. -/
def readField (depth : Nat) (bs : Bytes) : Option (Field × Bytes) :=
  match readKey bs with
  | none => none
  | some (key, r) =>
    if key.type = .startGroup then
      if depth = 0 then none
      else (skipGroups depth [key.number] r).map fun r' => (⟨key.number, .skipped⟩, r')
    else (readPlain key.type r).map fun p => (⟨key.number, p.1⟩, p.2)

/-- Reads a message as the list of its fields, onto `done` (last first); `fuel` is its length. -/
def readFields (depth : Nat) (done : List Field) : Nat → Bytes → Option (List Field)
  | _, [] => some done.reverse
  | 0, _ :: _ => none
  | fuel + 1, bs =>
    match readField depth bs with
    | none => none
    | some (f, r) => readFields depth (f :: done) fuel r

/-- How deep messages and groups may be nested. -/
def depthLimit : Nat := 100

def fields? (depth : Nat) (bs : Bytes) : Option (List Field) := readFields depth [] bs.length bs

/-! ## Writing fields -/

/-- A number field, unless it holds zero. -/
def wordField (number n : Nat) : Bytes :=
  if n = 0 then [] else writeKey ⟨number, .word⟩ ++ writeWord n

def bytesField (number : Nat) (bs : Bytes) : Bytes :=
  writeKey ⟨number, .bytes⟩ ++ writeWord bs.length ++ bs

/-- A text field, unless it is empty. -/
def textField (number : Nat) (s : String) : Bytes :=
  if s = "" then [] else bytesField number (Utf8.encode s)

end Wire

/-! ## Messages -/

/-- A query for all counters whose names hold a pattern. -/
structure QueryRequest where
  pattern : String
  reset : Bool
deriving DecidableEq, Repr

/-- The answer to a query. -/
structure QueryResponse where
  stats : List Stat
deriving DecidableEq, Repr

open Wire

namespace QueryRequest

def encode (q : QueryRequest) : Bytes := textField 1 q.pattern ++ wordField 2 q.reset.toNat

/-- Takes one field into a request. -/
def take? (q : QueryRequest) (f : Field) : Option QueryRequest :=
  if f.number = 1 then
    match f.payload with
    | .bytes bs => (Utf8.decode? bs).map fun s => { q with pattern := s }
    | _ => none
  else if f.number = 2 then
    match f.payload with
    | .word n => some { q with reset := n != 0 }
    | _ => none
  else some q

def decode? (bs : Bytes) : Option QueryRequest :=
  (fields? depthLimit bs).bind fun fs => fs.foldlM take? ⟨"", false⟩

end QueryRequest

namespace Stat

def encode (s : Stat) : Bytes := textField 1 s.name ++ wordField 2 (wordOfInt s.value)

/-- Takes one field into a stat. -/
def take? (s : Stat) (f : Field) : Option Stat :=
  if f.number = 1 then
    match f.payload with
    | .bytes bs => (Utf8.decode? bs).map fun name => { s with name := name }
    | _ => none
  else if f.number = 2 then
    match f.payload with
    | .word n => some { s with value := intOfWord n }
    | _ => none
  else some s

def decode? (bs : Bytes) : Option Stat :=
  (fields? (depthLimit - 1) bs).bind fun fs => fs.foldlM take? ⟨"", 0⟩

end Stat

namespace QueryResponse

def encode (q : QueryResponse) : Bytes := q.stats.flatMap fun s => bytesField 1 s.encode

/-- Takes one field into the stats read so far, the last one first. -/
def take? (done : List Stat) (f : Field) : Option (List Stat) :=
  if f.number = 1 then
    match f.payload with
    | .bytes bs => (Stat.decode? bs).map (· :: done)
    | _ => none
  else some done

def decode? (bs : Bytes) : Option QueryResponse :=
  (fields? depthLimit bs).bind fun fs => (fs.foldlM take? []).map fun done => ⟨done.reverse⟩

def counters (q : QueryResponse) : List Counter := q.stats.map Counter.ofStat

end QueryResponse

end ProxyWarden.Traffic
