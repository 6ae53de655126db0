import Mathlib.Tactic.SplitIfs
import ProxyWarden.Proofs.Traffic.Words

/-!
# Fields on the wire

How much a reader takes does not depend on what follows (`SelfDelimiting`), for every part of a field:
words, keys, payloads, and groups that are passed over. So the fields of two messages, one behind the
other, are the fields of the first and then those of the second (`fields?_append`). What the bytes of a
message of words and byte strings can be is said without a reader (`MessageText`); all of them are read
as its fields (`MessageText.fields?_eq`), and what is written is one of them.
-/
namespace ProxyWarden.Traffic.Wire

variable {depth fuel number n : Nat} {stack : List Nat}
variable {f : Field} {fs gs done : List Field} {bs cs w r t : Bytes} {s : String}

/-! ## Readers that know where to stop -/

section
variable {α β : Type} {read : Bytes → Option (α × Bytes)} {next : α → Bytes → Option (β × Bytes)}

/-- The reader takes a beginning of the bytes, and takes the same from in front of all others. -/
def SelfDelimiting (read : Bytes → Option (α × Bytes)) : Prop :=
  ∀ ⦃bs a r⦄, read bs = some (a, r) → ∃ w, bs = w ++ r ∧ ∀ t, read (w ++ t) = some (a, t)

namespace SelfDelimiting

/-- A reader that takes nothing. -/
theorem constant (a? : Option α) : SelfDelimiting fun bs => a?.map (·, bs) := by
  intro bs a r h
  obtain ⟨a', rfl, ha⟩ := Option.map_eq_some_iff.1 h
  cases ha
  exact ⟨[], rfl, fun _ => rfl⟩

theorem failing : SelfDelimiting fun _ : Bytes => (none : Option (α × Bytes)) :=
  constant none

theorem bind (hread : SelfDelimiting read) (hnext : ∀ a, SelfDelimiting (next a)) :
    SelfDelimiting fun bs => (read bs).bind fun p => next p.1 p.2 := by
  intro bs b r h
  obtain ⟨⟨a, r'⟩, ha, hb⟩ := Option.bind_eq_some_iff.1 h
  obtain ⟨w, rfl, hw⟩ := hread ha
  obtain ⟨w', rfl, hw'⟩ := hnext a hb
  refine ⟨w ++ w', (List.append_assoc _ _ _).symm, ?_⟩
  intro t
  dsimp only
  rw [List.append_assoc, hw, Option.bind_some]
  exact hw' t

theorem map (hread : SelfDelimiting read) (f : α → β) :
    SelfDelimiting fun bs => (read bs).map fun p => (f p.1, p.2) := by
  intro bs b r h
  obtain ⟨⟨a, r'⟩, ha, hb⟩ := Option.map_eq_some_iff.1 h
  cases hb
  obtain ⟨w, rfl, hw⟩ := hread ha
  refine ⟨w, rfl, ?_⟩
  intro t
  dsimp only
  rw [hw, Option.map_some]

end SelfDelimiting

end

theorem selfDelimiting_readWord : SelfDelimiting readWord := by
  intro bs n r h
  obtain ⟨w, hword, rfl⟩ := readWord_eq_some_iff.1 h
  exact ⟨w, rfl, hword.readWord_append⟩

theorem takeBytes_append (w t : Bytes) : takeBytes w.length (w ++ t) = some (w, t) := by
  rw [takeBytes, List.take_left, List.drop_left, if_pos rfl]

theorem selfDelimiting_takeBytes (n : Nat) : SelfDelimiting (takeBytes n) := by
  intro bs w r h
  unfold takeBytes at h
  split_ifs at h with hlength
  cases h
  refine ⟨bs.take n, (List.take_append_drop n bs).symm, ?_⟩
  intro t
  have htake := takeBytes_append (bs.take n) t
  rwa [hlength] at htake

def Key.ofWord? (n : Nat) : Option Key :=
  if Word.values32 ≤ n ∨ n / 8 = 0 then none
  else (WireType.ofCode? (n % 8)).map fun type => ⟨n / 8, type⟩

theorem readKey_eq (bs : Bytes) :
    readKey bs = (readWord bs).bind fun p => (Key.ofWord? p.1).map (·, p.2) := by
  unfold readKey Key.ofWord?
  cases readWord bs with
  | none => rfl
  | some p =>
      dsimp only [Option.bind_some]
      split_ifs
      · rfl
      · rw [Option.map_map]
        rfl

theorem selfDelimiting_readKey : SelfDelimiting readKey := by
  rw [funext readKey_eq]
  exact selfDelimiting_readWord.bind fun n => .constant (Key.ofWord? n)

theorem selfDelimiting_readPlain (type : WireType) : SelfDelimiting (readPlain type) := by
  cases type with
  | word => exact selfDelimiting_readWord.map _
  | fixed64 => exact (selfDelimiting_takeBytes 8).map fun _ => Payload.skipped
  | bytes => exact selfDelimiting_readWord.bind fun n => (selfDelimiting_takeBytes n).map _
  | startGroup => exact .failing
  | endGroup => exact .failing
  | fixed32 => exact (selfDelimiting_takeBytes 4).map fun _ => Payload.skipped

/-! ## Groups -/

/-- What one field inside of a group leaves: the groups that are open behind it, and the rest. -/
def groupStep (depth number : Nat) (outer : List Nat) (key : Key) (bs : Bytes) :
    Option (List Nat × Bytes) :=
  if key.type = .endGroup then
    if key.number = number then some (outer, bs) else none
  else if depth ≤ outer.length + 1 then none
  else if key.type = .startGroup then some (key.number :: number :: outer, bs)
  else (readPlain key.type bs).map fun p => (number :: outer, p.2)

theorem selfDelimiting_groupStep (depth number : Nat) (outer : List Nat) (key : Key) :
    SelfDelimiting (groupStep depth number outer key) := by
  unfold groupStep
  split_ifs
  · exact .constant (some outer)
  · exact .failing
  · exact .failing
  · exact .constant (some (key.number :: number :: outer))
  · exact (selfDelimiting_readPlain key.type).map fun _ => number :: outer

theorem skipGroups_cons (depth number : Nat) (outer : List Nat) (bs : Bytes) :
    skipGroups depth (number :: outer) bs = (readKey bs).bind fun p =>
      (groupStep depth number outer p.1 p.2).bind fun q => skipGroups depth q.1 q.2 := by
  rw [skipGroups]
  split
  · next h => rw [h, Option.bind_none]
  · next key r h =>
      rw [h, Option.bind_some, groupStep]
      dsimp only [List.length_cons]
      split
      · next hend =>
          rw [if_pos hend]
          split_ifs
          · rfl
          · rfl
      · next hstart =>
          have hend : key.type ≠ .endGroup := by
            rw [hstart]
            decide
          rw [if_neg hend, if_pos hstart]
          split_ifs
          · rfl
          · rfl
      · next hend hstart =>
          rw [if_neg hend, if_neg hstart]
          split_ifs
          · rfl
          · split
            · next hplain => rw [hplain]; rfl
            · next hplain => rw [hplain]; rfl

/-- Passing over groups ends with the outermost one, whatever follows. -/
theorem exists_of_skipGroups (h : skipGroups depth stack bs = some r) :
    ∃ w, bs = w ++ r ∧ ∀ t, skipGroups depth stack (w ++ t) = some t := by
  induction hn : bs.length using Nat.strongRecOn generalizing bs stack with
  | ind n ih =>
      cases stack with
      | nil =>
          rw [skipGroups] at h
          cases h
          exact ⟨[], rfl, fun t => by rw [skipGroups, List.nil_append]⟩
      | cons number outer =>
          rw [skipGroups_cons] at h
          obtain ⟨⟨key, r₁⟩, hkey, hbehind⟩ := Option.bind_eq_some_iff.1 h
          obtain ⟨⟨stack', r₂⟩, hstep, hrest⟩ := Option.bind_eq_some_iff.1 hbehind
          have hlt := length_lt_of_readKey hkey
          obtain ⟨u, rfl, hu⟩ := selfDelimiting_readKey hkey
          obtain ⟨v, rfl, hv⟩ := selfDelimiting_groupStep depth number outer key hstep
          have hle : r₂.length ≤ (v ++ r₂).length := (List.suffix_append v r₂).length_le
          obtain ⟨w, rfl, hw⟩ := ih r₂.length (by omega) hrest rfl
          refine ⟨u ++ (v ++ w), by simp only [List.append_assoc], ?_⟩
          intro t
          rw [skipGroups_cons, List.append_assoc, hu, Option.bind_some, List.append_assoc, hv,
            Option.bind_some, hw]

/-! ## One field -/

def readBehind (depth : Nat) (key : Key) (bs : Bytes) : Option (Field × Bytes) :=
  if key.type = .startGroup then
    if depth = 0 then none
    else (skipGroups depth [key.number] bs).map fun r => (⟨key.number, .skipped⟩, r)
  else (readPlain key.type bs).map fun p => (⟨key.number, p.1⟩, p.2)

theorem readField_eq (depth : Nat) (bs : Bytes) :
    readField depth bs = (readKey bs).bind fun p => readBehind depth p.1 p.2 := by
  unfold readField
  cases readKey bs with
  | none => rfl
  | some p => rfl

theorem selfDelimiting_readBehind (depth : Nat) (key : Key) :
    SelfDelimiting (readBehind depth key) := by
  unfold readBehind
  split_ifs
  · exact .failing
  · intro bs f r h
    obtain ⟨r', hskip, hr⟩ := Option.map_eq_some_iff.1 h
    cases hr
    obtain ⟨w, rfl, hw⟩ := exists_of_skipGroups hskip
    refine ⟨w, rfl, ?_⟩
    intro t
    dsimp only
    rw [hw, Option.map_some]
  · exact (selfDelimiting_readPlain key.type).map fun payload => (⟨key.number, payload⟩ : Field)

theorem selfDelimiting_readField (depth : Nat) : SelfDelimiting (readField depth) := by
  rw [funext (readField_eq depth)]
  exact selfDelimiting_readKey.bind (selfDelimiting_readBehind depth)

theorem length_lt_of_readField (h : readField depth bs = some (f, r)) : r.length < bs.length := by
  rw [readField_eq] at h
  obtain ⟨⟨key, r'⟩, hkey, hbehind⟩ := Option.bind_eq_some_iff.1 h
  obtain ⟨w, hw, -⟩ := selfDelimiting_readBehind depth key hbehind
  have hlt := length_lt_of_readKey hkey
  dsimp only at hw
  rw [hw, List.length_append] at hlt
  omega

/-! ## The fields of a message -/

theorem readFields_nil (fuel : Nat) : readFields depth done fuel [] = some done.reverse := by
  cases fuel with
  | zero => rfl
  | succ fuel => rfl

theorem readFields_cons (b : UInt8) (bs : Bytes) : readFields depth done (fuel + 1) (b :: bs) =
    (readField depth (b :: bs)).bind fun p => readFields depth (p.1 :: done) fuel p.2 := by
  rw [readFields]
  · cases readField depth (b :: bs) with
    | none => rfl
    | some p => rfl
  · exact List.cons_ne_nil b bs

theorem readFields_eq (h : bs.length ≤ fuel) :
    readFields depth done fuel bs = (fields? depth bs).map (done.reverse ++ ·) := by
  induction fuel using Nat.strongRecOn generalizing bs done with
  | ind fuel ih =>
      cases bs with
      | nil => simp [fields?, readFields_nil]
      | cons b bs =>
          rw [List.length_cons] at h
          obtain ⟨fuel, rfl⟩ : ∃ k, fuel = k + 1 := ⟨fuel - 1, by omega⟩
          rw [fields?, List.length_cons, readFields_cons, readFields_cons, Option.map_bind]
          apply Option.bind_congr
          intro p hfield
          have hlt := length_lt_of_readField hfield
          rw [List.length_cons] at hlt
          dsimp only [Function.comp_apply]
          rw [ih fuel (by omega) (by omega), ih bs.length (by omega) (by omega), Option.map_map]
          congr 1
          funext fs
          simp

theorem fields?_of_ne_nil (h : bs ≠ []) : fields? depth bs =
    (readField depth bs).bind fun p => (fields? depth p.2).map (p.1 :: ·) := by
  obtain ⟨b, bs, rfl⟩ := List.exists_cons_of_ne_nil h
  rw [fields?, List.length_cons, readFields_cons]
  apply Option.bind_congr
  intro p hfield
  have hlt := length_lt_of_readField hfield
  rw [List.length_cons] at hlt
  rw [readFields_eq (by omega)]
  rfl

/-- The field that is read first is followed by those of the rest. -/
theorem fields?_of_readField (h : readField depth bs = some (f, r)) :
    fields? depth bs = (fields? depth r).map (f :: ·) := by
  have hlt := length_lt_of_readField h
  rw [fields?_of_ne_nil (List.ne_nil_of_length_pos (by omega)), h, Option.bind_some]

theorem fields?_eq_cons (h : fields? depth bs = some (f :: fs)) :
    ∃ r, readField depth bs = some (f, r) ∧ fields? depth r = some fs := by
  cases bs with
  | nil => cases h
  | cons b bs =>
      rw [fields?_of_ne_nil (List.cons_ne_nil b bs)] at h
      obtain ⟨⟨f', r⟩, hfield, hmap⟩ := Option.bind_eq_some_iff.1 h
      obtain ⟨fs', hrest, hcons⟩ := Option.map_eq_some_iff.1 hmap
      cases hcons
      exact ⟨r, hfield, hrest⟩

theorem eq_nil_of_fields? (h : fields? depth bs = some []) : bs = [] := by
  by_contra hne
  rw [fields?_of_ne_nil hne] at h
  obtain ⟨p, -, hmap⟩ := Option.bind_eq_some_iff.1 h
  obtain ⟨fs, -, hcons⟩ := Option.map_eq_some_iff.1 hmap
  cases hcons

/-- The fields of messages that stand one behind the other are those of each in turn. -/
theorem fields?_append (hfs : fields? depth bs = some fs) (hgs : fields? depth cs = some gs) :
    fields? depth (bs ++ cs) = some (fs ++ gs) := by
  induction fs generalizing bs with
  | nil =>
      rw [eq_nil_of_fields? hfs]
      exact hgs
  | cons f fs ih =>
      obtain ⟨r, hfield, hrest⟩ := fields?_eq_cons hfs
      obtain ⟨w, rfl, hw⟩ := selfDelimiting_readField depth hfield
      rw [List.append_assoc, fields?_of_readField (hw (r ++ cs)), ih hrest, Option.map_some]
      rfl

/-! ## The bytes of a message -/

def IsNumber (number : Nat) : Prop := 0 < number ∧ number < 2 ^ 29

instance (number : Nat) : Decidable (IsNumber number) := inferInstanceAs (Decidable (_ ∧ _))

/-- The bytes are a field that holds a word, or bytes behind their length. -/
inductive FieldText : Field → Bytes → Prop
  | word {number n : Nat} {k w : Bytes} : IsNumber number → WordText (number * 8) k →
      WordText n w → FieldText ⟨number, .word n⟩ (k ++ w)
  | bytes {number : Nat} {k l bs : Bytes} : IsNumber number → WordText (number * 8 + 2) k →
      WordText bs.length l → FieldText ⟨number, .bytes bs⟩ (k ++ (l ++ bs))

/-- The bytes are those of fields, one behind the other. -/
inductive MessageText : List Field → Bytes → Prop
  | nil : MessageText [] []
  | cons {f : Field} {fs : List Field} {w bs : Bytes} : FieldText f w → MessageText fs bs →
      MessageText (f :: fs) (w ++ bs)

theorem ofCode?_code (type : WireType) : WireType.ofCode? type.code = some type := by
  cases type with
  | word => rfl
  | fixed64 => rfl
  | bytes => rfl
  | startGroup => rfl
  | endGroup => rfl
  | fixed32 => rfl

theorem code_lt (type : WireType) : type.code < 8 := by
  cases type with
  | word => decide
  | fixed64 => decide
  | bytes => decide
  | startGroup => decide
  | endGroup => decide
  | fixed32 => decide

theorem ofWord?_number_code (h : IsNumber number) (type : WireType) :
    Key.ofWord? (number * 8 + type.code) = some ⟨number, type⟩ := by
  obtain ⟨hpos, hlt⟩ := h
  have hcode := code_lt type
  have hnumber : (number * 8 + type.code) / 8 = number := by omega
  have htype : (number * 8 + type.code) % 8 = type.code := by omega
  rw [Key.ofWord?, hnumber, htype, ofCode?_code, if_neg, Option.map_some]
  unfold Word.values32
  omega

theorem readField_of_wordText (hnumber : IsNumber number) (type : WireType)
    (hkey : WordText (number * 8 + type.code) w) (t : Bytes) :
    readField depth (w ++ t) = readBehind depth ⟨number, type⟩ t := by
  rw [readField_eq, readKey_eq, hkey.readWord_append, Option.bind_some,
    ofWord?_number_code hnumber, Option.map_some, Option.bind_some]

/-- A field is read from in front of anything else. -/
theorem FieldText.readField_append (h : FieldText f w) (t : Bytes) :
    readField depth (w ++ t) = some (f, t) := by
  cases h with
  | word hnumber hkey hword =>
      rw [List.append_assoc, readField_of_wordText hnumber .word hkey]
      have hread := hword.readWord_append t
      simp [readBehind, readPlain, hread]
  | @bytes number k l bs hnumber hkey hlength =>
      rw [List.append_assoc, readField_of_wordText hnumber .bytes hkey, List.append_assoc]
      have hread := hlength.readWord_append (bs ++ t)
      simp [readBehind, readPlain, hread, takeBytes_append]

theorem MessageText.fields?_eq (h : MessageText fs bs) : fields? depth bs = some fs := by
  induction h with
  | nil => rfl
  | cons hfield _ ih => rw [fields?_of_readField (hfield.readField_append _), ih, Option.map_some]

theorem MessageText.append (hfs : MessageText fs bs) (hgs : MessageText gs cs) :
    MessageText (fs ++ gs) (bs ++ cs) := by
  induction hfs with
  | nil => exact hgs
  | cons hfield _ ih =>
      rw [List.append_assoc]
      exact .cons hfield ih

theorem FieldText.messageText (h : FieldText f w) : MessageText [f] w := by
  have hcons := MessageText.cons h .nil
  rwa [List.append_nil] at hcons

/-! ## Writing -/

theorem wordText_writeKey (hnumber : IsNumber number) (type : WireType) :
    WordText (number * 8 + type.code) (writeKey ⟨number, type⟩) := by
  have hcode := code_lt type
  have hlt := hnumber.2
  apply wordText_writeWord
  unfold Word.values64
  omega

theorem fieldText_bytesField (hnumber : IsNumber number) (h : bs.length < Word.values64) :
    FieldText ⟨number, .bytes bs⟩ (bytesField number bs) := by
  have hkey := wordText_writeKey hnumber .bytes
  rw [bytesField, List.append_assoc]
  exact .bytes hnumber hkey (wordText_writeWord h)

/-- Bytes that a word cannot count are not read back. -/
theorem fields?_bytesField_append_of_le (hnumber : IsNumber number) (h : Word.values64 ≤ bs.length)
    (t : Bytes) : fields? depth (bytesField number bs ++ t) = none := by
  have hkey := wordText_writeKey hnumber .bytes
  have hne := hkey.spelled.ne_nil
  rw [bytesField, List.append_assoc, List.append_assoc]
  rw [fields?_of_ne_nil (by simp [hne]), readField_of_wordText hnumber .bytes hkey]
  simp [readBehind, readPlain, readWord_writeWord_append_of_le h]

def textFields (number : Nat) (s : String) : List Field :=
  if s = "" then [] else [⟨number, .bytes (Utf8.encode s)⟩]

def wordFields (number n : Nat) : List Field := if n = 0 then [] else [⟨number, .word n⟩]

theorem messageText_textField (hnumber : IsNumber number)
    (h : (Utf8.encode s).length < Word.values64) :
    MessageText (textFields number s) (textField number s) := by
  unfold textFields textField
  split_ifs
  · exact .nil
  · exact (fieldText_bytesField hnumber h).messageText

theorem messageText_wordField (hnumber : IsNumber number) (h : n < Word.values64) :
    MessageText (wordFields number n) (wordField number n) := by
  unfold wordFields wordField
  split_ifs
  · exact .nil
  · have hkey := wordText_writeKey hnumber .word
    exact (FieldText.word hnumber hkey (wordText_writeWord h)).messageText

end ProxyWarden.Traffic.Wire
