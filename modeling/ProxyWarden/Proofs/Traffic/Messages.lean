import Mathlib.Data.List.Forall2
import ProxyWarden.Proofs.Text.Decoding
import ProxyWarden.Proofs.Traffic.Fields

/-!
# Queries and answers on the wire

What the bytes of a query and of an answer can be is said without a writer (`QueryRequest.Written`,
`QueryResponse.Written`): all of them are read as the message, and what is written is one of them. So
a message is read back as it was if its values are signed words and its lengths are words, and only
then (`QueryRequest.decode?_encode_iff`, `QueryResponse.decode?_encode_iff`). Answers that stand one
behind the other are read as one, whatever their bytes (`QueryResponse.decode?_append`).
-/
namespace ProxyWarden.Traffic

open Wire

variable {depth n : Nat} {s : String} {bs cs : Bytes} {v : Int}

namespace Wire

/-! ## Signed words -/

theorem wordOfInt_lt (v : Int) : wordOfInt v < Word.values64 := by
  unfold wordOfInt Word.values64
  omega

/-- A number is that of its word if it is a signed word of 64 bits. -/
theorem intOfWord_wordOfInt_eq_iff : intOfWord (wordOfInt v) = v ↔ -2 ^ 63 ≤ v ∧ v < 2 ^ 63 := by
  unfold intOfWord wordOfInt Word.values64
  split_ifs <;> omega

theorem intOfWord_of_wordOfInt_eq_zero (h : wordOfInt v = 0) : intOfWord (wordOfInt v) = 0 := by
  rw [h]
  rfl

/-! ## A text and a number -/

/-- A text in field one and a number in field two are taken one after the other; a field that is not
written leaves what was there. -/
theorem foldlM_textFields_wordFields {σ : Type} {take? : σ → Field → Option σ} {start whole : σ}
    (named : σ) (htext : take? start ⟨1, .bytes (Utf8.encode s)⟩ = some named)
    (hempty : s = "" → start = named) (hword : take? named ⟨2, .word n⟩ = some whole)
    (hzero : n = 0 → named = whole) :
    (textFields 1 s ++ wordFields 2 n).foldlM take? start = some whole := by
  have hfirst : (textFields 1 s).foldlM take? start = some named := by
    unfold textFields
    split_ifs with hs
    · rw [hempty hs]
      rfl
    · rw [List.foldlM_cons, htext]
      rfl
  have hsecond : (wordFields 2 n).foldlM take? named = some whole := by
    unfold wordFields
    split_ifs with hn
    · rw [hzero hn]
      rfl
    · rw [List.foldlM_cons, hword]
      rfl
  rw [List.foldlM_append, hfirst]
  exact hsecond

theorem messageText_textField_wordField (hs : (Utf8.encode s).length < Word.values64)
    (hn : n < Word.values64) :
    MessageText (textFields 1 s ++ wordFields 2 n) (textField 1 s ++ wordField 2 n) :=
  (messageText_textField (by decide) hs).append (messageText_wordField (by decide) hn)

theorem length_le_textField (number : Nat) (s : String) :
    (Utf8.encode s).length ≤ (textField number s).length := by
  unfold textField
  split_ifs with hs
  · subst hs
    decide
  · exact (List.suffix_append _ _).length_le

end Wire

/-! ## Queries -/

namespace QueryRequest

variable {q : QueryRequest}

/-- The bytes are a query: the pattern in field one, and in field two whether to reset. -/
def Written (q : QueryRequest) (bs : Bytes) : Prop :=
  MessageText (textFields 1 q.pattern ++ wordFields 2 q.reset.toNat) bs

theorem decode?_of_written (h : q.Written bs) : decode? bs = some q := by
  obtain ⟨pattern, reset⟩ := q
  rw [decode?, h.fields?_eq, Option.bind_some]
  apply foldlM_textFields_wordFields ⟨pattern, false⟩
  · simp [take?, Utf8.decode?_encode]
  · rintro rfl
    rfl
  · cases reset with
    | false => rfl
    | true => rfl
  · intro hzero
    cases reset with
    | false => rfl
    | true => cases hzero

/-- A word can tell how long the pattern is. -/
def Fits (q : QueryRequest) : Prop := (Utf8.encode q.pattern).length < Word.values64

instance (q : QueryRequest) : Decidable q.Fits := inferInstanceAs (Decidable (_ < _))

theorem written_encode (h : q.Fits) : q.Written q.encode := by
  apply messageText_textField_wordField h
  cases q.reset with
  | false => decide
  | true => decide

theorem decode?_encode_iff (q : QueryRequest) : decode? q.encode = some q ↔ q.Fits := by
  constructor
  · intro h
    by_contra hlength
    have hne : q.pattern ≠ "" := by
      intro hempty
      rw [Fits, hempty] at hlength
      exact hlength (by decide)
    have htext : textField 1 q.pattern = bytesField 1 (Utf8.encode q.pattern) := if_neg hne
    rw [decode?, encode, htext,
      fields?_bytesField_append_of_le (by decide) (Nat.not_lt.1 hlength)] at h
    cases h
  · exact fun h => decode?_of_written (written_encode h)

end QueryRequest

/-! ## Stats -/

namespace Stat

variable {s : Stat}

/-- The bytes are a stat: the name in field one, and the word of the value in field two. -/
def Written (s : Stat) (bs : Bytes) : Prop :=
  MessageText (textFields 1 s.name ++ wordFields 2 (wordOfInt s.value)) bs

/-- The stat with the number that its word stands for. -/
def wrapped (s : Stat) : Stat := { s with value := intOfWord (wordOfInt s.value) }

theorem decode?_of_written (h : s.Written bs) : decode? bs = some s.wrapped := by
  rw [decode?, h.fields?_eq, Option.bind_some]
  apply foldlM_textFields_wordFields ⟨s.name, 0⟩
  · simp [take?, Utf8.decode?_encode]
  · intro hempty
    rw [hempty]
  · rfl
  · intro hzero
    rw [wrapped, intOfWord_of_wordOfInt_eq_zero hzero]

/-- The value is a signed word, and a word can tell how long the message is. -/
structure Fits (s : Stat) : Prop where
  length_lt : s.encode.length < Word.values64
  le_value : -2 ^ 63 ≤ s.value
  value_lt : s.value < 2 ^ 63

theorem fits_iff (s : Stat) :
    s.Fits ↔ s.encode.length < Word.values64 ∧ -2 ^ 63 ≤ s.value ∧ s.value < 2 ^ 63 :=
  ⟨fun h => ⟨h.length_lt, h.le_value, h.value_lt⟩, fun h => ⟨h.1, h.2.1, h.2.2⟩⟩

instance (s : Stat) : Decidable s.Fits := decidable_of_iff' _ s.fits_iff

theorem written_encode (h : s.encode.length < Word.values64) : s.Written s.encode := by
  have hname := length_le_textField 1 s.name
  have hle : (textField 1 s.name).length ≤ s.encode.length := (List.prefix_append _ _).length_le
  exact messageText_textField_wordField (by omega) (wordOfInt_lt s.value)

theorem wrapped_eq_iff (s : Stat) : s.wrapped = s ↔ -2 ^ 63 ≤ s.value ∧ s.value < 2 ^ 63 := by
  rw [← intOfWord_wordOfInt_eq_iff]
  cases s with
  | mk name value => simp [wrapped]

end Stat

/-! ## Answers -/

namespace QueryResponse

variable {p q : QueryResponse}

def ofFields? (fs : List Field) : Option QueryResponse :=
  (fs.foldlM take? []).map fun done => ⟨done.reverse⟩

theorem take?_append (done : List Stat) (f : Field) :
    take? done f = (take? [] f).map (· ++ done) := by
  unfold take?
  split_ifs
  · cases f.payload with
    | word n => rfl
    | bytes bs =>
        dsimp only
        rw [Option.map_map]
        rfl
    | skipped => rfl
  · rfl

/-- What was read before stays behind what is read now. -/
theorem foldlM_take? (fs : List Field) (done : List Stat) :
    fs.foldlM take? done = (fs.foldlM take? []).map (· ++ done) := by
  induction fs generalizing done with
  | nil => rfl
  | cons f fs ih =>
      rw [List.foldlM_cons, List.foldlM_cons, take?_append]
      cases take? [] f with
      | none => rfl
      | some new =>
          simp only [Option.map_some, Option.bind_eq_bind, Option.bind_some]
          rw [ih (new ++ done), ih new, Option.map_map]
          simp [Function.comp_def]

theorem ofFields?_append (fs gs : List Field) : ofFields? (fs ++ gs) =
    (ofFields? fs).bind fun p => (ofFields? gs).map fun q => ⟨p.stats ++ q.stats⟩ := by
  unfold ofFields?
  rw [List.foldlM_append]
  cases fs.foldlM take? [] with
  | none => rfl
  | some first =>
      simp only [Option.map_some, Option.bind_eq_bind, Option.bind_some]
      rw [foldlM_take?, Option.map_map, Option.map_map]
      congr 1
      funext second
      simp

/-- Answers one behind the other are read as one answer. -/
theorem decode?_append (hp : decode? bs = some p) (hq : decode? cs = some q) :
    decode? (bs ++ cs) = some ⟨p.stats ++ q.stats⟩ := by
  obtain ⟨fs, hfs, hp⟩ := Option.bind_eq_some_iff.1 hp
  obtain ⟨gs, hgs, hq⟩ := Option.bind_eq_some_iff.1 hq
  have hfirst : ofFields? fs = some p := hp
  have hsecond : ofFields? gs = some q := hq
  have hboth : decode? (bs ++ cs) = ofFields? (fs ++ gs) := by
    rw [decode?, fields?_append hfs hgs]
    rfl
  rw [hboth, ofFields?_append, hfirst, hsecond]
  rfl

/-- The bytes are an answer: each stat in a field one of its own. -/
def Written (q : QueryResponse) (bs : Bytes) : Prop :=
  ∃ parts, List.Forall₂ Stat.Written q.stats parts ∧
    MessageText (parts.map fun part => ⟨1, .bytes part⟩) bs

theorem ofFields?_stat (bs : Bytes) :
    ofFields? [⟨1, .bytes bs⟩] = (Stat.decode? bs).map fun s => ⟨[s]⟩ := by
  have htake : take? [] ⟨1, .bytes bs⟩ = (Stat.decode? bs).map (· :: []) := rfl
  rw [ofFields?, List.foldlM_cons, htake]
  cases Stat.decode? bs with
  | none => rfl
  | some s => rfl

theorem ofFields?_of_written {stats : List Stat} {parts : List Bytes}
    (h : List.Forall₂ Stat.Written stats parts) :
    ofFields? (parts.map fun part => ⟨1, .bytes part⟩) = some ⟨stats.map Stat.wrapped⟩ := by
  induction h with
  | nil => rfl
  | @cons s part stats parts hpart _ ih =>
      have hcons := ofFields?_append [⟨1, .bytes part⟩] (parts.map fun part => ⟨1, .bytes part⟩)
      rw [ofFields?_stat, Stat.decode?_of_written hpart, ih] at hcons
      exact hcons

theorem decode?_of_written (h : q.Written bs) : decode? bs = some ⟨q.stats.map Stat.wrapped⟩ := by
  obtain ⟨parts, hparts, htext⟩ := h
  rw [decode?, htext.fields?_eq]
  exact ofFields?_of_written hparts

theorem written_encode (h : ∀ s ∈ q.stats, s.encode.length < Word.values64) :
    q.Written q.encode := by
  obtain ⟨stats⟩ := q
  refine ⟨stats.map Stat.encode, ?_, ?_⟩
  · rw [List.forall₂_map_right_iff, List.forall₂_same]
    exact fun s hs => Stat.written_encode (h s hs)
  · induction stats with
    | nil => exact .nil
    | cons s stats ih =>
        rw [List.forall_mem_cons] at h
        exact .cons (fieldText_bytesField (by decide) h.1) (ih h.2)

/-- An answer with a stat of a length that no word can tell is not read back. -/
theorem fields?_encode_of_le {stats : List Stat}
    (h : ∃ s ∈ stats, Word.values64 ≤ s.encode.length) : fields? depth (encode ⟨stats⟩) = none := by
  induction stats with
  | nil => simp at h
  | cons s stats ih =>
      have hencode : encode ⟨s :: stats⟩ = bytesField 1 s.encode ++ encode ⟨stats⟩ := rfl
      rw [hencode]
      by_cases hs : s.encode.length < Word.values64
      · have hrest : ∃ s ∈ stats, Word.values64 ≤ s.encode.length := by
          simpa [Nat.not_le.2 hs] using h
        have hnumber : IsNumber 1 := by decide
        have hfield := fieldText_bytesField hnumber hs
        rw [fields?_of_readField (hfield.readField_append _), ih hrest, Option.map_none]
      · exact fields?_bytesField_append_of_le (by decide) (Nat.not_lt.1 hs) _

def Fits (q : QueryResponse) : Prop := ∀ s ∈ q.stats, s.Fits

instance (q : QueryResponse) : Decidable q.Fits :=
  inferInstanceAs (Decidable (∀ s ∈ q.stats, s.Fits))

theorem map_wrapped_eq_iff (stats : List Stat) : stats.map Stat.wrapped = stats ↔
    ∀ s ∈ stats, -2 ^ 63 ≤ s.value ∧ s.value < 2 ^ 63 := by
  calc stats.map Stat.wrapped = stats
    _ ↔ stats.map Stat.wrapped = stats.map id := by rw [List.map_id]
    _ ↔ ∀ s ∈ stats, s.wrapped = s := List.map_inj_left
    _ ↔ ∀ s ∈ stats, -2 ^ 63 ≤ s.value ∧ s.value < 2 ^ 63 := by simp only [Stat.wrapped_eq_iff]

theorem fits_iff (q : QueryResponse) : q.Fits ↔
    (∀ s ∈ q.stats, s.encode.length < Word.values64) ∧ q.stats.map Stat.wrapped = q.stats := by
  rw [map_wrapped_eq_iff]
  simp only [Fits, Stat.fits_iff, ← forall_and]

theorem decode?_of_fits_of_written (hq : q.Fits) (h : q.Written bs) : decode? bs = some q := by
  rw [decode?_of_written h, ((fits_iff q).1 hq).2]

theorem decode?_encode_iff (q : QueryResponse) : decode? q.encode = some q ↔ q.Fits := by
  rw [fits_iff]
  by_cases hlength : ∀ s ∈ q.stats, s.encode.length < Word.values64
  · rw [decode?_of_written (written_encode hlength), Option.some_inj, and_iff_right hlength]
    obtain ⟨stats⟩ := q
    simp
  · have hlong : ∃ s ∈ q.stats, Word.values64 ≤ s.encode.length := by
      simpa using hlength
    rw [decode?, fields?_encode_of_le hlong]
    simp [hlength]

end QueryResponse

/-! ## What is read back -/

/-- Queries and answers are read back as they were exactly if they fit; then they are written in the
format of the wire, in which all their spellings are read alike. Two answers one behind the other are
read as one, and the counters of an answer are its stats in order, a negative one as zero. -/
theorem messages_read_back (query : QueryRequest) (answer later : QueryResponse) :
    (QueryRequest.decode? query.encode = some query ↔ query.Fits) ∧
    (QueryResponse.decode? answer.encode = some answer ↔ answer.Fits) ∧
    (query.Fits → query.Written query.encode ∧
      ∀ bs, query.Written bs → QueryRequest.decode? bs = some query) ∧
    (answer.Fits → answer.Written answer.encode ∧
      ∀ bs, answer.Written bs → QueryResponse.decode? bs = some answer) ∧
    (answer.Fits → later.Fits → QueryResponse.decode? (answer.encode ++ later.encode) =
      some ⟨answer.stats ++ later.stats⟩) ∧
    (answer.Fits → ∃ back, QueryResponse.decode? answer.encode = some back ∧
      back.counters.map (fun c => (c.name, (c.value : Int))) =
        answer.stats.map fun s => (s.name, max 0 s.value)) := by
  refine ⟨query.decode?_encode_iff, answer.decode?_encode_iff, ?_, ?_, ?_, ?_⟩
  · intro hquery
    exact ⟨QueryRequest.written_encode hquery, fun bs => QueryRequest.decode?_of_written⟩
  · intro hanswer
    exact ⟨QueryResponse.written_encode fun s hs => (hanswer s hs).length_lt,
      fun bs => QueryResponse.decode?_of_fits_of_written hanswer⟩
  · intro hanswer hlater
    exact QueryResponse.decode?_append (answer.decode?_encode_iff.2 hanswer)
      (later.decode?_encode_iff.2 hlater)
  · intro hanswer
    refine ⟨answer, answer.decode?_encode_iff.2 hanswer, ?_⟩
    rw [QueryResponse.counters, List.map_map]
    apply List.map_congr_left
    intro s _
    simp [Counter.ofStat, max_comm]

example : QueryRequest.encode ⟨"", true⟩ = [0x10, 0x01] := by decide +kernel

def sampleQuery : QueryRequest := ⟨"ü>>>", true⟩

/-- An empty name, and both ends of the range of values. -/
def sampleAnswer : QueryResponse :=
  ⟨[⟨"user>>>ann>>>traffic>>>uplink", 2 ^ 63 - 1⟩, ⟨"", -2 ^ 63⟩, ⟨"inbound>>>api", -1⟩]⟩

def sampleLater : QueryResponse := ⟨[⟨"", 0⟩, ⟨"\x00", 128⟩]⟩

theorem messages_read_back_signedAndEmpty :
    sampleQuery.Fits ∧ sampleAnswer.Fits ∧ sampleLater.Fits ∧
    QueryRequest.decode? sampleQuery.encode = some sampleQuery ∧
    QueryResponse.decode? sampleAnswer.encode = some sampleAnswer ∧
    sampleQuery.Written sampleQuery.encode ∧ sampleAnswer.Written sampleAnswer.encode ∧
    QueryResponse.decode? (sampleAnswer.encode ++ sampleLater.encode) =
      some ⟨sampleAnswer.stats ++ sampleLater.stats⟩ ∧
    ∃ back, QueryResponse.decode? sampleAnswer.encode = some back ∧
      back.counters.map (fun c => (c.name, (c.value : Int))) =
        [("user>>>ann>>>traffic>>>uplink", 2 ^ 63 - 1), ("", 0), ("inbound>>>api", 0)] := by
  have hquery : sampleQuery.Fits := by decide +kernel
  have hanswer : sampleAnswer.Fits := by decide +kernel
  have hlater : sampleLater.Fits := by decide +kernel
  obtain ⟨hq, ha, hqtext, hatext, hboth, hcounters⟩ :=
    messages_read_back sampleQuery sampleAnswer sampleLater
  exact ⟨hquery, hanswer, hlater, hq.2 hquery, ha.2 hanswer, (hqtext hquery).1, (hatext hanswer).1,
    hboth hanswer hlater, hcounters hanswer⟩

end ProxyWarden.Traffic
