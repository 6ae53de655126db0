import ProxyWarden.Proofs.Journal.Counting

/-!
# Finding records

A search from the end of a journal counts the lines that hold a JSON value, by a reader that is more
lenient than that of records, and keeps them without the white space around them. No record is missed
by this: a line that is read as a connection counts, and what is kept of it is read as the same
connection (`Connection.record_is_found`).
-/
namespace ProxyWarden.Connection

open Json

variable {line : Bytes} {c : Connection}

theorem trim_ne_nil_of_ofLine? (h : ofLine? line = some c) : Bytes.trim line ≠ [] := by
  intro hblank
  cases (ofLine?_eq_none_of_blank hblank).symm.trans h

/-- A record passes the test by which lines are counted. -/
theorem counts_of_ofLine? (h : ofLine? line = some c) :
    (!(Bytes.trim line).isEmpty && isValue (Bytes.trim line)) = true := by
  have hne := trim_ne_nil_of_ofLine? h
  have hvalue := isValue_of_ofLine? (ofLine?_trim h)
  rw [hvalue, Bool.and_true, Bool.not_eq_true', List.isEmpty_eq_false_iff]
  exact hne

theorem mem_counted_of_ofLine? {ls : List Bytes} (h : ofLine? line = some c) (hmem : line ∈ ls) :
    Bytes.trim line ∈ Tail.counted ls := by
  rw [Tail.counted_eq, List.mem_filter]
  exact ⟨List.mem_map_of_mem hmem, isValue_of_ofLine? (ofLine?_trim h)⟩

theorem length_counted_le (ls : List Bytes) : (Tail.counted ls).length ≤ ls.length := by
  have hfilter := List.length_filter_le isValue (ls.map Bytes.trim)
  rwa [List.length_map, ← Tail.counted_eq] at hfilter

/-- A line that is read as a record is a JSON value and the same record without the white space around
it; a search that meets it keeps it, and so reports it if it is asked for as many lines as there are. -/
theorem record_is_found (h : ofLine? line = some c) :
    Bytes.trim line ≠ [] ∧ isValue (Bytes.trim line) = true ∧
    ofLine? (Bytes.trim line) = some c ∧
    (∀ s : Tail.Search, s.offer line =
      { s with found := Bytes.trim line :: s.found, missing := s.missing - 1 }) ∧
    ∀ file n size, line ∈ Bytes.pieces file → (Bytes.pieces file).length ≤ n →
      ∃ found, Tail.lastLines file n size .none = .ok found ∧ Bytes.trim line ∈ found := by
  refine ⟨trim_ne_nil_of_ofLine? h, isValue_of_ofLine? (ofLine?_trim h), ofLine?_trim h, ?_, ?_⟩
  · intro s
    exact Tail.Search.offer_of_counts (counts_of_ofLine? h)
  · intro file n size hmem hlength
    refine ⟨_, Tail.lastLines_eq file n size, ?_⟩
    have hcounted := length_counted_le (Bytes.pieces file)
    rw [Tail.rtake_of_length_le (by omega)]
    exact mem_counted_of_ofLine? h hmem

/-- A record between fields of other programs, one of which is no text, with the protocol as an
object. -/
def taggedLine : Bytes := Bytes.ofAscii
  ("\t\x7b\"x\":[\"\\ud800\",\x7b\"y\":1e999\x7d],\"client\":\"a\",\"server\":\"tcp:a:1\","
    ++ "\"proto\":\x7b\"udp\": null\x7d,\"inbound\":\"in\",\"outbound\":\"out\",\"user\":\"\\u00e9\"\x7d \r")

def listedLine : Bytes :=
  Bytes.ofAscii " [\"a\", \"tcp:a:1\",\"http\",\"in\",\"out\",\"UNKNOWN\"]"

theorem record_is_found_taggedAndListed :
    (∃ c, ofLine? taggedLine = some c ∧ c.proto = .udp ∧
      isValue (Bytes.trim taggedLine) = true ∧ ofLine? (Bytes.trim taggedLine) = some c) ∧
    ∃ c, ofLine? listedLine = some c ∧ c.proto = .http ∧
      ∃ found, Tail.lastLines (taggedLine ++ Bytes.newline :: listedLine) 2 7 .none = .ok found ∧
        Bytes.trim listedLine ∈ found := by
  have htagged : ofLine? taggedLine = some ⟨"a", "tcp:a:1", .udp, "in", "out", "é"⟩ := by
    decide +kernel
  have hlisted : ofLine? listedLine = some ⟨"a", "tcp:a:1", .http, "in", "out", "UNKNOWN"⟩ := by
    decide +kernel
  obtain ⟨-, hvalue, hsame, -, -⟩ := record_is_found htagged
  obtain ⟨-, -, -, -, hfound⟩ := record_is_found hlisted
  refine ⟨⟨_, htagged, rfl, hvalue, hsame⟩, _, hlisted, rfl, ?_⟩
  exact hfound (taggedLine ++ Bytes.newline :: listedLine) 2 7 (by decide +kernel) (by decide +kernel)

end ProxyWarden.Connection
