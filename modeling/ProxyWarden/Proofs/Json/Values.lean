import ProxyWarden.Proofs.Json.Fields
import ProxyWarden.Proofs.Json.Locality

/-!
# Reading and passing over

A reader that takes a value of some kind takes it wherever it stands, and takes what would be passed
over (`ReadsValue`). If the readers of all fields do, what is read as a record is one JSON value
(`isValue_of_readRecord?`), and is read as the same record without the white space around it
(`readRecord?_trim`).
-/
namespace ProxyWarden.Json

variable {bs x y : Bytes}

/-! ## Brackets further out -/

/-- More open brackets do not matter until the value is complete. -/
theorem skipFrom_append {stage : Stage} {stack : List Frame}
    (h : skipFrom stage stack bs = .ok x) (outer : List Frame) :
    skipFrom stage (stack ++ outer) bs = skipFrom .done outer x := by
  fun_induction skipFrom stage stack bs with
  | case2 stack bs b r hs f hf ih => exact (skipFrom_value_open hs hf).trans (ih h)
  | case4 stack bs b r hs hf r' hr ih => exact (skipFrom_value_scalar hs hf hr).trans (ih h)
  | case6 stack bs f r hs ih => exact (skipFrom_opened_close hs).trans (ih h)
  | case8 stack bs f b r hs hb r' hl ih => exact (skipFrom_opened hs hb hl).trans (ih h)
  | case9 bs =>
      cases h
      rfl
  | case11 bs f fs r hs ih => exact (skipFrom_done_close hs).trans (ih h)
  | case13 bs f fs r r' hl hs hc ih => exact (skipFrom_done_comma hs hl).trans (ih h)
  | _ => cases h

theorem skipFrom_value (h : skipValue bs = .ok x) (stack : List Frame) :
    skipFrom .value stack bs = skipFrom .done stack x :=
  skipFrom_append h stack

theorem skipFrom_value_nil {stack : List Frame} (hs : skipSpace bs = []) :
    skipFrom .value stack bs = .error (.on .eofInValue []) := by
  rw [skipFrom]
  split
  · rfl
  · next h => cases hs.symm.trans h

theorem skipFrom_value_error {stack : List Frame} {b : UInt8} {r : Bytes} {e : Fault}
    (hs : skipSpace bs = b :: r) (hf : Frame.ofOpener? b = none) (hr : skipScalar b r = .error e) :
    skipFrom .value stack bs = .error e := by
  rw [skipFrom]
  split
  · next h => cases hs.symm.trans h
  · next h =>
      cases hs.symm.trans h
      rw [hf]
      dsimp only
      split
      · next h' =>
          cases hr.symm.trans h'
          rfl
      · next h' => cases hr.symm.trans h'

/-- White space before a value does not matter. -/
theorem skipFrom_value_congr {bs' : Bytes} (h : skipSpace bs = skipSpace bs')
    (stack : List Frame) : skipFrom .value stack bs = skipFrom .value stack bs' := by
  cases hs : skipSpace bs' with
  | nil => rw [skipFrom_value_nil hs, skipFrom_value_nil (h.trans hs)]
  | cons b r =>
      cases hf : Frame.ofOpener? b with
      | some f => rw [skipFrom_value_open hs hf, skipFrom_value_open (h.trans hs) hf]
      | none =>
          cases hr : skipScalar b r with
          | error e => rw [skipFrom_value_error hs hf hr, skipFrom_value_error (h.trans hs) hf hr]
          | ok r' => rw [skipFrom_value_scalar hs hf hr, skipFrom_value_scalar (h.trans hs) hf hr]

/-- A list is open if its first value is there. -/
theorem skipFrom_opened_list {stack : List Frame} (h : skipFrom .value (.list :: stack) bs = .ok x) :
    skipFrom (.opened .list) stack bs = .ok x := by
  cases hs : skipSpace bs with
  | nil =>
      rw [skipFrom_value_nil hs] at h
      cases h
  | cons b r =>
      have hclose : b ≠ Frame.list.closer := by
        rintro rfl
        rw [skipFrom_value_error hs rfl rfl] at h
        cases h
      have hspace : skipSpace (b :: r) = skipSpace bs :=
        (skipSpace_cons (isSpace_of_skipSpace hs) r).trans hs.symm
      rw [skipFrom_opened hs hclose rfl, skipFrom_value_congr hspace]
      exact h

/-! ## Readers of values -/

/-- The reader takes a value, the same wherever it stands. -/
structure ReadsValue {α : Type} (read : (bs : Bytes) → Read α bs) : Prop where
  isLocal : ∀ v, Local fun bs x => ∃ h, read bs = .ok ⟨v, x, h⟩
  skips : ∀ ⦃bs t⦄, read bs = .ok t → skipValue bs = .ok t.rest

theorem skipValue_of_readString {s : String} (hs : skipSpace bs = '"'.toUInt8 :: y)
    (hr : readString y = .ok (s, x)) : skipValue bs = .ok x := by
  have hscalar : skipScalar '"'.toUInt8 y = .ok x := (if_pos rfl).trans (skipString_of_readString hr)
  rw [skipValue, skipFrom_value_scalar hs rfl hscalar, skipFrom_done_nil]

theorem readsValue_readText : ReadsValue readText where
  isLocal s := ((local_skipSpace _).comp (local_readString s)).of_iff fun _ _ => readText_eq_ok_iff
  skips := by
    intro bs t h
    obtain ⟨y, hs, hr⟩ := readText_eq_ok_iff.1 ⟨t.length_le, h⟩
    exact skipValue_of_readString hs hr

theorem readsValue_passOver {σ : Type} (s : σ) : ReadsValue (passOver s) where
  isLocal v := by
    intro bs x h
    obtain ⟨hv, hskip⟩ := passOver_eq_ok_iff.1 h
    exact (local_skipValue hskip).mono fun bs x hskip => passOver_eq_ok_iff.2 ⟨hv, hskip⟩
  skips := by
    intro bs t h
    exact (passOver_eq_ok_iff.1 ⟨t.length_le, h⟩).2

theorem ReadsValue.once {σ α : Type} {read : (bs : Bytes) → Read α bs} (h : ReadsValue read)
    (old : Option α) (put : Option α → σ) : ReadsValue fun bs => readOnce old (read bs) put where
  isLocal v := by
    intro bs x hread
    obtain ⟨hold, a, ha, hvalue⟩ := readOnce_eq_ok_iff.1 hread
    exact (h.isLocal a hvalue).mono fun bs x hvalue =>
      readOnce_eq_ok_iff.2 ⟨hold, a, ha, hvalue⟩
  skips := by
    intro bs t hread
    obtain ⟨-, a, -, hle, hvalue⟩ := readOnce_eq_ok_iff.1 ⟨t.length_le, hread⟩
    exact h.skips hvalue

/-! ## Fields of an object -/

section
variable {σ : Type} {field : σ → String → (bs : Bytes) → Read σ bs} {s s' : σ} {first : Bool}

/-- A key stands next and leaves `x` for its value. -/
def KeyAt (first : Bool) (key : String) (bs x : Bytes) : Prop :=
  ∃ y, (if first then skipSpace bs = '"'.toUInt8 :: y
    else ∃ z, skipSpace bs = ','.toUInt8 :: z ∧ skipSpace z = '"'.toUInt8 :: y) ∧
    ∃ z, readString y = .ok (key, z) ∧ skipColon z = .ok x

theorem local_keyAt (first : Bool) (key : String) : Local (KeyAt first key) := by
  have hrest := (local_readString key).comp local_skipColon
  cases first with
  | true => exact (local_skipSpace _).comp hrest
  | false => exact ((local_skipSpace _).comp (local_skipSpace _)).comp hrest

theorem readKey_eq_ok_iff {key : String} : readKey bs = .ok (key, x) ↔
    ∃ y, bs = '"'.toUInt8 :: y ∧ ∃ z, readString y = .ok (key, z) ∧ skipColon z = .ok x := by
  unfold readKey
  constructor
  · intro h
    split at h
    · cases h
    · next c y =>
        split_ifs at h with hc
        split at h
        · cases h
        · next z hr =>
            split at h
            · cases h
            · next hcolon =>
                cases h
                exact ⟨y, by rw [hc], z, hr, hcolon⟩
  · rintro ⟨y, rfl, z, hr, hcolon⟩
    dsimp only
    rw [if_pos rfl, hr]
    dsimp only
    rw [hcolon]

theorem keyAt_of_readKey {b : UInt8} {r t : Bytes} {key : String} (hs : skipSpace bs = b :: r)
    (hn : nextKey first b r = .ok t) (hk : readKey t = .ok (key, x)) : KeyAt first key bs x := by
  obtain ⟨y, rfl, hrest⟩ := readKey_eq_ok_iff.1 hk
  refine ⟨y, ?_, hrest⟩
  unfold nextKey at hn
  cases first with
  | true =>
      cases hn
      exact hs
  | false =>
      simp only [Bool.false_eq_true, if_false] at hn ⊢
      split_ifs at hn with hb
      split at hn
      · cases hn
      · next c t hz =>
          split_ifs at hn with hc
          cases hn
          exact ⟨r, hs.trans (by rw [hb]), hz⟩

theorem KeyAt.readMembers_eq {key : String} (h : KeyAt first key bs x) {v : Taken σ x}
    (hv : field s key x = .ok v) :
    readMembers field s first bs = readMembers field v.value false v.rest := by
  obtain ⟨y, hy, hrest⟩ := h
  cases first with
  | true =>
      have hs : skipSpace bs = '"'.toUInt8 :: y := hy
      exact readMembers_field hs (by decide) rfl (readKey_eq_ok_iff.2 ⟨y, rfl, hrest⟩) hv
  | false =>
      obtain ⟨z, hs, hz⟩ : ∃ z, skipSpace bs = ','.toUInt8 :: z ∧ skipSpace z = '"'.toUInt8 :: y := hy
      have hn : nextKey false ','.toUInt8 z = .ok ('"'.toUInt8 :: y) := by
        simp only [nextKey, Bool.false_eq_true, if_false, if_true, hz]
        rfl
      exact readMembers_field hs (by decide) hn (readKey_eq_ok_iff.2 ⟨y, rfl, hrest⟩) hv

def skipMembers (first : Bool) (outer : List Frame) (bs : Bytes) : Skip :=
  if first then skipFrom (.opened .object) outer bs else skipFrom .done (.object :: outer) bs

theorem KeyAt.skipMembers_eq {key : String} (h : KeyAt first key bs x) (outer : List Frame) :
    skipMembers first outer bs = skipFrom .value (.object :: outer) x := by
  obtain ⟨y, hy, z, hr, hcolon⟩ := h
  have hlabel : ∀ t, skipSpace t = '"'.toUInt8 :: y → skipLabel .object t = .ok x := by
    intro t ht
    exact skipLabel_object_eq_ok_iff.2 ⟨z, ⟨y, ht, skipString_of_readString hr⟩, hcolon⟩
  cases first with
  | true =>
      have hs : skipSpace bs = '"'.toUInt8 :: y := hy
      exact skipFrom_opened hs (by decide) (hlabel _ (skipSpace_cons (by decide) y))
  | false =>
      obtain ⟨t, hs, ht⟩ : ∃ z, skipSpace bs = ','.toUInt8 :: z ∧ skipSpace z = '"'.toUInt8 :: y := hy
      exact skipFrom_done_comma hs (hlabel t ht)

theorem local_readMembers (hfield : ∀ s key, ReadsValue (field s key)) (s s' : σ) (first : Bool) :
    Local fun bs x => readMembers field s first bs = .ok (s', x) := by
  intro bs x h
  fun_induction readMembers field s first bs with
  | case2 s first bs r hs =>
      cases h
      exact (local_skipSpace _ hs).mono fun bs x hs => readMembers_close hs
  | case6 s first bs b r hs hb t hn key t' hk v hv ih =>
      have hkey := keyAt_of_readKey hs hn hk
      have hvalue := (hfield s key).isLocal v.value ⟨v.length_le, hv⟩
      apply ((local_keyAt first key hkey).comp (hvalue.comp (ih h))).mono
      rintro bs x ⟨y, hkey, z, ⟨hle, hv⟩, hrest⟩
      exact (hkey.readMembers_eq hv).trans hrest
  | _ => cases h

theorem skipMembers_of_readMembers (hfield : ∀ s key, ReadsValue (field s key))
    (h : readMembers field s first bs = .ok (s', x)) (outer : List Frame) :
    skipMembers first outer bs = skipFrom .done outer x := by
  fun_induction readMembers field s first bs with
  | case2 s first bs r hs =>
      cases h
      cases first with
      | true => exact skipFrom_opened_close hs
      | false => exact skipFrom_done_close hs
  | case6 s first bs b r hs hb t hn key t' hk v hv ih =>
      have hkey := keyAt_of_readKey hs hn hk
      rw [hkey.skipMembers_eq, skipFrom_value ((hfield s key).skips hv)]
      exact ih h
  | _ => cases h

/-- The last byte taken is the closing brace. -/
theorem brace_suffix_of_readMembers (hfield : ∀ s key, ReadsValue (field s key))
    (h : readMembers field s first bs = .ok (s', x)) : '\x7d'.toUInt8 :: x <:+ bs := by
  fun_induction readMembers field s first bs with
  | case2 s first bs r hs =>
      cases h
      rw [← hs]
      exact List.dropWhile_suffix _
  | case6 s first bs b r hs hb t hn key t' hk v hv ih =>
      have hkey := (local_keyAt first key (keyAt_of_readKey hs hn hk)).suffix
      have hvalue := ((hfield s key).isLocal v.value ⟨v.length_le, hv⟩).suffix
      exact (ih h).trans (hvalue.trans hkey)
  | _ => cases h

end

/-! ## Items of a list -/

section
variable {σ : Type} {field : σ → String → (bs : Bytes) → Read σ bs} {s s' : σ}

/-- The byte after an item, if so many keys are left. -/
def afterItem (keys : List String) : UInt8 := if keys.isEmpty then ']'.toUInt8 else ','.toUInt8

theorem readItems_cons_eq_ok_iff {key : String} {keys : List String} :
    readItems field s (key :: keys) bs = .ok (s', x) ↔
      ∃ v y, (∃ h, field s key bs = .ok ⟨v, y, h⟩) ∧
        ∃ z, skipSpace y = afterItem keys :: z ∧ readItems field v keys z = .ok (s', x) := by
  rw [readItems]
  constructor
  · intro h
    split at h
    · cases h
    · next v hv =>
        split at h
        · cases h
        · next z hz => exact ⟨v.value, v.rest, ⟨v.length_le, hv⟩, z, expectByte_eq_ok_iff.1 hz, h⟩
  · rintro ⟨v, y, ⟨hle, hv⟩, z, hz, hrest⟩
    have hafter : expectByte (if keys.isEmpty then ']'.toUInt8 else ','.toUInt8) y = .ok z :=
      expectByte_eq_ok_iff.2 hz
    rw [hv]
    dsimp only
    rw [hafter]
    exact hrest

theorem local_readItems (hfield : ∀ s key, ReadsValue (field s key)) (s s' : σ)
    (keys : List String) : Local fun bs x => readItems field s keys bs = .ok (s', x) := by
  induction keys generalizing s with
  | nil =>
      intro bs x h
      cases h
      exact (Local.nothing rfl).mono fun bs x h => by rw [h, readItems]
  | cons key keys ih =>
      intro bs x h
      obtain ⟨v, y, hv, z, hz, hrest⟩ := readItems_cons_eq_ok_iff.1 h
      have hvalue := (hfield s key).isLocal v hv
      apply (hvalue.comp ((local_skipSpace _ hz).comp (ih v hrest))).mono
      rintro bs x ⟨y, hv, hrest⟩
      exact readItems_cons_eq_ok_iff.2 ⟨v, y, hv, hrest⟩

theorem skipFrom_of_readItems (hfield : ∀ s key, ReadsValue (field s key)) {key : String}
    {keys : List String} (h : readItems field s (key :: keys) bs = .ok (s', x))
    (outer : List Frame) :
    skipFrom .value (.list :: outer) bs = skipFrom .done outer x := by
  induction keys generalizing s key bs with
  | nil =>
      obtain ⟨v, y, ⟨hle, hv⟩, z, hz, hrest⟩ := readItems_cons_eq_ok_iff.1 h
      cases hrest
      rw [skipFrom_value ((hfield s key).skips hv)]
      exact skipFrom_done_close hz
  | cons next keys ih =>
      obtain ⟨v, y, ⟨hle, hv⟩, z, hz, hrest⟩ := readItems_cons_eq_ok_iff.1 h
      rw [skipFrom_value ((hfield s key).skips hv), skipFrom_done_comma hz rfl]
      exact ih hrest

/-- The last byte taken is the closing bracket. -/
theorem bracket_suffix_of_readItems (hfield : ∀ s key, ReadsValue (field s key)) {key : String}
    {keys : List String} (h : readItems field s (key :: keys) bs = .ok (s', x)) :
    ']'.toUInt8 :: x <:+ bs := by
  induction keys generalizing s key bs with
  | nil =>
      obtain ⟨v, y, hv, z, hz, hrest⟩ := readItems_cons_eq_ok_iff.1 h
      have hvalue := ((hfield s key).isLocal v hv).suffix
      cases hrest
      have hbracket : ']'.toUInt8 :: x <:+ y := hz ▸ List.dropWhile_suffix isSpace
      exact hbracket.trans hvalue
  | cons next keys ih =>
      obtain ⟨v, y, hv, z, hz, hrest⟩ := readItems_cons_eq_ok_iff.1 h
      have hvalue := ((hfield s key).isLocal v hv).suffix
      exact (ih hrest).trans ((local_skipSpace _ hz).suffix.trans hvalue)

end

/-! ## Records -/

section
variable {σ α : Type} {field : σ → String → (bs : Bytes) → Read σ bs} {s₀ s : σ}
variable {order : List String} {complete? : σ → Option α} {a : α}

/-- A record stands next, in one of its two forms. -/
def RecordAt (field : σ → String → (bs : Bytes) → Read σ bs) (s₀ : σ) (order : List String)
    (s : σ) (bs x : Bytes) : Prop :=
  (∃ r, skipSpace bs = '['.toUInt8 :: r ∧ readItems field s₀ order r = .ok (s, x)) ∨
    (∃ r, skipSpace bs = '\x7b'.toUInt8 :: r ∧ readMembers field s₀ true r = .ok (s, x))

theorem expectEnd_eq_ok_iff : expectEnd bs = .ok () ↔ skipSpace bs = [] := by
  unfold expectEnd
  split
  · next h => simp [h]
  · next h => simp [h]

theorem readObject_eq_ok_iff {other : UInt8 → Bytes → Fault} :
    readObject field s₀ other bs = .ok s ↔ ∃ r x, skipSpace bs = '\x7b'.toUInt8 :: r ∧
      readMembers field s₀ true r = .ok (s, x) ∧ skipSpace x = [] := by
  unfold readObject
  constructor
  · intro h
    split at h
    · cases h
    · next b r hs =>
        split_ifs at h with hb
        split at h
        · cases h
        · next x hmembers =>
            split at h
            · cases h
            · next hend =>
                cases h
                exact ⟨r, x, by rw [hs, hb], hmembers, expectEnd_eq_ok_iff.1 hend⟩
  · rintro ⟨r, x, hs, hmembers, hend⟩
    rw [hs]
    dsimp only
    rw [if_pos rfl, hmembers]
    dsimp only
    rw [expectEnd_eq_ok_iff.2 hend]

theorem readRecord?_eq_some_iff : readRecord? field s₀ order complete? bs = some a ↔
    ∃ s x, RecordAt field s₀ order s bs x ∧ skipSpace x = [] ∧ complete? s = some a := by
  unfold readRecord?
  constructor
  · intro h
    split at h
    · cases h
    · next b r hs =>
        split_ifs at h with hb
        · split at h
          · cases h
          · next s x hitems =>
              split at h
              · cases h
              · next hend =>
                  exact ⟨s, x, .inl ⟨r, by rw [hs, hb], hitems⟩, expectEnd_eq_ok_iff.1 hend, h⟩
        · split at h
          · cases h
          · next s hobject =>
              obtain ⟨r, x, hs, hmembers, hend⟩ := readObject_eq_ok_iff.1 hobject
              exact ⟨s, x, .inr ⟨r, hs, hmembers⟩, hend, h⟩
  · rintro ⟨s, x, ⟨r, hs, hitems⟩ | ⟨r, hs, hmembers⟩, hend, hcomplete⟩
    · rw [hs]
      dsimp only
      rw [if_pos rfl, hitems]
      dsimp only
      rw [expectEnd_eq_ok_iff.2 hend]
      exact hcomplete
    · rw [hs]
      dsimp only
      rw [if_neg (by decide), readObject_eq_ok_iff.2 ⟨r, x, hs, hmembers, hend⟩]
      exact hcomplete

theorem local_recordAt (hfield : ∀ s key, ReadsValue (field s key)) :
    Local (RecordAt field s₀ order s) := by
  apply Local.or
  · exact (local_skipSpace _).comp (local_readItems hfield s₀ s order)
  · exact (local_skipSpace _).comp (local_readMembers hfield s₀ s true)

theorem RecordAt.skipValue_eq (hfield : ∀ s key, ReadsValue (field s key)) (horder : order ≠ [])
    (h : RecordAt field s₀ order s bs x) : skipValue bs = .ok x := by
  rcases h with ⟨r, hs, hitems⟩ | ⟨r, hs, hmembers⟩
  · obtain ⟨key, keys, rfl⟩ := List.exists_cons_of_ne_nil horder
    have hvalue := skipFrom_of_readItems hfield hitems []
    rw [skipFrom_done_nil] at hvalue
    rw [skipValue, skipFrom_value_open hs rfl]
    exact skipFrom_opened_list hvalue
  · have hobject := skipMembers_of_readMembers hfield hmembers []
    rw [skipFrom_done_nil] at hobject
    rw [skipValue, skipFrom_value_open hs rfl]
    exact hobject

/-- A record stands between its brackets. -/
theorem RecordAt.exists_eq (hfield : ∀ s key, ReadsValue (field s key)) (horder : order ≠ [])
    (h : RecordAt field s₀ order s bs x) :
    ∃ b w c, skipSpace bs = b :: (w ++ c :: x) ∧ Bytes.isBlank b = false ∧
      Bytes.isBlank c = false := by
  rcases h with ⟨r, hs, hitems⟩ | ⟨r, hs, hmembers⟩
  · obtain ⟨key, keys, rfl⟩ := List.exists_cons_of_ne_nil horder
    obtain ⟨w, rfl⟩ := bracket_suffix_of_readItems hfield hitems
    exact ⟨_, w, _, hs, rfl, rfl⟩
  · obtain ⟨w, rfl⟩ := brace_suffix_of_readMembers hfield hmembers
    exact ⟨_, w, _, hs, rfl, rfl⟩

theorem isBlank_of_isSpace {b : UInt8} (h : isSpace b = true) : Bytes.isBlank b = true := by
  simp only [isSpace, Bytes.isBlank, Bool.or_eq_true] at h ⊢
  rcases h with ((h | h) | h) | h
  · simp [h]
  · simp [h]
  · simp [h]
  · simp [h]

theorem trim_eq_of_skipSpace {b c : UInt8} {w : Bytes} (hs : skipSpace bs = b :: (w ++ c :: x))
    (hb : Bytes.isBlank b = false) (hc : Bytes.isBlank c = false) (hx : skipSpace x = []) :
    Bytes.trim bs = b :: (w ++ [c]) := by
  have hstart : Bytes.trimStart bs = b :: (w ++ c :: x) := by
    have hsplit : bs = bs.takeWhile isSpace ++ b :: (w ++ c :: x) := by
      rw [← hs]
      exact List.takeWhile_append_dropWhile.symm
    rw [hsplit, Bytes.trimStart, List.dropWhile_append_of_pos]
    · exact List.dropWhile_cons_of_neg (by simp [hb])
    · intro d hd
      exact isBlank_of_isSpace (List.mem_takeWhile_imp hd)
  have hblank : ∀ d ∈ x.reverse, Bytes.isBlank d = true := by
    intro d hd
    have hspace := List.dropWhile_eq_nil_iff.1 hx
    exact isBlank_of_isSpace (hspace d (List.mem_reverse.1 hd))
  have hreverse : (b :: (w ++ c :: x)).reverse = x.reverse ++ c :: (w.reverse ++ [b]) := by simp
  rw [Bytes.trim, hstart, Bytes.trimEnd, hreverse, List.dropWhile_append_of_pos hblank,
    List.dropWhile_cons_of_neg (by simp [hc])]
  simp

/-- A record with white space around it is the same record without. -/
theorem RecordAt.trim (hfield : ∀ s key, ReadsValue (field s key)) (horder : order ≠ [])
    (h : RecordAt field s₀ order s bs x) (hx : skipSpace x = []) :
    RecordAt field s₀ order s (Bytes.trim bs) [] := by
  obtain ⟨b, w, c, hs, hb, hc⟩ := h.exists_eq hfield horder
  rw [trim_eq_of_skipSpace hs hb hc hx]
  have hhere : RecordAt field s₀ order s (b :: (w ++ c :: x)) x := by
    unfold RecordAt at h ⊢
    rw [skipSpace_cons (isSpace_of_skipSpace hs), ← hs]
    exact h
  obtain ⟨u, hu, hlocal⟩ := local_recordAt hfield hhere
  have happend : b :: (w ++ [c]) ++ x = u ++ x := by
    rw [← hu]
    simp
  have hsame : b :: (w ++ [c]) = u := List.append_cancel_right happend
  have halone := hlocal [] (alike_nil x)
  rw [List.append_nil] at halone
  rw [hsame]
  exact halone

/-- What is read as a record is a JSON value. -/
theorem isValue_of_readRecord? (hfield : ∀ s key, ReadsValue (field s key)) (horder : order ≠ [])
    (h : readRecord? field s₀ order complete? bs = some a) : isValue bs = true := by
  obtain ⟨s, x, hrecord, hend, -⟩ := readRecord?_eq_some_iff.1 h
  have hrest : (skipValue bs >>= expectEnd) = .ok () := by
    rw [hrecord.skipValue_eq hfield horder]
    exact expectEnd_eq_ok_iff.2 hend
  rw [isValue, hrest]

/-- White space around a record does not matter. -/
theorem readRecord?_trim (hfield : ∀ s key, ReadsValue (field s key)) (horder : order ≠ [])
    (h : readRecord? field s₀ order complete? bs = some a) :
    readRecord? field s₀ order complete? (Bytes.trim bs) = some a := by
  obtain ⟨s, x, hrecord, hend, hcomplete⟩ := readRecord?_eq_some_iff.1 h
  exact readRecord?_eq_some_iff.2 ⟨s, [], hrecord.trim hfield horder hend, rfl, hcomplete⟩

end

end ProxyWarden.Json
