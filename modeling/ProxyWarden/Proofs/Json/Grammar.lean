import ProxyWarden.Proofs.Json.Scalars

/-!
# The grammar of values

A value is a scalar, or elements between brackets with a comma between any two; an element of an
object has a key and a colon in front. White space may stand between any two parts, and the depth has
no limit (`Derives`). What is passed over as a value is white space and one text of this grammar
(`exists_stageText`), and each of these texts is passed over as a whole (`Derives.skipped`). So the
values of the grammar are those that stand with nothing around them (`bare_iff_valueText`).
-/
namespace ProxyWarden.Json

variable {bs x u v w l : Bytes} {f : Frame} {fs stack : List Frame}

/-! ## Brackets -/

namespace Frame

def opener : Frame → UInt8
  | list => '['.toUInt8
  | object => '\x7b'.toUInt8

theorem ofOpener?_opener (f : Frame) : ofOpener? f.opener = some f := by
  cases f with
  | list => rfl
  | object => rfl

theorem eq_opener {b : UInt8} (h : ofOpener? b = some f) : b = f.opener := by
  unfold ofOpener? at h
  split_ifs at h with hlist hobject
  · cases h
    exact hlist
  · cases h
    exact hobject

theorem isSpace_opener (f : Frame) : isSpace f.opener = false := by
  cases f with
  | list => rfl
  | object => rfl

end Frame

/-! ## Labels -/

/-- What may stand before a value in a bracket: white space, and in an object a key and a colon. -/
def LabelText (f : Frame) (bs : Bytes) : Prop :=
  match f with
  | .list => Blank bs
  | .object => ∃ w p w' w'', Blank w ∧ Items p ∧ Blank w' ∧ Blank w'' ∧
      bs = w ++ '"'.toUInt8 :: (p ++ '"'.toUInt8 :: (w' ++ ':'.toUInt8 :: w''))

theorem LabelText.blank_append (hw : Blank w) (h : LabelText f l) : LabelText f (w ++ l) := by
  cases f with
  | list => exact hw.append h
  | object =>
      obtain ⟨w₁, p, w₂, w₃, hw₁, hp, hw₂, hw₃, rfl⟩ := h
      exact ⟨w ++ w₁, p, w₂, w₃, hw.append hw₁, hp, hw₂, hw₃, by simp⟩

theorem LabelText.append_blank (h : LabelText f l) (hw : Blank w) : LabelText f (l ++ w) := by
  cases f with
  | list => exact Blank.append h hw
  | object =>
      obtain ⟨w₁, p, w₂, w₃, hw₁, hp, hw₂, hw₃, rfl⟩ := h
      exact ⟨w₁, p, w₂, w₃ ++ w, hw₁, hp, hw₂, hw₃.append hw, by simp⟩

theorem exists_labelText (h : skipLabel f bs = .ok x) : ∃ l, LabelText f l ∧ bs = l ++ x := by
  cases f with
  | list =>
      cases h
      exact ⟨[], blank_nil, rfl⟩
  | object =>
      obtain ⟨z, ⟨y, hs, hstring⟩, hcolon⟩ := skipLabel_object_eq_ok_iff.1 h
      obtain ⟨-, w, hw, rfl⟩ := skipSpace_eq_cons_iff.1 hs
      obtain ⟨p, hp, rfl⟩ := skipString_eq_ok_iff.1 hstring
      obtain ⟨-, w', hw', rfl⟩ := skipSpace_eq_cons_iff.1 (skipColon_eq_ok_iff.1 hcolon)
      exact ⟨_, ⟨w, p, w', [], hw, hp, hw', blank_nil, rfl⟩, by simp⟩

/-- The white space at the end of a label is left to the value. -/
theorem LabelText.skipLabel_append (h : LabelText f l) (x : Bytes) :
    ∃ w, Blank w ∧ skipLabel f (l ++ x) = .ok (w ++ x) := by
  cases f with
  | list => exact ⟨l, h, rfl⟩
  | object =>
      obtain ⟨w, p, w', w'', hw, hp, hw', hw'', rfl⟩ := h
      have hkey := hp.skipString_eq (w' ++ ':'.toUInt8 :: (w'' ++ x))
      refine ⟨w'', hw'', skipLabel_object_eq_ok_iff.2 ⟨_, ⟨_, ?_, hkey⟩, ?_⟩⟩
      · exact skipSpace_eq_cons_iff.2 ⟨rfl, w, hw, by simp⟩
      · exact skipColon_eq_ok_iff.2 (skipSpace_blank_cons hw' rfl (w'' ++ x))

/-! ## The grammar -/

/-- What the grammar describes: one value, or the elements in a bracket, at least one. -/
inductive Part where
  | value
  | elements (f : Frame)

inductive Derives : Part → Bytes → Prop where
  | scalar {v : Bytes} : ScalarText v → Derives .value v
  | empty (f : Frame) {w : Bytes} : Blank w → Derives .value (f.opener :: (w ++ [f.closer]))
  | filled {f : Frame} {es : Bytes} : Derives (.elements f) es →
      Derives .value (f.opener :: (es ++ [f.closer]))
  | last {f : Frame} {l v w : Bytes} : LabelText f l → Derives .value v → Blank w →
      Derives (.elements f) (l ++ (v ++ w))
  | more {f : Frame} {l v w es : Bytes} : LabelText f l → Derives .value v → Blank w →
      Derives (.elements f) es → Derives (.elements f) (l ++ (v ++ (w ++ ','.toUInt8 :: es)))

/-- One value as it may be written, from its first to its last byte. -/
def ValueText (v : Bytes) : Prop := Derives .value v

/-! ## What is passed over is of the grammar -/

/-- What may follow a value in a bracket, the closing of the bracket included. -/
def TailText (f : Frame) (bs : Bytes) : Prop :=
  ∃ w, Blank w ∧ (bs = w ++ [f.closer] ∨
    ∃ es, Derives (.elements f) es ∧ bs = w ++ ','.toUInt8 :: (es ++ [f.closer]))

/-- A value and what follows it are elements and the closing of their bracket. -/
theorem TailText.exists_elements (hl : LabelText f l) (hv : ValueText v) (hu : TailText f u) :
    ∃ es, Derives (.elements f) es ∧ l ++ (v ++ u) = es ++ [f.closer] := by
  obtain ⟨w, hw, hend⟩ := hu
  rcases hend with rfl | ⟨es, hes, rfl⟩
  · exact ⟨_, .last hl hv hw, by simp⟩
  · exact ⟨_, .more hl hv hw hes, by simp⟩

/-- What closes these brackets, the innermost first. -/
def ClosingText : List Frame → Bytes → Prop
  | [], bs => bs = []
  | f :: fs, bs => ∃ u u', TailText f u ∧ ClosingText fs u' ∧ bs = u ++ u'

/-- What is passed over from a place where these brackets are open. -/
def StageText : Stage → List Frame → Bytes → Prop
  | .value, stack, bs => ∃ w v u, Blank w ∧ ValueText v ∧ ClosingText stack u ∧ bs = w ++ (v ++ u)
  | .opened f, stack, bs => ∃ t u, ValueText (f.opener :: t) ∧ ClosingText stack u ∧ bs = t ++ u
  | .done, stack, bs => ClosingText stack bs

/-- Behind a label the elements of the innermost bracket go on to its end. -/
theorem StageText.exists_elements {t : Bytes} (hl : LabelText f l)
    (h : StageText .value (f :: stack) t) : ∃ es u, Derives (.elements f) es ∧
      ClosingText stack u ∧ l ++ t = es ++ f.closer :: u := by
  obtain ⟨w, v, tail, hw, hv, ⟨u, u', hu, hu', rfl⟩, rfl⟩ := h
  obtain ⟨es, hes, heq⟩ := TailText.exists_elements (hl.append_blank hw) hv hu
  refine ⟨es, u', hes, hu', ?_⟩
  calc l ++ (w ++ (v ++ (u ++ u')))
      = l ++ w ++ (v ++ u) ++ u' := by simp
    _ = es ++ f.closer :: u' := by rw [heq]; simp

theorem exists_stageText {stage : Stage} (h : skipFrom stage stack bs = .ok x) :
    ∃ t, StageText stage stack t ∧ bs = t ++ x := by
  -- One case for each step that does not fail; the grammar holds of what the steps after it take.
  fun_induction skipFrom stage stack bs with
  | case2 stack bs b r hs f hf ih =>
      obtain ⟨t, ⟨v, u, hv, hu, rfl⟩, rfl⟩ := ih h
      obtain ⟨-, w, hw, rfl⟩ := skipSpace_eq_cons_iff.1 hs
      rw [← Frame.eq_opener hf] at hv
      exact ⟨_, ⟨w, b :: v, u, hw, hv, hu, rfl⟩, by simp⟩
  | case4 stack bs b r hs hf r' hr ih =>
      obtain ⟨t, ht, rfl⟩ := ih h
      obtain ⟨v, hv, hbytes⟩ := exists_scalarText hr
      obtain ⟨-, w, hw, rfl⟩ := skipSpace_eq_cons_iff.1 hs
      exact ⟨_, ⟨w, v, t, hw, .scalar hv, ht, rfl⟩, by rw [hbytes]; simp⟩
  | case6 stack bs f r hs ih =>
      obtain ⟨t, ht, rfl⟩ := ih h
      obtain ⟨-, w, hw, rfl⟩ := skipSpace_eq_cons_iff.1 hs
      exact ⟨_, ⟨w ++ [f.closer], t, .empty f hw, ht, rfl⟩, by simp⟩
  | case8 stack bs f b r hs hb r' hlabel ih =>
      obtain ⟨t, ht, rfl⟩ := ih h
      obtain ⟨l, hl, hbytes⟩ := exists_labelText hlabel
      obtain ⟨-, w, hw, rfl⟩ := skipSpace_eq_cons_iff.1 hs
      obtain ⟨es, u, hes, hu, heq⟩ := ht.exists_elements (hl.blank_append hw)
      refine ⟨_, ⟨es ++ [f.closer], u, .filled hes, hu, rfl⟩, ?_⟩
      calc w ++ b :: r = w ++ l ++ t ++ x := by rw [hbytes]; simp
        _ = es ++ [f.closer] ++ u ++ x := by rw [heq]; simp
  | case9 bs =>
      cases h
      exact ⟨[], rfl, rfl⟩
  | case11 bs f fs r hs ih =>
      obtain ⟨t, ht, rfl⟩ := ih h
      obtain ⟨-, w, hw, rfl⟩ := skipSpace_eq_cons_iff.1 hs
      exact ⟨_, ⟨w ++ [f.closer], t, ⟨w, hw, .inl rfl⟩, ht, rfl⟩, by simp⟩
  | case13 bs f fs r r' hlabel hs hc ih =>
      obtain ⟨t, ht, rfl⟩ := ih h
      obtain ⟨l, hl, rfl⟩ := exists_labelText hlabel
      obtain ⟨-, w, hw, rfl⟩ := skipSpace_eq_cons_iff.1 hs
      obtain ⟨es, u, hes, hu, heq⟩ := ht.exists_elements hl
      refine ⟨_, ⟨w ++ ','.toUInt8 :: (es ++ [f.closer]), u, ⟨w, hw, .inr ⟨es, hes, rfl⟩⟩, hu, rfl⟩,
        ?_⟩
      calc w ++ ','.toUInt8 :: (l ++ (t ++ x)) = w ++ ','.toUInt8 :: (l ++ t) ++ x := by simp
        _ = w ++ ','.toUInt8 :: (es ++ [f.closer]) ++ u ++ x := by rw [heq]; simp
  | _ => cases h

/-! ## What is of the grammar is passed over -/

theorem bare_of_opened (h : skipFrom (.opened f) [] bs = .ok []) : Bare (f.opener :: bs) where
  whole := (skipFrom_value_open (skipSpace_cons f.isSpace_opener bs) f.ofOpener?_opener).trans h
  start := skipSpace_cons f.isSpace_opener bs

/-- No number goes on with these bytes, and they complete what is in a bracket. -/
structure Completes (f : Frame) (bs : Bytes) : Prop where
  alike : Alike [] bs
  whole : skipFrom .done [f] bs = .ok []

theorem Frame.isNumeric_closer (f : Frame) : isNumeric f.closer = false := by
  cases f with
  | list => rfl
  | object => rfl

theorem completes_close (hw : Blank w) : Completes f (w ++ [f.closer]) where
  alike := alike_nil_blank_cons hw f.isNumeric_closer []
  whole := by
    rw [skipFrom_done_close (skipSpace_blank_cons hw f.isSpace_closer []), skipFrom_done_nil]

/-- A value goes on to what follows it. -/
theorem Completes.skipFrom_value_eq (h : Completes f x) (hv : Bare v) :
    skipFrom .value [f] (v ++ x) = .ok [] :=
  (skipFrom_value (hv.skipValue_append h.alike) [f]).trans h.whole

/-- The reader passes over these elements and the closing of their bracket. -/
def ElementsSkipped (f : Frame) (es : Bytes) : Prop :=
  ∃ r, skipLabel f (es ++ [f.closer]) = .ok r ∧ skipFrom .value [f] r = .ok []

/-- The reader takes this part as a whole. -/
def Part.Skipped : Part → Bytes → Prop
  | .value, v => Bare v
  | .elements f, es => ElementsSkipped f es

theorem ElementsSkipped.completes {es : Bytes} (hw : Blank w) (h : ElementsSkipped f es) :
    Completes f (w ++ ','.toUInt8 :: (es ++ [f.closer])) where
  alike := alike_nil_blank_cons hw rfl (es ++ [f.closer])
  whole := by
    obtain ⟨r, hlabel, hrest⟩ := h
    rw [skipFrom_done_comma (skipSpace_blank_cons hw rfl (es ++ [f.closer])) hlabel, hrest]

/-- A label and a value are passed over together with what completes the bracket. -/
theorem elementsSkipped_of_completes {es : Bytes} (hl : LabelText f l) (hv : Bare v)
    (hu : Completes f u) (hes : es ++ [f.closer] = l ++ (v ++ u)) : ElementsSkipped f es := by
  obtain ⟨w, hw, hlabel⟩ := hl.skipLabel_append (v ++ u)
  refine ⟨w ++ (v ++ u), by rw [hes, hlabel], ?_⟩
  rw [skipFrom_value_congr (skipSpace_append_of_blank hw (v ++ u))]
  exact hu.skipFrom_value_eq hv

/-- A bracket is open if its first label and value are there. -/
theorem skipFrom_opened_of_label {r : Bytes} (hlabel : skipLabel f bs = .ok r)
    (h : skipFrom .value (f :: stack) r = .ok x) : skipFrom (.opened f) stack bs = .ok x := by
  cases f with
  | list =>
      cases hlabel
      exact skipFrom_opened_list h
  | object =>
      obtain ⟨z, ⟨y, hs, hstring⟩, hcolon⟩ := skipLabel_object_eq_ok_iff.1 hlabel
      have hkey : skipLabel .object ('"'.toUInt8 :: y) = .ok r :=
        skipLabel_object_eq_ok_iff.2 ⟨z, ⟨y, skipSpace_cons rfl y, hstring⟩, hcolon⟩
      rw [skipFrom_opened hs (by decide) hkey]
      exact h

/-- Every text of the grammar is passed over as a whole. -/
theorem Derives.skipped {p : Part} (h : Derives p bs) : p.Skipped bs := by
  induction h with
  | scalar hv => exact hv.bare
  | @empty f w hw =>
      apply bare_of_opened
      rw [skipFrom_opened_close (skipSpace_blank_cons hw f.isSpace_closer []), skipFrom_done_nil]
  | @filled f es _ ih =>
      obtain ⟨r, hlabel, hrest⟩ : ElementsSkipped f es := ih
      exact bare_of_opened (skipFrom_opened_of_label hlabel hrest)
  | last hl _ hw ihv =>
      exact elementsSkipped_of_completes hl ihv (completes_close hw) (by simp)
  | @more f l v w es hl _ hw _ ihv ihes =>
      have hes : ElementsSkipped f es := ihes
      exact elementsSkipped_of_completes hl ihv (hes.completes hw) (by simp)

/-- The values of the grammar are those that are passed over with nothing around them. -/
theorem bare_iff_valueText : Bare v ↔ ValueText v := by
  constructor
  · intro h
    obtain ⟨t, ⟨w, t', u, hw, ht', rfl, rfl⟩, hv⟩ := exists_stageText h.whole
    have hbare : Bare t' := ht'.skipped
    have hstart : skipSpace v = t' := by
      rw [hv, List.append_nil, List.append_nil, skipSpace_append_of_blank hw, hbare.start]
    rw [← h.start, hstart]
    exact ht'
  · intro h
    exact h.skipped

def SpacedText (bs : Bytes) : Prop :=
  ∃ w v w', Blank w ∧ ValueText v ∧ Blank w' ∧ bs = w ++ (v ++ w')

theorem isValue_iff_spacedText : isValue bs = true ↔ SpacedText bs := by
  rw [isValue_iff]
  constructor
  · intro h
    obtain ⟨x, hskip, hx⟩ := h
    obtain ⟨v, hv, hs⟩ := exists_bare_of_skipValue hskip
    obtain ⟨w, hw, hbs⟩ := exists_blank_append bs
    exact ⟨w, v, x, hw, bare_iff_valueText.1 hv, hx, by rw [← hs]; exact hbs⟩
  · intro h
    obtain ⟨w, v, w', hw, hv, hw', rfl⟩ := h
    have hbare := bare_iff_valueText.2 hv
    refine ⟨w', ?_, hw'⟩
    rw [← skipValue_skipSpace, skipSpace_append_of_blank hw, hbare.skipSpace_append]
    exact hbare.skipValue_append (alike_nil_of_blank hw')

/-- Elements may be nested, and white space may stand anywhere between the parts. -/
example : ValueText (Bytes.ofAscii "[ 1 , [\t] ]") := by
  have hspace : Blank [0x20] := by decide
  have hone : ValueText (Bytes.ofAscii "1") := by
    have hdigits : DigitsText (Bytes.ofAscii "1") := digitsText_cons rfl (by simp)
    exact .scalar (.number ⟨_, [], [], .inr ⟨hdigits, by decide⟩, .inl rfl, .inl rfl, rfl⟩)
  have hlist : ValueText (Bytes.ofAscii "[\t]") := .empty .list (w := [0x09]) (by decide)
  exact .filled (.more (f := .list) hspace hone hspace (.last (f := .list) hspace hlist hspace))

end ProxyWarden.Json
