import ProxyWarden.Proofs.Json.Grammar

/-!
# Objects behind unfinished text

An object that follows unfinished text on the same line is lost with it: whatever was begun with an
opening brace, an object behind it never completes it (`isValue_merged`). Inside a string the first
quote of the object ends the string, and the key goes on where a comma, a colon or a bracket should
be; anywhere else the object is a value of its own, and nothing is left to close the first brace. So
every step of the reader leaves the object to what follows (`suffix_of_skipFrom`).
-/
namespace ProxyWarden.Json

variable {bs x l u w r : Bytes} {b c : UInt8} {f : Frame} {stack : List Frame}

/-- The beginning of an object whose first key starts with the byte `c`. -/
def keyed (c : UInt8) (r : Bytes) : Bytes := '\x7b'.toUInt8 :: '"'.toUInt8 :: c :: r

/-- A byte that cannot stand after a string. -/
structure IsKeyByte (c : UInt8) : Prop where
  solid : isSpace c = false
  colon : c ≠ ':'.toUInt8
  comma : c ≠ ','.toUInt8
  closer : ∀ f : Frame, c ≠ f.closer

/-! ## What holds no opening brace -/

theorem suffix_of_cons (hb : b ≠ '\x7b'.toUInt8) (h : keyed c r <:+ b :: bs) :
    keyed c r <:+ bs := by
  obtain heq | hsuffix := List.suffix_cons_iff.1 h
  · exact absurd (List.cons.inj heq).1.symm hb
  · exact hsuffix

theorem suffix_of_append (hu : '\x7b'.toUInt8 ∉ u) (h : keyed c r <:+ u ++ x) :
    keyed c r <:+ x := by
  induction u with
  | nil => exact h
  | cons b u ih =>
      rw [List.mem_cons, not_or] at hu
      exact ih hu.2 (suffix_of_cons (Ne.symm hu.1) h)

theorem Blank.brace_notMem (h : Blank w) : '\x7b'.toUInt8 ∉ w := by
  intro hmem
  cases h _ hmem

theorem brace_notMem_digits (h : ∀ b ∈ u, isDigit b = true) : '\x7b'.toUInt8 ∉ u := by
  intro hmem
  cases h _ hmem

theorem brace_notMem_scale (h : u = [] ∨ ScaleText u) : '\x7b'.toUInt8 ∉ u := by
  obtain rfl | ⟨e, sign, ds, he, hsign, hds, rfl⟩ := h
  · exact List.not_mem_nil
  · have hdigits := brace_notMem_digits hds.2
    refine List.not_mem_cons_of_ne_of_not_mem ?_ (List.not_mem_append ?_ hdigits)
    · obtain rfl | rfl := he
      · decide
      · decide
    · obtain rfl | rfl | rfl := hsign
      · decide
      · decide
      · decide

theorem NumeralText.brace_notMem (h : NumeralText u) : '\x7b'.toUInt8 ∉ u := by
  obtain ⟨whole, fraction, scale, hwhole, hfraction, hscale, rfl⟩ := h
  rw [List.mem_append, List.mem_append, not_or, not_or]
  refine ⟨?_, ?_, brace_notMem_scale hscale⟩
  · obtain rfl | ⟨hds, -⟩ := hwhole
    · decide
    · exact brace_notMem_digits hds.2
  · obtain rfl | ⟨ds, hds, rfl⟩ := hfraction
    · exact List.not_mem_nil
    · exact List.not_mem_cons_of_ne_of_not_mem (by decide) (brace_notMem_digits hds.2)

/-! ## Strings -/

theorem brace_notMem_hex {h₁ h₂ h₃ h₄ : UInt8} (h : (hexValue4? h₁ h₂ h₃ h₄).isSome = true) :
    '\x7b'.toUInt8 ∉ [h₁, h₂, h₃, h₄] := by
  have hbrace : hexValue? '\x7b'.toUInt8 = none := by decide
  intro hmem
  simp only [List.mem_cons, List.not_mem_nil, or_false] at hmem
  obtain rfl | rfl | rfl | rfl := hmem <;> simp [hexValue4?, hbrace] at h

/-- A string ends at a quote only. -/
theorem Items.eq_of_quote {p y : Bytes} (h : Items p)
    (heq : p ++ '"'.toUInt8 :: x = '"'.toUInt8 :: y) : x = y := by
  have hskip := h.skipString_eq x
  rw [heq, skipString_quote] at hskip
  exact (Except.ok.inj hskip).symm

/-- A string goes on to the first quote of the object, or ends before the object. -/
theorem Items.suffix_or_eq {p : Bytes} (h : Items p) (hs : keyed c r <:+ p ++ '"'.toUInt8 :: x) :
    keyed c r <:+ x ∨ x = c :: r := by
  induction h with
  | nil => exact .inl (suffix_of_cons (by decide) hs)
  | @cons item items hitem hitems ih =>
      rw [List.append_assoc] at hs
      cases hitem with
      | plain hb =>
          obtain heq | hsuffix := List.suffix_cons_iff.1 hs
          · exact .inr (hitems.eq_of_quote (List.cons.inj heq).2.symm)
          · exact ih hsuffix
      | @letter e he =>
          have hne : e ≠ '\x7b'.toUInt8 := by
            rintro rfl
            cases he
          exact ih (suffix_of_cons hne (suffix_of_cons (by decide) hs))
      | digits hhex =>
          have hescape := suffix_of_cons (by decide) (suffix_of_cons (by decide) hs)
          exact ih (suffix_of_append (brace_notMem_hex hhex) hescape)

/-- A scalar ends before the object, or is a string that ends in it. -/
theorem ScalarText.suffix_or_eq (h : ScalarText u) (hs : keyed c r <:+ u ++ x) :
    keyed c r <:+ x ∨ x = c :: r := by
  cases h with
  | null => exact .inl (suffix_of_append (by decide) hs)
  | true => exact .inl (suffix_of_append (by decide) hs)
  | false => exact .inl (suffix_of_append (by decide) hs)
  | number hu => exact .inl (suffix_of_append hu.brace_notMem hs)
  | negative hu =>
      have hnumber := suffix_of_cons (by decide) hs
      exact .inl (suffix_of_append hu.brace_notMem hnumber)
  | string hp =>
      rw [List.cons_append, List.append_assoc] at hs
      exact hp.suffix_or_eq (suffix_of_cons (by decide) hs)

/-- No label goes on into the object, as no colon would follow its key. -/
theorem LabelText.suffix (h : LabelText f l) (hc : IsKeyByte c) (hs : keyed c r <:+ l ++ x) :
    keyed c r <:+ x := by
  cases f with
  | list => exact suffix_of_append (Blank.brace_notMem h) hs
  | object =>
      obtain ⟨w, p, w', w'', hw, hp, hw', hw'', rfl⟩ := h
      have hbytes : w ++ '"'.toUInt8 :: (p ++ '"'.toUInt8 :: (w' ++ ':'.toUInt8 :: w'')) ++ x =
          w ++ '"'.toUInt8 :: (p ++ '"'.toUInt8 :: (w' ++ ':'.toUInt8 :: (w'' ++ x))) := by simp
      rw [hbytes] at hs
      have hkey := suffix_of_cons (by decide) (suffix_of_append hw.brace_notMem hs)
      obtain hsuffix | heq := hp.suffix_or_eq hkey
      · have hcolon := suffix_of_cons (by decide) (suffix_of_append hw'.brace_notMem hsuffix)
        exact suffix_of_append hw''.brace_notMem hcolon
      · -- After the key stands the byte `c`, which is neither white space nor a colon.
        cases w' with
        | nil => exact absurd (List.cons.inj heq).1.symm hc.colon
        | cons b w' =>
            have hspace := hw' b List.mem_cons_self
            rw [(List.cons.inj heq).1, hc.solid] at hspace
            cases hspace

/-! ## The reader -/

theorem skipFrom_done_nil_ne : skipFrom .done (f :: stack) [] ≠ .ok x := by
  rw [skipFrom]
  intro h
  cases h

theorem IsKeyByte.skipFrom_done_ne (hc : IsKeyByte c) :
    skipFrom .done (f :: stack) (c :: r) ≠ .ok x := by
  rw [skipFrom]
  intro h
  split at h
  · cases h
  · next hs =>
      rw [skipSpace_cons hc.solid] at hs
      obtain ⟨rfl, rfl⟩ := List.cons.inj hs
      rw [if_neg (hc.closer f), if_neg hc.comma] at h
      cases h

theorem suffix_of_skipSpace_keyed (hspace : skipSpace bs = b :: x) (h : keyed c r <:+ bs) :
    keyed c r <:+ b :: x := by
  obtain ⟨-, w, hw, rfl⟩ := skipSpace_eq_cons_iff.1 hspace
  exact suffix_of_append hw.brace_notMem h

theorem Frame.closer_ne_brace (f : Frame) : f.closer ≠ '\x7b'.toUInt8 := by
  cases f with
  | list => decide
  | object => decide

/-- In an open bracket the object is left to what follows: the reader neither ends in it nor takes it
and finds the bracket closed. -/
theorem suffix_of_skipFrom {stage : Stage} (hc : IsKeyByte c)
    (hwhole : skipValue (keyed c r) = .ok []) (hopen : stage = .value → stack ≠ [])
    (h : skipFrom stage stack bs = .ok x) (hs : keyed c r <:+ bs) : keyed c r <:+ x := by
  fun_induction skipFrom stage stack bs with
  | case2 stack bs b t hspace f hf ih =>
      obtain heq | hsuffix := List.suffix_cons_iff.1 (suffix_of_skipSpace_keyed hspace hs)
      · -- The object stands where a value is wanted, and nothing is left to close the bracket.
        obtain ⟨g, gs, rfl⟩ := List.exists_cons_of_ne_nil (hopen rfl)
        have hspaced : skipSpace (keyed c r) = b :: t := (skipSpace_cons rfl _).trans heq
        have hvalue := skipFrom_value hwhole (g :: gs)
        rw [skipFrom_value_open hspaced hf, h] at hvalue
        exact absurd hvalue.symm skipFrom_done_nil_ne
      · exact ih (by simp) h hsuffix
  | case4 stack bs b t hspace hf t' hr ih =>
      obtain ⟨u, hu, hbytes⟩ := exists_scalarText hr
      obtain hsuffix | rfl := hu.suffix_or_eq (hbytes ▸ suffix_of_skipSpace_keyed hspace hs)
      · exact ih (by simp) h hsuffix
      · obtain ⟨g, gs, rfl⟩ := List.exists_cons_of_ne_nil (hopen rfl)
        exact absurd h hc.skipFrom_done_ne
  | case6 stack bs f t hspace ih =>
      have hclose := suffix_of_skipSpace_keyed hspace hs
      exact ih (by simp) h (suffix_of_cons f.closer_ne_brace hclose)
  | case8 stack bs f b t hspace hb t' hl ih =>
      obtain ⟨l, hlabel, hbytes⟩ := exists_labelText hl
      exact ih (by simp) h (hlabel.suffix hc (hbytes ▸ suffix_of_skipSpace_keyed hspace hs))
  | case9 bs =>
      cases h
      exact hs
  | case11 bs f fs t hspace ih =>
      have hclose := suffix_of_skipSpace_keyed hspace hs
      exact ih (by simp) h (suffix_of_cons f.closer_ne_brace hclose)
  | case13 bs f fs t t' hl hspace _ ih =>
      obtain ⟨l, hlabel, rfl⟩ := exists_labelText hl
      have hcomma := suffix_of_skipSpace_keyed hspace hs
      exact ih (by simp) h (hlabel.suffix hc (suffix_of_cons (by decide) hcomma))
  | _ => cases h

/-- Behind an opening brace and anything else, an object never completes a value. -/
theorem isValue_merged (hc : IsKeyByte c) (hwhole : skipValue (keyed c r) = .ok []) (u : Bytes) :
    isValue ('\x7b'.toUInt8 :: (u ++ keyed c r)) = false := by
  rw [Bool.eq_false_iff]
  intro hvalue
  obtain ⟨x, hskip, hblank⟩ := isValue_iff.1 hvalue
  have hopened : skipFrom (.opened .object) [] (u ++ keyed c r) = .ok x :=
    (skipFrom_value_open (skipSpace_cons rfl _) rfl).symm.trans hskip
  have hsuffix := suffix_of_skipFrom hc hwhole (by simp) hopened (List.suffix_append u _)
  exact hblank.brace_notMem (hsuffix.subset List.mem_cons_self)

end ProxyWarden.Json
