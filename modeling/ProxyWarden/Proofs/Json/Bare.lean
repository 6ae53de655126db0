import Mathlib.Data.List.DropRight
import ProxyWarden.Proofs.Json.Values
import ProxyWarden.Proofs.Text.Decoding

/-!
# Values without white space around them

What a reader takes as a value ends with a byte that is no white space (`endsAt_of_skipValue`), as every
part of the grammar does. So the text of one value is a core without white space around it, its first
and last byte included (`Bare`), between two runs of white space, and the core is what is left when
white space is dropped from both ends of the text (`bare_trimText_iff`).
-/
namespace ProxyWarden.Json

variable {bs x y v : Bytes}

/-! ## Runs without white space -/

/-- The reader takes bytes none of which is white space. -/
def Solid (R : Bytes → Bytes → Prop) : Prop :=
  ∀ ⦃bs x⦄, R bs x → ∃ u, bs = u ++ x ∧ ∀ b ∈ u, isSpace b = false

section
variable {R S : Bytes → Bytes → Prop}

namespace Solid

theorem nothing : Solid fun bs x => bs = x := by
  intro bs x h
  exact ⟨[], h, by simp⟩

theorem byte {p : UInt8 → Prop} (hp : ∀ b, p b → isSpace b = false) :
    Solid fun bs x => ∃ b, p b ∧ bs = b :: x := by
  intro bs x h
  obtain ⟨b, hb, hbs⟩ := h
  exact ⟨[b], hbs, by simpa using hp b hb⟩

theorem comp (hR : Solid R) (hS : Solid S) : Solid fun bs x => ∃ y, R bs y ∧ S y x := by
  intro bs x h
  obtain ⟨y, hy, hx⟩ := h
  obtain ⟨u, rfl, hu⟩ := hR hy
  obtain ⟨w, rfl, hw⟩ := hS hx
  refine ⟨u ++ w, (List.append_assoc u w x).symm, ?_⟩
  intro b hb
  exact (List.mem_append.1 hb).elim (hu b) (hw b)

theorem or (hR : Solid R) (hS : Solid S) : Solid fun bs x => R bs x ∨ S bs x := by
  intro bs x h
  exact h.elim (fun h => hR h) (fun h => hS h)

theorem and {p : Bytes → Bytes → Prop} (hR : Solid R) : Solid fun bs x => R bs x ∧ p bs x := by
  intro bs x h
  exact hR h.1

theorem of_iff (h : ∀ bs x, R bs x ↔ S bs x) (hS : Solid S) : Solid R := by
  intro bs x hx
  exact hS ((h bs x).1 hx)

end Solid

end

theorem isSpace_of_isDigit {b : UInt8} (h : isDigit b = true) : isSpace b = false := by
  simp only [isDigit, Bool.and_eq_true, decide_eq_true_eq, UInt8.le_iff_toNat_le] at h
  have hlow : 48 ≤ b.toNat := h.1
  have hne : ∀ n : UInt8, n.toNat < 48 → (b == n) = false := by
    intro n hn
    rw [beq_eq_false_iff_ne]
    intro heq
    rw [heq] at hlow
    omega
  simp only [isSpace, hne 0x20 (by decide), hne 0x09 (by decide), hne 0x0A (by decide),
    hne 0x0D (by decide), Bool.or_self]

theorem solid_digit : Solid fun bs x => ∃ b, isDigit b = true ∧ bs = b :: x :=
  .byte fun _ => isSpace_of_isDigit

theorem solid_skipDigits : Solid fun bs x => skipDigits bs = x := by
  intro bs x h
  refine ⟨bs.takeWhile isDigit, ?_, ?_⟩
  · rw [← h]
    exact List.takeWhile_append_dropWhile.symm
  · intro b hb
    exact isSpace_of_isDigit (List.mem_takeWhile_imp hb)

theorem solid_signedDigit : Solid fun bs x => ∃ b, isDigit b = true ∧ skipSign bs = b :: x := by
  intro bs x h
  obtain ⟨b, hb, hsign⟩ := h
  have hdigit := isSpace_of_isDigit hb
  cases bs with
  | nil => cases hsign
  | cons c bs =>
      rw [skipSign] at hsign
      split_ifs at hsign with hc
      · refine ⟨[c, b], by rw [hsign]; rfl, ?_⟩
        have hspace : isSpace c = false := by
          simp only [Bool.or_eq_true, decide_eq_true_eq] at hc
          rcases hc with rfl | rfl
          · decide
          · decide
        simp [hspace, hdigit]
      · obtain ⟨rfl, rfl⟩ := List.cons.inj hsign
        exact ⟨[c], rfl, by simpa using hdigit⟩

theorem solid_skipExponent? : Solid fun bs x => skipExponent? bs = .ok x := by
  have hletter : ∀ b, StartsExponent b → isSpace b = false := by
    intro b hb
    simp only [StartsExponent, Bool.or_eq_true, decide_eq_true_eq] at hb
    rcases hb with rfl | rfl
    · decide
    · decide
  have hexponent : Solid fun bs x => skipExponent bs = .ok x :=
    (solid_signedDigit.comp solid_skipDigits).of_iff fun _ _ => skipExponent_eq_ok_iff
  exact (((Solid.byte hletter).comp hexponent).or Solid.nothing.and).of_iff
    fun _ _ => skipExponent?_eq_ok_iff

theorem solid_skipFraction? : Solid fun bs x => skipFraction? bs = .ok x := by
  have hpoint : ∀ b, b = '.'.toUInt8 → isSpace b = false := by
    intro b hb
    rw [hb]
    decide
  have hdecimals : Solid fun bs x => skipDecimals bs = .ok x :=
    ((solid_digit.comp solid_skipDigits).comp solid_skipExponent?).of_iff
      fun _ _ => skipDecimals_eq_ok_iff
  exact (((Solid.byte hpoint).comp hdecimals).or solid_skipExponent?.and).of_iff
    fun _ _ => skipFraction?_eq_ok_iff

theorem solid_skipNumber : Solid fun bs x => skipNumber bs = .ok x := by
  have hzero : ∀ b, b = '0'.toUInt8 → isSpace b = false := by
    intro b hb
    rw [hb]
    decide
  have hdigit : Solid fun bs x => ∃ b, (b ≠ '0'.toUInt8 ∧ isDigit b = true) ∧ bs = b :: x :=
    .byte fun _ hb => isSpace_of_isDigit hb.2
  exact (((Solid.byte hzero).comp solid_skipFraction?.and).or
    ((hdigit.comp solid_skipDigits).comp solid_skipFraction?)).of_iff
      fun _ _ => skipNumber_eq_ok_iff

/-! ## The last byte of a value -/

/-- The last byte before `x` is no white space. -/
def EndsAt (bs x : Bytes) : Prop := ∃ c, isSpace c = false ∧ c :: x <:+ bs

theorem EndsAt.of_suffix (h : EndsAt y x) (hy : y <:+ bs) : EndsAt bs x := by
  obtain ⟨c, hc, hx⟩ := h
  exact ⟨c, hc, hx.trans hy⟩

theorem endsAt_append {u : Bytes} (hu : u ≠ []) (h : ∀ b ∈ u, isSpace b = false) (x : Bytes) :
    EndsAt (u ++ x) x := by
  obtain ⟨w, c, rfl⟩ := (List.eq_nil_or_concat' u).resolve_left hu
  refine ⟨c, h c (by simp), w, ?_⟩
  simp

theorem endsAt_of_skipNumber (h : skipNumber bs = .ok x) : EndsAt bs x := by
  obtain ⟨u, rfl, hu⟩ := solid_skipNumber h
  refine endsAt_append ?_ hu x
  rintro rfl
  exact absurd (length_lt_of_skipNumber h) (Nat.lt_irrefl _)

theorem endsAt_of_skipString (h : skipString bs = .ok x) : EndsAt bs x := by
  obtain ⟨p, -, rfl⟩ := skipString_eq_ok_iff.1 h
  exact ⟨'"'.toUInt8, rfl, List.suffix_append p _⟩

theorem endsAt_of_skipIdent {w : List UInt8} (hw : w ≠ []) (hsolid : ∀ b ∈ w, isSpace b = false)
    (h : skipIdent w bs = .ok x) : EndsAt bs x := by
  rw [skipIdent_eq_ok_iff.1 h]
  exact endsAt_append hw hsolid x

theorem endsAt_of_skipScalar {b : UInt8} (h : skipScalar b bs = .ok x) : EndsAt (b :: bs) x := by
  have hsuffix : bs <:+ b :: bs := List.suffix_cons b bs
  unfold skipScalar at h
  split_ifs at h
  · exact (endsAt_of_skipString h).of_suffix hsuffix
  · exact (endsAt_of_skipNumber h).of_suffix hsuffix
  · exact endsAt_of_skipNumber h
  · exact (endsAt_of_skipIdent (by decide) (by decide +kernel) h).of_suffix hsuffix
  · exact (endsAt_of_skipIdent (by decide) (by decide +kernel) h).of_suffix hsuffix
  · exact (endsAt_of_skipIdent (by decide) (by decide +kernel) h).of_suffix hsuffix

theorem suffix_of_skipSpace {b : UInt8} (hs : skipSpace bs = b :: x) : b :: x <:+ bs :=
  hs ▸ List.dropWhile_suffix isSpace

theorem Frame.isSpace_closer (f : Frame) : isSpace f.closer = false := by
  cases f with
  | list => rfl
  | object => rfl

/-- Either nothing is taken, as nothing was open, or the last byte taken is no white space. -/
theorem endsAt_of_skipFrom {stage : Stage} {stack : List Frame}
    (h : skipFrom stage stack bs = .ok x) :
    (stage = .done ∧ stack = [] ∧ bs = x) ∨ EndsAt bs x := by
  fun_induction skipFrom stage stack bs with
  | case2 stack bs b r hs f hf ih =>
      have hend : EndsAt r x := by simpa using ih h
      exact .inr (hend.of_suffix ((List.suffix_cons b r).trans (suffix_of_skipSpace hs)))
  | case4 stack bs b r hs hf r' hr ih =>
      have hscalar := (endsAt_of_skipScalar hr).of_suffix (suffix_of_skipSpace hs)
      rcases ih h with ⟨-, -, rfl⟩ | hend
      · exact .inr hscalar
      · obtain ⟨c, -, hr'⟩ := hscalar
        exact .inr (hend.of_suffix ((List.suffix_cons c r').trans hr'))
  | case6 stack bs f r hs ih =>
      have hclose := suffix_of_skipSpace hs
      rcases ih h with ⟨-, -, rfl⟩ | hend
      · exact .inr ⟨f.closer, f.isSpace_closer, hclose⟩
      · exact .inr (hend.of_suffix ((List.suffix_cons _ r).trans hclose))
  | case8 stack bs f b r hs hb r' hl ih =>
      have hend : EndsAt r' x := by simpa using ih h
      have hlabel := (local_skipLabel f hl).suffix
      exact .inr (hend.of_suffix (hlabel.trans (suffix_of_skipSpace hs)))
  | case9 bs =>
      cases h
      exact .inl ⟨rfl, rfl, rfl⟩
  | case11 bs f fs r hs ih =>
      have hclose := suffix_of_skipSpace hs
      rcases ih h with ⟨-, -, rfl⟩ | hend
      · exact .inr ⟨f.closer, f.isSpace_closer, hclose⟩
      · exact .inr (hend.of_suffix ((List.suffix_cons _ r).trans hclose))
  | case13 bs f fs r r' hl hs hc ih =>
      have hend : EndsAt r' x := by simpa using ih h
      have hlabel := (local_skipLabel f hl).suffix
      exact .inr (hend.of_suffix ((hlabel.trans (List.suffix_cons _ r)).trans
        (suffix_of_skipSpace hs)))
  | _ => cases h

theorem endsAt_of_skipValue (h : skipValue bs = .ok x) : EndsAt bs x := by
  simpa using endsAt_of_skipFrom h

/-! ## Cores -/

/-- One value, with nothing around it. -/
structure Bare (v : Bytes) : Prop where
  whole : skipValue v = .ok []
  start : skipSpace v = v

theorem skipValue_nil : skipValue [] = .error (.on .eofInValue []) := skipFrom_value_nil rfl

theorem Bare.ne_nil (h : Bare v) : v ≠ [] := by
  rintro rfl
  cases h.whole.symm.trans skipValue_nil

/-- The first byte of a core is no white space. -/
theorem Bare.exists_cons (h : Bare v) : ∃ b w, v = b :: w ∧ isSpace b = false := by
  obtain ⟨b, w, rfl⟩ := List.exists_cons_of_ne_nil h.ne_nil
  exact ⟨b, w, rfl, isSpace_of_skipSpace h.start⟩

/-- The last byte of a core is no white space. -/
theorem Bare.exists_concat (h : Bare v) : ∃ w c, v = w ++ [c] ∧ isSpace c = false := by
  obtain ⟨c, hc, w, hw⟩ := endsAt_of_skipValue h.whole
  exact ⟨w, c, hw.symm, hc⟩

theorem Bare.skipSpace_append (h : Bare v) (x : Bytes) : skipSpace (v ++ x) = v ++ x := by
  obtain ⟨b, w, rfl, hb⟩ := h.exists_cons
  exact skipSpace_cons hb (w ++ x)

/-- A core is taken as a whole, unless a number may go on behind it. -/
theorem Bare.skipValue_append (h : Bare v) (hx : Alike [] x) : skipValue (v ++ x) = .ok x := by
  obtain ⟨u, hu, hlocal⟩ := local_skipValue h.whole
  rw [List.append_nil] at hu
  rw [hu]
  exact hlocal x hx

theorem skipValue_skipSpace (bs : Bytes) : skipValue (skipSpace bs) = skipValue bs := by
  have hspace : skipSpace (skipSpace bs) = skipSpace bs := List.dropWhile_idempotent isSpace bs
  exact skipFrom_value_congr hspace []

/-- What is taken is white space and a core. -/
theorem exists_bare_of_skipValue (h : skipValue bs = .ok x) : ∃ v, Bare v ∧ skipSpace bs = v ++ x := by
  have hspace : skipValue (skipSpace bs) = .ok x := (skipValue_skipSpace bs).trans h
  obtain ⟨v, hv, hlocal⟩ := local_skipValue hspace
  have halone := hlocal [] (alike_nil x)
  rw [List.append_nil] at halone
  refine ⟨v, ⟨halone, ?_⟩, hv⟩
  cases v with
  | nil => cases halone.symm.trans skipValue_nil
  | cons b w => exact skipSpace_cons (isSpace_of_skipSpace hv) w

def Blank (w : Bytes) : Prop := ∀ b ∈ w, isSpace b = true

instance : DecidablePred Blank := fun w => List.decidableBAll (fun b => isSpace b = true) w

theorem blank_nil : Blank [] := by
  intro b hb
  cases hb

theorem Blank.append {w w' : Bytes} (hw : Blank w) (hw' : Blank w') : Blank (w ++ w') := by
  intro b hb
  exact (List.mem_append.1 hb).elim (hw b) (hw' b)

theorem isNumeric_of_isSpace {b : UInt8} (h : isSpace b = true) : isNumeric b = false := by
  simp only [isSpace, Bool.or_eq_true, beq_iff_eq] at h
  rcases h with ((rfl | rfl) | rfl) | rfl
  · rfl
  · rfl
  · rfl
  · rfl

/-- No number goes on with white space. -/
theorem alike_nil_of_blank (h : Blank x) : Alike [] x := by
  intro b hb
  exact .inr (isNumeric_of_isSpace (h b (List.mem_of_mem_head? hb)))

theorem alike_nil_cons {b : UInt8} (hb : isNumeric b = false) (bs : Bytes) : Alike [] (b :: bs) := by
  intro c hc
  cases hc
  exact .inr hb

/-- No number goes on with white space and this byte behind it. -/
theorem alike_nil_blank_cons {b : UInt8} {w : Bytes} (hw : Blank w) (hb : isNumeric b = false)
    (x : Bytes) : Alike [] (w ++ b :: x) := by
  cases w with
  | nil => exact alike_nil_cons hb x
  | cons c w =>
      have hc : isSpace c = true := hw c List.mem_cons_self
      exact alike_nil_cons (isNumeric_of_isSpace hc) (w ++ b :: x)

theorem skipSpace_eq_nil_iff : skipSpace bs = [] ↔ Blank bs := List.dropWhile_eq_nil_iff

theorem skipSpace_append_of_blank {w : Bytes} (h : Blank w) (x : Bytes) :
    skipSpace (w ++ x) = skipSpace x :=
  List.dropWhile_append_of_pos h

theorem skipSpace_blank_cons {b : UInt8} {w : Bytes} (hw : Blank w) (hb : isSpace b = false)
    (x : Bytes) : skipSpace (w ++ b :: x) = b :: x := by
  rw [skipSpace_append_of_blank hw, skipSpace_cons hb]

theorem exists_blank_append (bs : Bytes) : ∃ w, Blank w ∧ bs = w ++ skipSpace bs :=
  ⟨bs.takeWhile isSpace, fun _ hb => List.mem_takeWhile_imp hb,
    List.takeWhile_append_dropWhile.symm⟩

theorem skipSpace_eq_cons_iff {b : UInt8} :
    skipSpace bs = b :: x ↔ isSpace b = false ∧ ∃ w, Blank w ∧ bs = w ++ b :: x := by
  constructor
  · intro h
    obtain ⟨w, hw, hbs⟩ := exists_blank_append bs
    exact ⟨isSpace_of_skipSpace h, w, hw, h ▸ hbs⟩
  · rintro ⟨hb, w, hw, rfl⟩
    exact skipSpace_blank_cons hw hb x

theorem isValue_iff : isValue bs = true ↔ ∃ x, skipValue bs = .ok x ∧ Blank x := by
  unfold isValue
  cases hskip : skipValue bs with
  | error e => simp [bind, Except.bind]
  | ok x =>
      have hend : expectEnd x = .ok () ↔ Blank x :=
        expectEnd_eq_ok_iff.trans skipSpace_eq_nil_iff
      simp only [bind, Except.bind, Except.ok.injEq, exists_eq_left', ← hend]
      cases hx : expectEnd x with
      | error e => simp
      | ok u => simp

theorem Bare.isValue_eq (h : Bare v) : isValue v = true :=
  isValue_iff.2 ⟨[], h.whole, blank_nil⟩

/-! ## Texts -/

def isSpaceChar (c : Char) : Bool := c == ' ' || c == '\t' || c == '\n' || c == '\r'

def trimText (s : String) : String :=
  String.ofList ((s.toList.dropWhile isSpaceChar).rdropWhile isSpaceChar)

theorem encodeChar_of_isSpaceChar {c : Char} (h : isSpaceChar c = true) :
    ∃ b, Utf8.encodeChar c = [b] ∧ isSpace b = true := by
  simp only [isSpaceChar, Bool.or_eq_true, beq_iff_eq] at h
  rcases h with ((rfl | rfl) | rfl) | rfl
  · exact ⟨0x20, rfl, rfl⟩
  · exact ⟨0x09, rfl, rfl⟩
  · exact ⟨0x0A, rfl, rfl⟩
  · exact ⟨0x0D, rfl, rfl⟩

theorem not_isSpace_of_mem_encodeChar {c : Char} (h : isSpaceChar c = false) :
    ∀ b ∈ Utf8.encodeChar c, isSpace b = false := by
  intro b hb
  by_contra hspace
  rw [Bool.not_eq_false] at hspace
  have hlow : b.toNat < 0x80 := by
    simp only [isSpace, Bool.or_eq_true, beq_iff_eq] at hspace
    rcases hspace with ((rfl | rfl) | rfl) | rfl <;> decide
  by_cases hascii : c.toNat < 0x80
  · rw [Utf8.encodeChar_of_lt hascii, List.mem_singleton] at hb
    have hc : c = Char.ofNat b.toNat := by
      rw [hb, Utf8.toNat_toUInt8 (by omega), Char.ofNat_toNat]
    simp only [isSpace, Bool.or_eq_true, beq_iff_eq] at hspace
    rw [hc] at h
    rcases hspace with ((hb | hb) | hb) | hb
    · rw [hb] at h
      cases h
    · rw [hb] at h
      cases h
    · rw [hb] at h
      cases h
    · rw [hb] at h
      cases h
  · have hbeyond := Utf8.le_of_mem_encodeChar (by omega) b hb
    omega

theorem encodeList_dropWhile (cs : List Char) :
    Utf8.encodeList (cs.dropWhile isSpaceChar) = skipSpace (Utf8.encodeList cs) := by
  induction cs with
  | nil => rfl
  | cons c cs ih =>
      cases hc : isSpaceChar c with
      | true =>
          obtain ⟨b, hbyte, hb⟩ := encodeChar_of_isSpaceChar hc
          rw [List.dropWhile_cons_of_pos hc, ih, Utf8.encodeList_cons, hbyte]
          exact (List.dropWhile_cons_of_pos hb).symm
      | false =>
          obtain ⟨b, tail, hbytes, -⟩ := Utf8.step_encodeChar c
          have hb := not_isSpace_of_mem_encodeChar hc b (by simp [hbytes])
          rw [List.dropWhile_cons_of_neg (by simp [hc]), Utf8.encodeList_cons, hbytes]
          exact (skipSpace_cons hb _).symm

theorem encodeList_rdropWhile (cs : List Char) :
    Utf8.encodeList (cs.rdropWhile isSpaceChar) = (Utf8.encodeList cs).rdropWhile isSpace := by
  induction cs using List.reverseRecOn with
  | nil => rfl
  | append_singleton cs c ih =>
      rw [Utf8.encodeList_append, Utf8.encodeList_cons, Utf8.encodeList_nil, List.append_nil]
      cases hc : isSpaceChar c with
      | true =>
          obtain ⟨b, hbyte, hb⟩ := encodeChar_of_isSpaceChar hc
          rw [List.rdropWhile_concat_pos _ _ _ hc, ih, hbyte, List.rdropWhile_concat_pos _ _ _ hb]
      | false =>
          obtain ⟨b, tail, hbytes, -⟩ := Utf8.step_encodeChar c
          obtain ⟨w, d, hlast⟩ : ∃ w d, Utf8.encodeChar c = w ++ [d] :=
            (List.eq_nil_or_concat' _).resolve_left (by simp [hbytes])
          have hd := not_isSpace_of_mem_encodeChar hc d (by simp [hlast])
          rw [List.rdropWhile_concat_neg _ _ _ (by simp [hc]), Utf8.encodeList_append,
            Utf8.encodeList_cons, Utf8.encodeList_nil, List.append_nil, hlast, ← List.append_assoc,
            List.rdropWhile_concat_neg _ _ _ (by simp [hd])]

theorem encode_trimText (s : String) :
    Utf8.encode (trimText s) = (skipSpace (Utf8.encode s)).rdropWhile isSpace := by
  rw [Utf8.encode, trimText, String.toList_ofList, encodeList_rdropWhile, encodeList_dropWhile,
    Utf8.encode]

theorem Bare.rdropWhile_append (h : Bare v) (hx : Blank x) : (v ++ x).rdropWhile isSpace = v := by
  induction x using List.reverseRecOn with
  | nil =>
      obtain ⟨w, c, rfl, hc⟩ := h.exists_concat
      rw [List.append_nil, List.rdropWhile_concat_neg _ _ _ (by simp [hc])]
  | append_singleton x b ih =>
      have hb : isSpace b = true := hx b (by simp)
      rw [← List.append_assoc, List.rdropWhile_concat_pos _ _ _ hb]
      exact ih fun c hc => hx c (by simp [hc])

/-- The core of a text of one value. -/
theorem encode_trimText_of_skipValue {s : String} (h : skipSpace (Utf8.encode s) = v ++ x)
    (hv : Bare v) (hx : Blank x) : Utf8.encode (trimText s) = v := by
  rw [encode_trimText, h, hv.rdropWhile_append hx]

/-- A text is one value exactly if it is one without the white space around it. -/
theorem bare_trimText_iff {s : String} :
    Bare (Utf8.encode (trimText s)) ↔ isValue (Utf8.encode s) = true := by
  constructor
  · intro h
    obtain ⟨x, hx, hs⟩ : ∃ x, Blank x ∧ skipSpace (Utf8.encode s) = Utf8.encode (trimText s) ++ x := by
      refine ⟨(skipSpace (Utf8.encode s)).rtakeWhile isSpace,
        fun b hb => List.mem_rtakeWhile_imp hb, ?_⟩
      rw [encode_trimText]
      exact List.rdropWhile_append_rtakeWhile.symm
    refine isValue_iff.2 ⟨x, ?_, hx⟩
    rw [← skipValue_skipSpace, hs]
    exact h.skipValue_append (alike_nil_of_blank hx)
  · intro h
    obtain ⟨x, hskip, hx⟩ := isValue_iff.1 h
    obtain ⟨v, hv, hs⟩ := exists_bare_of_skipValue hskip
    rw [encode_trimText_of_skipValue hs hv hx]
    exact hv

theorem Bare.trimText_eq {s : String} (h : Bare (Utf8.encode s)) : trimText s = s := by
  have hs : skipSpace (Utf8.encode s) = Utf8.encode s ++ [] := by rw [h.start, List.append_nil]
  exact Utf8.encode_inj (encode_trimText_of_skipValue hs h blank_nil)

end ProxyWarden.Json
