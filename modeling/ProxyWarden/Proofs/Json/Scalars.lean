import ProxyWarden.Proofs.Json.Bare

/-!
# The grammar of scalars

Numbers, strings and the three literals as they may be written. What is passed over as a scalar is one
of these texts (`exists_scalarText`), and each of them is passed over (`ScalarText.bare`).
-/
namespace ProxyWarden.Json

variable {bs x u : Bytes}

/-! ## Numbers -/

def DigitsText (bs : Bytes) : Prop := bs ≠ [] ∧ ∀ b ∈ bs, isDigit b = true

def WholeText (bs : Bytes) : Prop :=
  bs = ['0'.toUInt8] ∨ DigitsText bs ∧ bs.head? ≠ some '0'.toUInt8

def FractionText (bs : Bytes) : Prop := bs = [] ∨ ∃ ds, DigitsText ds ∧ bs = '.'.toUInt8 :: ds

/-- The letter of an exponent, perhaps a sign, and digits. -/
def ScaleText (bs : Bytes) : Prop :=
  ∃ e sign ds, (e = 'e'.toUInt8 ∨ e = 'E'.toUInt8) ∧
    (sign = [] ∨ sign = ['+'.toUInt8] ∨ sign = ['-'.toUInt8]) ∧ DigitsText ds ∧ bs = e :: (sign ++ ds)

def NumeralText (bs : Bytes) : Prop :=
  ∃ whole fraction scale, WholeText whole ∧ FractionText fraction ∧ (scale = [] ∨ ScaleText scale) ∧
    bs = whole ++ (fraction ++ scale)

theorem digitsText_cons {b : UInt8} {ds : Bytes} (hb : isDigit b = true)
    (hds : ∀ c ∈ ds, isDigit c = true) : DigitsText (b :: ds) :=
  ⟨List.cons_ne_nil b ds, List.forall_mem_cons.2 ⟨hb, hds⟩⟩

theorem DigitsText.exists_cons (h : DigitsText bs) : ∃ b ds, bs = b :: ds ∧ isDigit b = true ∧
    ∀ c ∈ ds, isDigit c = true := by
  obtain ⟨b, ds, rfl⟩ := List.exists_cons_of_ne_nil h.1
  exact ⟨b, ds, rfl, List.forall_mem_cons.1 h.2⟩

/-- What is passed over as digits are digits. -/
theorem exists_digits_append (bs : Bytes) :
    ∃ ds, (∀ b ∈ ds, isDigit b = true) ∧ bs = ds ++ skipDigits bs :=
  ⟨bs.takeWhile isDigit, fun _ hb => List.mem_takeWhile_imp hb,
    List.takeWhile_append_dropWhile.symm⟩

theorem skipDigits_eq_nil (h : ∀ b ∈ bs, isDigit b = true) : skipDigits bs = [] :=
  List.dropWhile_eq_nil_iff.2 h

theorem skipDigits_append {ds : Bytes} (hds : ∀ b ∈ ds, isDigit b = true)
    (hx : ∀ b, x.head? = some b → isDigit b = false) : skipDigits (ds ++ x) = x := by
  have hleads : Text.LeadsWith isDigit (ds ++ x) ds x := ⟨rfl, hds, hx⟩
  exact hleads.eq.2

/-- A sign may stand before a digit. -/
theorem skipSign_eq_cons_iff {b : UInt8} (hb : isDigit b = true) : skipSign bs = b :: x ↔
    ∃ sign, (sign = [] ∨ sign = ['+'.toUInt8] ∨ sign = ['-'.toUInt8]) ∧ bs = sign ++ b :: x := by
  constructor
  · intro h
    cases bs with
    | nil => cases h
    | cons c bs =>
        rw [skipSign] at h
        split_ifs at h with hc
        · simp only [Bool.or_eq_true, decide_eq_true_eq] at hc
          rw [h]
          rcases hc with rfl | rfl
          · exact ⟨_, .inr (.inl rfl), rfl⟩
          · exact ⟨_, .inr (.inr rfl), rfl⟩
        · exact ⟨[], .inl rfl, h⟩
  · intro h
    obtain ⟨sign, hsign, rfl⟩ := h
    rcases hsign with rfl | rfl | rfl
    · have hne : ¬ (b = '+'.toUInt8 || b = '-'.toUInt8) = true := by
        intro hsign
        simp only [Bool.or_eq_true, decide_eq_true_eq] at hsign
        rcases hsign with rfl | rfl
        · cases hb
        · cases hb
      exact if_neg hne
    · rfl
    · rfl

theorem exists_scaleText (h : skipExponent? bs = .ok x) :
    ∃ u, (u = [] ∨ ScaleText u) ∧ bs = u ++ x := by
  rcases skipExponent?_eq_ok_iff.1 h with ⟨y, ⟨e, he, rfl⟩, hy⟩ | ⟨rfl, -⟩
  · obtain ⟨r, ⟨b, hb, hsign⟩, rfl⟩ := skipExponent_eq_ok_iff.1 hy
    obtain ⟨sign, hmark, rfl⟩ := (skipSign_eq_cons_iff hb).1 hsign
    obtain ⟨ds, hds, hr⟩ := exists_digits_append r
    simp only [StartsExponent, Bool.or_eq_true, decide_eq_true_eq] at he
    refine ⟨_, .inr ⟨e, sign, b :: ds, he, hmark, digitsText_cons hb hds, rfl⟩, ?_⟩
    conv_lhs => rw [hr]
    simp
  · exact ⟨[], .inl rfl, rfl⟩

theorem exists_fractionText (h : skipFraction? bs = .ok x) : ∃ fraction scale,
    FractionText fraction ∧ (scale = [] ∨ ScaleText scale) ∧ bs = fraction ++ (scale ++ x) := by
  rcases skipFraction?_eq_ok_iff.1 h with ⟨y, ⟨_, rfl, rfl⟩, hy⟩ | ⟨hy, -⟩
  · obtain ⟨z, ⟨r, ⟨b, hb, rfl⟩, rfl⟩, hz⟩ := skipDecimals_eq_ok_iff.1 hy
    obtain ⟨ds, hds, hr⟩ := exists_digits_append r
    obtain ⟨scale, hscale, hrest⟩ := exists_scaleText hz
    refine ⟨_, scale, .inr ⟨b :: ds, digitsText_cons hb hds, rfl⟩, hscale, ?_⟩
    conv_lhs => rw [hr, hrest]
    simp
  · obtain ⟨scale, hscale, rfl⟩ := exists_scaleText hy
    exact ⟨[], scale, .inl rfl, hscale, rfl⟩

theorem exists_numeralText (h : skipNumber bs = .ok x) : ∃ u, NumeralText u ∧ bs = u ++ x := by
  rcases skipNumber_eq_ok_iff.1 h with ⟨y, ⟨_, rfl, rfl⟩, hy, -⟩ |
    ⟨y, ⟨r, ⟨b, ⟨hzero, hb⟩, rfl⟩, rfl⟩, hy⟩
  · obtain ⟨fraction, scale, hfraction, hscale, rfl⟩ := exists_fractionText hy
    exact ⟨_, ⟨_, fraction, scale, .inl rfl, hfraction, hscale, rfl⟩, by simp⟩
  · obtain ⟨ds, hds, hr⟩ := exists_digits_append r
    obtain ⟨fraction, scale, hfraction, hscale, hrest⟩ := exists_fractionText hy
    have hwhole : WholeText (b :: ds) := .inr ⟨digitsText_cons hb hds, by simpa using hzero⟩
    refine ⟨_, ⟨_, fraction, scale, hwhole, hfraction, hscale, rfl⟩, ?_⟩
    conv_lhs => rw [hr, hrest]
    simp

/-- A letter of an exponent is neither a digit nor a point. -/
theorem head_scale {scale : Bytes} (h : scale = [] ∨ ScaleText scale) :
    ∀ b, scale.head? = some b → isDigit b = false ∧ b ≠ '.'.toUInt8 := by
  intro b hb
  rcases h with rfl | ⟨e, sign, ds, he, -, -, rfl⟩
  · cases hb
  · cases hb
    rcases he with rfl | rfl
    · exact ⟨rfl, by decide⟩
    · exact ⟨rfl, by decide⟩

theorem head_fraction {fraction scale : Bytes} (hfraction : FractionText fraction)
    (hscale : scale = [] ∨ ScaleText scale) :
    ∀ b, (fraction ++ scale).head? = some b → isDigit b = false := by
  intro b hb
  rcases hfraction with rfl | ⟨ds, -, rfl⟩
  · exact (head_scale hscale b hb).1
  · cases hb
    rfl

theorem skipExponent?_scale {scale : Bytes} (h : scale = [] ∨ ScaleText scale) :
    skipExponent? scale = .ok [] := by
  rcases h with rfl | ⟨e, sign, ds, he, hsign, hds, rfl⟩
  · rfl
  · obtain ⟨b, ds, rfl, hb, hds⟩ := hds.exists_cons
    have hstart : StartsExponent e := by
      simpa only [StartsExponent, Bool.or_eq_true, decide_eq_true_eq] using he
    refine skipExponent?_eq_ok_iff.2 (.inl ⟨_, ⟨e, hstart, rfl⟩, ?_⟩)
    exact skipExponent_eq_ok_iff.2
      ⟨ds, ⟨b, hb, (skipSign_eq_cons_iff hb).2 ⟨sign, hsign, rfl⟩⟩, skipDigits_eq_nil hds⟩

theorem skipFraction?_append {fraction scale : Bytes} (hfraction : FractionText fraction)
    (hscale : scale = [] ∨ ScaleText scale) : skipFraction? (fraction ++ scale) = .ok [] := by
  have hend := skipExponent?_scale hscale
  rcases hfraction with rfl | ⟨ds, hds, rfl⟩
  · exact skipFraction?_eq_ok_iff.2 (.inr ⟨hend, fun b hb => (head_scale hscale b hb).2⟩)
  · obtain ⟨b, ds, rfl, hb, hds⟩ := hds.exists_cons
    refine skipFraction?_eq_ok_iff.2 (.inl ⟨_, ⟨_, rfl, rfl⟩, ?_⟩)
    refine skipDecimals_eq_ok_iff.2 ⟨scale, ⟨ds ++ scale, ⟨b, hb, rfl⟩, ?_⟩, hend⟩
    exact skipDigits_append hds fun b hb => (head_scale hscale b hb).1

theorem skipNumber_numeral (h : NumeralText u) : skipNumber u = .ok [] := by
  obtain ⟨whole, fraction, scale, hwhole, hfraction, hscale, rfl⟩ := h
  have hend := skipFraction?_append hfraction hscale
  have hhead := head_fraction hfraction hscale
  rcases hwhole with rfl | ⟨hdigits, hzero⟩
  · exact skipNumber_eq_ok_iff.2 (.inl ⟨_, ⟨_, rfl, rfl⟩, hend, hhead⟩)
  · obtain ⟨b, ds, rfl, hb, hds⟩ := hdigits.exists_cons
    have hne : b ≠ '0'.toUInt8 := by simpa using hzero
    refine skipNumber_eq_ok_iff.2 (.inr ⟨fraction ++ scale, ⟨ds ++ (fraction ++ scale),
      ⟨b, ⟨hne, hb⟩, rfl⟩, ?_⟩, hend⟩)
    exact skipDigits_append hds hhead

/-- A number starts with a digit. -/
theorem NumeralText.exists_cons (h : NumeralText u) : ∃ b w, u = b :: w ∧ isDigit b = true := by
  obtain ⟨whole, fraction, scale, hwhole, -, -, rfl⟩ := h
  rcases hwhole with rfl | ⟨hdigits, -⟩
  · exact ⟨_, _, rfl, rfl⟩
  · obtain ⟨b, ds, rfl, hb, -⟩ := hdigits.exists_cons
    exact ⟨b, _, rfl, hb⟩

/-! ## Scalars -/

/-- A value that opens no bracket. -/
inductive ScalarText : Bytes → Prop where
  | null : ScalarText (Bytes.ofAscii "null")
  | true : ScalarText (Bytes.ofAscii "true")
  | false : ScalarText (Bytes.ofAscii "false")
  | number {u : Bytes} : NumeralText u → ScalarText u
  | negative {u : Bytes} : NumeralText u → ScalarText ('-'.toUInt8 :: u)
  | string {p : Bytes} : Items p → ScalarText ('"'.toUInt8 :: (p ++ ['"'.toUInt8]))

theorem bare_of_scalar {b : UInt8} (hb : isSpace b = false) (hf : Frame.ofOpener? b = none)
    (h : skipScalar b bs = .ok []) : Bare (b :: bs) where
  whole := (skipFrom_value_scalar (skipSpace_cons hb bs) hf h).trans (skipFrom_done_nil [])
  start := skipSpace_cons hb bs

theorem skipScalar_digit {b : UInt8} (hb : isDigit b = true) (bs : Bytes) :
    skipScalar b bs = skipNumber (b :: bs) := by
  have hquote : b ≠ '"'.toUInt8 := by
    rintro rfl
    cases hb
  have hminus : b ≠ '-'.toUInt8 := by
    rintro rfl
    cases hb
  rw [skipScalar, if_neg hquote, if_neg hminus, if_pos hb]

theorem ofOpener?_digit {b : UInt8} (hb : isDigit b = true) : Frame.ofOpener? b = none := by
  have hbracket : b ≠ '['.toUInt8 := by
    rintro rfl
    cases hb
  have hbrace : b ≠ '\x7b'.toUInt8 := by
    rintro rfl
    cases hb
  rw [Frame.ofOpener?, if_neg hbracket, if_neg hbrace]

theorem exists_scalarText {b : UInt8} (h : skipScalar b bs = .ok x) :
    ∃ u, ScalarText u ∧ b :: bs = u ++ x := by
  unfold skipScalar at h
  split_ifs at h with hquote hminus hdigit hnull htrue hfalse
  · obtain ⟨p, hp, rfl⟩ := skipString_eq_ok_iff.1 h
    exact ⟨_, .string hp, by simp [hquote]⟩
  · obtain ⟨u, hu, rfl⟩ := exists_numeralText h
    exact ⟨_, .negative hu, by rw [hminus]; rfl⟩
  · obtain ⟨u, hu, hbs⟩ := exists_numeralText h
    exact ⟨u, .number hu, hbs⟩
  · rw [skipIdent_eq_ok_iff.1 h, hnull]
    exact ⟨_, .null, rfl⟩
  · rw [skipIdent_eq_ok_iff.1 h, htrue]
    exact ⟨_, .true, rfl⟩
  · rw [skipIdent_eq_ok_iff.1 h, hfalse]
    exact ⟨_, .false, rfl⟩

theorem ScalarText.bare (h : ScalarText u) : Bare u := by
  cases h with
  | null => exact bare_of_scalar (b := 'n'.toUInt8) rfl rfl (skipIdent_eq_ok_iff.2 rfl)
  | true => exact bare_of_scalar (b := 't'.toUInt8) rfl rfl (skipIdent_eq_ok_iff.2 rfl)
  | false => exact bare_of_scalar (b := 'f'.toUInt8) rfl rfl (skipIdent_eq_ok_iff.2 rfl)
  | number hu =>
      have hnumber := skipNumber_numeral hu
      obtain ⟨b, w, rfl, hb⟩ := hu.exists_cons
      exact bare_of_scalar (isSpace_of_isDigit hb) (ofOpener?_digit hb)
        ((skipScalar_digit hb w).trans hnumber)
  | negative hu => exact bare_of_scalar rfl rfl (skipNumber_numeral hu)
  | string hp => exact bare_of_scalar rfl rfl (skipString_eq_ok_iff.2 ⟨_, hp, rfl⟩)

end ProxyWarden.Json
