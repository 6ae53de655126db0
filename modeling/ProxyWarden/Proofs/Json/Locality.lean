import ProxyWarden.Proofs.Json.Items
import ProxyWarden.Proofs.Json.Objects
import ProxyWarden.Proofs.Text.Runs

/-!
# What follows does not matter

What is taken from the front of a text does not depend on what follows, with one exception: a number
ends where the next byte cannot go on with it. So a reader takes the same when other bytes follow
that go on a number no more than those before did (`Alike`). `Local` says this of a reader given as a
relation between a text and what is left of it; the parts of the grammar are local because what they
are made of is.
-/
namespace ProxyWarden.Json

variable {bs x x' y : Bytes}

/-- The bytes that a number may go on with. -/
def isNumeric (b : UInt8) : Bool :=
  isDigit b || b == '.'.toUInt8 || b == 'e'.toUInt8 || b == 'E'.toUInt8

/-- The bytes of `x'` can follow in place of `x`: they start in the same way, or with a byte that no
number goes on with. -/
def Alike (x x' : Bytes) : Prop := ∀ b, x'.head? = some b → x.head? = some b ∨ isNumeric b = false

theorem Alike.append (h : Alike x x') (u : Bytes) : Alike (u ++ x) (u ++ x') := by
  cases u with
  | nil => exact h
  | cons c u => exact fun b hb => .inl hb

theorem alike_nil (x : Bytes) : Alike x [] := by
  intro b hb
  cases hb

/-- The reader takes a beginning of this text, and takes the same in front of all alike bytes. -/
def LocalAt (R : Bytes → Bytes → Prop) (bs x : Bytes) : Prop :=
  ∃ u, bs = u ++ x ∧ ∀ x', Alike x x' → R (u ++ x') x'

def Local (R : Bytes → Bytes → Prop) : Prop := ∀ ⦃bs x⦄, R bs x → LocalAt R bs x

section
variable {R S : Bytes → Bytes → Prop}

namespace LocalAt

theorem suffix (h : LocalAt R bs x) : x <:+ bs := by
  obtain ⟨u, rfl, -⟩ := h
  exact List.suffix_append u x

theorem comp (hR : LocalAt R bs y) (hS : LocalAt S y x) :
    LocalAt (fun bs x => ∃ y, R bs y ∧ S y x) bs x := by
  obtain ⟨u, rfl, hu⟩ := hR
  obtain ⟨v, rfl, hv⟩ := hS
  refine ⟨u ++ v, (List.append_assoc u v x).symm, ?_⟩
  intro x' halike
  rw [List.append_assoc]
  exact ⟨v ++ x', hu _ (halike.append v), hv x' halike⟩

theorem mono (h : LocalAt R bs x) (hRS : ∀ bs x, R bs x → S bs x) : LocalAt S bs x := by
  obtain ⟨u, hbs, hu⟩ := h
  exact ⟨u, hbs, fun x' halike => hRS _ _ (hu x' halike)⟩

/-- The first byte, once looked at, belongs to what is taken. -/
theorem of_cons {b : UInt8} (h : LocalAt R (b :: bs) x) (hle : x.length ≤ bs.length) :
    LocalAt (fun bs x => R (b :: bs) x) bs x := by
  obtain ⟨u, hbs, hu⟩ := h
  cases u with
  | nil =>
      rw [List.nil_append] at hbs
      rw [← hbs, List.length_cons] at hle
      exact absurd hle (Nat.not_succ_le_self _)
  | cons c u =>
      obtain ⟨rfl, rfl⟩ := List.cons.inj hbs
      exact ⟨u, rfl, hu⟩

end LocalAt

namespace Local

theorem nothing : Local fun bs x => bs = x := by
  rintro bs x rfl
  exact ⟨[], rfl, fun x' _ => rfl⟩

theorem byte (p : UInt8 → Prop) : Local fun bs x => ∃ b, p b ∧ bs = b :: x := by
  rintro bs x ⟨b, hb, rfl⟩
  exact ⟨[b], rfl, fun x' _ => ⟨b, hb, rfl⟩⟩

theorem comp (hR : Local R) (hS : Local S) : Local fun bs x => ∃ y, R bs y ∧ S y x := by
  rintro bs x ⟨y, hy, hx⟩
  exact (hR hy).comp (hS hx)

theorem or (hR : Local R) (hS : Local S) : Local fun bs x => R bs x ∨ S bs x := by
  rintro bs x (h | h)
  · exact (hR h).mono fun _ _ => .inl
  · exact (hS h).mono fun _ _ => .inr

/-- The reader may look at the next byte for whether a number goes on. -/
theorem head (hR : Local R) {p : UInt8 → Prop} (hp : ∀ b, isNumeric b = false → p b) :
    Local fun bs x => R bs x ∧ ∀ b, bs.head? = some b → p b := by
  rintro bs x ⟨h, hhead⟩
  obtain ⟨u, rfl, hu⟩ := hR h
  refine ⟨u, rfl, fun x' halike => ⟨hu x' halike, ?_⟩⟩
  intro b hb
  rcases halike.append u b hb with hsame | hother
  · exact hhead b hsame
  · exact hp b hother

theorem of_iff (h : ∀ bs x, R bs x ↔ S bs x) (hS : Local S) : Local R := by
  intro bs x hx
  exact (hS ((h bs x).1 hx)).mono fun bs x => (h bs x).2

end Local

end

/-! ## White space and digits -/

theorem isSpace_of_skipSpace {b : UInt8} (h : skipSpace bs = b :: x) : isSpace b = false := by
  have hhead : (bs.dropWhile isSpace).head? = some b := congrArg List.head? h
  exact Text.eq_false_of_head?_dropWhile hhead

/-- The next byte apart from white space. -/
theorem local_skipSpace (b : UInt8) : Local fun bs x => skipSpace bs = b :: x := by
  intro bs x h
  refine ⟨bs.takeWhile isSpace ++ [b], ?_, ?_⟩
  · unfold skipSpace at h
    rw [List.append_assoc, List.singleton_append, ← h, List.takeWhile_append_dropWhile]
  · intro x' _
    rw [skipSpace, List.append_assoc, Text.dropWhile_takeWhile_append]
    exact skipSpace_cons (isSpace_of_skipSpace h) x'

theorem local_skipDigits : Local fun bs x => skipDigits bs = x := by
  rintro bs x rfl
  refine ⟨bs.takeWhile isDigit, List.takeWhile_append_dropWhile.symm, ?_⟩
  intro x' halike
  rw [skipDigits, Text.dropWhile_takeWhile_append]
  apply Text.dropWhile_eq_self
  intro b hb
  rcases halike b hb with hsame | hother
  · exact Text.eq_false_of_head?_dropWhile hsame
  · simp only [isNumeric, Bool.or_eq_false_iff] at hother
    exact hother.1.1.1

/-! ## Literals and numbers -/

theorem skipIdent_eq_ok_iff {w : List UInt8} : skipIdent w bs = .ok x ↔ bs = w ++ x := by
  induction w generalizing bs with
  | nil => simp [skipIdent]
  | cons c w ih =>
      cases bs with
      | nil => simp [skipIdent]
      | cons b bs =>
          rw [skipIdent]
          split_ifs with hb
          · rw [ih, hb, List.cons_append, List.cons.injEq]
            simp
          · simp [hb]

theorem local_skipIdent (w : List UInt8) : Local fun bs x => skipIdent w bs = .ok x := by
  intro bs x h
  rw [skipIdent_eq_ok_iff] at h
  exact ⟨w, h, fun x' _ => skipIdent_eq_ok_iff.2 rfl⟩

/-- A digit, perhaps behind a sign. -/
theorem local_signedDigit : Local fun bs x => ∃ b, isDigit b = true ∧ skipSign bs = b :: x := by
  rintro bs x ⟨b, hb, h⟩
  cases bs with
  | nil => cases h
  | cons c bs =>
      rw [skipSign] at h
      split_ifs at h with hsign
      · refine ⟨[c, b], by rw [h]; rfl, fun x' _ => ⟨b, hb, ?_⟩⟩
        exact if_pos hsign
      · obtain ⟨rfl, rfl⟩ := List.cons.inj h
        exact ⟨[c], rfl, fun x' _ => ⟨c, hb, if_neg hsign⟩⟩

theorem skipExponent_eq_ok_iff : skipExponent bs = .ok x ↔
    ∃ y, (∃ b, isDigit b = true ∧ skipSign bs = b :: y) ∧ skipDigits y = x := by
  unfold skipExponent
  constructor
  · intro h
    split at h
    · cases h
    · next b y hsign =>
        split_ifs at h with hb
        cases h
        exact ⟨y, ⟨b, hb, hsign⟩, rfl⟩
  · rintro ⟨y, ⟨b, hb, hsign⟩, rfl⟩
    rw [hsign]
    exact if_pos hb

theorem local_skipExponent : Local fun bs x => skipExponent bs = .ok x :=
  (local_signedDigit.comp local_skipDigits).of_iff fun _ _ => skipExponent_eq_ok_iff

def StartsExponent (b : UInt8) : Prop := (b = 'e'.toUInt8 || b = 'E'.toUInt8) = true

theorem skipExponent?_eq_ok_iff : skipExponent? bs = .ok x ↔
    (∃ y, (∃ b, StartsExponent b ∧ bs = b :: y) ∧ skipExponent y = .ok x) ∨
      (bs = x ∧ ∀ b, bs.head? = some b → ¬ StartsExponent b) := by
  unfold skipExponent?
  constructor
  · intro h
    split at h
    · next b y =>
        split_ifs at h with hb
        · exact .inl ⟨y, ⟨b, hb, rfl⟩, h⟩
        · cases h
          refine .inr ⟨rfl, ?_⟩
          rintro c ⟨⟩
          exact hb
    · cases h
      exact .inr ⟨rfl, by simp⟩
  · rintro (⟨y, ⟨b, hb, rfl⟩, hy⟩ | ⟨rfl, hhead⟩)
    · exact (if_pos hb).trans hy
    · cases bs with
      | nil => rfl
      | cons b y => exact if_neg (hhead b rfl)

theorem local_skipExponent? : Local fun bs x => skipExponent? bs = .ok x := by
  apply Local.of_iff fun _ _ => skipExponent?_eq_ok_iff
  apply Local.or
  · exact (Local.byte _).comp local_skipExponent
  · apply Local.nothing.head
    intro b hb hstart
    simp only [isNumeric, Bool.or_eq_false_iff] at hb
    simp only [StartsExponent, Bool.or_eq_true, decide_eq_true_eq] at hstart
    rcases hstart with rfl | rfl
    · simp at hb
    · simp at hb

theorem skipDecimals_eq_ok_iff : skipDecimals bs = .ok x ↔
    ∃ y, (∃ r, (∃ b, isDigit b = true ∧ bs = b :: r) ∧ skipDigits r = y) ∧
      skipExponent? y = .ok x := by
  unfold skipDecimals
  constructor
  · intro h
    split at h
    · next b r =>
        split_ifs at h with hb
        exact ⟨_, ⟨r, ⟨b, hb, rfl⟩, rfl⟩, h⟩
    · cases h
  · rintro ⟨y, ⟨r, ⟨b, hb, rfl⟩, rfl⟩, hy⟩
    exact (if_pos hb).trans hy

theorem local_skipDecimals : Local fun bs x => skipDecimals bs = .ok x :=
  (((Local.byte _).comp local_skipDigits).comp local_skipExponent?).of_iff
    fun _ _ => skipDecimals_eq_ok_iff

theorem skipFraction?_eq_ok_iff : skipFraction? bs = .ok x ↔
    (∃ y, (∃ b, b = '.'.toUInt8 ∧ bs = b :: y) ∧ skipDecimals y = .ok x) ∨
      (skipExponent? bs = .ok x ∧ ∀ b, bs.head? = some b → b ≠ '.'.toUInt8) := by
  unfold skipFraction?
  constructor
  · intro h
    split at h
    · next b y =>
        split_ifs at h with hb
        · exact .inl ⟨y, ⟨b, hb, rfl⟩, h⟩
        · refine .inr ⟨h, ?_⟩
          rintro c ⟨⟩
          exact hb
    · cases h
      exact .inr ⟨rfl, by simp⟩
  · rintro (⟨y, ⟨b, hb, rfl⟩, hy⟩ | ⟨h, hhead⟩)
    · exact (if_pos hb).trans hy
    · cases bs with
      | nil => exact h
      | cons b y => exact (if_neg (hhead b rfl)).trans h

theorem local_skipFraction? : Local fun bs x => skipFraction? bs = .ok x := by
  apply Local.of_iff fun _ _ => skipFraction?_eq_ok_iff
  apply Local.or
  · exact (Local.byte _).comp local_skipDecimals
  · apply local_skipExponent?.head
    rintro b hb rfl
    cases hb

theorem skipNumber_eq_ok_iff : skipNumber bs = .ok x ↔
    (∃ y, (∃ b, b = '0'.toUInt8 ∧ bs = b :: y) ∧
      (skipFraction? y = .ok x ∧ ∀ d, y.head? = some d → isDigit d = false)) ∨
    (∃ y, (∃ r, (∃ b, (b ≠ '0'.toUInt8 ∧ isDigit b = true) ∧ bs = b :: r) ∧ skipDigits r = y) ∧
      skipFraction? y = .ok x) := by
  unfold skipNumber
  constructor
  · intro h
    split at h
    · cases h
    · next b y =>
        split_ifs at h with hzero hb
        · refine .inl ⟨y, ⟨b, hzero, rfl⟩, ?_⟩
          split at h
          · next d r =>
              split_ifs at h with hd
              refine ⟨h, ?_⟩
              rintro c ⟨⟩
              simpa using hd
          · cases h
            exact ⟨rfl, by simp⟩
        · exact .inr ⟨_, ⟨y, ⟨b, ⟨hzero, hb⟩, rfl⟩, rfl⟩, h⟩
  · rintro (⟨y, ⟨b, rfl, rfl⟩, hy, hhead⟩ | ⟨y, ⟨r, ⟨b, ⟨hzero, hb⟩, rfl⟩, rfl⟩, hy⟩)
    · dsimp only
      rw [if_pos rfl]
      cases y with
      | nil => exact hy
      | cons d r =>
          have hd : ¬ isDigit d = true := by simp [hhead d rfl]
          exact (if_neg hd).trans hy
    · exact (if_neg hzero).trans ((if_pos hb).trans hy)

theorem local_skipNumber : Local fun bs x => skipNumber bs = .ok x := by
  apply Local.of_iff fun _ _ => skipNumber_eq_ok_iff
  apply Local.or
  · apply (Local.byte _).comp
    apply local_skipFraction?.head
    intro d hd
    simp only [isNumeric, Bool.or_eq_false_iff] at hd
    exact hd.1.1.1
  · exact ((Local.byte _).comp local_skipDigits).comp local_skipFraction?

/-! ## Strings -/

theorem local_skipString : Local fun bs x => skipString bs = .ok x := by
  intro bs x h
  obtain ⟨p, hp, rfl⟩ := skipString_eq_ok_iff.1 h
  refine ⟨p ++ ['"'.toUInt8], by rw [List.append_assoc]; rfl, fun x' _ => ?_⟩
  rw [List.append_assoc]
  exact hp.skipString_eq x'

theorem local_readString (s : String) : Local fun bs x => readString bs = .ok (s, x) := by
  intro bs x h
  obtain ⟨p, q, hp, rfl, hdecode⟩ := readString_eq_ok_iff.1 h
  refine ⟨p ++ ['"'.toUInt8], by rw [List.append_assoc]; rfl, fun x' _ => ?_⟩
  rw [List.append_assoc]
  exact readString_eq_ok_iff.2 ⟨p, q, hp, rfl, hdecode⟩

/-! ## Values -/

theorem local_skipScalar (b : UInt8) : Local fun bs x => skipScalar b bs = .ok x := by
  intro bs x h
  unfold skipScalar at h ⊢
  split_ifs at h ⊢
  · exact local_skipString h
  · exact local_skipNumber h
  · exact (local_skipNumber h).of_cons (Nat.le_of_lt_succ (length_lt_of_skipNumber h))
  · exact local_skipIdent _ h
  · exact local_skipIdent _ h
  · exact local_skipIdent _ h

theorem skipColon_eq_ok_iff : skipColon bs = .ok x ↔ skipSpace bs = ':'.toUInt8 :: x := by
  unfold skipColon
  constructor
  · intro h
    split at h
    · cases h
    · next b r hs =>
        split_ifs at h with hb
        cases h
        rw [hs, hb]
  · intro h
    rw [h]
    rfl

theorem local_skipColon : Local fun bs x => skipColon bs = .ok x :=
  (local_skipSpace _).of_iff fun _ _ => skipColon_eq_ok_iff

theorem skipLabel_object_eq_ok_iff : skipLabel .object bs = .ok x ↔
    ∃ z, (∃ y, skipSpace bs = '"'.toUInt8 :: y ∧ skipString y = .ok z) ∧ skipColon z = .ok x := by
  unfold skipLabel
  dsimp only
  constructor
  · intro h
    split at h
    · cases h
    · next b y hs =>
        split_ifs at h with hb
        cases hq : skipString y with
        | error e =>
            rw [hq] at h
            cases h
        | ok z =>
            rw [hq] at h
            exact ⟨z, ⟨y, hs.trans (by rw [hb]), hq⟩, h⟩
  · rintro ⟨z, ⟨y, hs, hq⟩, hcolon⟩
    rw [hs]
    dsimp only
    rw [if_pos rfl, hq]
    exact hcolon

theorem local_skipLabel (f : Frame) : Local fun bs x => skipLabel f bs = .ok x := by
  cases f with
  | list =>
      apply Local.nothing.of_iff
      intro bs x
      constructor
      · intro h
        cases h
        rfl
      · rintro rfl
        rfl
  | object =>
      exact (((local_skipSpace _).comp local_skipString).comp local_skipColon).of_iff
        fun _ _ => skipLabel_object_eq_ok_iff

theorem length_lt_of_skipFrom_value {stack : List Frame} (h : skipFrom .value stack bs = .ok x) :
    x.length < bs.length := by
  have hle := length_skipSpace_le bs
  rw [skipFrom] at h
  split at h
  · cases h
  · next b r hs =>
      rw [hs, List.length_cons] at hle
      split at h
      · have hrest := length_le_of_skipFrom h
        omega
      · split at h
        · cases h
        · next r' hr =>
            have hscalar := length_le_of_skipScalar hr
            have hrest := length_le_of_skipFrom h
            omega

theorem local_skipFrom (stage : Stage) (stack : List Frame) :
    Local fun bs x => skipFrom stage stack bs = .ok x := by
  intro bs x h
  fun_induction skipFrom stage stack bs with
  | case2 stack bs b r hs f hf ih =>
      apply ((local_skipSpace b hs).comp (ih h)).mono
      rintro bs x ⟨r, hs, hr⟩
      exact (skipFrom_value_open hs hf).trans hr
  | case4 stack bs b r hs hf r' hr ih =>
      apply ((local_skipSpace b hs).comp ((local_skipScalar b hr).comp (ih h))).mono
      rintro bs x ⟨r, hs, r', hr, hx⟩
      exact (skipFrom_value_scalar hs hf hr).trans hx
  | case6 stack bs f r hs ih =>
      apply ((local_skipSpace f.closer hs).comp (ih h)).mono
      rintro bs x ⟨r, hs, hr⟩
      exact (skipFrom_opened_close hs).trans hr
  | case8 stack bs f b r hs hb r' hl ih =>
      have hle : x.length ≤ r.length := by
        have hlabel := length_le_of_skipLabel hl
        have hvalue := length_lt_of_skipFrom_value h
        rw [List.length_cons] at hlabel
        omega
      apply ((local_skipSpace b hs).comp (((local_skipLabel f hl).comp (ih h)).of_cons hle)).mono
      rintro bs x ⟨r, hs, r', hl, hx⟩
      exact (skipFrom_opened hs hb hl).trans hx
  | case9 bs =>
      cases h
      exact (Local.nothing rfl).mono fun bs x h => by rw [h, skipFrom_done_nil]
  | case11 bs f fs r hs ih =>
      apply ((local_skipSpace f.closer hs).comp (ih h)).mono
      rintro bs x ⟨r, hs, hr⟩
      exact (skipFrom_done_close hs).trans hr
  | case13 bs f fs r r' hl hs hc ih =>
      apply ((local_skipSpace _ hs).comp ((local_skipLabel f hl).comp (ih h))).mono
      rintro bs x ⟨r, hs, r', hl, hx⟩
      exact (skipFrom_done_comma hs hl).trans hx
  | _ => cases h

theorem local_skipValue : Local fun bs x => skipValue bs = .ok x := local_skipFrom _ _

end ProxyWarden.Json
