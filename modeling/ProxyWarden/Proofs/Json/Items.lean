import ProxyWarden.Proofs.Json.Strings

/-!
# What strings are made of

A string is a row of items, each a byte that stands for itself or an escape, and ends at the first
quote after them. The one reader only passes over items (`skipString_eq_ok_iff`), the other takes what
they stand for (`readString_eq_ok_iff`), where two escapes can make one character. So what is decoded
is also passed over, with the same rest.
-/
namespace ProxyWarden.Json

variable {bs p q x : Bytes}

inductive Item : Bytes → Prop where
  | plain {b : UInt8} : IsPlain b → Item [b]
  | letter {e : UInt8} : isEscapeLetter e = true → Item ['\\'.toUInt8, e]
  | digits {h₁ h₂ h₃ h₄ : UInt8} : (hexValue4? h₁ h₂ h₃ h₄).isSome = true →
      Item ['\\'.toUInt8, 'u'.toUInt8, h₁, h₂, h₃, h₄]

inductive Items : Bytes → Prop where
  | nil : Items []
  | cons {p ps : Bytes} : Item p → Items ps → Items (p ++ ps)

/-- What an item, or two escapes for one character, stand for. -/
inductive Decodes : Bytes → Bytes → Prop where
  | plain {b : UInt8} : IsPlain b → Decodes [b] [b]
  | letter {e x : UInt8} : escapedByte? e = some x → Decodes ['\\'.toUInt8, e] [x]
  | digits {h₁ h₂ h₃ h₄ : UInt8} {n : Nat} : hexValue4? h₁ h₂ h₃ h₄ = some n →
      isTrailing n = false → isLeading n = false →
      Decodes ['\\'.toUInt8, 'u'.toUInt8, h₁, h₂, h₃, h₄] (Utf8.encodeChar (Char.ofNat n))
  | pair {h₁ h₂ h₃ h₄ l₁ l₂ l₃ l₄ : UInt8} {n m : Nat} : hexValue4? h₁ h₂ h₃ h₄ = some n →
      isTrailing n = false → isLeading n = true → hexValue4? l₁ l₂ l₃ l₄ = some m →
      isTrailing m = true →
      Decodes (['\\'.toUInt8, 'u'.toUInt8, h₁, h₂, h₃, h₄] ++
        ['\\'.toUInt8, 'u'.toUInt8, l₁, l₂, l₃, l₄]) (Utf8.encodeChar (pairChar n m))

inductive DecodesAll : Bytes → Bytes → Prop where
  | nil : DecodesAll [] []
  | cons {p ps q qs : Bytes} : Decodes p q → DecodesAll ps qs → DecodesAll (p ++ ps) (q ++ qs)

theorem isPlain_of_not {b : UInt8} (hquote : ¬ b = '"'.toUInt8) (hslash : ¬ b = '\\'.toUInt8)
    (hcontrol : ¬ b < 32) : IsPlain b := by
  refine ⟨hquote, hslash, ?_⟩
  simpa [UInt8.lt_iff_toNat_lt] using hcontrol

/-! ## Passing over -/

theorem skipString_quote (x : Bytes) : skipString ('"'.toUInt8 :: x) = .ok x := by
  rw [skipString.eq_def]
  simp

theorem Item.skipString_eq (h : Item p) (r : Bytes) : skipString (p ++ r) = skipString r := by
  cases h with
  | plain hb => exact skipString_plain hb r
  | letter he => exact skipString_letter he r
  | digits hvalue => exact skipString_digits hvalue r

theorem Items.skipString_eq (h : Items p) (x : Bytes) :
    skipString (p ++ '"'.toUInt8 :: x) = .ok x := by
  induction h with
  | nil => exact skipString_quote x
  | cons hitem _ ih => rw [List.append_assoc, hitem.skipString_eq, ih]

theorem items_of_skipString (h : skipString bs = .ok x) :
    ∃ p, Items p ∧ bs = p ++ '"'.toUInt8 :: x := by
  fun_induction skipString bs with
  | case2 r =>
      cases h
      exact ⟨[], .nil, rfl⟩
  | case4 e r he _ ih =>
      obtain ⟨p, hp, rfl⟩ := ih h
      exact ⟨['\\'.toUInt8, e] ++ p, .cons (.letter he) hp, rfl⟩
  | case5 h₁ h₂ h₃ h₄ r hvalue _ _ ih =>
      obtain ⟨p, hp, rfl⟩ := ih h
      exact ⟨['\\'.toUInt8, 'u'.toUInt8, h₁, h₂, h₃, h₄] ++ p, .cons (.digits hvalue) hp, rfl⟩
  | case10 b r hquote hslash hcontrol ih =>
      obtain ⟨p, hp, rfl⟩ := ih h
      exact ⟨[b] ++ p, .cons (.plain (isPlain_of_not hquote hslash hcontrol)) hp, rfl⟩
  | _ => cases h

theorem skipString_eq_ok_iff :
    skipString bs = .ok x ↔ ∃ p, Items p ∧ bs = p ++ '"'.toUInt8 :: x := by
  constructor
  · exact items_of_skipString
  · rintro ⟨p, hp, rfl⟩
    exact hp.skipString_eq x

/-! ## Decoding -/

theorem unescapeOnto_quote (acc x : Bytes) :
    unescapeOnto acc ('"'.toUInt8 :: x) = .ok (acc.reverse, x) := by
  rw [unescapeOnto.eq_def]
  simp

theorem unescapeOnto_pair {h₁ h₂ h₃ h₄ l₁ l₂ l₃ l₄ : UInt8} {n m : Nat}
    (hn : hexValue4? h₁ h₂ h₃ h₄ = some n) (ht : isTrailing n = false) (hl : isLeading n = true)
    (hm : hexValue4? l₁ l₂ l₃ l₄ = some m) (hmt : isTrailing m = true) (acc r : Bytes) :
    unescapeOnto acc ('\\'.toUInt8 :: 'u'.toUInt8 :: h₁ :: h₂ :: h₃ :: h₄ :: '\\'.toUInt8 ::
        'u'.toUInt8 :: l₁ :: l₂ :: l₃ :: l₄ :: r) =
      unescapeOnto ((Utf8.encodeChar (pairChar n m)).reverse ++ acc) r := by
  have hslash : '\\'.toUInt8 ≠ '"'.toUInt8 := by decide
  have hu : escapedByte? 'u'.toUInt8 = none := by decide
  rw [unescapeOnto.eq_def]
  simp only [hslash, hu, hn, ht, hl, hm, hmt, Bool.false_eq_true, if_false, if_true]

theorem Decodes.unescapeOnto_eq (h : Decodes p q) (acc r : Bytes) :
    unescapeOnto acc (p ++ r) = unescapeOnto (q.reverse ++ acc) r := by
  cases h with
  | plain hb => exact unescapeOnto_plain hb acc r
  | letter he => exact unescapeOnto_letter he acc r
  | digits hn ht hl => exact unescapeOnto_digits hn ht hl acc r
  | pair hn ht hl hm hmt => exact unescapeOnto_pair hn ht hl hm hmt acc r

theorem DecodesAll.unescapeOnto_eq (h : DecodesAll p q) (acc x : Bytes) :
    unescapeOnto acc (p ++ '"'.toUInt8 :: x) = .ok (acc.reverse ++ q, x) := by
  induction h generalizing acc with
  | nil => rw [List.nil_append, unescapeOnto_quote, List.append_nil]
  | cons hitem _ ih =>
      rw [List.append_assoc, hitem.unescapeOnto_eq, ih, List.reverse_append, List.reverse_reverse,
        List.append_assoc]

theorem decodesAll_of_unescapeOnto {acc content : Bytes}
    (h : unescapeOnto acc bs = .ok (content, x)) :
    ∃ p q, DecodesAll p q ∧ bs = p ++ '"'.toUInt8 :: x ∧ content = acc.reverse ++ q := by
  fun_induction unescapeOnto acc bs with
  | case2 acc r =>
      cases h
      exact ⟨[], [], .nil, rfl, (List.append_nil _).symm⟩
  | case4 acc e r y he _ ih =>
      obtain ⟨p, q, hp, rfl, rfl⟩ := ih h
      exact ⟨_, _, .cons (.letter he) hp, rfl, by simp⟩
  | case10 acc h₁ h₂ h₃ h₄ n hn ht hl l₁ l₂ l₃ l₄ r m hm hmt _ _ ih =>
      obtain ⟨p, q, hp, rfl, hcontent⟩ := ih h
      rw [Bool.not_eq_true] at ht
      refine ⟨_, _, .cons (.pair hn ht hl hm hmt) hp, rfl, hcontent.trans ?_⟩
      rw [List.reverse_append, List.reverse_reverse, List.append_assoc]
  | case15 acc h₁ h₂ h₃ h₄ r n hn ht hl _ _ ih =>
      obtain ⟨p, q, hp, rfl, hcontent⟩ := ih h
      rw [Bool.not_eq_true] at ht hl
      refine ⟨_, _, .cons (.digits hn ht hl) hp, rfl, hcontent.trans ?_⟩
      rw [List.reverse_append, List.reverse_reverse, List.append_assoc]
  | case19 acc b r hquote hslash hcontrol ih =>
      obtain ⟨p, q, hp, rfl, rfl⟩ := ih h
      exact ⟨_, _, .cons (.plain (isPlain_of_not hquote hslash hcontrol)) hp, rfl, by simp⟩
  | _ => cases h

theorem readString_eq_ok_iff {s : String} : readString bs = .ok (s, x) ↔
    ∃ p q, DecodesAll p q ∧ bs = p ++ '"'.toUInt8 :: x ∧ Utf8.decode? q = some s := by
  unfold readString
  constructor
  · intro h
    split at h
    · cases h
    · next content rest hcontent =>
        split at h
        · next hdecode =>
            cases h
            obtain ⟨p, q, hp, hbs, hq⟩ := decodesAll_of_unescapeOnto hcontent
            rw [List.reverse_nil, List.nil_append] at hq
            exact ⟨p, q, hp, hbs, hq ▸ hdecode⟩
        · cases h
  · rintro ⟨p, q, hp, rfl, hdecode⟩
    rw [hp.unescapeOnto_eq]
    dsimp only
    rw [List.reverse_nil, List.nil_append, hdecode]

theorem Decodes.items (h : Decodes p q) (hs : Items x) : Items (p ++ x) := by
  cases h with
  | plain hb => exact .cons (.plain hb) hs
  | letter he => exact .cons (.letter (isEscapeLetter_of_escapedByte? he).1) hs
  | digits hn _ _ => exact .cons (.digits (by rw [hn]; rfl)) hs
  | pair hn _ _ hm _ =>
      rw [List.append_assoc]
      exact .cons (.digits (by rw [hn]; rfl)) (.cons (.digits (by rw [hm]; rfl)) hs)

theorem DecodesAll.items (h : DecodesAll p q) : Items p := by
  induction h with
  | nil => exact .nil
  | cons hitem _ ih => exact hitem.items ih

/-- What is decoded as a string is passed over as one. -/
theorem skipString_of_readString {s : String} (h : readString bs = .ok (s, x)) :
    skipString bs = .ok x := by
  obtain ⟨p, q, hp, rfl, -⟩ := readString_eq_ok_iff.1 h
  exact hp.items.skipString_eq x

end ProxyWarden.Json
