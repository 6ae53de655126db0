import Mathlib.Data.Nat.Digits.Defs
import ProxyWarden.Proofs.Json.Grammar

/-!
# Values as they are written

What is written for a value is a value of the grammar (`valueText_write`), whatever the value is, so it
is one value with nothing around it (`bare_write`). There is one lemma for every kind of value; those
for arrays and objects go on from what the brackets hold.
-/
namespace ProxyWarden.Json

open Value (write writeNumber writeItems writeFields)

variable {v : Value} {vs : List Value} {k : String} {fs : List (String × Value)}

/-! ## Scalars -/

theorem encodeChar_digitChar : ∀ d < 10, ∃ b, Utf8.encodeChar d.digitChar = [b] ∧ isDigit b = true ∧
    (d ≠ 0 → b ≠ '0'.toUInt8) := by
  intro d hd
  refine ⟨d.digitChar.toNat.toUInt8, ?_, ?_, ?_⟩
  · revert d
    decide
  · revert d
    decide
  · revert d
    decide

theorem isDigit_of_mem_toDigits (n : Nat) :
    ∀ b ∈ Utf8.encodeList (Nat.toDigits 10 n), isDigit b = true := by
  induction n using Nat.strongRecOn with
  | ind n ih =>
      have hlast : ∀ d < 10, ∀ b ∈ Utf8.encodeList [d.digitChar], isDigit b = true := by
        intro d hd b hb
        obtain ⟨c, hbytes, hc, -⟩ := encodeChar_digitChar d hd
        rw [Utf8.encodeList_cons, hbytes, Utf8.encodeList_nil, List.append_nil,
          List.mem_singleton] at hb
        exact hb ▸ hc
      by_cases hn : n < 10
      · rw [Nat.toDigits_of_lt_base hn]
        exact hlast n hn
      · rw [Nat.toDigits_of_base_le (by decide) (by omega), Utf8.encodeList_append]
        intro b hb
        exact (List.mem_append.1 hb).elim (ih (n / 10) (by omega) b)
          (hlast (n % 10) (Nat.mod_lt n (by decide)) b)

/-- Only zero is written with a zero in front. -/
theorem exists_toDigits_eq {n : Nat} (hn : 0 < n) : ∃ b ds,
    Utf8.encodeList (Nat.toDigits 10 n) = b :: ds ∧ b ≠ '0'.toUInt8 := by
  induction n using Nat.strongRecOn with
  | ind n ih =>
      by_cases hsmall : n < 10
      · obtain ⟨b, hbytes, -, hb⟩ := encodeChar_digitChar n hsmall
        refine ⟨b, [], ?_, hb (by omega)⟩
        rw [Nat.toDigits_of_lt_base hsmall, Utf8.encodeList_cons, hbytes]
        rfl
      · obtain ⟨b, ds, hbytes, hb⟩ := ih (n / 10) (by omega) (by omega)
        refine ⟨b, ds ++ Utf8.encodeList [(n % 10).digitChar], ?_, hb⟩
        rw [Nat.toDigits_of_base_le (by decide) (by omega), Utf8.encodeList_append, hbytes]
        rfl

theorem numeralText_toDigits (n : Nat) : NumeralText (Utf8.encodeList (Nat.toDigits 10 n)) := by
  have hwhole : WholeText (Utf8.encodeList (Nat.toDigits 10 n)) := by
    cases n with
    | zero => exact .inl rfl
    | succ n =>
        obtain ⟨b, ds, hbytes, hb⟩ := exists_toDigits_eq (Nat.succ_pos n)
        refine .inr ⟨⟨?_, isDigit_of_mem_toDigits (n + 1)⟩, ?_⟩
        · simp [hbytes]
        · simpa [hbytes] using hb
  exact ⟨_, [], [], hwhole, .inl rfl, .inl rfl, by simp⟩

theorem valueText_writeNumber (n : Int) : ValueText (Utf8.encodeList (writeNumber n)) := by
  cases n with
  | ofNat m => exact .scalar (.number (numeralText_toDigits m))
  | negSucc m => exact .scalar (.negative (numeralText_toDigits (m + 1)))

theorem exists_items_writeString (s : String) : ∃ p, Items p ∧
    Utf8.encodeList (writeString s) = '"'.toUInt8 :: (p ++ ['"'.toUInt8]) := by
  obtain ⟨p, hp, hbody⟩ := skipString_eq_ok_iff.1 (skipString_body s [])
  have hbytes := encodeList_writeString s []
  rw [List.append_nil, hbody] at hbytes
  exact ⟨p, hp, hbytes⟩

theorem valueText_writeString (s : String) : ValueText (Utf8.encodeList (writeString s)) := by
  obtain ⟨p, hp, hbytes⟩ := exists_items_writeString s
  rw [hbytes]
  exact .scalar (.string hp)

/-! ## Brackets -/

theorem tailText_closer (f : Frame) : TailText f [f.closer] := ⟨[], blank_nil, .inl rfl⟩

/-- What is written behind a value goes on with a comma, a label and a value. -/
theorem TailText.cons {f : Frame} {l v u : Bytes} (hl : LabelText f l) (hv : ValueText v)
    (hu : TailText f u) : TailText f (','.toUInt8 :: (l ++ (v ++ u))) := by
  obtain ⟨es, hes, hbytes⟩ := hu.exists_elements hl hv
  exact ⟨[], blank_nil, .inr ⟨es, hes, by rw [hbytes]; rfl⟩⟩

theorem TailText.filled {f : Frame} {l v u : Bytes} (hl : LabelText f l) (hv : ValueText v)
    (hu : TailText f u) : ValueText (f.opener :: (l ++ (v ++ u))) := by
  obtain ⟨es, hes, hbytes⟩ := hu.exists_elements hl hv
  rw [hbytes]
  exact .filled hes

/-- A key as it is written, and the colon behind it. -/
theorem labelText_key (k : String) :
    LabelText .object (Utf8.encodeList (writeString k) ++ [':'.toUInt8]) := by
  obtain ⟨p, hp, hbytes⟩ := exists_items_writeString k
  exact ⟨[], p, [], [], blank_nil, hp, blank_nil, blank_nil, by rw [hbytes]; simp⟩

theorem tailText_item (hv : ValueText (Utf8.encodeList v.write))
    (hvs : TailText .list (Utf8.encodeList (writeItems vs))) :
    TailText .list (Utf8.encodeList (writeItems (v :: vs))) := by
  have hlabel : LabelText .list [] := blank_nil
  have htail := hvs.cons hlabel hv
  rw [writeItems, Utf8.encodeList_cons, Utf8.encodeList_append]
  exact htail

theorem tailText_field (hv : ValueText (Utf8.encodeList v.write))
    (hfs : TailText .object (Utf8.encodeList (writeFields fs))) :
    TailText .object (Utf8.encodeList (writeFields ((k, v) :: fs))) := by
  have htail := hfs.cons (labelText_key k) hv
  rw [List.append_assoc] at htail
  rw [writeFields, Utf8.encodeList_cons, Utf8.encodeList_append, Utf8.encodeList_cons,
    Utf8.encodeList_append]
  exact htail

theorem valueText_array (hv : ValueText (Utf8.encodeList v.write))
    (hvs : TailText .list (Utf8.encodeList (writeItems vs))) :
    ValueText (Utf8.encodeList (Value.array (v :: vs)).write) := by
  have hlabel : LabelText .list [] := blank_nil
  have hvalue := hvs.filled hlabel hv
  rw [write, Utf8.encodeList_cons, Utf8.encodeList_append]
  exact hvalue

theorem valueText_object (hv : ValueText (Utf8.encodeList v.write))
    (hfs : TailText .object (Utf8.encodeList (writeFields fs))) :
    ValueText (Utf8.encodeList (Value.object ((k, v) :: fs)).write) := by
  have hvalue := hfs.filled (labelText_key k) hv
  rw [List.append_assoc] at hvalue
  rw [write, Utf8.encodeList_cons, Utf8.encodeList_append, Utf8.encodeList_cons,
    Utf8.encodeList_append]
  exact hvalue

/-- What is written for a value is a value of the grammar. -/
theorem valueText_write (v : Value) : ValueText (Utf8.encodeList v.write) :=
  Value.write.induct (fun v => ValueText (Utf8.encodeList v.write))
    (fun fs => TailText .object (Utf8.encodeList (writeFields fs)))
    (fun vs => TailText .list (Utf8.encodeList (writeItems vs)))
    (.scalar .null) (.scalar .true) (.scalar .false) valueText_writeNumber valueText_writeString
    (.empty .list blank_nil) (fun _ _ => valueText_array)
    (.empty .object blank_nil) (fun _ _ _ => valueText_object)
    (tailText_closer .list) (fun _ _ => tailText_item)
    (tailText_closer .object) (fun _ _ _ => tailText_field) v

theorem bare_write (v : Value) : Bare (Utf8.encode (String.ofList v.write)) := by
  rw [Utf8.encode, String.toList_ofList]
  exact bare_iff_valueText.2 (valueText_write v)

end ProxyWarden.Json
