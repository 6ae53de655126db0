import ProxyWarden.Document.Runtime
import ProxyWarden.Proofs.Document.Grammar
import ProxyWarden.Proofs.Json.Writing
import ProxyWarden.Proofs.NameMap
import ProxyWarden.Proofs.Text.Ordering

/-!
# Documents as they are written

A document is written, in the compact and in the pretty form, unless a value in it is no JSON value;
then the least key with such a value is reported. Both forms are texts of the grammar, so both are
read back, without the white space around the values (`read_rendered`). The documents that reading,
setting and dropping fields make have none.
-/
namespace ProxyWarden.Document

open Json (Bare Blank Value isSpace isValue skipSpace skipValue trimText writeString)

variable {d : Document} {key raw : String} {es : List (String × String)}

def trim (d : Document) : Document := d.map trimText

/-- Every value is one value with nothing around it. -/
def IsBare (d : Document) : Prop := ∀ e ∈ d.entries, Bare (Utf8.encode e.2)

def IsValid (d : Document) : Prop := ∀ e ∈ d.entries, isValue (Utf8.encode e.2) = true

theorem isBare_trim_iff : d.trim.IsBare ↔ d.IsValid := by
  have hentry : ∀ e : String × String,
      Bare (Utf8.encode (trimText e.2)) ↔ isValue (Utf8.encode e.2) = true :=
    fun _ => Json.bare_trimText_iff
  unfold IsBare IsValid trim NameMap.map
  simp only [List.forall_mem_map, hentry]

theorem IsBare.isValid (h : d.IsBare) : d.IsValid := fun e he => (h e he).isValue_eq

theorem IsBare.trim_eq (h : d.IsBare) : d.trim = d :=
  NameMap.map_eq_self fun e he => (h e he).trimText_eq

theorem IsBare.insert (h : d.IsBare) (hraw : Bare (Utf8.encode raw)) :
    IsBare (NameMap.insert d key raw) := by
  intro e he
  rcases (NameMap.mem_entries_insert d).1 he with rfl | ⟨-, he⟩
  · exact hraw
  · exact h e he

theorem IsBare.retainAllowed (h : d.IsBare) : d.retainAllowed.IsBare := by
  intro e he
  exact h e ((NameMap.mem_entries_restrict d isAllowed).1 he).2

theorem isBare_of_ofBytes {bs : Bytes} (h : ofBytes bs = .ok d) : d.IsBare := by
  obtain ⟨fields, ⟨w, members, w', -, hmembers, -, -⟩, rfl⟩ := ofBytes_eq_ok_iff.1 h
  intro e he
  have hlookup := NameMap.mem_entries_ofList.1 he
  have hmem : e ∈ fields := by
    obtain ⟨l₁, l₂, hl, -⟩ := List.lookup_eq_some_iff.1 hlookup
    exact List.mem_reverse.1 (by simp [hl])
  exact hmembers.bare e hmem

/-! ## Rendering -/

theorem trimmed?_eq_some (h : isValue (Utf8.encode raw) = true) :
    trimmed? raw = some (Utf8.encode (trimText raw)) := by
  obtain ⟨x, hskip, hx⟩ := Json.isValue_iff.1 h
  obtain ⟨v, hv, hs⟩ := Json.exists_bare_of_skipValue hskip
  have hend : Json.expectEnd x = .ok () :=
    Json.expectEnd_eq_ok_iff.2 (Json.skipSpace_eq_nil_iff.2 hx)
  rw [Json.encode_trimText_of_skipValue hs hv hx, trimmed?, Json.skipValue_skipSpace, hskip]
  dsimp only
  rw [hend, hs]
  simp

theorem trimmed?_eq_none (h : isValue (Utf8.encode raw) = false) : trimmed? raw = none := by
  rw [trimmed?, Json.skipValue_skipSpace]
  cases hskip : skipValue (Utf8.encode raw) with
  | error e => rfl
  | ok x =>
      cases hend : Json.expectEnd x with
      | error e => simp [hend]
      | ok u =>
          have hblank := Json.skipSpace_eq_nil_iff.1 (Json.expectEnd_eq_ok_iff.1 hend)
          exact absurd (Json.isValue_iff.2 ⟨x, hskip, hblank⟩) (by simp [h])

def quotedField (e : String × String) : Bytes × Bytes :=
  (Utf8.encodeList (writeString e.1), Utf8.encode e.2)

theorem rendered_eq_ok (h : ∀ e ∈ es, isValue (Utf8.encode e.2) = true) :
    rendered es = .ok (es.map fun e => quotedField (e.1, trimText e.2)) := by
  induction es with
  | nil => rfl
  | cons e es ih =>
      rw [List.forall_mem_cons] at h
      rw [rendered, trimmed?_eq_some h.1]
      dsimp only
      rw [ih h.2]
      rfl

/-- The key is that of a value which is none, and no key with lesser bytes is. -/
structure FirstFault (es : List (String × String)) (key : String) : Prop where
  fault : ∃ raw, (key, raw) ∈ es ∧ isValue (Utf8.encode raw) = false
  least : ∀ e ∈ es, isValue (Utf8.encode e.2) = false → Utf8.encode key ≤ Utf8.encode e.1

theorem exists_rendered_eq_error (hes : es.Pairwise fun a b => a.1 < b.1)
    (h : ∃ e ∈ es, isValue (Utf8.encode e.2) = false) :
    ∃ key, FirstFault es key ∧ rendered es = .error key := by
  induction es with
  | nil =>
      obtain ⟨e, he, -⟩ := h
      cases he
  | cons e es ih =>
      rw [List.pairwise_cons] at hes
      cases hvalue : isValue (Utf8.encode e.2) with
      | false =>
          refine ⟨e.1, ⟨⟨e.2, List.mem_cons_self, hvalue⟩, ?_⟩, ?_⟩
          · rw [List.forall_mem_cons]
            refine ⟨fun _ => List.le_refl _, ?_⟩
            intro e' he' _
            exact List.le_of_lt (Utf8.encode_lt_encode_iff.2 (hes.1 e' he'))
          · rw [rendered, trimmed?_eq_none hvalue]
      | true =>
          have htail : ∃ e ∈ es, isValue (Utf8.encode e.2) = false := by
            obtain ⟨e', he', hfault⟩ := h
            rcases List.mem_cons.1 he' with rfl | he'
            · cases hvalue.symm.trans hfault
            · exact ⟨e', he', hfault⟩
          obtain ⟨key, ⟨⟨raw, hraw, hfault⟩, hleast⟩, herror⟩ := ih hes.2 htail
          refine ⟨key, ⟨⟨raw, List.mem_cons_of_mem e hraw, hfault⟩, ?_⟩, ?_⟩
          · rw [List.forall_mem_cons]
            refine ⟨fun hnone => ?_, hleast⟩
            cases hvalue.symm.trans hnone
          · rw [rendered, trimmed?_eq_some hvalue]
            dsimp only
            rw [herror]

theorem IsValid.rendered_eq (h : d.IsValid) :
    rendered d.entries = .ok (d.trim.entries.map quotedField) := by
  rw [rendered_eq_ok h, trim, NameMap.map, List.map_map]
  rfl

theorem IsValid.compact_eq (h : d.IsValid) :
    d.compact = .ok (compactFields (d.trim.entries.map quotedField)) := by
  rw [compact, h.rendered_eq]
  rfl

theorem IsValid.pretty_eq (h : d.IsValid) :
    d.pretty = .ok (prettyFields (d.trim.entries.map quotedField)) := by
  rw [pretty, h.rendered_eq]
  rfl

theorem isValid_of_pretty {text : Bytes} (h : d.pretty = .ok text) : d.IsValid := by
  intro e he
  by_contra hvalue
  obtain ⟨key, -, herror⟩ := exists_rendered_eq_error d.ascending
    ⟨e, he, Bool.eq_false_iff.2 hvalue⟩
  rw [pretty, herror] at h
  cases h

theorem exists_encodeList_compactTail (es : List (String × String)) :
    ∃ cs, Utf8.encodeList cs = compactTail (es.map quotedField) := by
  induction es with
  | nil => exact ⟨[], rfl⟩
  | cons e es ih =>
      obtain ⟨cs, hcs⟩ := ih
      refine ⟨',' :: (writeString e.1 ++ ':' :: (e.2.toList ++ cs)), ?_⟩
      simp only [Utf8.encodeList_cons, Utf8.encodeList_append, hcs]
      simp [compactTail, quotedField, Utf8.encode]
      rfl

/-- The compact form is a text. -/
theorem exists_encode_compactFields (es : List (String × String)) :
    ∃ text, Utf8.encode text = compactFields (es.map quotedField) := by
  cases es with
  | nil => exact ⟨"\x7b\x7d", rfl⟩
  | cons e es =>
      obtain ⟨cs, hcs⟩ := exists_encodeList_compactTail es
      refine ⟨.ofList ('\x7b' :: (writeString e.1 ++ ':' :: (e.2.toList ++ (cs ++ ['\x7d'])))), ?_⟩
      rw [Utf8.encode, String.toList_ofList]
      simp only [Utf8.encodeList_cons, Utf8.encodeList_append, hcs]
      simp [compactFields, quotedField, Utf8.encode]
      rfl

/-! ## Both forms as texts of the grammar -/

theorem keyText_writeString (key : String) :
    Json.KeyText key (Utf8.encodeList (writeString key)) := by
  obtain ⟨p, q, hp, hbytes, hq⟩ := Json.readString_eq_ok_iff.1 (Json.readString_body key [])
  have hwrite := Json.encodeList_writeString key []
  rw [List.append_nil] at hwrite
  exact ⟨p, q, hp, hq, by rw [hwrite, hbytes]⟩

def spacedField (before after : Bytes) (f : Bytes × Bytes) : Bytes :=
  before ++ (f.1 ++ colon :: (after ++ f.2))

/-- The further fields, and the closing brace behind white space. -/
def spacedTail (before after last : Bytes) (fields : List (Bytes × Bytes)) : Bytes :=
  (fields.flatMap fun f => comma :: spacedField before after f) ++ (last ++ [closeBrace])

section
variable {before after last : Bytes}

theorem membersText_spacedField {first : Bool} {lead rest : Bytes} {e : String × String}
    (hlead : Json.LeadText first lead) (hafter : Blank after) (he : Bare (Utf8.encode e.2))
    (hrest : MembersText false es rest) :
    MembersText first (e :: es) (spacedField lead after (quotedField e) ++ rest) := by
  have hmember := MembersText.member hlead (keyText_writeString e.1) (w := []) Json.blank_nil
    hafter he hrest
  simpa [spacedField, quotedField, colon] using hmember

theorem membersText_spacedTail (hbefore : Blank before) (hafter : Blank after) (hlast : Blank last)
    (hes : ∀ e ∈ es, Bare (Utf8.encode e.2)) :
    MembersText false es (spacedTail before after last (es.map quotedField)) := by
  induction es with
  | nil => exact .close hlast
  | cons e es ih =>
      rw [List.forall_mem_cons] at hes
      have hlead : Json.LeadText false (comma :: before) := ⟨[], before, Json.blank_nil, hbefore, rfl⟩
      have hmember := membersText_spacedField hlead hafter hes.1 (ih hes.2)
      simpa [spacedField, spacedTail] using hmember

theorem objectText_spaced {e : String × String} {w : Bytes} (hbefore : Blank before)
    (hafter : Blank after) (hlast : Blank last) (hw : Blank w)
    (hes : ∀ f ∈ e :: es, Bare (Utf8.encode f.2)) :
    ObjectText (e :: es) (openBrace :: (spacedField before after (quotedField e) ++
      spacedTail before after last (es.map quotedField) ++ w)) := by
  rw [List.forall_mem_cons] at hes
  exact ⟨[], _, w, Json.blank_nil, membersText_spacedField hbefore hafter hes.1
    (membersText_spacedTail hbefore hafter hlast hes.2), hw, rfl⟩

end

theorem objectText_compactFields (hes : ∀ e ∈ es, Bare (Utf8.encode e.2)) :
    ObjectText es (compactFields (es.map quotedField)) := by
  have hnone : Blank [] := Json.blank_nil
  cases es with
  | nil => exact ⟨[], [closeBrace], [], hnone, .close hnone, hnone, rfl⟩
  | cons e es =>
      have htext := objectText_spaced hnone hnone hnone hnone hes
      simpa [compactFields, compactTail, spacedField, spacedTail] using htext

theorem prettyField_eq (f : Bytes × Bytes) : prettyField f = spacedField indent [0x20] f := by
  simp only [prettyField, spacedField, List.append_assoc]
  rfl

theorem objectText_prettyFields (hes : ∀ e ∈ es, Bare (Utf8.encode e.2)) :
    ObjectText es (prettyFields (es.map quotedField)) := by
  have hnone : Blank [] := Json.blank_nil
  have hindent : Blank indent := by decide
  have hspace : Blank [0x20] := by decide
  have hline : Blank [Bytes.newline] := by decide
  cases es with
  | nil => exact ⟨[], [closeBrace], [Bytes.newline], hnone, .close hnone, hline, rfl⟩
  | cons e es =>
      have htext := objectText_spaced hindent hspace hline hline hes
      simpa [prettyFields, prettyTail, prettyField_eq, spacedTail] using htext

/-! ## Reading back -/

/-- Both forms of the first document are read as the second, which is written the same again. -/
def ReadsBack (d d' : Document) : Prop :=
  ∃ text shown, d.compact = .ok text ∧ d.pretty = .ok shown ∧
    ofBytes text = .ok d' ∧ ofBytes shown = .ok d' ∧
    d'.compact = .ok text ∧ d'.pretty = .ok shown

theorem IsValid.readsBack (h : d.IsValid) : d.ReadsBack d.trim := by
  have hbare := isBare_trim_iff.2 h
  have hentries : d.trim = NameMap.ofList d.trim.entries := (NameMap.ofList_entries d.trim).symm
  have hcompact := hbare.isValid.compact_eq
  have hpretty := hbare.isValid.pretty_eq
  rw [hbare.trim_eq] at hcompact hpretty
  exact ⟨_, _, h.compact_eq, h.pretty_eq,
    ofBytes_eq_ok_iff.2 ⟨_, objectText_compactFields hbare, hentries⟩,
    ofBytes_eq_ok_iff.2 ⟨_, objectText_prettyFields hbare, hentries⟩, hcompact, hpretty⟩

/-- The documents that reading, setting and dropping fields make. -/
inductive Built : Document → Prop where
  | empty : Built .empty
  | read {bs : Bytes} {d : Document} : ofBytes bs = .ok d → Built d
  | set {d : Document} (key : String) (v : Value) : Built d → Built (d.set key v)
  /-- A serializer writes other things too, such as numbers with a fraction, and always one value
  with nothing around it. -/
  | store {d : Document} (key : String) {raw : String} : Bare (Utf8.encode raw) → Built d →
      Built (NameMap.insert d key raw)
  | retain {d : Document} : Built d → Built d.retainAllowed

theorem Built.isBare (h : d.Built) : d.IsBare := by
  induction h with
  | empty =>
      intro e he
      cases he
  | read hread => exact isBare_of_ofBytes hread
  | set key v _ ih => exact ih.insert (Json.bare_write v)
  | store key hraw _ ih => exact ih.insert hraw
  | retain _ ih => exact ih.retainAllowed

/-- Rendering fails with the least key whose value is no JSON value. A document without such a value
is read back from both forms, apart from white space around the values, and one that was built by
reading, setting and dropping fields is read back as it is. -/
theorem read_rendered (d : Document) :
    ((∃ e ∈ d.entries, isValue (Utf8.encode e.2) = false) →
      ∃ key, FirstFault d.entries key ∧ d.compact = .error key ∧ d.pretty = .error key) ∧
    ((∀ e ∈ d.entries, isValue (Utf8.encode e.2) = true) → d.ReadsBack d.trim) ∧
    (d.Built → d.ReadsBack d) := by
  refine ⟨?_, IsValid.readsBack, ?_⟩
  · intro h
    obtain ⟨key, hfault, herror⟩ := exists_rendered_eq_error d.ascending h
    exact ⟨key, hfault, by rw [compact, herror]; rfl, by rw [pretty, herror]; rfl⟩
  · intro h
    have hback := h.isBare.isValid.readsBack
    rwa [h.isBare.trim_eq] at hback

/-- An unfinished list is reported, white space around a list is dropped, and an object that was set
comes back as it is. -/
theorem read_rendered_inbounds :
    (∃ key, FirstFault (NameMap.ofList [("log", "\x7b\x7d"), ("inbounds", "[\x7b")]).entries key ∧
      compact (NameMap.ofList [("log", "\x7b\x7d"), ("inbounds", "[\x7b")]) = .error key ∧
      pretty (NameMap.ofList [("log", "\x7b\x7d"), ("inbounds", "[\x7b")]) = .error key) ∧
    ReadsBack (NameMap.ofList [("inbounds", "\t[ ]\n")])
      (trim (NameMap.ofList [("inbounds", "\t[ ]\n")])) ∧
    ReadsBack (set .empty "inbounds" (logObject "debug")) (set .empty "inbounds" (logObject "debug")) :=
  ⟨(read_rendered _).1 (by decide +kernel), (read_rendered _).2.1 (by decide +kernel),
    (read_rendered _).2.2 (.set "inbounds" (logObject "debug") .empty)⟩

end ProxyWarden.Document
