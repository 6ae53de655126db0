import ProxyWarden.Proofs.Document.Grammar
import ProxyWarden.Proofs.Json.Grammar
import ProxyWarden.Proofs.NameMap

/-!
# Documents by their members

A document is the text of one object: members between braces, a comma between any two, and white space
around the object (`DocumentText`). A text is read if and only if it is of this form, and then, in
whatever way it is divided into members, every key is held with the text of the value of its last
member (`reads_exactly_objects`).
-/
namespace ProxyWarden.Document

open Json (Blank KeyText ValueText)

variable {d : Document} {bs w : Bytes} {fields : List (String × String)}

/-- A member as it is written: a key in quotes, a colon and a value, with white space around each of
them. The key is decoded, the value is kept as it is written. -/
structure Member where
  key : String
  raw : String
  keyText : Bytes
  beforeKey : Bytes
  afterKey : Bytes
  beforeValue : Bytes
  afterValue : Bytes
  isKey : KeyText key keyText
  isValue : ValueText (Utf8.encode raw)
  blank : ∀ w ∈ [beforeKey, afterKey, beforeValue, afterValue], Blank w

namespace Member

def text (m : Member) : Bytes :=
  m.beforeKey ++ (m.keyText ++ (m.afterKey ++ colon ::
    (m.beforeValue ++ (Utf8.encode m.raw ++ m.afterValue))))

def field (m : Member) : String × String := (m.key, m.raw)

end Member

def furtherText (ms : List Member) : Bytes := ms.flatMap fun m => comma :: m.text

/-- What stands between the braces: white space, or members with a comma between any two. -/
def InsideText (ms : List Member) (bs : Bytes) : Prop :=
  match ms with
  | [] => Blank bs
  | m :: ms => bs = m.text ++ furtherText ms

/-- One object with these members, and white space around it. -/
def DocumentText (ms : List Member) (bs : Bytes) : Prop :=
  ∃ w inside w', Blank w ∧ InsideText ms inside ∧ Blank w' ∧
    bs = w ++ openBrace :: (inside ++ closeBrace :: w')

/-! ## Members one after the other -/

theorem exists_member {key raw : String} {k before gap pad after : Bytes} (hkey : KeyText key k)
    (hraw : Json.Bare (Utf8.encode raw)) (hbefore : Blank before) (hgap : Blank gap)
    (hpad : Blank pad) (hafter : Blank after) : ∃ m : Member, m.field = (key, raw) ∧
      m.text = before ++ (k ++ (gap ++ colon :: (pad ++ (Utf8.encode raw ++ after)))) := by
  have hblank : ∀ w ∈ [before, gap, pad, after], Blank w := by simp [hbefore, hgap, hpad, hafter]
  exact ⟨⟨key, raw, k, before, gap, pad, after, hkey, Json.bare_iff_valueText.1 hraw, hblank⟩,
    rfl, rfl⟩

/-- White space before a comma belongs to the member before it. -/
theorem exists_furtherText {members : Bytes} (h : MembersText false fields members) :
    ∃ w ms, Blank w ∧ ms.map Member.field = fields ∧
      members = w ++ (furtherText ms ++ [closeBrace]) := by
  generalize hfirst : false = first at h
  induction h with
  | @close _ w hw => exact ⟨w, [], hw, rfl, rfl⟩
  | @member _ key raw fields lead k w w' rest hlead hkey hw hw' hraw _ ih =>
      subst hfirst
      obtain ⟨before, after, hbefore, hafter, rfl⟩ := hlead
      obtain ⟨last, ms, hlast, rfl, rfl⟩ := ih rfl
      obtain ⟨m, hfield, htext⟩ := exists_member hkey hraw hafter hw hw' hlast
      refine ⟨before, m :: ms, hbefore, by rw [List.map_cons, hfield], ?_⟩
      simp [furtherText, htext, comma, colon]

theorem membersText_member {first : Bool} {lead : Bytes} {m : Member} {rest : Bytes}
    (hlead : Json.LeadText first lead) (hrest : MembersText false fields (m.afterValue ++ rest)) :
    MembersText first (m.field :: fields) (lead ++ (m.keyText ++ (m.afterKey ++ colon ::
      (m.beforeValue ++ (Utf8.encode m.raw ++ (m.afterValue ++ rest)))))) :=
  .member hlead m.isKey (m.blank _ (by simp)) (m.blank _ (by simp))
    (Json.bare_iff_valueText.2 m.isValue) hrest

theorem membersText_further (ms : List Member) (hw : Blank w) :
    MembersText false (ms.map Member.field) (w ++ (furtherText ms ++ [closeBrace])) := by
  induction ms generalizing w with
  | nil => exact .close hw
  | cons m ms ih =>
      have hlead : Json.LeadText false (w ++ comma :: m.beforeKey) :=
        ⟨w, m.beforeKey, hw, m.blank _ (by simp), rfl⟩
      have hmember := membersText_member hlead (ih (m.blank m.afterValue (by simp)))
      simpa [furtherText, Member.text] using hmember

/-- The two descriptions of objects agree. -/
theorem objectText_iff :
    ObjectText fields bs ↔ ∃ ms, DocumentText ms bs ∧ ms.map Member.field = fields := by
  constructor
  · intro h
    obtain ⟨w, members, w', hw, hmembers, hw', rfl⟩ := h
    cases hmembers with
    | @close _ inside hinside => exact ⟨[], ⟨w, inside, w', hw, hinside, hw', by simp⟩, rfl⟩
    | @member _ key raw fields lead k gap pad rest hlead hkey hgap hpad hraw hrest =>
        obtain ⟨last, ms, hlast, rfl, rfl⟩ := exists_furtherText hrest
        obtain ⟨m, hfield, htext⟩ := exists_member hkey hraw hlead hgap hpad hlast
        refine ⟨m :: ms, ⟨w, m.text ++ furtherText ms, w', hw, rfl, hw', ?_⟩,
          by rw [List.map_cons, hfield]⟩
        simp [htext, colon]
  · intro h
    obtain ⟨ms, ⟨w, inside, w', hw, hinside, hw', rfl⟩, rfl⟩ := h
    cases ms with
    | nil => exact ⟨w, inside ++ [closeBrace], w', hw, .close hinside, hw', by simp⟩
    | cons m ms =>
        have hlead : Json.LeadText true m.beforeKey := m.blank _ (by simp)
        have hmembers := membersText_member hlead
          (membersText_further ms (m.blank m.afterValue (by simp)))
        have hbytes : inside = m.text ++ furtherText ms := hinside
        exact ⟨w, _, w', hw, hmembers, hw', by simp [hbytes, Member.text]⟩

/-! ## What is read -/

/-- The last member with its key. -/
def IsLast (m : Member) (ms : List Member) : Prop :=
  ∃ before after, ms = before ++ m :: after ∧ ∀ m' ∈ after, m'.key ≠ m.key

/-- The document holds these members, of those with one key the last. -/
structure Holds (d : Document) (ms : List Member) : Prop where
  keys : ∀ key, key ∈ d.keys ↔ ∃ m ∈ ms, m.key = key
  ascending : d.keys.Pairwise (· < ·)
  values : ∀ key raw, d.get? key = some raw ↔ ∃ m, IsLast m ms ∧ m.key = key ∧ m.raw = raw

theorem get?_ofList_fields {ms : List Member} {key raw : String} :
    NameMap.get? (NameMap.ofList (ms.map Member.field)) key = some raw ↔
      ∃ m, IsLast m ms ∧ m.key = key ∧ m.raw = raw := by
  rw [NameMap.get?_ofList_eq_some_iff]
  constructor
  · intro h
    obtain ⟨before, after, hms, hafter⟩ := h
    obtain ⟨ms₁, ms₂, rfl, rfl, hms₂⟩ := List.map_eq_append_iff.1 hms
    obtain ⟨m, ms₂, rfl, hm, rfl⟩ := List.map_eq_cons_iff.1 hms₂
    obtain ⟨rfl, rfl⟩ := Prod.ext_iff.1 hm
    refine ⟨m, ⟨ms₁, ms₂, rfl, ?_⟩, rfl, rfl⟩
    intro m' hm'
    exact hafter m'.field (List.mem_map_of_mem hm')
  · intro h
    obtain ⟨m, ⟨before, after, rfl, hafter⟩, rfl, rfl⟩ := h
    refine ⟨before.map Member.field, after.map Member.field, by simp [Member.field], ?_⟩
    rw [List.forall_mem_map]
    exact hafter

theorem holds_ofList (ms : List Member) : Holds (NameMap.ofList (ms.map Member.field)) ms where
  keys key := by
    rw [NameMap.mem_keys_ofList]
    constructor
    · intro h
      obtain ⟨e, he, rfl⟩ := h
      obtain ⟨m, hm, rfl⟩ := List.mem_map.1 he
      exact ⟨m, hm, rfl⟩
    · intro h
      obtain ⟨m, hm, rfl⟩ := h
      exact ⟨m.field, List.mem_map_of_mem hm, rfl⟩
  ascending := NameMap.pairwise_keys _
  values _ _ := get?_ofList_fields

/-- Exactly the texts of objects are read, and the document holds the members of the object: for every
key the text of the value of its last member. -/
theorem reads_exactly_objects (bs : Bytes) :
    ((∃ d, ofBytes bs = .ok d) ↔ ∃ ms, DocumentText ms bs) ∧
    ∀ d ms, ofBytes bs = .ok d → DocumentText ms bs → Holds d ms := by
  have hread : ∀ ms, DocumentText ms bs → ofBytes bs = .ok (NameMap.ofList (ms.map Member.field)) :=
    fun ms hms => ofBytes_eq_ok_iff.2 ⟨_, objectText_iff.2 ⟨ms, hms, rfl⟩, rfl⟩
  refine ⟨⟨?_, ?_⟩, ?_⟩
  · intro h
    obtain ⟨d, hd⟩ := h
    obtain ⟨fields, hfields, -⟩ := ofBytes_eq_ok_iff.1 hd
    obtain ⟨ms, hms, -⟩ := objectText_iff.1 hfields
    exact ⟨ms, hms⟩
  · intro h
    obtain ⟨ms, hms⟩ := h
    exact ⟨_, hread ms hms⟩
  · intro d ms hd hms
    cases hd.symm.trans (hread ms hms)
    exact holds_ofList ms

def plainMember : Member where
  key := "a"
  raw := "1"
  keyText := Bytes.ofAscii "\"a\""
  beforeKey := []
  afterKey := []
  beforeValue := []
  afterValue := []
  isKey := ⟨[0x61], [0x61], .cons (.plain ⟨by decide, by decide, by decide⟩) .nil,
    Utf8.decode?_encode "a", rfl⟩
  isValue := .scalar (.number ⟨[0x31], [], [], .inr ⟨Json.digitsText_cons rfl (by simp), by decide⟩,
    .inl rfl, .inl rfl, rfl⟩)
  blank := by simp [Json.blank_nil]

/-- A list under the same key, which is written as an escape. -/
def escapedMember : Member where
  key := "a"
  raw := "[\t]"
  keyText := Bytes.ofAscii "\"\\u0061\""
  beforeKey := [0x20]
  afterKey := [0x20]
  beforeValue := []
  afterValue := []
  isKey := ⟨Bytes.ofAscii "\\u0061", [0x61], .cons (.digits (n := 0x61) (by decide) (by decide)
    (by decide)) .nil, Utf8.decode?_encode "a", rfl⟩
  isValue := .empty .list (w := [0x09]) (by decide)
  blank := by decide

/-- The later member counts, although the keys are spelled differently. -/
theorem reads_exactly_objects_escapedKey :
    ∃ d, ofBytes (Bytes.ofAscii "\x7b\"a\":1, \"\\u0061\" :[\t]\x7d\n") = .ok d ∧
      Holds d [plainMember, escapedMember] ∧ d.get? "a" = some "[\t]" := by
  have htext : DocumentText [plainMember, escapedMember]
      (Bytes.ofAscii "\x7b\"a\":1, \"\\u0061\" :[\t]\x7d\n") :=
    ⟨[], _, [0x0A], Json.blank_nil, rfl, by decide, rfl⟩
  obtain ⟨d, hd⟩ := (reads_exactly_objects _).1.2 ⟨_, htext⟩
  have hholds := (reads_exactly_objects _).2 d _ hd htext
  have hlast : IsLast escapedMember [plainMember, escapedMember] := ⟨[plainMember], [], rfl, by simp⟩
  exact ⟨d, hd, hholds, (hholds.values _ _).2 ⟨escapedMember, hlast, rfl, rfl⟩⟩

end ProxyWarden.Document
