import ProxyWarden.Document.Printer
import ProxyWarden.Document.Reader
import ProxyWarden.Proofs.Json.Bare

/-!
# The grammar of documents

The text of a document is one object: members between braces, a comma between any two, white space
anywhere outside keys and values (`ObjectText`). Exactly these texts are read (`ofBytes_eq_ok_iff`), and
the document holds the decoded key and the core of the value of every member, a later member in place
of an earlier one with the same key.
-/
namespace ProxyWarden

open Json

namespace Json

variable {bs x : Bytes}

/-! ## Keys and values -/

/-- A key as it may be written, quotes included. -/
def KeyText (key : String) (bs : Bytes) : Prop :=
  ∃ p q, DecodesAll p q ∧ Utf8.decode? q = some key ∧ bs = '"'.toUInt8 :: (p ++ ['"'.toUInt8])

/-- What may stand before a key: a comma, except before the first one. -/
def LeadText (first : Bool) (bs : Bytes) : Prop :=
  if first then Blank bs else ∃ w w', Blank w ∧ Blank w' ∧ bs = w ++ ','.toUInt8 :: w'

theorem keyAt_iff {first : Bool} {key : String} : KeyAt first key bs x ↔
    ∃ lead k w, LeadText first lead ∧ KeyText key k ∧ Blank w ∧
      bs = lead ++ (k ++ (w ++ ':'.toUInt8 :: x)) := by
  have hquote : isSpace '"'.toUInt8 = false := rfl
  have hcomma : isSpace ','.toUInt8 = false := rfl
  have hcolon : isSpace ':'.toUInt8 = false := rfl
  constructor
  · rintro ⟨y, hlead, z, hread, hskip⟩
    obtain ⟨p, q, hp, rfl, hq⟩ := readString_eq_ok_iff.1 hread
    obtain ⟨-, w, hw, rfl⟩ := skipSpace_eq_cons_iff.1 (skipColon_eq_ok_iff.1 hskip)
    have hkey : KeyText key ('"'.toUInt8 :: (p ++ ['"'.toUInt8])) := ⟨p, q, hp, hq, rfl⟩
    cases first with
    | true =>
        have hs : skipSpace bs = _ := hlead
        obtain ⟨-, lead, hblank, rfl⟩ := skipSpace_eq_cons_iff.1 hs
        exact ⟨lead, _, w, hblank, hkey, hw, by simp⟩
    | false =>
        obtain ⟨u, hs, hu⟩ : ∃ u, skipSpace bs = ','.toUInt8 :: u ∧ skipSpace u = _ := hlead
        obtain ⟨-, before, hbefore, rfl⟩ := skipSpace_eq_cons_iff.1 hs
        obtain ⟨-, after, hafter, rfl⟩ := skipSpace_eq_cons_iff.1 hu
        exact ⟨before ++ ','.toUInt8 :: after, _, w, ⟨before, after, hbefore, hafter, rfl⟩, hkey,
          hw, by simp⟩
  · rintro ⟨lead, k, w, hlead, ⟨p, q, hp, hq, rfl⟩, hw, rfl⟩
    refine ⟨p ++ '"'.toUInt8 :: (w ++ ':'.toUInt8 :: x), ?_, w ++ ':'.toUInt8 :: x,
      readString_eq_ok_iff.2 ⟨p, q, hp, rfl, hq⟩,
      skipColon_eq_ok_iff.2 (skipSpace_eq_cons_iff.2 ⟨hcolon, w, hw, rfl⟩)⟩
    cases first with
    | true => exact skipSpace_eq_cons_iff.2 ⟨hquote, lead, hlead, by simp⟩
    | false =>
        obtain ⟨before, after, hbefore, hafter, rfl⟩ := hlead
        exact ⟨_, skipSpace_eq_cons_iff.2 ⟨hcomma, before, hbefore, by simp; rfl⟩,
          skipSpace_eq_cons_iff.2 ⟨hquote, after, hafter, by simp⟩⟩

theorem exists_of_readRaw {t : Taken String bs} (h : readRaw bs = .ok t) :
    ∃ w, Blank w ∧ Bare (Utf8.encode t.value) ∧ bs = w ++ (Utf8.encode t.value ++ t.rest) := by
  unfold readRaw at h
  split at h
  · cases h
  · next rest hskip =>
      obtain ⟨v, hv, hs⟩ := exists_bare_of_skipValue hskip
      obtain ⟨w, hw, hbs⟩ := exists_blank_append bs
      have hitem : (skipSpace bs).take ((skipSpace bs).length - rest.length) = v := by
        simp [hs]
      dsimp only at h
      rw [hitem] at h
      split at h
      · next text htext =>
          cases h
          rw [Utf8.decode?_eq_some_iff] at htext
          exact ⟨w, hw, htext ▸ hv, by rw [← htext, ← hs]; exact hbs⟩
      · cases h

theorem readRaw_append {w : Bytes} {raw : String} (hw : Blank w) (hraw : Bare (Utf8.encode raw))
    (hx : Alike [] x) : ∃ h, readRaw (w ++ (Utf8.encode raw ++ x)) = .ok ⟨raw, x, h⟩ := by
  have hs : skipSpace (w ++ (Utf8.encode raw ++ x)) = Utf8.encode raw ++ x := by
    rw [skipSpace_append_of_blank hw, hraw.skipSpace_append]
  have hskip : skipValue (w ++ (Utf8.encode raw ++ x)) = .ok x := by
    rw [← skipValue_skipSpace, hs, hraw.skipValue_append hx]
  have hitem : (Utf8.encode raw ++ x).take ((Utf8.encode raw ++ x).length - x.length) =
      Utf8.encode raw := by simp
  refine ⟨length_le_of_skipValue hskip, ?_⟩
  unfold readRaw
  split
  · next h => cases hskip.symm.trans h
  · next h =>
      cases hskip.symm.trans h
      simp only [hs, hitem, Utf8.decode?_encode]

end Json

namespace Document

/-! ## Members -/

/-- The members of an object as they may be written, the closing brace included. -/
inductive MembersText : Bool → List (String × String) → Bytes → Prop where
  | close {first : Bool} {w : Bytes} : Blank w → MembersText first [] (w ++ [closeBrace])
  | member {first : Bool} {key raw : String} {fields : List (String × String)}
      {lead k w w' rest : Bytes} :
      LeadText first lead → KeyText key k → Blank w → Blank w' → Bare (Utf8.encode raw) →
      MembersText false fields rest →
      MembersText first ((key, raw) :: fields)
        (lead ++ (k ++ (w ++ ':'.toUInt8 :: (w' ++ (Utf8.encode raw ++ rest)))))

def ObjectText (fields : List (String × String)) (bs : Bytes) : Prop :=
  ∃ w members w', Blank w ∧ MembersText true fields members ∧ Blank w' ∧
    bs = w ++ openBrace :: (members ++ w')

variable {fields : List (String × String)} {first : Bool} {d d' : Document} {bs x : Bytes}

def insertAll (d : Document) (fields : List (String × String)) : Document :=
  fields.foldl (fun d f => d.insert f.1 f.2) d

/-- No number goes on with what follows a value. -/
theorem MembersText.alike_nil (h : MembersText false fields bs) (x : Bytes) : Alike [] (bs ++ x) := by
  cases h with
  | close hw =>
      rw [List.append_assoc]
      exact alike_nil_blank_cons hw rfl _
  | member hlead =>
      obtain ⟨w, w', hw, -, rfl⟩ := hlead
      simp only [List.append_assoc, List.cons_append]
      exact alike_nil_blank_cons hw rfl _

theorem readMembers_append (h : MembersText first fields bs) (d : Document) (x : Bytes) :
    readMembers readMember d first (bs ++ x) = .ok (d.insertAll fields, x) := by
  induction h generalizing d with
  | close hw =>
      apply readMembers_close
      exact skipSpace_eq_cons_iff.2 ⟨rfl, _, hw, by simp; rfl⟩
  | @member first key raw fields lead k w w' rest hlead hkey hw hw' hraw hrest ih =>
      have hkeyAt : KeyAt first key
          ((lead ++ (k ++ (w ++ ':'.toUInt8 :: (w' ++ (Utf8.encode raw ++ rest))))) ++ x)
          (w' ++ (Utf8.encode raw ++ (rest ++ x))) :=
        keyAt_iff.2 ⟨lead, k, w, hlead, hkey, hw, by simp⟩
      obtain ⟨hle, hread⟩ := readRaw_append hw' hraw (hrest.alike_nil x)
      have hmember : readMember d key (w' ++ (Utf8.encode raw ++ (rest ++ x))) =
          .ok ⟨d.insert key raw, rest ++ x, hle⟩ := by
        unfold readMember
        rw [hread]
      rw [hkeyAt.readMembers_eq hmember]
      exact ih (d.insert key raw)

theorem exists_membersText (h : readMembers readMember d first bs = .ok (d', x)) :
    ∃ fields members, MembersText first fields members ∧ bs = members ++ x ∧
      d' = d.insertAll fields := by
  fun_induction readMembers readMember d first bs with
  | case2 d first bs r hs =>
      cases h
      obtain ⟨-, w, hw, rfl⟩ := skipSpace_eq_cons_iff.1 hs
      exact ⟨[], _, .close hw, by simp; rfl, rfl⟩
  | case6 d first bs b r hs hb t hn key t' hk v hv ih =>
      obtain ⟨fields, members, hmembers, hrest, hd'⟩ := ih h
      obtain ⟨lead, k, w, hlead, hkey, hw, rfl⟩ := keyAt_iff.1 (keyAt_of_readKey hs hn hk)
      unfold readMember at hv
      split at hv
      · cases hv
      · next raw hraw =>
          cases hv
          obtain ⟨w', hw', hbare, ht'⟩ := exists_of_readRaw hraw
          refine ⟨(key, raw.value) :: fields, _, .member hlead hkey hw hw' hbare hmembers, ?_, hd'⟩
          have hrest' : raw.rest = members ++ x := hrest
          rw [hrest'] at ht'
          exact (congrArg (fun y => lead ++ (k ++ (w ++ ':'.toUInt8 :: y))) ht').trans (by simp)
  | _ => cases h

/-- Exactly the texts of objects are read, and what is read is their members. -/
theorem ofBytes_eq_ok_iff :
    ofBytes bs = .ok d ↔ ∃ fields, ObjectText fields bs ∧ d = NameMap.ofList fields := by
  have hread : ofBytes bs = .ok d ↔ readObject readMember .empty otherKind bs = .ok d := by
    unfold ofBytes
    cases readObject readMember .empty otherKind bs with
    | error e => simp
    | ok d' => simp
  rw [hread, readObject_eq_ok_iff]
  constructor
  · rintro ⟨r, x, hs, hmembers, hend⟩
    obtain ⟨-, w, hw, rfl⟩ := skipSpace_eq_cons_iff.1 hs
    obtain ⟨fields, members, htext, rfl, rfl⟩ := exists_membersText hmembers
    exact ⟨fields, ⟨w, members, x, hw, htext, skipSpace_eq_nil_iff.1 hend, rfl⟩, rfl⟩
  · rintro ⟨fields, ⟨w, members, w', hw, hmembers, hw', rfl⟩, rfl⟩
    exact ⟨members ++ w', w', skipSpace_eq_cons_iff.2 ⟨rfl, w, hw, rfl⟩,
      readMembers_append hmembers .empty w', skipSpace_eq_nil_iff.2 hw'⟩

theorem exists_objectText_iff :
    (∃ fields, ObjectText fields bs) ↔ (ofBytes bs).toOption.isSome = true := by
  constructor
  · rintro ⟨fields, htext⟩
    rw [ofBytes_eq_ok_iff.2 ⟨fields, htext, rfl⟩]
    rfl
  · intro h
    cases hread : ofBytes bs with
    | error e =>
        rw [hread] at h
        cases h
    | ok d =>
        obtain ⟨fields, htext, -⟩ := ofBytes_eq_ok_iff.1 hread
        exact ⟨fields, htext⟩

theorem MembersText.bare (h : MembersText first fields bs) :
    ∀ f ∈ fields, Bare (Utf8.encode f.2) := by
  induction h with
  | close => simp
  | member _ _ _ _ hraw _ ih =>
      rw [List.forall_mem_cons]
      exact ⟨hraw, ih⟩

end Document

end ProxyWarden
