import ProxyWarden.Journal.Record
import ProxyWarden.Proofs.Json.Values

/-!
# Records among other lines

A line that is read as a connection holds one JSON value (`Connection.isValue_of_ofLine?`), and is
read as the same connection without the white space around it (`Connection.ofLine?_trim`). So no record
is lost to a reader that trims lines and counts JSON values.
-/
namespace ProxyWarden

open Json

namespace Connection

variable {bs x : Bytes}

theorem readTagged_eq_ok_iff {s : String} : readTagged bs = .ok (s, x) ↔
    ∃ y, KeyAt true s bs y ∧ ∃ z, skipSpace y = 'n'.toUInt8 :: z ∧
      ∃ w, skipIdent (Bytes.ofAscii "ull") z = .ok w ∧ skipSpace w = '\x7d'.toUInt8 :: x := by
  unfold readTagged
  constructor
  · intro h
    split at h
    · cases h
    · next name hname =>
        obtain ⟨y, hs, hr⟩ := readText_eq_ok_iff.1 ⟨name.length_le, hname⟩
        split at h
        · cases h
        · next afterColon hc =>
            have hcolon := skipColon_eq_ok_iff.2 (expectByte_eq_ok_iff.1 hc)
            split at h
            · cases h
            · next z hn =>
                split at h
                · cases h
                · next w hl =>
                    split at h
                    · cases h
                    · next hb =>
                        cases h
                        exact ⟨afterColon, ⟨y, hs, name.rest, hr, hcolon⟩, z,
                          expectByte_eq_ok_iff.1 hn, w, hl, expectByte_eq_ok_iff.1 hb⟩
  · rintro ⟨afterColon, ⟨y, hs, z, hr, hcolon⟩, r, hn, w, hl, hb⟩
    obtain ⟨hle, hname⟩ := readText_eq_ok_iff.2 ⟨y, hs, hr⟩
    rw [hname]
    dsimp only
    rw [expectByte_eq_ok_iff.2 (skipColon_eq_ok_iff.1 hcolon)]
    dsimp only
    rw [expectByte_eq_ok_iff.2 hn]
    dsimp only
    rw [hl]
    dsimp only
    rw [expectByte_eq_ok_iff.2 hb]

theorem local_readTagged (s : String) : Local fun bs x => readTagged bs = .ok (s, x) := by
  apply Local.of_iff fun _ _ => readTagged_eq_ok_iff
  exact (local_keyAt true s).comp ((local_skipSpace _).comp
    ((local_skipIdent _).comp (local_skipSpace _)))

theorem skipValue_of_readTagged {s : String} {r : Bytes} (hs : skipSpace bs = '\x7b'.toUInt8 :: r)
    (h : readTagged r = .ok (s, x)) : skipValue bs = .ok x := by
  obtain ⟨y, hkey, z, hn, w, hl, hb⟩ := readTagged_eq_ok_iff.1 h
  calc skipValue bs
      _ = skipMembers true [] r := skipFrom_value_open hs rfl
      _ = skipFrom .value [.object] y := hkey.skipMembers_eq []
      _ = skipFrom .done [.object] w := skipFrom_value_scalar hn rfl hl
      _ = skipFrom .done [] x := skipFrom_done_close hb
      _ = .ok x := skipFrom_done_nil x

theorem readProtocol_eq_ok_iff {p : Protocol} : (∃ h, readProtocol bs = .ok ⟨p, x, h⟩) ↔
    ∃ name, Protocol.ofName? name = some p ∧
      ((∃ r, skipSpace bs = '\x7b'.toUInt8 :: r ∧ readTagged r = .ok (name, x)) ∨
        ∃ h, readText bs = .ok ⟨name, x, h⟩) := by
  unfold readProtocol
  constructor
  · rintro ⟨hle, h⟩
    split at h
    · cases h
    · next b r hs =>
        split_ifs at h with hb
        · split at h
          · cases h
          · next name rest htagged =>
              split at h
              · cases h
              · next hp =>
                  cases h
                  exact ⟨name, hp, .inl ⟨r, by rw [hs, hb], htagged⟩⟩
        · split at h
          · cases h
          · next name htext =>
              split at h
              · cases h
              · next hp =>
                  cases h
                  exact ⟨name.value, hp, .inr ⟨name.length_le, htext⟩⟩
  · rintro ⟨name, hp, ⟨r, hs, htagged⟩ | ⟨hle, htext⟩⟩
    · have hspace := length_skipSpace_le bs
      have htag := length_le_of_readTagged htagged
      rw [hs, List.length_cons] at hspace
      refine ⟨by omega, ?_⟩
      split
      · next h => cases hs.symm.trans h
      · next h =>
          cases hs.symm.trans h
          rw [if_pos rfl]
          split
          · next h' => cases htagged.symm.trans h'
          · next h' =>
              cases htagged.symm.trans h'
              rw [hp]
    · obtain ⟨y, hs, -⟩ := readText_eq_ok_iff.1 ⟨hle, htext⟩
      refine ⟨hle, ?_⟩
      split
      · next h => cases hs.symm.trans h
      · next h =>
          cases hs.symm.trans h
          rw [if_neg (by decide), htext]
          dsimp only
          rw [hp]

theorem readsValue_readProtocol : ReadsValue readProtocol where
  isLocal p := by
    intro bs x h
    obtain ⟨name, hp, hname⟩ := readProtocol_eq_ok_iff.1 h
    have hlocal := ((local_skipSpace '\x7b'.toUInt8).comp (local_readTagged name)).or
      (readsValue_readText.isLocal name)
    exact (hlocal hname).mono fun bs x hname => readProtocol_eq_ok_iff.2 ⟨name, hp, hname⟩
  skips := by
    intro bs t h
    obtain ⟨name, -, ⟨r, hs, htagged⟩ | ⟨hle, htext⟩⟩ := readProtocol_eq_ok_iff.1 ⟨t.length_le, h⟩
    · exact skipValue_of_readTagged hs htagged
    · exact readsValue_readText.skips htext

theorem readsValue_readField (p : Partial) (key : String) : ReadsValue (readField p key) := by
  unfold readField
  split_ifs
  · exact readsValue_readText.once _ _
  · exact readsValue_readText.once _ _
  · exact readsValue_readProtocol.once _ _
  · exact readsValue_readText.once _ _
  · exact readsValue_readText.once _ _
  · exact readsValue_readText.once _ _
  · exact readsValue_passOver p

theorem isValue_of_ofLine? {c : Connection} (h : ofLine? bs = some c) : isValue bs = true :=
  isValue_of_readRecord? readsValue_readField (List.cons_ne_nil _ _) h

theorem ofLine?_trim {c : Connection} (h : ofLine? bs = some c) :
    ofLine? (Bytes.trim bs) = some c :=
  readRecord?_trim readsValue_readField (List.cons_ne_nil _ _) h

end Connection

end ProxyWarden
