import Mathlib.Data.List.Basic
import ProxyWarden.Line.Core
import ProxyWarden.Proofs.Text.Runs

/-!
# What a core line says

A core line starts with words, and the first place behind some of them where a bracketed level and a
payload stand decides what is read (`reads_first_entry`). The white space before the payload is as
long as it can be, but it leaves one character to the payload when nothing else follows
(`payload?_eq_some`).
-/
namespace ProxyWarden.CoreLine

open Text

variable {cs rest rest' level level' gap gap' payload payload' : List Char} {k : Nat}

/-! ## Words and entries -/

/-- The text starts with `k` words, each with white space behind it, all runs as long as possible. -/
inductive Words : Nat → List Char → List Char → Prop where
  | none (cs : List Char) : Words 0 cs cs
  | word {k : Nat} {cs word after gap next rest : List Char} :
      LeadsWith (fun c => !isBlank c) cs word after → word ≠ [] →
      LeadsWith isBlank after gap next → gap ≠ [] → Words k next rest → Words (k + 1) cs rest

/-- White space and a payload after it, neither of them empty, the payload without a newline. -/
structure Splits (cs gap payload : List Char) : Prop where
  text : cs = gap ++ payload
  gap : gap ≠ [] ∧ ∀ c ∈ gap, isBlank c = true
  payload : payload ≠ [] ∧ '\n' ∉ payload

/-- A level in brackets, and white space and a payload after it. -/
structure Enters (cs level gap payload : List Char) : Prop where
  text : ∃ after, cs = '[' :: (level ++ ']' :: after) ∧ Splits after gap payload
  level : level ≠ [] ∧ ∀ c ∈ level, isLetter c = true

/-- An entry stands behind `k` words, at least one, and behind no fewer, and no entry at the same place
has more white space before its payload. -/
structure Counts (cs : List Char) (k : Nat) (rest level gap payload : List Char) : Prop where
  words : Words k cs rest
  pos : 1 ≤ k
  enters : Enters rest level gap payload
  least : ∀ j rest' level' gap' payload', 1 ≤ j → Words j cs rest' →
    Enters rest' level' gap' payload' → k ≤ j
  longest : ∀ level' gap' payload', Enters rest level' gap' payload' → gap'.length ≤ gap.length

/-! ## Payloads -/

/-- A text of white space only. -/
theorem reverse_takeWhile_isBlank (h : (cs.dropWhile isBlank).isEmpty = true) :
    (cs.takeWhile isBlank).reverse = cs.reverse := by
  have htext := (leadsWith_takeWhile isBlank cs).text
  rw [List.isEmpty_iff.1 h, List.append_nil] at htext
  rw [← htext]

theorem payload?_eq_some (h : payload? cs = some payload) : ∃ gap, Splits cs gap payload ∧
    ∀ gap' payload', Splits cs gap' payload' → gap'.length ≤ gap.length := by
  have hcs := leadsWith_takeWhile isBlank cs
  unfold payload? at h
  dsimp only at h
  split_ifs at h with hempty hnone
  · -- All is white space, and the last character is the payload.
    rw [reverse_takeWhile_isBlank hempty] at h
    split at h
    · next last before blanks hreverse =>
        split_ifs at h with hlast
        cases h
        have htext : cs = (last :: before :: blanks).reverse := by
          rw [← hreverse, List.reverse_reverse]
        rw [List.reverse_cons] at htext
        have hblank : ∀ c ∈ cs, isBlank c = true := by
          intro c hc
          rw [hcs.text, List.isEmpty_iff.1 hempty, List.append_nil] at hc
          exact hcs.run c hc
        refine ⟨_, ⟨htext, ⟨by simp, ?_⟩, by simp, by simpa using Ne.symm hlast⟩, ?_⟩
        · intro c hc
          exact hblank c (htext ▸ List.mem_append_left _ hc)
        · intro gap' payload' hsplits
          have hpos := List.length_pos_iff.2 hsplits.payload.1
          have hlength := congrArg List.length (htext.symm.trans hsplits.text)
          rw [List.length_append, List.length_append, List.length_singleton] at hlength
          omega
    · cases h
  · cases h
    rw [Bool.or_eq_true, not_or] at hnone
    have hnewline : '\n' ∉ cs.dropWhile isBlank := by simpa using hnone.2
    exact ⟨_, ⟨hcs.text, ⟨mt List.isEmpty_iff.2 hnone.1, hcs.run⟩, mt List.isEmpty_iff.2 hempty,
      hnewline⟩, fun gap' payload' hsplits => hcs.length_le hsplits.text hsplits.gap.2⟩

theorem payload?_eq_none (h : payload? cs = none) : ¬ Splits cs gap payload := by
  intro hsplits
  have hcs := leadsWith_takeWhile isBlank cs
  have hgap := List.length_pos_iff.2 hsplits.gap.1
  have hle := hcs.length_le hsplits.text hsplits.gap.2
  have hlength := congrArg List.length hsplits.text
  rw [List.length_append] at hlength
  unfold payload? at h
  dsimp only at h
  split_ifs at h with hempty hnone
  · rw [reverse_takeWhile_isBlank hempty] at h
    have hlast : payload.getLast? = cs.reverse.head? := by
      rw [List.head?_reverse, hsplits.text, List.getLast?_append_of_ne_nil _ hsplits.payload.1]
    have hpayload := List.length_pos_iff.2 hsplits.payload.1
    rw [← List.length_reverse] at hlength
    cases hreverse : cs.reverse with
    | nil =>
        rw [hreverse, List.length_nil] at hlength
        omega
    | cons last before =>
        rw [hreverse] at hlast
        have hmem : last ∈ payload := List.mem_of_getLast? hlast
        cases before with
        | nil =>
            rw [hreverse, List.length_singleton] at hlength
            omega
        | cons before blanks =>
            rw [hreverse] at h
            dsimp only at h
            split_ifs at h with hnewline
            exact hsplits.payload.2 (hnewline ▸ hmem)
  · rw [Bool.or_eq_true] at hnone
    rcases hnone with hnone | hnone
    · rw [List.isEmpty_iff.1 hnone] at hle
      exact absurd hgap (Nat.not_lt.2 hle)
    · -- The payload goes on to all that is not white space at the front.
      apply hsplits.payload.2
      have hsuffix : cs.dropWhile isBlank <:+ payload := by
        apply List.suffix_of_suffix_length_le (List.dropWhile_suffix _) ⟨gap, hsplits.text.symm⟩
        have htext := congrArg List.length hcs.text
        rw [List.length_append] at htext
        omega
      exact hsuffix.subset (by simpa using hnone)

/-! ## Entries -/

theorem Enters.leads (h : Enters cs level gap payload) : ∃ t after,
    cs = '[' :: t ∧ LeadsWith isLetter t level (']' :: after) ∧ Splits after gap payload := by
  obtain ⟨after, htext, hsplits⟩ := h.text
  refine ⟨_, after, htext, ⟨rfl, h.level.2, ?_⟩, hsplits⟩
  intro c hc
  cases hc
  rfl

theorem Enters.unique (h : Enters cs level gap payload) (h' : Enters cs level' gap' payload')
    (hlength : gap.length = gap'.length) : level = level' ∧ payload = payload' := by
  obtain ⟨t, after, rfl, hlevel, hsplits⟩ := h.leads
  obtain ⟨t', after', htext, hlevel', hsplits'⟩ := h'.leads
  cases htext
  have hafter : after = after' := (List.cons.inj (hlevel.eq.2.symm.trans hlevel'.eq.2)).2
  rw [← hafter] at hsplits'
  have hsame := List.append_inj (hsplits.text.symm.trans hsplits'.text) hlength
  exact ⟨hlevel.eq.1.symm.trans hlevel'.eq.1, hsame.2⟩

theorem entry?_eq_some {e : CoreEntry} (h : entry? cs = some e) : ∃ gap,
    Enters cs e.level.toList gap e.payload.toList ∧
      ∀ level' gap' payload', Enters cs level' gap' payload' → gap'.length ≤ gap.length := by
  cases cs with
  | nil => cases h
  | cons c cs =>
      have hletters := leadsWith_takeWhile isLetter cs
      rw [ entry?] at h
      split_ifs at h with hopen
      dsimp only at h
      split at h
      · cases h
      · next d after hclose =>
          split_ifs at h with hbracket
          rw [Option.map_eq_some_iff] at h
          obtain ⟨payload, hpayload, rfl⟩ := h
          obtain ⟨gap, hsplits, hlongest⟩ := payload?_eq_some hpayload
          simp only [Bool.and_eq_true, decide_eq_true_eq, Bool.not_eq_true', List.isEmpty_eq_false_iff]
            at hbracket
          rw [hbracket.1] at hclose
          refine ⟨gap, ⟨⟨after, ?_, ?_⟩, ?_⟩, ?_⟩
          · rw [hopen, String.toList_ofList, ← hclose, List.takeWhile_append_dropWhile]
          · rwa [String.toList_ofList]
          · rw [String.toList_ofList]
            exact ⟨hbracket.2, hletters.run⟩
          · intro level' gap' payload' henters
            obtain ⟨t, after', htext, hlevel, hsplits'⟩ := henters.leads
            rw [← (List.cons.inj htext).2] at hlevel
            have hafter := List.cons.inj (hlevel.eq.2.symm.trans hclose)
            rw [hafter.2] at hsplits'
            exact hlongest gap' payload' hsplits'

theorem entry?_eq_none (h : entry? cs = none) : ¬ Enters cs level gap payload := by
  intro henters
  obtain ⟨t, after, rfl, hlevel, hsplits⟩ := henters.leads
  have hnone : payload? after = none := by
    have hlevelne : level.isEmpty = false := List.isEmpty_eq_false_iff.2 henters.level.1
    rw [ entry?, if_pos rfl] at h
    simp only [hlevel.eq.1, hlevel.eq.2, hlevelne] at h
    exact Option.map_eq_none_iff.1 h
  exact payload?_eq_none hnone hsplits

/-! ## Words -/

/-- The first word, and what stands behind it. -/
theorem words_succ_iff : Words (k + 1) cs rest ↔ ∃ c t, cs = c :: t ∧ isBlank c = false ∧
    t.dropWhile (fun c => !isBlank c) ≠ [] ∧ Words k (skipWord t) rest := by
  constructor
  · intro h
    cases h with
    | @word _ _ word after gap next _ hword hne hgap hgapne hrest =>
        obtain ⟨c, word, rfl⟩ := List.exists_cons_of_ne_nil hne
        have hc : isBlank c = false := by simpa using hword.run c List.mem_cons_self
        have htail : LeadsWith (fun c => !isBlank c) (word ++ after) word after :=
          ⟨rfl, fun x hx => hword.run x (List.mem_cons_of_mem c hx), hword.ends⟩
        refine ⟨c, word ++ after, hword.text, hc, ?_, ?_⟩
        · rw [htail.eq.2, hgap.text]
          exact List.append_ne_nil_of_left_ne_nil hgapne next
        · rw [skipWord, htail.eq.2, hgap.eq.2]
          exact hrest
  · intro h
    obtain ⟨c, t, rfl, hc, hafter, hrest⟩ := h
    have hword := leadsWith_takeWhile (fun c => !isBlank c) t
    have hgap := leadsWith_takeWhile isBlank (t.dropWhile fun c => !isBlank c)
    have hrun : LeadsWith (fun c => !isBlank c) (c :: t) (c :: t.takeWhile fun c => !isBlank c)
        (t.dropWhile fun c => !isBlank c) := by
      refine ⟨congrArg (c :: ·) hword.text, ?_, hword.ends⟩
      rw [List.forall_mem_cons]
      exact ⟨by simp [hc], hword.run⟩
    refine .word hrun (List.cons_ne_nil c _) hgap ?_ hrest
    intro hnone
    obtain ⟨x, xs, hx⟩ := List.exists_cons_of_ne_nil hafter
    have hblank := hword.ends x (by rw [hx]; rfl)
    rw [hx, List.takeWhile_cons_of_pos (by simpa using hblank)] at hnone
    cases hnone

theorem Words.unique (h : Words k cs rest) (h' : Words k cs rest') : rest = rest' := by
  induction k generalizing cs with
  | zero =>
      cases h
      cases h'
      rfl
  | succ k ih =>
      obtain ⟨c, t, rfl, -, -, hrest⟩ := words_succ_iff.1 h
      obtain ⟨c', t', htext, -, -, hrest'⟩ := words_succ_iff.1 h'
      cases htext
      exact ih hrest hrest'

theorem not_words_nil : ¬ Words (k + 1) [] rest := by
  intro h
  obtain ⟨c, t, htext, -⟩ := words_succ_iff.1 h
  cases htext

theorem not_enters_nil : ¬ Enters [] level gap payload := by
  intro h
  obtain ⟨after, htext, -⟩ := h.text
  cases htext

/-- A word with something to read behind it. -/
theorem Words.cons {c : Char} {t : List Char} (h : Words k (skipWord t) rest)
    (hc : isBlank c = false) (hne : skipWord t ≠ []) : Words (k + 1) (c :: t) rest := by
  refine words_succ_iff.2 ⟨c, t, rfl, hc, ?_, h⟩
  intro hnil
  rw [skipWord, hnil] at hne
  exact hne rfl

/-! ## The first entry -/

theorem seek_eq_none (h : seek cs = none) (hwords : Words (k + 1) cs rest) :
    ¬ Enters rest level gap payload := by
  fun_induction seek cs generalizing k with
  | case1 =>
      obtain ⟨c, t, htext, -⟩ := words_succ_iff.1 hwords
      cases htext
  | case2 c t hc =>
      obtain ⟨c', t', htext, hc', -⟩ := words_succ_iff.1 hwords
      cases htext
      rw [hc] at hc'
      cases hc'
  | case3 => cases h
  | case4 c t hc hnone ih =>
      obtain ⟨c', t', htext, -, -, hrest⟩ := words_succ_iff.1 hwords
      cases htext
      cases k with
      | zero =>
          cases hrest
          exact entry?_eq_none hnone
      | succ k => exact ih h hrest

theorem seek_eq_some {e : CoreEntry} (h : seek cs = some e) : ∃ k rest gap,
    Counts cs k rest e.level.toList gap e.payload.toList := by
  fun_induction seek cs with
  | case1 => cases h
  | case2 => cases h
  | case3 c t hc e' hentry =>
      cases h
      obtain ⟨gap, henters, hlongest⟩ := entry?_eq_some hentry
      have hne : skipWord t ≠ [] := by
        intro hnil
        rw [hnil] at henters
        exact not_enters_nil henters
      exact ⟨1, skipWord t, gap, {
        words := (Words.none _).cons (Bool.eq_false_iff.2 hc) hne
        pos := Nat.le_refl 1
        enters := henters
        least := fun _ _ _ _ _ hj _ _ => hj
        longest := hlongest }⟩
  | case4 c t hc hnone ih =>
      obtain ⟨k, rest, gap, hcounts⟩ := ih h
      have hne : skipWord t ≠ [] := by
        intro hnil
        have hwords := hcounts.words
        rw [hnil, ← Nat.succ_pred_eq_of_pos hcounts.pos] at hwords
        exact not_words_nil hwords
      refine ⟨k + 1, rest, gap, {
        words := hcounts.words.cons (Bool.eq_false_iff.2 hc) hne
        pos := Nat.succ_pos k
        enters := hcounts.enters
        least := ?_
        longest := hcounts.longest }⟩
      intro j rest' level' gap' payload' hj hwords henters
      -- No entry stands behind the first word alone.
      cases j with
      | zero => exact absurd hj (Nat.not_succ_le_zero 0)
      | succ j =>
          obtain ⟨c', t', htext, -, -, hrest⟩ := words_succ_iff.1 hwords
          cases htext
          cases j with
          | zero =>
              cases hrest
              exact absurd henters (entry?_eq_none hnone)
          | succ j =>
              exact Nat.succ_le_succ
                (hcounts.least _ _ _ _ _ (Nat.succ_pos j) hrest henters)

/-- What counts in a line is one entry only. -/
theorem Counts.unique {k' : Nat} (h : Counts cs k rest level gap payload)
    (h' : Counts cs k' rest' level' gap' payload') : level = level' ∧ payload = payload' := by
  have hk : k = k' := Nat.le_antisymm
    (h.least _ _ _ _ _ h'.pos h'.words h'.enters) (h'.least _ _ _ _ _ h.pos h.words h.enters)
  rw [← hk] at h'
  have hrest := h.words.unique h'.words
  rw [← hrest] at h'
  exact h.enters.unique h'.enters
    (Nat.le_antisymm (h'.longest _ _ _ h.enters) (h.longest _ _ _ h'.enters))

/-- A line is read if an entry stands in it behind some words, at least one, and then what is read is
the entry behind the fewest words, with as much white space before the payload as there can be. -/
theorem reads_first_entry (line : String) :
    ((∃ e, parse? line = some e) ↔ ∃ k rest level gap payload,
      1 ≤ k ∧ Words k line.toList rest ∧ Enters rest level gap payload) ∧
    ∀ e, parse? line = some e ↔
      ∃ k rest gap, Counts line.toList k rest e.level.toList gap e.payload.toList := by
  have hsome : ∀ k rest level gap payload, 1 ≤ k → Words k line.toList rest →
      Enters rest level gap payload → ∃ e, parse? line = some e := by
    intro k rest level gap payload hk hwords henters
    rw [← Nat.succ_pred_eq_of_pos hk] at hwords
    apply Option.ne_none_iff_exists'.1
    intro hnone
    exact seek_eq_none hnone hwords henters
  constructor
  · constructor
    · intro h
      obtain ⟨e, he⟩ := h
      obtain ⟨k, rest, gap, hcounts⟩ := seek_eq_some he
      exact ⟨k, rest, _, gap, _, hcounts.pos, hcounts.words, hcounts.enters⟩
    · intro h
      obtain ⟨k, rest, level, gap, payload, hk, hwords, henters⟩ := h
      exact hsome k rest level gap payload hk hwords henters
  · intro e
    constructor
    · exact seek_eq_some
    · intro h
      obtain ⟨k, rest, gap, hcounts⟩ := h
      obtain ⟨e', he'⟩ := hsome _ _ _ _ _ hcounts.pos hcounts.words hcounts.enters
      obtain ⟨k', rest', gap', hcounts'⟩ := seek_eq_some he'
      have hsame := hcounts'.unique hcounts
      rw [String.toList_inj, String.toList_inj] at hsame
      have heq : e' = e := by
        cases e'
        cases e
        rwa [CoreEntry.mk.injEq]
      rw [he', heq]

/-- The last space is the payload if nothing else follows. -/
example : parse? "t [Info]  " = some ⟨"Info", " "⟩ := by
  rw [parse?, seek.eq_def]
  rfl

end ProxyWarden.CoreLine
