import ProxyWarden.Proofs.Line.Access

/-!
# Access lines that are put together from fields

A line that is put together from fields without white space is taken apart into the same fields, even
when the fields hold arrows, brackets or the words of the line (`reads_composed`). Every run of the
description ends where the fields end, since a space or the first character of a field follows that
the run cannot take (`longest_composed`). And no description starts earlier, since no two occurrences
of the first word overlap (`length_le_of_from`).
-/
namespace ProxyWarden

namespace Text

/-- A run that cannot be longer comes later in the lexicographic order than any other, unless the other
is the same and the rest decides. -/
theorem lexLe_of_leadsWith {p : Char → Bool} {cs run rest run' rest' : List Char} {ms ms' : List Nat}
    (h : LeadsWith p cs run rest) (htext : cs = run' ++ rest') (hrun' : ∀ c ∈ run', p c = true)
    (hrest : run = run' → rest = rest' → lexLe ms' ms) :
    lexLe (run'.length :: ms') (run.length :: ms) := by
  have hle := h.length_le htext hrun'
  rw [lexLe_cons_iff]
  rcases Nat.lt_or_eq_of_le hle with hlt | heq
  · exact .inl hlt
  · have hsame := List.append_inj (h.text.symm.trans htext) heq.symm
    exact .inr ⟨heq, hrest hsame.1 hsame.2⟩

end Text

namespace AccessLine

open Text Text.Shape

/-! ## Fields -/

def IsSolid (s : String) : Prop := s.toList ≠ [] ∧ ∀ c ∈ s.toList, isBlank c = false

instance : DecidablePred IsSolid := fun s =>
  @instDecidableAnd _ _ inferInstance (List.decidableBAll (fun c => isBlank c = false) s.toList)

/-- What an access line is put together from. -/
structure Fields where
  client : String
  target : String
  inbound : String
  arrow : String
  outbound : String

namespace Fields

structure WellFormed (f : Fields) : Prop where
  client : IsSolid f.client
  target : IsSolid f.target
  inbound : IsSolid f.inbound
  arrow : f.arrow = ">>" ∨ f.arrow = "=>" ∨ f.arrow = "->"
  outbound : IsSolid f.outbound ∧ ']' ∉ f.outbound.toList

def text (f : Fields) : String :=
  "from " ++ f.client ++ " accepted " ++ f.target ++ " [" ++ f.inbound ++ " " ++ f.arrow ++ " " ++
    f.outbound ++ "]"

def description (f : Fields) : Description where
  client := f.client.toList
  gap₁ := [' ']
  gap₂ := [' ']
  target := f.target.toList
  gap₃ := [' ']
  inbound := f.inbound.toList
  pad₁ := [' ']
  arrow := f.arrow.toList
  pad₂ := [' ']
  outbound := f.outbound.toList

theorem toList_text (f : Fields) : f.text.toList = f.description.text := by
  delta text
  simp only [description, Description.text, Description.pieces, String.toList_append,
    List.flatten_cons, List.flatten_nil, List.append_assoc, List.append_nil]
  rfl

end Fields

/-- A connection has the values of the fields, this user, and the protocol that its target names. -/
structure Tells (c : Connection) (f : Fields) (user : String) : Prop where
  client : c.client = f.client
  server : c.server = f.target
  udp : c.proto = .udp ↔ "udp".toList <+: f.target.toList
  tcp : c.proto = .tcp ↔ "tcp".toList <+: f.target.toList
  http : c.proto = .http ↔ ¬ "udp".toList <+: f.target.toList ∧ ¬ "tcp".toList <+: f.target.toList
  inbound : c.inbound = f.inbound
  outbound : c.outbound = f.outbound
  user : c.user = user

/-! ## Runs that end with the fields -/

variable {s : String} {f : Fields} {before before' after after' x y : List Char}

theorem isBlank_of_mem_space : ∀ c ∈ [' '], isBlank c = true := by
  intro c hc
  rw [List.mem_singleton] at hc
  rw [hc]
  rfl

/-- A single space is all the white space in front of something else. -/
theorem leadsWith_space (hx : ∀ c, x.head? = some c → isBlank c = false) :
    LeadsWith isBlank ([' '] ++ x) [' '] x :=
  ⟨rfl, isBlank_of_mem_space, hx⟩

theorem isFieldChar_of_isField {cs : List Char} (h : IsField cs) : ∀ c ∈ cs, isFieldChar c = true :=
  (matches_run_iff.1 (matches_field_iff.2 h)).2

theorem isOutboundChar_of_isField {cs : List Char} (h : IsField cs ∧ ']' ∉ cs) :
    ∀ c ∈ cs, isOutboundChar c = true :=
  (matches_run_iff.1 (matches_outbound_iff.2 h)).2

theorem IsSolid.isField (h : IsSolid s) : IsField s.toList := by
  refine ⟨h.1, ?_⟩
  intro hmem
  cases h.2 ' ' hmem

theorem IsSolid.head (h : IsSolid s) : ∀ c, (s.toList ++ x).head? = some c → isBlank c = false := by
  obtain ⟨d, t, hs⟩ := List.exists_cons_of_ne_nil h.1
  intro c hc
  rw [hs] at hc
  cases hc
  exact h.2 _ (hs ▸ List.mem_cons_self)

/-- A field ends at the space behind it. -/
theorem IsSolid.leadsWith_field (h : IsSolid s) :
    LeadsWith isFieldChar (s.toList ++ ([' '] ++ x)) s.toList ([' '] ++ x) := by
  refine ⟨rfl, isFieldChar_of_isField h.isField, ?_⟩
  intro c hc
  cases hc
  rfl

namespace Fields.WellFormed

theorem leadsWith_outbound (h : f.WellFormed) : LeadsWith isOutboundChar
    (f.outbound.toList ++ ("]".toList ++ x)) f.outbound.toList ("]".toList ++ x) := by
  refine ⟨rfl, isOutboundChar_of_isField ⟨h.outbound.1.isField, h.outbound.2⟩, ?_⟩
  intro c hc
  cases hc
  rfl

theorem head_arrow (h : f.WellFormed) :
    ∀ c, (f.arrow.toList ++ x).head? = some c → isBlank c = false := by
  intro c hc
  rcases h.arrow with harrow | harrow | harrow
  · rw [harrow] at hc
    cases hc
    rfl
  · rw [harrow] at hc
    cases hc
    rfl
  · rw [harrow] at hc
    cases hc
    rfl

theorem description (h : f.WellFormed) : f.description.WellFormed where
  client := h.client.isField
  gap₁ := ⟨List.cons_ne_nil _ _, isBlank_of_mem_space⟩
  gap₂ := ⟨List.cons_ne_nil _ _, isBlank_of_mem_space⟩
  target := h.target.isField
  gap₃ := ⟨List.cons_ne_nil _ _, isBlank_of_mem_space⟩
  inbound := h.inbound.isField
  pad₁ := isBlank_of_mem_space
  arrow := by simpa only [Fields.description, String.toList_inj] using h.arrow
  pad₂ := isBlank_of_mem_space
  outbound := ⟨h.outbound.1.isField, h.outbound.2⟩

end Fields.WellFormed

/-- At the place of the fields no other description has greater lengths. -/
theorem longest_composed (h : f.WellFormed) {d : Description} (hd : d.WellFormed)
    (htext : f.description.text ++ after = d.text ++ after') :
    lexLe d.lengths f.description.lengths := by
  have harrow : f.arrow.toList.length = d.arrow.length :=
    h.description.length_arrow.trans hd.length_arrow.symm
  simp only [Description.text, Description.pieces, Fields.description, List.flatten_cons,
    List.flatten_nil, List.append_assoc, List.append_cancel_left_eq, List.nil_append] at htext
  simp only [Description.lengths, Fields.description, List.map_cons, List.map_nil]
  -- One run after the other is as long as it can be, and the words between them are the same.
  refine lexLe_of_leadsWith h.client.leadsWith_field htext (isFieldChar_of_isField hd.client) ?_
  intro _ htext
  refine lexLe_of_leadsWith (leadsWith_space ?_) htext hd.gap₁.2 ?_
  · intro c hc
    cases hc
    rfl
  intro _ htext
  rw [List.append_cancel_left_eq] at htext
  refine lexLe_of_leadsWith (leadsWith_space h.target.head) htext hd.gap₂.2 ?_
  intro _ htext
  refine lexLe_of_leadsWith h.target.leadsWith_field htext (isFieldChar_of_isField hd.target) ?_
  intro _ htext
  refine lexLe_of_leadsWith (leadsWith_space ?_) htext hd.gap₃.2 ?_
  · intro c hc
    cases hc
    rfl
  intro _ htext
  rw [List.append_cancel_left_eq] at htext
  refine lexLe_of_leadsWith h.inbound.leadsWith_field htext (isFieldChar_of_isField hd.inbound) ?_
  intro _ htext
  refine lexLe_of_leadsWith (leadsWith_space h.head_arrow) htext hd.pad₁ ?_
  intro _ htext
  have htext := (List.append_inj htext harrow).2
  refine lexLe_of_leadsWith (leadsWith_space h.outbound.1.head) htext hd.pad₂ ?_
  intro _ htext
  refine lexLe_of_leadsWith h.leadsWith_outbound htext (isOutboundChar_of_isField hd.outbound) ?_
  intro _ _
  trivial

/-! ## The first word -/

/-- The first letter of the word occurs in it only once, so no text but one that holds the whole word
can stand in front of it and start like it. -/
theorem from_isPrefix_of_append (h : "from ".toList ++ y = before ++ ("from ".toList ++ x))
    (hne : before ≠ []) : "from ".toList <+: before := by
  have hletter : ("from ".toList ++ y)[before.length]? = some 'f' := by
    rw [h, List.getElem?_append_right (Nat.le_refl _), Nat.sub_self]
    rfl
  have hlength : "from ".toList.length ≤ before.length := by
    by_contra hlt
    rw [Nat.not_le] at hlt
    rw [List.getElem?_append_left hlt] at hletter
    have hfirst : ∀ k < "from ".toList.length, "from ".toList[k]? = some 'f' → k = 0 := by decide
    exact hne (List.length_eq_zero_iff.1 (hfirst _ hlt hletter))
  exact List.prefix_of_prefix_length_le ⟨y, rfl⟩ ⟨_, h.symm⟩ hlength

/-- The word does not stand earlier than behind a text that does not hold it. -/
theorem length_le_of_from (hbefore : ¬ "from ".toList <:+: before)
    (h : before ++ ("from ".toList ++ x) = before' ++ ("from ".toList ++ y)) :
    before.length ≤ before'.length := by
  induction before' generalizing before with
  | nil =>
      cases before with
      | nil => exact Nat.le_refl 0
      | cons c before =>
          have hprefix := from_isPrefix_of_append h.symm (List.cons_ne_nil c before)
          exact absurd hprefix.isInfix hbefore
  | cons c' before' ih =>
      cases before with
      | nil => exact Nat.zero_le _
      | cons c before =>
          apply Nat.succ_le_succ
          apply ih
          · intro hfound
            exact hbefore (hfound.trans (List.suffix_cons c before).isInfix)
          · exact (List.cons.inj h).2

/-! ## Lines that are put together -/

theorem counts_composed (h : f.WellFormed) (hbefore : ¬ "from ".toList <:+: before)
    (after : List Char) :
    Counts (before ++ f.description.text ++ after) before f.description after where
  text := rfl
  wellFormed := h.description
  first := by
    intro before' d after' hd
    have htext := hd.text
    simp only [Description.text, Description.pieces, List.flatten_cons, List.append_assoc] at htext
    exact length_le_of_from hbefore htext
  longest := by
    intro d after' hd
    have htext := hd.text
    rw [List.append_assoc, List.append_assoc, List.append_cancel_left_eq] at htext
    exact longest_composed h hd.wellFormed htext

theorem ofTarget_spec (target : List Char) :
    (Protocol.ofTarget target = .udp ↔ "udp".toList <+: target) ∧
    (Protocol.ofTarget target = .tcp ↔ "tcp".toList <+: target) ∧
    (Protocol.ofTarget target = .http ↔ ¬ "udp".toList <+: target ∧ ¬ "tcp".toList <+: target) := by
  have hone : "udp".toList <+: target → ¬ "tcp".toList <+: target := by
    intro hudp htcp
    have hsame := List.prefix_of_prefix_length_le hudp htcp (Nat.le_refl 3)
    exact absurd hsame (by decide)
  simp only [Protocol.ofTarget, List.isPrefixOf_iff_prefix]
  by_cases hudp : "udp".toList <+: target
  · rw [if_pos hudp]
    simp only [hudp, hone hudp, reduceCtorEq, not_true, not_false_iff, and_self, and_true]
  · rw [if_neg hudp]
    by_cases htcp : "tcp".toList <+: target
    · rw [if_pos htcp]
      simp only [hudp, htcp, reduceCtorEq, not_true, not_false_iff, and_self, and_false]
    · rw [if_neg htcp]
      simp only [hudp, htcp, reduceCtorEq, not_false_iff, and_self]

theorem Fields.tells_connection (f : Fields) (after : List Char) :
    Tells (f.description.connection after) f ((user? after).getD unknownUser) where
  client := String.ofList_toList
  server := String.ofList_toList
  udp := (ofTarget_spec f.target.toList).1
  tcp := (ofTarget_spec f.target.toList).2.1
  http := (ofTarget_spec f.target.toList).2.2
  inbound := String.ofList_toList
  outbound := String.ofList_toList
  user := rfl

theorem namesUser_email {user : String} (h : IsSolid user) :
    NamesUser (" email: ".toList ++ user.toList) user.toList := by
  refine ⟨[' '], [' '], user.toList, [], rfl, List.cons_ne_nil _ _, isBlank_of_mem_space,
    isBlank_of_mem_space, ⟨(List.append_nil _).symm, ?_, by simp⟩, h.1⟩
  intro c hc
  rw [h.2 c hc]
  rfl

/-- A line that is put together from fields, behind a text without the word `from` and a space, is read
as these fields, with the user that an email part names or else without one. -/
theorem reads_composed {before user : String} (hbefore : ¬ "from ".toList <:+: before.toList)
    (hf : f.WellFormed) (huser : IsSolid user) :
    (∃ c, parse? (before ++ f.text ++ " email: " ++ user) = some c ∧ Tells c f user) ∧
    ∃ c, parse? (before ++ f.text) = some c ∧ Tells c f "UNKNOWN" := by
  have hread : ∀ line after, line.toList = before.toList ++ f.description.text ++ after →
      parse? line = some (f.description.connection after) := by
    intro line after hline
    have hcounts := counts_composed hf hbefore after
    rw [← hline] at hcounts
    exact parse?_eq_some_iff.2 ⟨_, _, _, hcounts, rfl⟩
  constructor
  · refine ⟨_, hread _ (" email: ".toList ++ user.toList) ?_, ?_⟩
    · simp only [String.toList_append, Fields.toList_text, List.append_assoc]
    · have htells := f.tells_connection (" email: ".toList ++ user.toList)
      rwa [user?_eq_some_iff.2 (namesUser_email huser), Option.getD_some] at htells
  · refine ⟨_, hread _ [] ?_, f.tells_connection []⟩
    rw [String.toList_append, Fields.toList_text, List.append_nil]

/-- Fields that hold arrows, brackets and the words of a line, behind a text that almost ends with the
first word. -/
def trickyFields : Fields where
  client := "from[accepted]"
  target := "udp>>accepted->["
  inbound := "in->[a>>b]=>"
  arrow := "=>"
  outbound := "[>>email:"

theorem reads_composed_trickyFields :
    (¬ "from ".toList <:+: "2024 fro".toList ∧ trickyFields.WellFormed ∧ IsSolid "email:from]") ∧
    (∃ c, parse? ("2024 fro" ++ trickyFields.text ++ " email: " ++ "email:from]") = some c ∧
      Tells c trickyFields "email:from]") ∧
    ∃ c, parse? ("2024 fro" ++ trickyFields.text) = some c ∧ Tells c trickyFields "UNKNOWN" := by
  have hsolid : ∀ s ∈ ["from[accepted]", "udp>>accepted->[", "in->[a>>b]=>", "[>>email:",
      "email:from]"], IsSolid s := by decide
  have hfields : trickyFields.WellFormed := {
    client := hsolid _ (by decide)
    target := hsolid _ (by decide)
    inbound := hsolid _ (by decide)
    arrow := .inr (.inl rfl)
    outbound := ⟨hsolid _ (by decide), by decide⟩ }
  have hbefore : ¬ "from ".toList <:+: "2024 fro".toList := by decide
  have huser : IsSolid "email:from]" := hsolid _ (by decide)
  exact ⟨⟨hbefore, hfields, huser⟩, reads_composed hbefore hfields huser⟩

end AccessLine

end ProxyWarden
