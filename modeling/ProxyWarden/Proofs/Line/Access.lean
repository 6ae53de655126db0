import ProxyWarden.Line.Access
import ProxyWarden.Proofs.Text.Divisions
import ProxyWarden.Proofs.Text.Runs

/-!
# What an access line says

An access line may be taken apart in many ways, since fields may hold tabs, brackets and arrows. Of
all descriptions that stand in a line the one that counts starts first, and its parts are as long as
possible, the earlier ones first (`parse?_eq_some_iff`). A line in which any description stands is
read (`exists_parse?_iff`).
-/
namespace ProxyWarden.AccessLine

open Text Text.Shape

/-! ## Descriptions -/

/-- The parts of a description that may vary. -/
structure Description where
  client : List Char
  gap₁ : List Char
  gap₂ : List Char
  target : List Char
  gap₃ : List Char
  inbound : List Char
  pad₁ : List Char
  arrow : List Char
  pad₂ : List Char
  outbound : List Char

namespace Description

/-- The parts in their order, with the words and brackets between them. -/
def pieces (d : Description) : List (List Char) :=
  ["from ".toList, d.client, d.gap₁, "accepted".toList, d.gap₂, d.target, d.gap₃, "[".toList,
    d.inbound, d.pad₁, d.arrow, d.pad₂, d.outbound, "]".toList]

def text (d : Description) : List Char := d.pieces.flatten

/-- The lengths of all parts but the arrow, whose length is fixed, in their order. -/
def lengths (d : Description) : List Nat :=
  [d.client, d.gap₁, d.gap₂, d.target, d.gap₃, d.inbound, d.pad₁, d.pad₂, d.outbound].map List.length

end Description

def IsField (cs : List Char) : Prop := cs ≠ [] ∧ ' ' ∉ cs

def IsPad (cs : List Char) : Prop := ∀ c ∈ cs, isBlank c = true

structure Description.WellFormed (d : Description) : Prop where
  client : IsField d.client
  gap₁ : d.gap₁ ≠ [] ∧ IsPad d.gap₁
  gap₂ : d.gap₂ ≠ [] ∧ IsPad d.gap₂
  target : IsField d.target
  gap₃ : d.gap₃ ≠ [] ∧ IsPad d.gap₃
  inbound : IsField d.inbound
  pad₁ : IsPad d.pad₁
  arrow : d.arrow = ">>".toList ∨ d.arrow = "=>".toList ∨ d.arrow = "->".toList
  pad₂ : IsPad d.pad₂
  outbound : IsField d.outbound ∧ ']' ∉ d.outbound

/-- A description that stands in a line, with what is before and after it. -/
structure Stands (line before : List Char) (d : Description) (after : List Char) : Prop where
  text : line = before ++ d.text ++ after
  wellFormed : d.WellFormed

/-- No description stands earlier in the line, and none at the same place has greater lengths. -/
structure Counts (line before : List Char) (d : Description) (after : List Char) : Prop
    extends Stands line before d after where
  first : ∀ before' d' after', Stands line before' d' after' → before.length ≤ before'.length
  longest : ∀ d' after', Stands line before d' after' → lexLe d'.lengths d.lengths

/-! ## Descriptions are divisions -/

theorem matches_field_iff {cs : List Char} : Matches (run isFieldChar) cs ↔ IsField cs := by
  rw [matches_run_iff, IsField]
  apply and_congr_right'
  simp only [isFieldChar, bne_iff_ne, ne_eq]
  exact ⟨fun h hmem => h _ hmem rfl, fun h c hc heq => h (heq ▸ hc)⟩

theorem matches_outbound_iff {cs : List Char} :
    Matches (run isOutboundChar) cs ↔ IsField cs ∧ ']' ∉ cs := by
  rw [matches_run_iff, IsField, and_assoc]
  apply and_congr_right'
  simp only [isOutboundChar, Bool.and_eq_true, bne_iff_ne, ne_eq]
  constructor
  · intro h
    exact ⟨fun hmem => (h _ hmem).1 rfl, fun hmem => (h _ hmem).2 rfl⟩
  · intro h c hc
    exact ⟨fun heq => h.1 (heq ▸ hc), fun heq => h.2 (heq ▸ hc)⟩

theorem matches_arrow_iff {cs : List Char} :
    Matches [.one isArrowStart, .one (· == '>')] cs ↔
      cs = ">>".toList ∨ cs = "=>".toList ∨ cs = "->".toList := by
  constructor
  · intro h
    obtain ⟨_, hdivides, rfl⟩ := h
    cases hdivides with
    | cons hstart hdivides =>
    cases hdivides with
    | cons htip hdivides =>
    cases hdivides
    obtain ⟨a, ha, rfl⟩ := hstart
    obtain ⟨b, hb, rfl⟩ := htip
    rw [beq_iff_eq] at hb
    simp only [isArrowStart, Bool.or_eq_true, beq_iff_eq, or_assoc] at ha
    rw [hb]
    rcases ha with rfl | rfl | rfl
    · exact .inl rfl
    · exact .inr (.inl rfl)
    · exact .inr (.inr rfl)
  · intro h
    have hpieces : ∀ a, isArrowStart a = true →
        Matches [.one isArrowStart, .one (· == '>')] [a, '>'] := fun a ha =>
      ⟨[[a], ['>']], .cons ⟨a, ha, rfl⟩ (.cons ⟨'>', rfl, rfl⟩ .nil), rfl⟩
    rcases h with rfl | rfl | rfl
    · exact hpieces '>' rfl
    · exact hpieces '=' rfl
    · exact hpieces '-' rfl

theorem isPlain_of_mem_groups : ∀ g ∈ groups, IsPlain g := by
  have hpad : IsPlain [.many isBlank] := isPlain_run isBlank
  simp only [groups, List.forall_mem_cons, isPlain_word, isPlain_run, hpad, true_and]
  exact ⟨trivial, by simp⟩

/-- The groups stand for the descriptions. -/
theorem matches_groups_iff {ws : List (List Char)} :
    List.Forall₂ Matches groups ws ↔ ∃ d : Description, d.WellFormed ∧ ws = d.pieces := by
  constructor
  · intro h
    obtain _ | ⟨hfrom, _ | ⟨hclient, _ | ⟨hgap₁, _ | ⟨haccepted, _ | ⟨hgap₂, _ | ⟨htarget,
      _ | ⟨hgap₃, _ | ⟨hopen, _ | ⟨hinbound, _ | ⟨hpad₁, _ | ⟨harrow, _ | ⟨hpad₂, _ | ⟨houtbound,
      _ | ⟨hclose, _ | _⟩⟩⟩⟩⟩⟩⟩⟩⟩⟩⟩⟩⟩⟩ := h
    rw [matches_word_iff] at hfrom haccepted hopen hclose
    rw [hfrom, haccepted, hopen, hclose]
    exact ⟨⟨_, _, _, _, _, _, _, _, _, _⟩, {
      client := matches_field_iff.1 hclient
      gap₁ := matches_run_iff.1 hgap₁
      gap₂ := matches_run_iff.1 hgap₂
      target := matches_field_iff.1 htarget
      gap₃ := matches_run_iff.1 hgap₃
      inbound := matches_field_iff.1 hinbound
      pad₁ := matches_many_iff.1 hpad₁
      arrow := matches_arrow_iff.1 harrow
      pad₂ := matches_many_iff.1 hpad₂
      outbound := matches_outbound_iff.1 houtbound }, rfl⟩
  · intro h
    obtain ⟨d, hd, rfl⟩ := h
    exact .cons (matches_word_iff.2 rfl) <| .cons (matches_field_iff.2 hd.client) <|
      .cons (matches_run_iff.2 hd.gap₁) <| .cons (matches_word_iff.2 rfl) <|
      .cons (matches_run_iff.2 hd.gap₂) <| .cons (matches_field_iff.2 hd.target) <|
      .cons (matches_run_iff.2 hd.gap₃) <| .cons (matches_word_iff.2 rfl) <|
      .cons (matches_field_iff.2 hd.inbound) <| .cons (matches_many_iff.2 hd.pad₁) <|
      .cons (matches_arrow_iff.2 hd.arrow) <| .cons (matches_many_iff.2 hd.pad₂) <|
      .cons (matches_outbound_iff.2 hd.outbound) <| .cons (matches_word_iff.2 rfl) .nil

theorem Description.WellFormed.length_arrow {d : Description} (h : d.WellFormed) :
    d.arrow.length = 2 := by
  rcases h.arrow with harrow | harrow | harrow <;> rw [harrow] <;> rfl

/-- What does not vary in length does not matter for the order of the lengths. -/
theorem lengths_pieces_le_iff {d d' : Description} (h : d.WellFormed) (h' : d'.WellFormed) :
    lexLe (d'.pieces.map List.length) (d.pieces.map List.length) ↔ lexLe d'.lengths d.lengths := by
  simp only [Description.pieces, Description.lengths, List.map_cons, List.map_nil,
    lexLe_cons_iff, h.length_arrow, h'.length_arrow, Nat.lt_irrefl, false_or, true_and, lexLe,
    and_true]

theorem stands_iff {line before : List Char} {ws : List (List Char)} {after : List Char} :
    Splits groups line before ws after ↔
      ∃ d : Description, Stands line before d after ∧ ws = d.pieces := by
  constructor
  · intro h
    obtain ⟨d, hd, rfl⟩ := matches_groups_iff.1 h.pieces
    refine ⟨d, ⟨?_, hd⟩, rfl⟩
    rw [h.text, Description.text, List.append_assoc]
  · intro h
    obtain ⟨d, hd, rfl⟩ := h
    refine ⟨?_, matches_groups_iff.2 ⟨d, hd.wellFormed, rfl⟩⟩
    rw [hd.text, Description.text, List.append_assoc]

theorem Stands.splits {line before after : List Char} {d : Description}
    (h : Stands line before d after) : Splits groups line before d.pieces after :=
  stands_iff.2 ⟨d, h, rfl⟩

/-- The description that counts is the preferred division. -/
theorem prefers_iff {line before : List Char} {ws : List (List Char)} {after : List Char} :
    Prefers groups line before ws after ↔
      ∃ d : Description, Counts line before d after ∧ ws = d.pieces := by
  constructor
  · intro h
    obtain ⟨d, hd, rfl⟩ := stands_iff.1 h.toSplits
    refine ⟨d, ⟨hd, ?_, ?_⟩, rfl⟩
    · intro before' d' after' hd'
      exact h.first _ _ _ hd'.splits
    · intro d' after' hd'
      exact (lengths_pieces_le_iff hd.wellFormed hd'.wellFormed).1 (h.longest _ _ hd'.splits)
  · intro h
    obtain ⟨d, hd, rfl⟩ := h
    refine ⟨hd.toStands.splits, ?_, ?_⟩
    · intro before' ws' after' hsplits
      obtain ⟨d', hd', -⟩ := stands_iff.1 hsplits
      exact hd.first _ _ _ hd'
    · intro ws' after' hsplits
      obtain ⟨d', hd', rfl⟩ := stands_iff.1 hsplits
      exact (lengths_pieces_le_iff hd.wellFormed hd'.wellFormed).2 (hd.longest _ _ hd')

/-! ## Users -/

/-- A text begins with white space, the word `email:` and perhaps more white space, and the user is
all that follows until there is white space again. -/
def NamesUser (after user : List Char) : Prop :=
  ∃ gap pad named rest, after = gap ++ ("email:".toList ++ (pad ++ named)) ∧ gap ≠ [] ∧ IsPad gap ∧
    IsPad pad ∧ LeadsWith (fun c => !isBlank c) named user rest ∧ user ≠ []

theorem after?_eq_some_iff {w : String} {cs rest : List Char} :
    after? w cs = some rest ↔ cs = w.toList ++ rest := by
  unfold after?
  constructor
  · intro h
    split_ifs at h with hprefix
    cases h
    exact (List.prefix_iff_eq_append.1 (List.isPrefixOf_iff_prefix.1 hprefix)).symm
  · intro h
    rw [h, if_pos (List.isPrefixOf_iff_prefix.2 (List.prefix_append _ _)), List.drop_left]

/-- A user is looked for behind white space only. -/
theorem user?_eq (after : List Char) : user? after =
    if after.takeWhile isBlank = [] then none
    else (after? "email:" (after.dropWhile isBlank)).bind fun named =>
      let name := (named.dropWhile isBlank).takeWhile fun c => !isBlank c
      if name.isEmpty then none else some (String.ofList name) := by
  cases after with
  | nil => rfl
  | cons c after =>
      unfold user?
      dsimp only
      by_cases hc : isBlank c = true
      · rw [if_pos hc, List.takeWhile_cons_of_pos hc, if_neg (List.cons_ne_nil _ _)]
        cases after? "email:" ((c :: after).dropWhile isBlank) <;> rfl
      · rw [if_neg hc, List.takeWhile_cons_of_neg hc, if_pos rfl]

theorem user?_eq_some_iff {after : List Char} {user : String} :
    user? after = some user ↔ NamesUser after user.toList := by
  rw [user?_eq]
  constructor
  · intro h
    split_ifs at h with hgap
    rw [Option.bind_eq_some_iff] at h
    obtain ⟨named, hnamed, hname⟩ := h
    dsimp only at hname
    split_ifs at hname with hempty
    cases hname
    have hafter := leadsWith_takeWhile isBlank after
    have hpad := leadsWith_takeWhile isBlank named
    refine ⟨after.takeWhile isBlank, named.takeWhile isBlank, named.dropWhile isBlank,
      (named.dropWhile isBlank).dropWhile fun c => !isBlank c, ?_, hgap, hafter.run, hpad.run, ?_, ?_⟩
    · rw [← hpad.text, ← after?_eq_some_iff.1 hnamed, ← hafter.text]
    · rw [String.toList_ofList]
      exact leadsWith_takeWhile _ _
    · rw [String.toList_ofList]
      exact mt List.isEmpty_iff.2 hempty
  · intro h
    obtain ⟨gap, pad, named, rest, htext, hgap, hgapPad, hpad, hname, hne⟩ := h
    have hafter : LeadsWith isBlank after gap ("email:".toList ++ (pad ++ named)) :=
      ⟨htext, hgapPad, fun c hc => by cases hc; rfl⟩
    have hnamed : LeadsWith isBlank (pad ++ named) pad named :=
      ⟨rfl, hpad, fun c hc => Bool.not_inj (hname.head hne c hc)⟩
    rw [hafter.eq.1, hafter.eq.2, if_neg hgap, after?_eq_some_iff.2 rfl, Option.bind_some,
      hnamed.eq.2, hname.eq.1]
    dsimp only
    rw [if_neg (mt List.isEmpty_iff.1 hne), String.ofList_toList]

/-! ## What is read -/

structure Says (d : Description) (after : List Char) (c : Connection) : Prop where
  client : c.client.toList = d.client
  server : c.server.toList = d.target
  proto : c.proto = Protocol.ofTarget d.target
  inbound : c.inbound.toList = d.inbound
  outbound : c.outbound.toList = d.outbound
  user : NamesUser after c.user.toList ∨
    (∀ user, ¬ NamesUser after user) ∧ c.user = unknownUser

def Description.connection (d : Description) (after : List Char) : Connection where
  client := String.ofList d.client
  server := String.ofList d.target
  proto := Protocol.ofTarget d.target
  inbound := String.ofList d.inbound
  outbound := String.ofList d.outbound
  user := (user? after).getD unknownUser

theorem getD_user?_eq_iff {after : List Char} {user : String} :
    (user? after).getD unknownUser = user ↔
      NamesUser after user.toList ∨ (∀ user, ¬ NamesUser after user) ∧ user = unknownUser := by
  have hnames : ∀ name, NamesUser after name → user? after = some (String.ofList name) := by
    intro name h
    rwa [user?_eq_some_iff, String.toList_ofList]
  cases huser : user? after with
  | none =>
      have hnone : ∀ name, ¬ NamesUser after name := by
        intro name h
        cases huser.symm.trans (hnames name h)
      rw [Option.getD_none, or_iff_right (hnone user.toList), and_iff_right hnone]
      exact eq_comm
  | some name =>
      have hname := user?_eq_some_iff.1 huser
      rw [Option.getD_some, or_iff_left fun h => h.1 name.toList hname]
      constructor
      · intro h
        rwa [← h]
      · intro h
        have hsame := (hnames _ h).symm.trans huser
        rw [String.ofList_toList] at hsame
        exact (Option.some.inj hsame).symm

theorem connection_eq_iff {d : Description} {after : List Char} {c : Connection} :
    d.connection after = c ↔ Says d after c := by
  constructor
  · intro h
    rw [← h]
    exact {
      client := String.toList_ofList
      server := String.toList_ofList
      proto := rfl
      inbound := String.toList_ofList
      outbound := String.toList_ofList
      user := getD_user?_eq_iff.1 rfl }
  · intro h
    unfold Description.connection
    rw [← h.proto, ← h.client, ← h.server, ← h.inbound, ← h.outbound, getD_user?_eq_iff.2 h.user]
    simp only [String.ofList_toList]

theorem parse?_eq_some_iff {line : String} {c : Connection} : parse? line = some c ↔
    ∃ before d after, Counts line.toList before d after ∧ d.connection after = c := by
  constructor
  · intro h
    cases hfind : find? groups line.toList with
    | none =>
        rw [parse?, hfind] at h
        cases h
    | some found =>
        obtain ⟨before, hprefers⟩ := (find?_eq_some_iff isPlain_of_mem_groups).1 hfind
        obtain ⟨d, hcounts, hpieces⟩ := prefers_iff.1 hprefers
        have hfound : found = (d.pieces, found.2) := Prod.ext hpieces rfl
        rw [parse?, hfind, hfound] at h
        exact ⟨before, d, found.2, hcounts, Option.some.inj h⟩
  · intro h
    obtain ⟨before, d, after, hcounts, rfl⟩ := h
    have hprefers := prefers_iff.2 ⟨d, hcounts, rfl⟩
    rw [parse?, (find?_eq_some_iff isPlain_of_mem_groups).2 ⟨before, hprefers⟩]
    rfl

theorem exists_parse?_iff {line : String} : (∃ c, parse? line = some c) ↔
    ∃ before d after, Stands line.toList before d after := by
  constructor
  · intro h
    obtain ⟨c, hc⟩ := h
    obtain ⟨before, d, after, hcounts, -⟩ := parse?_eq_some_iff.1 hc
    exact ⟨before, d, after, hcounts.toStands⟩
  · intro h
    obtain ⟨before, d, after, hstands⟩ := h
    cases hfind : find? groups line.toList with
    | none => exact absurd hstands.splits (find?_eq_none_iff.1 hfind _ _ _)
    | some found =>
        obtain ⟨before, hprefers⟩ := (find?_eq_some_iff isPlain_of_mem_groups).1 hfind
        obtain ⟨d, hcounts, -⟩ := prefers_iff.1 hprefers
        exact ⟨_, parse?_eq_some_iff.2 ⟨before, d, found.2, hcounts, rfl⟩⟩

theorem marker_mem_pieces (d : Description) : marker ∈ d.pieces :=
  .tail _ (.tail _ (.tail _ (.head _)))

/-- Only a marked line describes a connection. -/
theorem marker_infix_of_parse? {line : String} {c : Connection} (h : parse? line = some c) :
    marker <:+: line.toList := by
  obtain ⟨before, d, after, hcounts, -⟩ := parse?_eq_some_iff.1 h
  rw [hcounts.text]
  exact (List.infix_of_mem_flatten (marker_mem_pieces d)).trans
    (List.infix_append before d.text after)

/-- A line is read if any description stands in it, and then the connection is what the description
that counts says, which is the first one and of those that start at its place the one whose parts
have the greatest lengths. -/
theorem reads_preferred_description (line : String) :
    ((∃ c, parse? line = some c) ↔ ∃ before d after, Stands line.toList before d after) ∧
    ∀ c, parse? line = some c ↔
      ∃ before d after, Counts line.toList before d after ∧ Says d after c := by
  refine ⟨exists_parse?_iff, ?_⟩
  intro c
  simp only [parse?_eq_some_iff, connection_eq_iff]

/-- The inbound is the earlier part, so all arrows but the last belong to it. -/
example : (parse? "from c accepted t [a>>b>>c]").map (fun c => (c.inbound, c.outbound)) =
    some ("a>>b", "c") := by decide +kernel

end ProxyWarden.AccessLine
