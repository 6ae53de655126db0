import ProxyWarden.Proofs.Disk.Moves

/-!
# One file more

A file that is made where nothing was gets a number of its own (`Disk.withFile`). What was there stays
as it was (`sameAt_withFile_of_found`), and so does the path whose last name the new one extends
(`sameAt_withFile_of_append`), whatever that path leads to. Without the new name every path leads where
it led before (`sameAt_unlink_withFile`).
-/
namespace ProxyWarden.Disk

variable {d d' : Disk} {p q : Path} {l loc : Location} {front rest : List Bytes} {last : Bytes}
  {x : Node} {b : Bool} {text : Bytes}

/-- Every file that has a name is there. -/
def Complete (d : Disk) : Prop :=
  ∀ l number executable, d.node? l = some (.file number executable) → number < d.contents.length

def Missing (d : Disk) (p : Path) : Prop := ∃ e, d.find p = .error e

/-- The path leads to the same place on both disks, and what is read there is the same. -/
structure SameAt (p : Path) (d d' : Disk) : Prop where
  resolve_eq : d'.resolve p = d.resolve p
  read_eq : d'.read p = d.read p

def withFile (d : Disk) (l : Location) (text : Bytes) : Disk :=
  { d.link l (.file d.contents.length false) with contents := d.contents ++ [text] }

theorem Sound.complete (h : d.Sound) : d.Complete := fun _ _ _ hfile => h.exists_content hfile

/-! ## Paths that lead to the same place -/

theorem SameAt.refl (p : Path) (d : Disk) : SameAt p d d := ⟨rfl, rfl⟩

theorem SameAt.missing_iff (h : SameAt p d d') : d'.Missing p ↔ d.Missing p := by
  unfold Missing find
  rw [h.resolve_eq]

/-- Where a path leads to the same place and no file was changed, it reads the same. -/
theorem sameAt_of_locate (hd : d.Complete) (hlocate : d'.locate p = d.locate p)
    (hcontents : d.contents <+: d'.contents) : SameAt p d d' := by
  have hresolve : d'.resolve p = d.resolve p := by
    unfold resolve
    rw [hlocate]
  refine ⟨hresolve, ?_⟩
  unfold read find
  rw [hresolve]
  cases hplace : d.resolve p with
  | error e => rfl
  | ok place =>
      obtain ⟨loc, found, asDirectory⟩ := place
      rcases found with _ | _ | ⟨number, executable⟩ | _
      · rfl
      · rfl
      · have hfound := locate_of_resolve hplace
        cases asDirectory with
        | true =>
            unfold resolve at hplace
            rw [hfound] at hplace
            cases hplace
        | false =>
            have hlt : number < d.contents.length :=
              hd loc number executable (leads_of_locate hfound (by simp)).2.symm
            obtain ⟨more, hmore⟩ := hcontents
            change Except.ok (d'.content number) = Except.ok (d.content number)
            rw [content, content, ← hmore, List.getElem?_append_left hlt]
      · rfl

theorem walk_congr (hnode : ∀ l, d'.node? l = d.node? l) (l : Location) (n : Option Node)
    (names : List Bytes) : d'.walk l n names = d.walk l n names := by
  induction names generalizing l n with
  | nil => rfl
  | cons name names ih => simp only [walk, hnode, ih]

/-- Where a path leads is settled by the walk along all its names, or along all but an empty last
one. -/
theorem locate_eq_of_walk (hcurrent : d'.current = d.current)
    (hwalk : ∀ kept, kept = p.names ∨ kept = p.names.dropLast →
      d'.walk (if p.isAbsolute then [] else d.current) (some .directory) kept =
        d.walk (if p.isAbsolute then [] else d.current) (some .directory) kept) :
    d'.locate p = d.locate p := by
  unfold locate
  rw [hcurrent]
  dsimp only
  rw [hwalk]
  split
  · exact .inr rfl
  · exact .inl rfl

/-! ## The new file -/

theorem withFile_contents (d : Disk) (l : Location) (text : Bytes) :
    d.contents <+: (d.withFile l text).contents := List.prefix_append _ _

theorem locate_withFile (h : d.locate p = .ok ⟨loc, none, b⟩) (text : Bytes) :
    (d.withFile loc text).locate p = .ok ⟨loc, some (.file d.contents.length false), b⟩ := by
  refine (locate_contents (d.create loc false).1 (d.contents ++ [text]) p).trans ?_
  exact locate_create h

theorem write_withFile (d : Disk) (l : Location) (text : Bytes) :
    (d.withFile l []).write ⟨.file d.contents.length, .offset 0⟩ text =
      .ok (d.withFile l text, ⟨.file d.contents.length, .offset text.length⟩) := by
  simp [write, written, overlay, content, setContent, withFile, link]

/-- What is opened where nothing was is a new file. -/
theorem Missing.opened {made : Disk} {handle : Handle} (h : d.Missing p)
    (hopen : d.openTruncate p = .ok (made, handle)) :
    ∃ loc, d.locate p = .ok ⟨loc, none, false⟩ ∧
      ∀ text, ∃ after, made.write handle text = .ok (d.withFile loc text, after) := by
  obtain ⟨cause, hcause⟩ := h
  unfold find resolve at hcause
  unfold openTruncate openTarget at hopen
  cases hplace : d.locate p with
  | error e =>
      rw [hplace] at hopen
      cases hopen
  | ok place =>
      obtain ⟨loc, found, asDirectory⟩ := place
      rw [hplace] at hcause hopen
      cases asDirectory with
      | true => cases hopen
      | false =>
          cases found with
          | some x => cases x <;> cases hcause
          | none =>
              have hmade : (made, handle) = (d.withFile loc [], ⟨.file d.contents.length, .offset 0⟩) := by
                rw [← Except.ok.inj hopen]
                simp [create, setContent, withFile, link]
              cases hmade
              exact ⟨loc, rfl, fun text => ⟨_, write_withFile d loc text⟩⟩

theorem read_withFile (h : d.locate p = .ok ⟨loc, none, false⟩) (text : Bytes) :
    (d.withFile loc text).read p = .ok text := by
  obtain ⟨hleads, hfile⟩ := leads_of_locate (locate_withFile h text) (by simp)
  rw [hleads.read_eq hfile.symm]
  simp [content, withFile]

/-! ## What was there before -/

theorem sameAt_withFile_of_found (hd : d.Complete) (h : d.locate p = .ok ⟨loc, none, false⟩)
    (hq : ¬ d.Missing q) (text : Bytes) : SameAt q d (d.withFile loc text) := by
  refine sameAt_of_locate hd ?_ (withFile_contents d loc text)
  have hopen : d.openTarget p = .ok ((d.create loc false).1, .file d.contents.length) := by
    unfold openTarget
    rw [h]
    rfl
  cases hplace : d.locate q with
  | error e =>
      refine absurd ⟨e, ?_⟩ hq
      unfold find resolve
      rw [hplace]
  | ok place =>
      obtain ⟨l, found, asDirectory⟩ := place
      cases found with
      | none =>
          refine absurd ⟨.notFound, ?_⟩ hq
          unfold find resolve
          rw [hplace]
          rfl
      | some x =>
          rw [← locate_openTarget hopen hplace]
          exact locate_contents (d.create loc false).1 (d.contents ++ [text]) q

/-- Names that lead to a missing place go through directories all the way, so with another last name,
or without it, they lead to the same as before when something is put there. -/
theorem walk_link_of_front (hnone : d.node? loc = none)
    (h : d.walk l (some .directory) (front ++ [last]) = .ok ⟨loc, none, b⟩)
    (hrest : rest = [] ∨ ∃ other, rest = [other] ∧ other ≠ last) :
    (d.link loc x).walk l (some .directory) (front ++ rest) =
      d.walk l (some .directory) (front ++ rest) := by
  induction front generalizing l with
  | nil =>
      rcases hrest with rfl | ⟨other, rfl, hne⟩
      · rfl
      · have hnext : l ++ [other] ≠ loc := by
          rintro rfl
          have hlast := (walk_spec h (by simp)).2
          rw [List.getLast?_concat, List.getLast?_concat] at hlast
          exact hne (Option.some.inj hlast)
        simp only [List.nil_append, walk, node?_link_of_ne d hnext]
  | cons name front ih =>
      rw [List.cons_append, walk, if_neg (c := (front ++ [last]).isEmpty = true) (by simp),
        if_neg (c := (front ++ [last]).isEmpty = true) (by simp)] at h
      rw [List.cons_append, walk, walk]
      by_cases hdot : name = [] ∨ name = Path.dot
      · rw [if_pos hdot] at h ⊢
        rw [if_pos hdot, ih h]
      by_cases hup : name = Path.dotDot
      · rw [if_neg hdot, if_pos hup] at h ⊢
        rw [if_neg hdot, if_pos hup]
        dsimp only
        rw [ih h]
      by_cases hlong : maxName < name.length
      · rw [if_neg hdot, if_neg hup, if_pos hlong] at h
        cases h
      rw [if_neg hdot, if_neg hup, if_neg hlong] at h ⊢
      rw [if_neg hdot, if_neg hup, if_neg hlong]
      dsimp only at h ⊢
      -- A directory stands here, so this is not yet the missing place.
      have hdir := (eq_nil_or_directory_of_walk h).resolve_left (by simp)
      have hne : l ++ [name] ≠ loc := by
        intro heq
        rw [heq, hnone] at hdir
        cases hdir
      rw [hdir] at h
      rw [node?_link_of_ne d hne, hdir]
      exact ih h

theorem locate_withFile_of_append {bs : Bytes} (h : d.locate (q ++ bs : Path) = .ok ⟨loc, none, false⟩)
    (hbs : Path.slash ∉ bs) (hne : bs ≠ []) (text : Bytes) :
    (d.withFile loc text).locate q = d.locate q := by
  refine (locate_contents (d.link loc _) (d.contents ++ [text]) q).trans ?_
  by_cases hq : q = []
  · rw [hq]
    rfl
  obtain ⟨front, last, hnames, hlong⟩ := Path.names_append hbs q
  have hstart : (q ++ bs : Path).isAbsolute = q.isAbsolute := by
    unfold Path.isAbsolute
    rw [List.head?_append, Option.or_of_isSome (by simpa using hq)]
  have hwalk := walk_of_locate h
  rw [hlong, hstart] at hwalk
  have hlast : last ≠ last ++ bs := by simpa using hne
  refine locate_eq_of_walk (by rfl) ?_
  rw [hnames, List.dropLast_concat]
  rintro kept (rfl | rfl)
  · exact walk_link_of_front (node?_of_locate h) hwalk (.inr ⟨last, rfl, hlast⟩)
  · have hfront := walk_link_of_front (x := .file d.contents.length false) (node?_of_locate h) hwalk
      (.inl rfl)
    rwa [List.append_nil] at hfront

theorem sameAt_withFile_of_append {bs : Bytes} (hd : d.Complete)
    (h : d.locate (q ++ bs : Path) = .ok ⟨loc, none, false⟩) (hbs : Path.slash ∉ bs) (hne : bs ≠ [])
    (text : Bytes) : SameAt q d (d.withFile loc text) :=
  sameAt_of_locate hd (locate_withFile_of_append h hbs hne text) (withFile_contents d loc text)

/-! ## Without the new file -/

theorem removeFile_withFile (h : d.locate p = .ok ⟨loc, none, false⟩) (text : Bytes) :
    (d.withFile loc text).removeFile p = .ok ((d.withFile loc text).unlink loc) := by
  unfold removeFile resolve
  rw [locate_withFile h text]

theorem Missing.removeFile (h : d.Missing p) : ∃ e, d.removeFile p = .error e := by
  obtain ⟨cause, hcause⟩ := h
  unfold find at hcause
  unfold Disk.removeFile
  cases hplace : d.resolve p with
  | error e => exact ⟨e, rfl⟩
  | ok place =>
      rw [hplace] at hcause
      obtain ⟨loc, found, asDirectory⟩ := place
      cases found with
      | none => exact ⟨.notFound, rfl⟩
      | some x => cases hcause

theorem sameAt_unlink_withFile (hd : d.Complete) (h : d.locate p = .ok ⟨loc, none, false⟩)
    (text : Bytes) (q : Path) : SameAt q d ((d.withFile loc text).unlink loc) := by
  have hroot : loc ≠ [] := (leads_of_locate h (by simp)).1.ne_nil
  have hnode : ∀ l, ((d.withFile loc text).unlink loc).node? l = d.node? l := by
    intro l
    by_cases hl : l = loc
    · rw [hl, node?_unlink_self _ hroot, node?_of_locate h]
    · rw [node?_unlink_of_ne _ hl]
      exact node?_link_of_ne d hl _
  refine sameAt_of_locate hd ?_ (withFile_contents d loc text)
  exact locate_eq_of_walk (by rfl) fun kept _ => walk_congr hnode _ _ kept

end ProxyWarden.Disk
