import ProxyWarden.Proofs.Disk.Places

/-!
# Files that move

A path that leads to a file or to a missing place goes through directories, so it leads to the same
location as long as these stay (`Leads.of_directories`), whatever happens to the files. On a disk on
which every file has one name (`Sound`), writing, removing and renaming a file change nothing
elsewhere (`OnlyAt`), and a file that gets the name of another is found there (`holdsAt_rename`).
-/
namespace ProxyWarden

/-! ## Last names -/

/-- More bytes without a slash make the last name of a path longer. -/
theorem Path.names_append {bs : Bytes} (h : Path.slash ∉ bs) (p : Path) : ∃ front last,
    p.names = front ++ [last] ∧ (p ++ bs : Path).names = front ++ [last ++ bs] := by
  have hbs : bs.foldr consName [[]] = [bs] := by
    induction bs with
    | nil => rfl
    | cons b bs ih =>
        rw [List.mem_cons, not_or] at h
        rw [List.foldr_cons, ih h.2, consName, if_neg (Ne.symm h.1)]
  unfold names
  rw [List.foldr_append, hbs]
  induction p with
  | nil => exact ⟨[], [], rfl, rfl⟩
  | cons b p ih =>
      obtain ⟨front, last, hp, hlong⟩ := ih
      rw [List.foldr_cons, List.foldr_cons, hp, hlong]
      by_cases hb : b = slash
      · refine ⟨[] :: front, last, ?_, ?_⟩
        · cases front with
          | nil => simp [consName, hb]
          | cons n front => simp [consName, hb]
        · cases front with
          | nil => simp [consName, hb]
          | cons n front => simp [consName, hb]
      · cases front with
        | nil => exact ⟨[], b :: last, by simp [consName, hb], by simp [consName, hb]⟩
        | cons n front => exact ⟨(b :: n) :: front, last, by simp [consName, hb], by simp [consName, hb]⟩

namespace Disk

variable {d d' : Disk} {p q : Path} {l loc tmp : Location} {names : List Bytes} {n : Option Node}
  {number : Nat} {executable b : Bool} {text data : Bytes}

/-! ## Nodes -/

@[simp] theorem node?_setContent (d : Disk) (number : Nat) (bs : Bytes) (l : Location) :
    (d.setContent number bs).node? l = d.node? l := rfl

theorem node?_unlink_self (d : Disk) (hl : l ≠ []) : (d.unlink l).node? l = none := by
  have hnone : (d.nodes.filter fun e => e.1 != l).find? (fun e => e.1 == l) = none := by
    rw [List.find?_eq_none]
    intro e he
    simpa using (List.mem_filter.1 he).2
  simp [node?, unlink, hl, hnone]

theorem node?_unlink_of_ne (d : Disk) {m : Location} (hm : m ≠ l) :
    (d.unlink l).node? m = d.node? m := by
  -- Linking leaves the same nodes at other locations, behind one at `l`.
  have hlink := node?_link_of_ne d hm .directory
  rw [← hlink]
  simp [node?, link, unlink, Ne.symm hm]

theorem node?_nil (d : Disk) : d.node? [] = some .directory := rfl

/-- Only the root is there without an entry in the tree. -/
theorem exists_of_node? {x : Node} (h : d.node? l = some x) (hx : x ≠ .directory) :
    ∃ e ∈ d.nodes, e.2 = x := by
  unfold node? at h
  split_ifs at h
  · exact absurd (Option.some.inj h).symm hx
  · rw [Option.map_eq_some_iff] at h
    obtain ⟨e, hfind, he⟩ := h
    exact ⟨e, List.mem_of_find?_eq_some hfind, he⟩

/-! ## Paths that lead to a file or a missing place -/

/-- The path leads to this location, and no directory is there. -/
structure Leads (d : Disk) (p : Path) (loc : Location) : Prop where
  place : d.locate p = .ok ⟨loc, d.node? loc, false⟩
  notDirectory : d.node? loc ≠ some .directory

theorem walk_spec (h : d.walk l (some .directory) names = .ok ⟨loc, n, b⟩)
    (hn : n ≠ some .directory) : n = d.node? loc ∧ loc.getLast? = names.getLast? := by
  induction names generalizing l with
  | nil =>
      cases h
      exact absurd rfl hn
  | cons name names ih =>
      have hmore : ∀ m, ¬ names.isEmpty = true → d.walk m (some .directory) names = .ok ⟨loc, n, b⟩ →
          n = d.node? loc ∧ loc.getLast? = (name :: names).getLast? := by
        intro m hne hwalk
        rw [List.getLast?_cons_of_ne_nil (by simpa using hne)]
        exact ih hwalk
      rw [walk] at h
      split_ifs at h with hdot hlast hup hlast hlong
      · cases h
        exact absurd rfl hn
      · exact hmore _ hlast h
      · cases h
        exact absurd rfl hn
      · exact hmore _ hlast h
      · dsimp only at h
        cases names with
        | nil =>
            cases h
            exact ⟨rfl, List.getLast?_concat⟩
        | cons next names =>
            have hdir := (eq_nil_or_directory_of_walk h).resolve_left (List.cons_ne_nil _ _)
            rw [hdir] at h
            exact hmore _ (by simp) h

/-- A walk goes the same way as long as directories stay directories. -/
theorem walk_of_directories
    (hdirs : ∀ m, d.node? m = some .directory → d'.node? m = some .directory)
    (h : d.walk l (some .directory) names = .ok ⟨loc, n, b⟩) (hn : n ≠ some .directory) :
    d'.walk l (some .directory) names = .ok ⟨loc, d'.node? loc, b⟩ := by
  induction names generalizing l with
  | nil =>
      cases h
      exact absurd rfl hn
  | cons name names ih =>
      rw [walk] at h ⊢
      split_ifs at h ⊢ with hdot hlast hup hlast hlong
      · cases h
        exact absurd rfl hn
      · exact ih h
      · cases h
        exact absurd rfl hn
      · exact ih h
      · dsimp only at h ⊢
        rcases eq_nil_or_directory_of_walk h with rfl | hdir
        · cases h
          rfl
        · rw [hdir] at h
          rw [hdirs _ hdir]
          exact ih h

theorem walk_of_locate (h : d.locate p = .ok ⟨loc, n, false⟩) :
    d.walk (if p.isAbsolute then [] else d.current) (some .directory) p.names =
      .ok ⟨loc, n, false⟩ := by
  unfold locate at h
  split at h
  · cases h
  split at h
  · cases h
  split at h
  · cases h
  dsimp only at h
  split at h
  · cases h
  · next place hplace =>
      obtain ⟨l, m, asDirectory⟩ := place
      injection h with hplaces
      injection hplaces with hl hm hdirectory
      rw [Bool.or_eq_false_iff] at hdirectory
      obtain ⟨hwalked, htrailing⟩ : asDirectory = false ∧ _ := hdirectory
      rw [htrailing, hwalked, show l = loc from hl, show m = n from hm] at hplace
      exact hplace

theorem leads_of_locate (h : d.locate p = .ok ⟨loc, n, false⟩) (hn : n ≠ some .directory) :
    d.Leads p loc ∧ n = d.node? loc := by
  have hnode := (walk_spec (walk_of_locate h) hn).1
  exact ⟨⟨hnode ▸ h, hnode ▸ hn⟩, hnode⟩

namespace Leads

theorem getLast?_eq (h : d.Leads p loc) : loc.getLast? = p.names.getLast? :=
  (walk_spec (walk_of_locate h.place) h.notDirectory).2

theorem ne_nil (h : d.Leads p loc) : loc ≠ [] := by
  rintro rfl
  exact h.notDirectory (node?_nil d)

/-- A path leads to the same location as long as directories stay directories. -/
theorem of_directories (h : d.Leads p loc) (hcurrent : d'.current = d.current)
    (hdirs : ∀ m, d.node? m = some .directory → d'.node? m = some .directory)
    (hloc : d'.node? loc ≠ some .directory) : d'.Leads p loc where
  place := by
    refine locate_of_walk hcurrent ?_ h.place
    intro l names b hwalk
    exact walk_of_directories hdirs hwalk h.notDirectory
  notDirectory := hloc

theorem resolve_eq (h : d.Leads p loc) : d.resolve p = .ok ⟨loc, d.node? loc, false⟩ := by
  unfold resolve
  rw [h.place]
  split
  · next hbad => cases hbad
  · next place hplace =>
      cases hplace
      split
      · next hfalse => cases hfalse
      · next hfalse => cases hfalse
      · rfl

theorem read_eq (h : d.Leads p loc) (hfile : d.node? loc = some (.file number executable)) :
    d.read p = .ok (d.content number) := by
  unfold read find
  rw [h.resolve_eq, hfile]
  rfl

/-- Paths with different last names lead to different locations. -/
theorem ne_of_append (hp : d.Leads p loc) {bs : Bytes} (hq : d.Leads (p ++ bs : Path) tmp)
    (hbs : Path.slash ∉ bs) (hne : bs ≠ []) : tmp ≠ loc := by
  obtain ⟨front, last, hnames, hlong⟩ := Path.names_append hbs p
  have hlast := hp.getLast?_eq
  have hlonger := hq.getLast?_eq
  rw [hnames, List.getLast?_concat] at hlast
  rw [hlong, List.getLast?_concat] at hlonger
  rintro rfl
  rw [hlast, Option.some_inj] at hlonger
  exact hne (List.append_right_eq_self.1 hlonger.symm)

end Leads

/-! ## One name for every file -/

/-- Every file is there, and has one name. -/
structure Sound (d : Disk) : Prop where
  exists_content : ∀ {l : Location} {number : Nat} {executable : Bool},
    d.node? l = some (.file number executable) → number < d.contents.length
  unique : ∀ {l l' : Location} {number : Nat} {executable executable' : Bool},
    d.node? l = some (.file number executable) → d.node? l' = some (.file number executable') → l = l'

theorem Sound.of_nodes (h : d.Sound) (hnode : ∀ l number executable,
    d'.node? l = some (.file number executable) → d.node? l = some (.file number executable))
    (hlength : d.contents.length ≤ d'.contents.length) : d'.Sound where
  exists_content := fun hfile => Nat.lt_of_lt_of_le (h.exists_content (hnode _ _ _ hfile)) hlength
  unique := fun hfile hfile' => h.unique (hnode _ _ _ hfile) (hnode _ _ _ hfile')

theorem sound_fresh : fresh.Sound := by
  have hnone : ∀ l number executable, fresh.node? l ≠ some (.file number executable) := by
    intro l number executable h
    obtain ⟨e, he, hfile⟩ := exists_of_node? h (by simp)
    have hnodes : ∀ e ∈ fresh.nodes, e.2 = .directory ∨ e.2 = .fullDevice := by decide
    rcases hnodes e he with hdir | hdevice
    · cases hdir.symm.trans hfile
    · cases hdevice.symm.trans hfile
  exact ⟨fun h => absurd h (hnone _ _ _), fun h => absurd h (hnone _ _ _)⟩

theorem content_setContent (d : Disk) (h : number < d.contents.length) (bs : Bytes) :
    (d.setContent number bs).content number = bs := by
  simp [content, setContent, h]

theorem content_setContent_of_ne (d : Disk) {other : Nat} (h : number ≠ other) (bs : Bytes) :
    (d.setContent number bs).content other = d.content other := by
  simp [content, setContent, h]

/-- The disks differ only in the file at one location, or in that it is there. -/
structure OnlyAt (tmp : Location) (d d' : Disk) : Prop where
  sound : d'.Sound
  current : d'.current = d.current
  node : ∀ {l}, l ≠ tmp → d'.node? l = d.node? l
  content : ∀ {l number executable}, l ≠ tmp → d.node? l = some (.file number executable) →
    d'.content number = d.content number

namespace OnlyAt

theorem refl (h : d.Sound) : OnlyAt tmp d d := ⟨h, rfl, fun _ => rfl, fun _ _ => rfl⟩

theorem trans {e : Disk} (h : OnlyAt tmp d e) (h' : OnlyAt tmp e d') : OnlyAt tmp d d' where
  sound := h'.sound
  current := h'.current.trans h.current
  node := fun hl => (h'.node hl).trans (h.node hl)
  content := fun hl hfile => (h'.content hl ((h.node hl).trans hfile)).trans (h.content hl hfile)

theorem directory (h : OnlyAt tmp d d') (htmp : d.node? tmp ≠ some .directory) (m : Location)
    (hm : d.node? m = some .directory) : d'.node? m = some .directory := by
  rw [h.node (l := m) ?_, hm]
  rintro rfl
  exact htmp hm

theorem leads (h : OnlyAt tmp d d') (htmp : d.node? tmp ≠ some .directory) (hp : d.Leads p loc)
    (hloc : d'.node? loc ≠ some .directory) : d'.Leads p loc :=
  hp.of_directories h.current (h.directory htmp) hloc

end OnlyAt

/-- The path leads to the file with this number, which holds this text. -/
structure HoldsAt (d : Disk) (p : Path) (loc : Location) (number : Nat) (text : Bytes) : Prop
    extends Leads d p loc where
  file : ∃ executable, d.node? loc = some (.file number executable)
  content : d.content number = text

namespace HoldsAt

theorem read_eq (h : d.HoldsAt p loc number text) : d.read p = .ok text := by
  obtain ⟨executable, hfile⟩ := h.file
  rw [h.toLeads.read_eq hfile, h.content]

theorem onlyAt (h : d.HoldsAt p loc number text) (hd : OnlyAt tmp d d')
    (htmp : d.node? tmp ≠ some .directory) (hne : loc ≠ tmp) : d'.HoldsAt p loc number text := by
  obtain ⟨executable, hfile⟩ := h.file
  have hloc : d'.node? loc = d.node? loc := hd.node hne
  exact ⟨hd.leads htmp h.toLeads (hloc ▸ h.notDirectory), ⟨executable, hloc.trans hfile⟩,
    (hd.content hne hfile).trans h.content⟩

end HoldsAt

/-! ## Steps -/

theorem onlyAt_setContent (h : d.Sound) (htmp : d.node? tmp = some (.file number executable))
    (bs : Bytes) : OnlyAt tmp d (d.setContent number bs) where
  sound := h.of_nodes (fun _ _ _ hfile => hfile) (by simp [setContent])
  current := rfl
  node := fun _ => rfl
  content := by
    intro l other executable' hl hfile
    apply content_setContent_of_ne
    rintro rfl
    exact hl (h.unique hfile htmp)

theorem onlyAt_unlink (h : d.Sound) (htmp : tmp ≠ []) : OnlyAt tmp d (d.unlink tmp) where
  sound := by
    refine h.of_nodes ?_ (Nat.le_refl _)
    intro l number executable hfile
    by_cases hl : l = tmp
    · rw [hl, node?_unlink_self d htmp] at hfile
      cases hfile
    · rwa [node?_unlink_of_ne d hl] at hfile
  current := rfl
  node := fun hl => node?_unlink_of_ne d hl
  content := fun _ _ => rfl

theorem onlyAt_create (h : d.Sound) (htmp : tmp ≠ []) (executable : Bool) :
    OnlyAt tmp d (d.create tmp executable).1 := by
  have hself : (d.create tmp executable).1.node? tmp = some (.file d.contents.length executable) :=
    node?_link_self d htmp _
  have hother : ∀ {l}, l ≠ tmp → (d.create tmp executable).1.node? l = d.node? l :=
    fun hl => node?_link_of_ne d hl _
  have hlength : (d.create tmp executable).1.contents.length = d.contents.length + 1 := by
    simp [create]
  -- The number is new, so no other location has it.
  have hnew : ∀ {l number executable'},
      (d.create tmp executable).1.node? l = some (.file number executable') →
        l = tmp ∧ number = d.contents.length ∨ l ≠ tmp ∧ d.node? l = some (.file number executable') := by
    intro l number executable' hfile
    by_cases hl : l = tmp
    · rw [hl, hself] at hfile
      cases hfile
      exact .inl ⟨hl, rfl⟩
    · exact .inr ⟨hl, (hother hl).symm.trans hfile⟩
  refine ⟨⟨?_, ?_⟩, rfl, hother, ?_⟩
  · intro l number executable' hfile
    rw [hlength]
    rcases hnew hfile with ⟨-, rfl⟩ | ⟨-, hold⟩
    · exact Nat.lt_succ_self _
    · exact Nat.lt_succ_of_lt (h.exists_content hold)
  · intro l l' number executable₁ executable₂ hfile hfile'
    rcases hnew hfile with ⟨rfl, hnumber⟩ | ⟨-, hold⟩
    · rcases hnew hfile' with ⟨rfl, -⟩ | ⟨-, hold'⟩
      · rfl
      · exact absurd (h.exists_content hold') (by omega)
    · rcases hnew hfile' with ⟨rfl, hnumber⟩ | ⟨-, hold'⟩
      · exact absurd (h.exists_content hold) (by omega)
      · exact h.unique hold hold'
  · intro l number executable' hl hfile
    have hlt := h.exists_content hfile
    simp [content, create, List.getElem?_append_left hlt]

/-! ## Operations -/

/-- What was opened is the device, or a file that is there now. -/
theorem openTarget_spec {target : Target} (h : d.Sound)
    (hopen : d.openTarget p = .ok (d', target)) : target = .fullDevice ∧ d' = d ∨
      ∃ loc number executable, target = .file number ∧ d.Leads p loc ∧ OnlyAt loc d d' ∧
        d'.node? loc = some (.file number executable) := by
  unfold openTarget at hopen
  cases hplace : d.locate p with
  | error e =>
      rw [hplace] at hopen
      cases hopen
  | ok place =>
      obtain ⟨loc, found, asDirectory⟩ := place
      rw [hplace] at hopen
      cases asDirectory with
      | true => cases hopen
      | false =>
          rcases found with _ | _ | ⟨number, executable⟩ | _
          · cases hopen
            have hp := (leads_of_locate hplace (by simp)).1
            exact .inr ⟨loc, _, false, rfl, hp, onlyAt_create h hp.ne_nil false,
              node?_link_self d hp.ne_nil _⟩
          · cases hopen
          · cases hopen
            obtain ⟨hp, hnode⟩ := leads_of_locate hplace (by simp)
            exact .inr ⟨loc, number, executable, rfl, hp, .refl h, hnode.symm⟩
          · cases hopen
            exact .inl ⟨rfl, rfl⟩

/-- What was emptied is the device, or a file that is there and empty now. -/
theorem openTruncate_spec {handle : Handle} (h : d.Sound)
    (hopen : d.openTruncate p = .ok (d', handle)) : handle.target = .fullDevice ∧ d' = d ∨
      ∃ loc number, handle = ⟨.file number, .offset 0⟩ ∧ d.Leads p loc ∧ OnlyAt loc d d' ∧
        d'.HoldsAt p loc number [] := by
  unfold openTruncate at hopen
  cases hopened : d.openTarget p with
  | error e =>
      rw [hopened] at hopen
      cases hopen
  | ok opened =>
      obtain ⟨made, target⟩ := opened
      rw [hopened] at hopen
      rcases openTarget_spec h hopened with
        ⟨rfl, rfl⟩ | ⟨loc, number, executable, rfl, hp, honly, hfile⟩
      · cases hopen
        exact .inl ⟨rfl, rfl⟩
      · cases hopen
        have hempty := honly.trans (onlyAt_setContent honly.sound hfile [])
        refine .inr ⟨loc, number, rfl, hp, hempty, ?_, ⟨executable, hfile⟩, ?_⟩
        · exact hempty.leads hp.notDirectory hp (by rw [node?_setContent, hfile]; simp)
        · exact content_setContent made (honly.sound.exists_content hfile) []

theorem Sound.openTruncate {handle : Handle} (h : d.Sound)
    (hopen : d.openTruncate p = .ok (d', handle)) : d'.Sound := by
  rcases openTruncate_spec h hopen with ⟨-, rfl⟩ | ⟨_, _, -, -, honly, -⟩
  · exact h
  · exact honly.sound

theorem Sound.openAppend {handle : Handle} (h : d.Sound)
    (hopen : d.openAppend p = .ok (d', handle)) : d'.Sound := by
  unfold Disk.openAppend at hopen
  split at hopen
  · cases hopen
  · next made target hopened =>
      cases hopen
      rcases openTarget_spec h hopened with ⟨-, rfl⟩ | ⟨_, _, _, -, -, honly, -⟩
      · exact h
      · exact honly.sound

theorem Sound.write {handle after : Handle} (h : d.Sound)
    (hwrite : d.write handle data = .ok (d', after)) : d'.Sound := by
  unfold Disk.write at hwrite
  split at hwrite
  · split_ifs at hwrite
    cases hwrite
    exact h
  · cases hwrite
    exact h.of_nodes (fun _ _ _ hfile => hfile) (by simp [Disk.setContent])

theorem Sound.writeFile (h : d.Sound) (hwrite : d.writeFile p data = .ok d') : d'.Sound := by
  unfold Disk.writeFile at hwrite
  split at hwrite
  · cases hwrite
  · next made handle hopen =>
      cases hfull : made.write handle data with
      | error e =>
          rw [hfull] at hwrite
          cases hwrite
      | ok written =>
          rw [hfull] at hwrite
          cases hwrite
          exact (h.openTruncate hopen).write hfull

theorem Leads.exists_openTruncate (h : d.Leads p loc) (hdevice : d.node? loc ≠ some .fullDevice) :
    ∃ made number, d.openTruncate p = .ok (made, ⟨.file number, .offset 0⟩) := by
  have hplace := h.place
  have hdir := h.notDirectory
  unfold openTruncate openTarget
  rw [hplace]
  rcases hnode : d.node? loc with _ | _ | ⟨number, executable⟩ | _
  · exact ⟨_, _, rfl⟩
  · exact absurd hnode hdir
  · exact ⟨_, _, rfl⟩
  · exact absurd hnode hdevice

namespace HoldsAt

theorem write_eq (h : d.HoldsAt p loc number []) (data : Bytes) :
    d.write ⟨.file number, .offset 0⟩ data =
      .ok (d.setContent number data, ⟨.file number, .offset data.length⟩) := by
  simp [write, written, overlay, h.content]

theorem setContent (h : d.HoldsAt p loc number text) (hd : d.Sound) (data : Bytes) :
    OnlyAt loc d (d.setContent number data) ∧
      (d.setContent number data).HoldsAt p loc number data := by
  obtain ⟨executable, hfile⟩ := h.file
  have honly := onlyAt_setContent hd hfile data
  exact ⟨honly, honly.leads h.notDirectory h.toLeads h.notDirectory, ⟨executable, hfile⟩,
    content_setContent d (hd.exists_content hfile) data⟩

end HoldsAt

/-- After an attempt to remove what a path leads to, nothing is there. -/
theorem Leads.removeFile (h : d.Leads p loc) (hd : d.Sound) :
    OnlyAt loc d ((d.removeFile p).toOption.getD d) ∧
      ((d.removeFile p).toOption.getD d).node? loc = none := by
  have hdir := h.notDirectory
  have hunlink : OnlyAt loc d (d.unlink loc) ∧ (d.unlink loc).node? loc = none :=
    ⟨onlyAt_unlink hd h.ne_nil, node?_unlink_self d h.ne_nil⟩
  unfold Disk.removeFile
  rw [h.resolve_eq]
  rcases hnode : d.node? loc with _ | _ | ⟨number, executable⟩ | _
  · exact ⟨.refl hd, hnode⟩
  · exact absurd hnode hdir
  · exact hunlink
  · exact hunlink

theorem locate_of_resolve {place : Place} (h : d.resolve p = .ok place) : d.locate p = .ok place := by
  unfold resolve at h
  split at h
  · cases h
  · next found hplace =>
      split at h
      · cases h
      · cases h
      · cases h
        exact hplace

theorem HoldsAt.exists_rename (hp : d.HoldsAt p tmp number text) (hq : d.Leads q loc) :
    ∃ d', d.rename p q = .ok d' := by
  obtain ⟨executable, hfile⟩ := hp.file
  have hdir := hq.notDirectory
  unfold rename
  rw [hp.resolve_eq, hq.resolve_eq, hfile]
  rcases hnode : d.node? loc with _ | _ | ⟨other, executable'⟩ | _
  · by_cases heq : tmp = loc
    · exact ⟨_, if_pos heq⟩
    · exact ⟨_, if_neg heq⟩
  · exact absurd hnode hdir
  · by_cases heq : tmp = loc
    · exact ⟨_, if_pos heq⟩
    · exact ⟨_, if_neg heq⟩
  · by_cases heq : tmp = loc
    · exact ⟨_, if_pos heq⟩
    · exact ⟨_, if_neg heq⟩

/-- A rename goes to where no directory is. -/
theorem rename_spec (hp : d.HoldsAt p tmp number text) (h : d.rename p q = .ok d') :
    ∃ loc, d.Leads q loc ∧ (tmp = loc ∨ ∃ executable,
      d' = (d.unlink tmp).link loc (.file number executable)) := by
  obtain ⟨executable, hfile⟩ := hp.file
  unfold rename at h
  rw [hp.resolve_eq, hfile] at h
  cases hq : d.resolve q with
  | error e =>
      rw [hq] at h
      cases h
  | ok place =>
      obtain ⟨loc, found, asDirectory⟩ := place
      have hplace := locate_of_resolve hq
      rw [hq] at h
      cases asDirectory with
      | true => rcases found with _ | _ | _ | _ <;> cases h
      | false =>
          have hfound : found ≠ some .directory := by
            rintro rfl
            cases h
          refine ⟨loc, (leads_of_locate hplace hfound).1, ?_⟩
          by_cases heq : tmp = loc
          · exact .inl heq
          · refine .inr ⟨executable, ?_⟩
            rcases found with _ | _ | _ | _
            · dsimp only at h
              rw [if_neg Bool.false_ne_true, if_neg heq] at h
              exact (Except.ok.inj h).symm
            · exact absurd rfl hfound
            · dsimp only at h
              rw [if_neg Bool.false_ne_true, if_neg heq] at h
              exact (Except.ok.inj h).symm
            · dsimp only at h
              rw [if_neg Bool.false_ne_true, if_neg heq] at h
              exact (Except.ok.inj h).symm

theorem node?_link_unlink_self (hl : l ≠ []) (hne : l ≠ loc) (node : Node) :
    ((d.unlink l).link loc node).node? l = none :=
  (node?_link_of_ne _ hne _).trans (node?_unlink_self d hl)

theorem node?_link_unlink_of_ne (hl : l ≠ loc) (hl' : l ≠ tmp) (node : Node) :
    ((d.unlink tmp).link loc node).node? l = d.node? l :=
  (node?_link_of_ne _ hl _).trans (node?_unlink_of_ne d hl')

/-- A file that moved still has one name. -/
theorem Sound.link_unlink (hd : d.Sound) (hfile : d.node? tmp = some (.file number b))
    (htmp : tmp ≠ []) (hloc : loc ≠ []) (hne : tmp ≠ loc) (executable : Bool) :
    ((d.unlink tmp).link loc (.file number executable)).Sound := by
  -- What has a number in the end had it before, the moved file at its former location.
  have hfrom : ∀ {l other executable'},
      ((d.unlink tmp).link loc (.file number executable)).node? l = some (.file other executable') →
        l = loc ∧ other = number ∨ (l ≠ tmp ∧ d.node? l = some (.file other executable')) := by
    intro l other executable' hl
    by_cases hlloc : l = loc
    · rw [hlloc, node?_link_self _ hloc] at hl
      cases hl
      exact .inl ⟨hlloc, rfl⟩
    · have hltmp : l ≠ tmp := by
        rintro rfl
        cases (node?_link_unlink_self htmp hne _).symm.trans hl
      exact .inr ⟨hltmp, (node?_link_unlink_of_ne hlloc hltmp _).symm.trans hl⟩
  constructor
  · intro l other executable' hl
    rcases hfrom hl with ⟨-, rfl⟩ | ⟨-, hold⟩
    · exact hd.exists_content hfile
    · exact hd.exists_content hold
  · intro l l' other executable₁ executable₂ hl hl'
    rcases hfrom hl with ⟨rfl, rfl⟩ | ⟨hltmp, hold⟩
    · rcases hfrom hl' with ⟨rfl, -⟩ | ⟨hltmp', hold'⟩
      · rfl
      · exact absurd (hd.unique hold' hfile) hltmp'
    · rcases hfrom hl' with ⟨rfl, rfl⟩ | ⟨-, hold'⟩
      · exact absurd (hd.unique hold hfile) hltmp
      · exact hd.unique hold hold'

/-- The other path leads to the file afterwards, and where the file was is nothing. -/
theorem holdsAt_link (hd : d.Sound) (hp : d.HoldsAt p tmp number text) (hq : d.Leads q loc)
    (hne : tmp ≠ loc) (executable : Bool) :
    ((d.unlink tmp).link loc (.file number executable)).Sound ∧
      ((d.unlink tmp).link loc (.file number executable)).HoldsAt q loc number text ∧
      ((d.unlink tmp).link loc (.file number executable)).Leads p tmp ∧
      ((d.unlink tmp).link loc (.file number executable)).node? tmp = none := by
  obtain ⟨old, hfile⟩ := hp.file
  have hloc := node?_link_self (d.unlink tmp) hq.ne_nil (.file number executable)
  have htmp : ((d.unlink tmp).link loc (.file number executable)).node? tmp = none :=
    node?_link_unlink_self hp.ne_nil hne _
  have hdirs : ∀ m, d.node? m = some .directory →
      ((d.unlink tmp).link loc (.file number executable)).node? m = some .directory := by
    intro m hm
    rw [node?_link_unlink_of_ne, hm]
    · rintro rfl
      exact hq.notDirectory hm
    · rintro rfl
      cases hfile.symm.trans hm
  refine ⟨hd.link_unlink hfile hp.ne_nil hq.ne_nil hne executable, ⟨?_, ⟨executable, hloc⟩, hp.content⟩,
    ?_, htmp⟩
  · exact hq.of_directories rfl hdirs (by rw [hloc]; simp)
  · exact hp.toLeads.of_directories rfl hdirs (by rw [htmp]; simp)

/-- A file that gets a name with another last name is found there. -/
theorem holdsAt_rename {bs : Bytes} (hd : d.Sound)
    (hp : d.HoldsAt (q ++ bs : Path) tmp number text) (hbs : Path.slash ∉ bs) (hne : bs ≠ [])
    (h : d.rename (q ++ bs : Path) q = .ok d') :
    d'.Sound ∧ (∃ loc, d'.HoldsAt q loc number text) ∧
      d'.Leads (q ++ bs : Path) tmp ∧ d'.node? tmp = none := by
  obtain ⟨loc, hq, hcase⟩ := rename_spec hp h
  have hlocs : tmp ≠ loc := hq.ne_of_append hp.toLeads hbs hne
  obtain ⟨executable, rfl⟩ := hcase.resolve_left hlocs
  obtain ⟨hsound, hholds, hleads, hnone⟩ := holdsAt_link hd hp hq hlocs executable
  exact ⟨hsound, ⟨loc, hholds⟩, hleads, hnone⟩

end Disk

end ProxyWarden
