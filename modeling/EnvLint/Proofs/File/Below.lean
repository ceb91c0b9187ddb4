import EnvLint.File.Glob
import EnvLint.Proofs.Dictionary

/-! # What lies below a directory

    `Entry.At` says of a tree, without following any path, which entry stands at
    which components.  In a proper tree following a path finds that entry:

    * `follow_of_at`: components that name entries lead to the entry they name;
    * `follow_append`: what a path finds does not depend on how its start was
      reached, except for the directories above it, which only `..` looks at;
    * `find_below`: so what stands below a directory is found below any path to it,
      unless that makes the path too long;
    * `mem_dirsOf_iff`: the listing of all directories is complete. -/

namespace EnvLint

namespace Entry

/-- An entry stands below another at components, each of which is the name of an entry. -/
inductive At : Entry → List String → Entry → Prop where
  | here (e : Entry) : At e [] e
  | inside {entries : List (String × Entry)} {name : String} {e f : Entry} {parts : List String}
      (hname : (name, e) ∈ entries) (hrest : At e parts f) : At (.dir entries) (name :: parts) f

/-- A name that an entry can have: it does not lead up, holds no null character and is short
    enough. -/
structure IsName [Host] (name : String) : Prop where
  up : name ≠ ".."
  clean : ∀ c ∈ name.toList, c.toNat ≠ 0
  short : isLongName name = false

/-- Trees that a file system can hold: in every directory the names are distinct, and each of
    them is one that an entry can have. -/
inductive Proper [Host] : Entry → Prop where
  | file (octets : List UInt8) : Proper (.file octets)
  | locked : Proper .locked
  | dir {entries : List (String × Entry)} (hdistinct : (entries.map Prod.fst).Nodup)
      (hnames : ∀ name ∈ entries.map Prod.fst, IsName name)
      (hentries : ∀ c ∈ entries, Proper c.2) : Proper (.dir entries)
  | sealed : Proper .sealed

/-! ## Steps down -/

theorem at_file_iff {octets : List UInt8} {parts : List String} {f : Entry} :
    At (.file octets) parts f ↔ parts = [] ∧ f = .file octets := by
  constructor
  · rintro (_ | _)
    exact ⟨rfl, rfl⟩
  · rintro ⟨rfl, rfl⟩
    exact .here _

theorem at_dir_iff {entries : List (String × Entry)} {parts : List String} {f : Entry} :
    At (.dir entries) parts f ↔ (parts = [] ∧ f = .dir entries) ∨
      ∃ c ∈ entries, ∃ rest, parts = c.1 :: rest ∧ At c.2 rest f := by
  constructor
  · intro h
    cases h with
    | here => exact .inl ⟨rfl, rfl⟩
    | inside hname hrest => exact .inr ⟨_, hname, _, rfl, hrest⟩
  · rintro (⟨rfl, rfl⟩ | ⟨⟨name, c⟩, hname, rest, rfl, hrest⟩)
    · exact .here _
    · exact .inside hname hrest

/-- One step further down: an entry of a directory below stands below, too. -/
theorem at_concat {e f : Entry} {parts : List String} {name : String}
    {entries : List (String × Entry)} (h : At e parts (.dir entries))
    (hname : (name, f) ∈ entries) : At e (parts ++ [name]) f := by
  generalize hdir : Entry.dir entries = g at h
  induction h with
  | here e =>
      cases hdir
      exact .inside hname (.here f)
  | inside hfirst _ ih => exact .inside hfirst (ih hdir)

/-- The last step down goes from a directory to one of its entries. -/
theorem exists_dir_of_at_concat {e f : Entry} {parts : List String} {name : String}
    (h : At e (parts ++ [name]) f) :
    ∃ entries, At e parts (.dir entries) ∧ (name, f) ∈ entries := by
  induction parts generalizing e with
  | nil =>
      cases h with
      | inside hname hrest =>
          cases hrest
          exact ⟨_, .here _, hname⟩
  | cons first parts ih =>
      cases h with
      | inside hfirst hrest =>
          obtain ⟨entries, hat, hname⟩ := ih hrest
          exact ⟨entries, .inside hfirst hat, hname⟩

/-- Under distinct names an entry of a directory is found by its name. -/
theorem child?_of_mem {entries : List (String × Entry)} (hdistinct : (entries.map Prod.fst).Nodup)
    {name : String} {e : Entry} (h : (name, e) ∈ entries) :
    (Entry.dir entries).child? name = some e :=
  valueOf_of_mem hdistinct h

/-- What is found by a name is an entry of the directory. -/
theorem mem_of_child? {e f : Entry} {name : String} (h : e.child? name = some f) :
    (name, f) ∈ e.entries :=
  mem_of_valueOf h

/-! ## Following components -/

variable [Host]

/-- One step: up, or down to the entry of a name. -/
theorem follow_cons (above : List Entry) (entries : List (String × Entry)) (name : String)
    (rest : List String) :
    follow above (.dir entries) (name :: rest) =
      if name = ".." then follow above.tail (above.headD (.dir entries)) rest
      else if isLongName name then .error .tooLong
      else
        match (Entry.dir entries).child? name with
        | none => .error .missing
        | some c => follow (.dir entries :: above) c rest := by
  cases above with
  | nil => rfl
  | cons up above => rfl

/-- Only directories have anything below them. -/
theorem exists_dir_of_follow {above : List Entry} {e f : Entry} {name : String}
    {rest : List String} (h : follow above e (name :: rest) = .ok f) :
    ∃ entries, e = .dir entries := by
  cases e with
  | dir entries => exact ⟨entries, rfl⟩
  | file octets => cases h
  | locked => cases h
  | sealed => cases h

/-- One step that leads somewhere: up to the directory above, or down to an entry. -/
theorem follow_step {above : List Entry} {entries : List (String × Entry)} {f : Entry}
    {name : String} {rest : List String}
    (h : follow above (.dir entries) (name :: rest) = .ok f) :
    (name = ".." ∧ follow above.tail (above.headD (.dir entries)) rest = .ok f) ∨
      (name ≠ ".." ∧ isLongName name = false ∧ ∃ c, (Entry.dir entries).child? name = some c ∧
        follow (.dir entries :: above) c rest = .ok f) := by
  rw [follow_cons] at h
  by_cases hup : name = ".."
  · rw [if_pos hup] at h
    exact .inl ⟨hup, h⟩
  · rw [if_neg hup] at h
    cases hlong : isLongName name with
    | true =>
        rw [if_pos hlong] at h
        cases h
    | false =>
        rw [if_neg (by simp [hlong])] at h
        cases hchild : (Entry.dir entries).child? name with
        | none =>
            rw [hchild] at h
            cases h
        | some c =>
            rw [hchild] at h
            exact .inr ⟨hup, rfl, c, rfl, h⟩

/-- Components that name entries lead to the entry they name. -/
theorem follow_of_at {e f : Entry} {parts : List String} (h : At e parts f) (hproper : e.Proper)
    (above : List Entry) : follow above e parts = .ok f := by
  induction h generalizing above with
  | here e => rfl
  | @inside entries name e f parts hname hrest ih =>
      cases hproper with
      | dir hdistinct hnames hentries =>
          have hvalid := hnames name (List.mem_map.mpr ⟨_, hname, rfl⟩)
          rw [follow_cons, if_neg hvalid.up, if_neg (by simp [hvalid.short]),
            child?_of_mem hdistinct hname]
          exact ih (hentries _ hname) _

/-- Where components lead from an entry that others have led to. -/
theorem follow_append {above : List Entry} {e f : Entry} {xs : List String}
    (h : follow above e xs = .ok f) :
    ∃ reached, ∀ ys, follow above e (xs ++ ys) = follow reached f ys := by
  induction xs generalizing above e with
  | nil =>
      cases h
      exact ⟨above, fun ys => rfl⟩
  | cons name xs ih =>
      obtain ⟨entries, rfl⟩ := exists_dir_of_follow h
      rcases follow_step h with ⟨hup, hrest⟩ | ⟨hup, hshort, c, hchild, hrest⟩
      · obtain ⟨reached, hreached⟩ := ih hrest
        refine ⟨reached, fun ys => ?_⟩
        rw [List.cons_append, follow_cons, if_pos hup]
        exact hreached ys
      · obtain ⟨reached, hreached⟩ := ih hrest
        refine ⟨reached, fun ys => ?_⟩
        rw [List.cons_append, follow_cons, if_neg hup, if_neg (by simp [hshort]), hchild]
        exact hreached ys

/-- Whatever components lead to is proper, up and down. -/
theorem proper_of_follow {above : List Entry} {e f : Entry} {xs : List String}
    (h : follow above e xs = .ok f) (habove : ∀ up ∈ above, up.Proper) (he : e.Proper) :
    f.Proper := by
  induction xs generalizing above e with
  | nil =>
      cases h
      exact he
  | cons name xs ih =>
      obtain ⟨entries, rfl⟩ := exists_dir_of_follow h
      rcases follow_step h with ⟨-, hrest⟩ | ⟨-, -, c, hchild, hrest⟩
      · refine ih hrest (fun up hmem => habove up (List.mem_of_mem_tail hmem)) ?_
        -- up to the directory above, or nowhere from the root
        cases above with
        | nil => exact he
        | cons up above => exact habove up List.mem_cons_self
      · have hc : c.Proper := by
          cases he with
          | dir _ _ hentries => exact hentries _ (mem_of_child? hchild)
        exact ih hrest (List.forall_mem_cons.mpr ⟨he, habove⟩) hc

/-- No name on the way to an entry of a proper tree holds a null character. -/
theorem clean_of_at {e f : Entry} {parts : List String} (h : At e parts f)
    (hproper : e.Proper) : ∀ part ∈ parts, ∀ c ∈ part.toList, c.toNat ≠ 0 := by
  induction h with
  | here e => exact List.forall_mem_nil _
  | inside hname hrest ih =>
      cases hproper with
      | dir _ hnames hentries =>
          refine List.forall_mem_cons.mpr ⟨?_, ih (hentries _ hname)⟩
          exact (hnames _ (List.mem_map.mpr ⟨_, hname, rfl⟩)).clean

end Entry

/-- A path continued by components. -/
def Path.below (p : Path) (parts : List String) : Path :=
  { p with parts := p.parts ++ parts }

/-- A path holds no null character if no component does. -/
theorem Path.hasNull_eq_false_iff {p : Path} :
    p.hasNull = false ↔ ∀ part ∈ p.parts, ∀ c ∈ part.toList, c.toNat ≠ 0 := by
  simp [Path.hasNull]

namespace Disk

/-- Steps down from a path are steps down from where it stands. -/
theorem absolute_below (d : Disk) (p : Path) (parts : List String) :
    d.absolute (p.below parts) = d.absolute p ++ parts := by
  obtain ⟨root, components⟩ := p
  cases root with
  | working => exact (List.append_assoc _ _ _).symm
  | top => rfl
  | second => rfl

variable [Host]

/-- A path that leads somewhere is clean and short, and its components lead there. -/
theorem find_eq_ok_iff {d : Disk} {p : Path} {e : Entry} :
    d.find p = .ok e ↔
      p.hasNull = false ∧ p.octets ≤ Host.longestPath ∧ d.root.follow [] (d.absolute p) = .ok e := by
  rw [find]
  cases p.hasNull with
  | true => exact iff_of_false nofun nofun
  | false =>
      rw [if_neg (by decide)]
      by_cases hlong : Host.longestPath < p.octets
      · rw [if_pos hlong]
        exact iff_of_false nofun fun h => absurd h.2.1 (Nat.not_le.mpr hlong)
      · rw [if_neg hlong]
        exact ⟨fun h => ⟨rfl, Nat.not_lt.mp hlong, h⟩, fun h => h.2.2⟩

/-- What is found in a proper tree is proper. -/
theorem proper_of_find {d : Disk} (hproper : d.root.Proper) {p : Path} {e : Entry}
    (h : d.find p = .ok e) : e.Proper :=
  Entry.proper_of_follow (find_eq_ok_iff.mp h).2.2 (List.forall_mem_nil _) hproper

/-- What stands below an entry is found below the path to it, unless that path is too long. -/
theorem find_below {d : Disk} (hproper : d.root.Proper) {p : Path} {e f : Entry}
    (h : d.find p = .ok e) {parts : List String} (hat : e.At parts f) :
    d.find (p.below parts)
      = if Host.longestPath < (p.below parts).octets then .error .tooLong else .ok f := by
  obtain ⟨hclean, -, hfollow⟩ := find_eq_ok_iff.mp h
  have he := proper_of_find hproper h
  obtain ⟨reached, happend⟩ := Entry.follow_append hfollow
  have hnull : (p.below parts).hasNull = false := by
    rw [Path.hasNull_eq_false_iff] at hclean ⊢
    exact List.forall_mem_append.mpr ⟨hclean, Entry.clean_of_at hat he⟩
  rw [find, if_neg (by simp [hnull]), absolute_below, happend, Entry.follow_of_at hat he reached]

/-- A path is too long exactly if it cannot be looked up below a path that can. -/
theorem obstacle?_below {d : Disk} (hproper : d.root.Proper) {p : Path} {e f : Entry}
    (h : d.find p = .ok e) {parts : List String} (hat : e.At parts f) :
    d.obstacle? (p.below parts)
      = if Host.longestPath < (p.below parts).octets then some .tooLong else none := by
  rw [obstacle?, find_below hproper h hat]
  split_ifs
  · rfl
  · rfl

end Disk

/-! ## All directories -/

namespace Glob

open Entry (At)

mutual

/-- The listed directories are those that stand at or below an entry. -/
theorem mem_dirsOf_iff (e : Entry) (parts : List String) :
    parts ∈ dirsOf e ↔ ∃ f : Entry, At e parts f ∧ f.isDir = true := by
  match e with
  | .file octets =>
      rw [dirsOf]
      exact iff_of_false List.not_mem_nil (by rintro ⟨f, ⟨⟩, hdir⟩; cases hdir)
  | .locked =>
      rw [dirsOf]
      exact iff_of_false List.not_mem_nil (by rintro ⟨f, ⟨⟩, hdir⟩; cases hdir)
  | .sealed =>
      rw [dirsOf, List.mem_singleton]
      constructor
      · rintro rfl
        exact ⟨_, .here _, rfl⟩
      · rintro ⟨f, ⟨⟩, -⟩
        rfl
  | .dir entries =>
      rw [dirsOf, List.mem_cons, mem_dirsIn_iff]
      constructor
      · rintro (rfl | ⟨name, e, rest, f, hname, rfl, hat, hdir⟩)
        · exact ⟨_, .here _, rfl⟩
        · exact ⟨f, .inside hname hat, hdir⟩
      · rintro ⟨f, h, hdir⟩
        cases h with
        | here => exact Or.inl rfl
        | inside hname hat => exact Or.inr ⟨_, _, _, f, hname, rfl, hat, hdir⟩

/-- All directories below an entry are listed, each by its components, and nothing else. -/
theorem mem_dirsIn_iff (entries : List (String × Entry)) (parts : List String) :
    parts ∈ dirsIn entries ↔
      ∃ name e rest, ∃ f : Entry,
        (name, e) ∈ entries ∧ parts = name :: rest ∧ At e rest f ∧ f.isDir = true := by
  match entries with
  | [] =>
      rw [dirsIn]
      exact iff_of_false List.not_mem_nil (by rintro ⟨name, e, rest, f, h, -⟩; cases h)
  | (name, e) :: entries =>
      rw [dirsIn, List.mem_append, List.mem_map, mem_dirsIn_iff]
      constructor
      · rintro (⟨rest, hrest, rfl⟩ | ⟨name, e, rest, f, hname, rfl, hat⟩)
        · obtain ⟨f, hat⟩ := (mem_dirsOf_iff e rest).mp hrest
          exact ⟨name, e, rest, f, List.mem_cons_self, rfl, hat⟩
        · exact ⟨name, e, rest, f, List.mem_cons_of_mem _ hname, rfl, hat⟩
      · rintro ⟨other, e', rest, f, hname, rfl, hat⟩
        rcases List.mem_cons.mp hname with heq | hlater
        · cases heq
          exact Or.inl ⟨rest, (mem_dirsOf_iff e rest).mpr ⟨f, hat⟩, rfl⟩
        · exact Or.inr ⟨other, e', rest, f, hlater, rfl, hat⟩

end

/-- A search visits the directories at and below its start. -/
theorem mem_dirsBelow_iff [Host] {d : Disk} {p q : Path} {e : Entry} (h : d.find p = .ok e) :
    q ∈ dirsBelow d p ↔ ∃ parts, ∃ f : Entry, q = p.below parts ∧ At e parts f ∧ f.isDir = true := by
  rw [dirsBelow, h]
  show q ∈ (dirsOf e).map p.below ↔ _
  rw [List.mem_map]
  constructor
  · rintro ⟨parts, hparts, rfl⟩
    obtain ⟨f, hat⟩ := (mem_dirsOf_iff e parts).mp hparts
    exact ⟨parts, f, rfl, hat⟩
  · rintro ⟨parts, f, rfl, hat⟩
    exact ⟨parts, (mem_dirsOf_iff e parts).mpr ⟨f, hat⟩, rfl⟩

end Glob

end EnvLint
