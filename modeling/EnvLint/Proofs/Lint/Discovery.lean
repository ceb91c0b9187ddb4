import EnvLint.Lint.Discover
import EnvLint.Proofs.File.Below
import EnvLint.Proofs.Outcome
import EnvLint.Proofs.Repetition

/-! # Finding the files to check

    What a list of paths stands for.  Four facts carry the laws:

    * a path fails exactly if it leads nowhere or something stands in the way of
      looking, since a glob that can be read finds something in every directory, if
      only nothing (`expand_eq_error_iff`);
    * what stands in the way is a path that cannot be looked up, or a search that
      exhausts the stack (`blocked_of_filesBelow_error`);
    * the files of several paths are joined and their repetitions erased, so a
      list that is longer only adds files (`discover_append`);
    * the default glob matches a name by its end alone (`matchPieces_star_chars`),
      and the search visits every directory below its start, so what is found are
      all files with that end, in path order (`mem_filesBelow_sources`,
      `pairwise_filesBelow`). -/

namespace EnvLint

/-! ## Path order -/

namespace Path

theorem lt_or_gt_of_ne {a b : String} (h : a ≠ b) : a < b ∨ b < a := by
  by_cases hlt : a < b
  · exact Or.inl hlt
  · refine Or.inr (Classical.byContradiction fun hgt => h ?_)
    exact String.le_antisymm (String.not_lt.mp hgt) (String.not_lt.mp hlt)

/-- Of two paths one comes before the other, or they are the same. -/
theorem keyLe_total (xs ys : List String) : (keyLe xs ys || keyLe ys xs) = true := by
  induction xs generalizing ys with
  | nil => simp [keyLe]
  | cons a xs ih =>
      cases ys with
      | nil => simp [keyLe]
      | cons b ys =>
          rw [keyLe, keyLe]
          by_cases heq : a = b
          · rw [if_pos heq, if_pos heq.symm]
            exact ih ys
          · rw [if_neg heq, if_neg (Ne.symm heq)]
            simpa using lt_or_gt_of_ne heq

/-- The order of paths is transitive. -/
theorem keyLe_trans {xs ys zs : List String} (hxy : keyLe xs ys = true)
    (hyz : keyLe ys zs = true) : keyLe xs zs = true := by
  induction xs generalizing ys zs with
  | nil => simp [keyLe]
  | cons a xs ih =>
      cases ys with
      | nil => simp [keyLe] at hxy
      | cons b ys =>
          cases zs with
          | nil => simp [keyLe] at hyz
          | cons c zs =>
              rw [keyLe] at hxy hyz ⊢
              by_cases hab : a = b
              · subst hab
                rw [if_pos rfl] at hxy
                by_cases hac : a = c
                · rw [if_pos hac] at hyz ⊢
                  exact ih hxy hyz
                · rwa [if_neg hac] at hyz ⊢
              · rw [if_neg hab, decide_eq_true_eq] at hxy
                by_cases hbc : b = c
                · subst hbc
                  rw [if_neg hab, decide_eq_true_eq]
                  exact hxy
                · rw [if_neg hbc, decide_eq_true_eq] at hyz
                  -- the first components differ in both steps, so they decide
                  have hac := String.lt_trans hxy hyz
                  rw [if_neg, decide_eq_true_eq]
                  · exact hac
                  · rintro rfl
                    exact String.lt_irrefl a hac

/-- Different component lists stand in the order of their first difference. -/
theorem lex_of_keyLe {xs ys : List String} (h : keyLe xs ys = true) (hne : xs ≠ ys) :
    List.Lex (· < ·) xs ys := by
  induction xs generalizing ys with
  | nil =>
      cases ys with
      | nil => exact absurd rfl hne
      | cons b ys => exact .nil
  | cons a xs ih =>
      cases ys with
      | nil => simp [keyLe] at h
      | cons b ys =>
          rw [keyLe] at h
          by_cases heq : a = b
          · subst heq
            rw [if_pos rfl] at h
            exact .cons (ih h fun heq => hne (congrArg _ heq))
          · rw [if_neg heq, decide_eq_true_eq] at h
            exact .rel h

/-- Paths with one root are ordered by their components. -/
theorem keyLe_parts_of_le {p q : Path} (hroot : p.root = q.root) (h : p.le q = true) :
    keyLe p.parts q.parts = true := by
  obtain ⟨root, xs⟩ := p
  obtain ⟨other, ys⟩ := q
  obtain rfl : root = other := hroot
  cases root with
  | working => exact h
  | top => exact h
  | second => exact h

/-- Sorted paths stand in path order. -/
theorem pairwise_mergeSort_le (paths : List Path) :
    (paths.mergeSort Path.le).Pairwise fun p q => p.le q = true := by
  refine List.pairwise_mergeSort ?_ ?_ paths
  · intro p q r hpq hqr
    exact keyLe_trans hpq hqr
  · intro p q
    exact keyLe_total _ _

end Path

/-! ## The default glob -/

/-- A name with the end that the default glob asks for. -/
def IsSourceName (name : String) : Prop :=
  ∃ stem, name = stem ++ ".estree.json"

namespace Glob

/-- The default glob: any start, and the characters of that end. -/
def sources : Glob := ⟨[.wild (.star :: ".estree.json".toList.map .char)], false⟩

/-- The default pattern is read as the glob for sources in all directories. -/
theorem ofString_defaultPattern : Glob.ofString defaultPattern = .ok sources := rfl

/-- A component without wildcards matches itself only. -/
theorem matchPieces_chars (cs xs : List Char) :
    matchPieces (cs.map .char) xs = true ↔ xs = cs := by
  induction cs generalizing xs with
  | nil =>
      cases xs with
      | nil => simp [matchPieces]
      | cons x xs => simp [matchPieces]
  | cons c cs ih =>
      cases xs with
      | nil => simp [matchPieces]
      | cons x xs =>
          rw [List.map_cons, matchPieces, Bool.and_eq_true, ih, List.cons.injEq]
          · simp [Piece.fits]
          · intro hstar
            cases hstar

/-- A star before characters matches a text by its end. -/
theorem matchPieces_star_chars (cs xs : List Char) :
    matchPieces (.star :: cs.map .char) xs = true ↔ cs <:+ xs := by
  induction xs with
  | nil =>
      rw [matchPieces, matchPieces_chars, List.suffix_nil]
      exact eq_comm
  | cons x xs ih =>
      rw [matchPieces, Bool.or_eq_true, matchPieces_chars, ih, List.suffix_cons_iff,
        eq_comm (a := x :: xs)]

/-- Names of sources are those with the right end. -/
theorem isSourceName_iff {name : String} :
    IsSourceName name ↔ ".estree.json".toList <:+ name.toList := by
  constructor
  · rintro ⟨stem, rfl⟩
    rw [String.toList_append]
    exact List.suffix_append _ _
  · rintro ⟨stem, hstem⟩
    refine ⟨String.ofList stem, ?_⟩
    rw [← String.toList_inj, String.toList_append, String.toList_ofList, hstem]

end Glob

theorem Path.child_below (p : Path) (parts : List String) (name : String) :
    (p.below parts).child name = p.below (parts ++ [name]) := by
  rw [Path.child, Path.below, Path.below, List.append_assoc]

/-- A path below the start is kept if no component on the way down is an excluded name; the
    components of the start do not count. -/
theorem isExcluded_below {p : Path} {parts : List String} :
    (!isExcluded p (p.below parts)) = true ↔ ∀ c ∈ parts, c ∉ excludedNames := by
  rw [isExcluded, Path.below, List.drop_left, Bool.not_eq_true', List.any_eq_false]
  simp only [List.contains_iff_mem]

/-! ## Single paths -/

section Found

variable [Host] {d : Disk} {pattern : String} {g : Glob} {p q : Path} {e f : Entry}
  {failure : Failure}

/-- A path that can be looked up, and leads neither to a file nor to a directory. -/
def Disk.LeadsNowhere (d : Disk) (p : Path) : Prop :=
  d.obstacle? p = none ∧ d.isFile p = false ∧ d.isDir p = false

/-- Why a given path cannot be expanded although it may well lead somewhere. -/
inductive Obstructed (d : Disk) (pattern : String) (p : Path) : Failure → Prop where
  /-- The path itself cannot be looked up. -/
  | path {obstacle : Obstacle} (h : d.obstacle? p = some obstacle) :
      Obstructed d pattern p (.blocked p obstacle)
  /-- Searching the directory exhausts the stack. -/
  | stack {e : Entry} {words : String} (hfind : d.find p = .ok e) (hdir : e.isDir = true)
      (h : Host.overflow? (.search e pattern) = some words) :
      Obstructed d pattern p (.exhausted words)
  /-- A path in the directory cannot be looked up. -/
  | below {e : Entry} {g : Glob} {q : Path} {obstacle : Obstacle} (hfind : d.find p = .ok e)
      (hdir : e.isDir = true) (hfits : Host.overflow? (.search e pattern) = none)
      (hglob : Glob.ofString pattern = .ok g) (h : d.obstacle? q = some obstacle)
      (hfails : filesBelow d g p = .error (.blocked q obstacle)) :
      Obstructed d pattern p (.blocked q obstacle)

/-- What a path leads to is a file or a directory. -/
theorem Disk.isFile_of_find (h : d.find p = .ok e) : d.isFile p = e.isFile := by
  rw [isFile, h]

theorem Disk.isDir_of_find (h : d.find p = .ok e) : d.isDir p = e.isDir := by
  rw [isDir, h]

/-- What a path leads to is something. -/
theorem Disk.not_leadsNowhere_of_find (h : d.find p = .ok e) : ¬d.LeadsNowhere p := by
  rintro ⟨-, hfile, hdir⟩
  rw [isFile_of_find h, Entry.isFile] at hfile
  rw [isDir_of_find h] at hdir
  rw [hdir] at hfile
  cases hfile

/-- A path leads nowhere if it is looked up without success. -/
theorem Disk.leadsNowhere_of_fault {fault : PathFault} (h : d.find p = .error fault)
    (hfault : fault.obstacle? = none) : d.LeadsNowhere p := by
  refine ⟨?_, ?_, ?_⟩
  · rw [obstacle?, h]
    exact hfault
  · rw [isFile, h]
  · rw [isDir, h]

/-- A path leads nowhere, cannot be looked up, or leads to something. -/
theorem Disk.find_cases (d : Disk) (p : Path) :
    d.LeadsNowhere p ∨ (∃ obstacle, d.obstacle? p = some obstacle) ∨ ∃ e, d.find p = .ok e := by
  cases hfind : d.find p with
  | ok e => exact .inr (.inr ⟨e, rfl⟩)
  | error fault =>
      cases hfault : fault.obstacle? with
      | none => exact .inl (leadsNowhere_of_fault hfind hfault)
      | some obstacle =>
          refine .inr (.inl ⟨obstacle, ?_⟩)
          rw [obstacle?, hfind]
          exact hfault

/-- A path to a file leads to an entry that is no directory. -/
theorem Disk.exists_find_of_isFile (h : d.isFile p = true) :
    ∃ e, d.find p = .ok e ∧ e.isDir = false := by
  rw [isFile] at h
  cases hfind : d.find p with
  | ok e =>
      rw [hfind] at h
      exact ⟨e, rfl, by simpa [Entry.isFile] using h⟩
  | error fault =>
      rw [hfind] at h
      cases h

/-- A file stands for itself, whatever the pattern. -/
theorem expand_of_isFile (h : d.isFile p = true) : expand d pattern p = .ok [p] := by
  obtain ⟨e, hfind, hdir⟩ := Disk.exists_find_of_isFile h
  rw [expand, hfind]
  dsimp only
  rw [if_neg (by simp [hdir])]

/-- A path that leads nowhere is missing. -/
theorem expand_of_nowhere (h : d.LeadsNowhere p) :
    expand d pattern p = .error (.missingPath p) := by
  obtain ⟨hclear, hfile, hdir⟩ := h
  rw [expand]
  cases hfind : d.find p with
  | ok e => exact absurd ⟨hclear, hfile, hdir⟩ (Disk.not_leadsNowhere_of_find hfind)
  | error fault =>
      rw [Disk.obstacle?, hfind] at hclear
      dsimp only at hclear ⊢
      rw [hclear]

/-- A path that cannot be looked up fails for what stands in its way. -/
theorem expand_of_obstacle {obstacle : Obstacle} (h : d.obstacle? p = some obstacle) :
    expand d pattern p = .error (.blocked p obstacle) := by
  rw [Disk.obstacle?] at h
  rw [expand]
  cases hfind : d.find p with
  | ok e =>
      rw [hfind] at h
      cases h
  | error fault =>
      rw [hfind] at h
      dsimp only at h ⊢
      rw [h]

/-- A directory stands for what a search below it finds. -/
theorem expand_of_dir (h : d.find p = .ok e) (hdir : e.isDir = true) :
    expand d pattern p = search d pattern p e := by
  rw [expand, h]
  dsimp only
  rw [if_pos hdir]

/-! ## Searches -/

namespace Glob

/-- The length of a path is the only thing that its check looks at. -/
theorem checkLength_eq_error_iff :
    checkLength d p = .error failure ↔
      d.obstacle? p = some .tooLong ∧ failure = .blocked p .tooLong := by
  rw [checkLength]
  split_ifs with hlong
  · simp [hlong, eq_comm]
  · simp [hlong]

/-- Selecting a component fails for a path that is too long, and for nothing else. -/
theorem blocked_of_select_error {step : Step} {dirsOnly : Bool}
    (h : step.select d p dirsOnly = .error failure) :
    ∃ q, d.obstacle? q = some .tooLong ∧ failure = .blocked q .tooLong := by
  cases step with
  | anyDepth => cases h
  | exact name =>
      rcases bind_eq_error_iff.mp h with hlong | ⟨_, _, hrest⟩
      · exact ⟨_, checkLength_eq_error_iff.mp hlong⟩
      · cases hrest
  | wild ps =>
      rcases bind_eq_error_iff.mp h with hlong | ⟨_, _, hrest⟩
      · exact ⟨_, checkLength_eq_error_iff.mp hlong⟩
      · cases hrest

/-- So does selecting several, by induction on the components. -/
theorem blocked_of_selectSteps_error {dirsOnly : Bool} {steps : List Step}
    (h : selectSteps d dirsOnly steps p = .error failure) :
    ∃ q, d.obstacle? q = some .tooLong ∧ failure = .blocked q .tooLong := by
  induction steps generalizing p failure with
  | nil => cases h
  | cons step steps ih =>
      rcases bind_eq_error_iff.mp h with hselect | ⟨next, -, h⟩
      · exact blocked_of_select_error hselect
      · rcases bind_eq_error_iff.mp h with hnext | ⟨_, _, h⟩
        · obtain ⟨_, q, _, -, -, hq⟩ := mapM_eq_error_iff.mp hnext
          rcases bind_eq_error_iff.mp hq with hrest | ⟨_, -, hlist⟩
          · exact ih hrest
          · rcases bind_eq_error_iff.mp hlist with hleave | ⟨_, _, hdone⟩
            · cases step with
              | anyDepth => exact ⟨_, checkLength_eq_error_iff.mp hleave⟩
              | exact name => cases hleave
              | wild ps => cases hleave
            · cases hdone
        · cases h

end Glob

/-- Of some paths the files are kept, if all of them can be looked up. -/
theorem mapM_onlyFile {paths : List Path} {lists : List (List Path)}
    (h : paths.mapM (onlyFile d) = .ok lists) : lists.flatten = paths.filter d.isFile := by
  induction paths generalizing lists with
  | nil =>
      cases h
      rfl
  | cons p paths ih =>
      rw [List.mapM_cons] at h
      obtain ⟨first, hfirst, h⟩ := bind_eq_ok_iff.mp h
      obtain ⟨rest, hrest, h⟩ := bind_eq_ok_iff.mp h
      cases h
      rw [onlyFile] at hfirst
      split at hfirst
      · cases hfirst
      · cases hfirst
        rw [List.flatten_cons, ih hrest, List.filter_cons]
        split_ifs <;> rfl

/-- A hit that cannot be looked up fails, and no other. -/
theorem onlyFile_eq_error_iff :
    onlyFile d p = .error failure ↔
      ∃ obstacle, d.obstacle? p = some obstacle ∧ failure = .blocked p obstacle := by
  rw [onlyFile]
  cases d.obstacle? p with
  | none => simp
  | some obstacle => simp [eq_comm]

/-- The candidates that a search looks up. -/
theorem filesBelow_eq_ok {found : List Path} (h : filesBelow d g p = .ok found) :
    ∃ hits, g.select d p = .ok hits ∧
      (∀ q ∈ hits, isExcluded p q = false → d.obstacle? q = none) ∧
      found = ((hits.mergeSort Path.le).filter fun q => !isExcluded p q).filter d.isFile := by
  obtain ⟨hits, hhits, h⟩ := bind_eq_ok_iff.mp h
  obtain ⟨files, hfiles, h⟩ := bind_eq_ok_iff.mp h
  cases h
  refine ⟨hits, hhits, ?_, mapM_onlyFile hfiles⟩
  intro q hq hkept
  have hcandidate : q ∈ (hits.mergeSort Path.le).filter fun q => !isExcluded p q :=
    List.mem_filter.mpr ⟨List.mem_mergeSort.mpr hq, by simp [hkept]⟩
  obtain ⟨list, hlist⟩ := succeeds_mapM_iff.mp ⟨files, hfiles⟩ q hcandidate
  cases hclear : d.obstacle? q with
  | none => rfl
  | some obstacle =>
      rw [onlyFile_eq_error_iff.mpr ⟨obstacle, hclear, rfl⟩] at hlist
      cases hlist

/-- A search fails for a path that cannot be looked up, and for nothing else. -/
theorem blocked_of_filesBelow_error (h : filesBelow d g p = .error failure) :
    ∃ q obstacle, d.obstacle? q = some obstacle ∧ failure = .blocked q obstacle := by
  rcases bind_eq_error_iff.mp h with hselect | ⟨hits, -, h⟩
  · obtain ⟨q, hq⟩ := Glob.blocked_of_selectSteps_error hselect
    exact ⟨q, _, hq⟩
  · rcases bind_eq_error_iff.mp h with hfiles | ⟨_, _, h⟩
    · obtain ⟨_, q, _, -, -, hq⟩ := mapM_eq_error_iff.mp hfiles
      exact ⟨q, onlyFile_eq_error_iff.mp hq⟩
    · cases h

/-- A path stands for files only. -/
theorem isFile_of_mem_expand {found : List Path} (h : expand d pattern p = .ok found)
    (hq : q ∈ found) : d.isFile q = true := by
  rw [expand] at h
  split at h
  next e hfind =>
    split at h
    · obtain ⟨g, -, h⟩ := bind_eq_ok_iff.mp h
      obtain ⟨-, -, h⟩ := bind_eq_ok_iff.mp h
      obtain ⟨hits, -, -, rfl⟩ := filesBelow_eq_ok h
      exact (List.mem_filter.mp hq).2
    next hdir =>
      cases h
      rw [List.mem_singleton.mp hq, Disk.isFile_of_find hfind, Entry.isFile]
      simpa using hdir
  next =>
    split at h
    · cases h
    · cases h

section Glob

variable (hglob : Glob.ofString pattern = .ok g)
include hglob

theorem search_of_glob :
    search d pattern p e =
      (Failure.checkStack (.search e pattern) >>= fun _ => filesBelow d g p) := by
  rw [search, hglob]
  rfl

/-- With a glob, searching a directory fails only if something stands in its way. -/
theorem obstructed_of_search_error (hfind : d.find p = .ok e) (hdir : e.isDir = true)
    (h : search d pattern p e = .error failure) : Obstructed d pattern p failure := by
  rw [search_of_glob hglob] at h
  rcases bind_eq_error_iff.mp h with hstack | ⟨_, hstack, hfails⟩
  · rw [Failure.checkStack] at hstack
    split at hstack
    next words hwords =>
      cases hstack
      exact .stack hfind hdir hwords
    next => cases hstack
  · obtain ⟨q, obstacle, hq, rfl⟩ := blocked_of_filesBelow_error hfails
    exact .below hfind hdir (checkStack_eq_ok_iff.mp hstack) hglob hq hfails

/-- A path fails if it leads nowhere or something stands in its way. -/
theorem expand_eq_error_iff :
    expand d pattern p = .error failure ↔
      (d.LeadsNowhere p ∧ failure = .missingPath p) ∨ Obstructed d pattern p failure := by
  constructor
  · intro h
    rcases d.find_cases p with hnowhere | ⟨obstacle, hobstacle⟩ | ⟨e, hfind⟩
    · rw [expand_of_nowhere hnowhere] at h
      cases h
      exact .inl ⟨hnowhere, rfl⟩
    · rw [expand_of_obstacle hobstacle] at h
      cases h
      exact .inr (.path hobstacle)
    · cases hdir : e.isDir with
      | false =>
          rw [expand_of_isFile (by rw [Disk.isFile_of_find hfind, Entry.isFile, hdir]; rfl)] at h
          cases h
      | true =>
          rw [expand_of_dir hfind hdir] at h
          exact .inr (obstructed_of_search_error hglob hfind hdir h)
  · rintro (⟨hnowhere, rfl⟩ | hobstructed)
    · exact expand_of_nowhere hnowhere
    · cases hobstructed with
      | path h => exact expand_of_obstacle h
      | stack hfind hdir h =>
          rw [expand_of_dir hfind hdir, search_of_glob hglob, Failure.checkStack, h]
          rfl
      | below hfind hdir hfits hother _ hfails =>
          -- the pattern is one glob
          rw [hglob] at hother
          cases hother
          rw [expand_of_dir hfind hdir, search_of_glob hglob, checkStack_eq_ok_iff.mpr hfits]
          exact hfails

/-- A path can be expanded if it leads somewhere and nothing stands in its way. -/
theorem succeeds_expand_iff :
    Succeeds (expand d pattern p) ↔
      ¬d.LeadsNowhere p ∧ ∀ failure, ¬Obstructed d pattern p failure := by
  constructor
  · rintro ⟨found, hfound⟩
    refine ⟨?_, ?_⟩
    · intro hnowhere
      rw [expand_of_nowhere hnowhere] at hfound
      cases hfound
    · intro failure hobstructed
      rw [(expand_eq_error_iff hglob).mpr (.inr hobstructed)] at hfound
      cases hfound
  · rintro ⟨hsomewhere, hclear⟩
    cases h : expand d pattern p with
    | ok found => exact ⟨found, rfl⟩
    | error failure =>
        rcases (expand_eq_error_iff hglob).mp h with ⟨hnowhere, -⟩ | hobstructed
        · exact absurd hnowhere hsomewhere
        · exact absurd hobstructed (hclear failure)

end Glob

/-! ## Lists of paths -/

theorem discover_eq_ok_iff {paths found : List Path} :
    discover d pattern paths = .ok found ↔
      ∃ lists, paths.mapM (expand d pattern) = .ok lists ∧ found = lists.flatten.eraseDups := by
  rw [discover, bind_eq_ok_iff]
  constructor
  · rintro ⟨lists, hlists, h⟩
    cases h
    exact ⟨lists, hlists, rfl⟩
  · rintro ⟨lists, hlists, rfl⟩
    exact ⟨lists, hlists, rfl⟩

/-- Paths fail for the first that cannot be expanded. -/
theorem discover_eq_error_iff {paths : List Path} {e : Failure} :
    discover d pattern paths = .error e ↔
      ∃ before bad after, paths = before ++ bad :: after ∧
        (∀ p ∈ before, Succeeds (expand d pattern p)) ∧ expand d pattern bad = .error e := by
  rw [discover, bind_eq_error_iff, ← mapM_eq_error_iff]
  constructor
  · rintro (h | ⟨lists, -, h⟩)
    · exact h
    · cases h
  · exact Or.inl

theorem nodup_of_discover {paths found : List Path} (h : discover d pattern paths = .ok found) :
    found.Nodup := by
  obtain ⟨lists, -, rfl⟩ := discover_eq_ok_iff.mp h
  exact Tree.nodup_eraseDups _

theorem isFile_of_mem_discover {paths found : List Path}
    (h : discover d pattern paths = .ok found) {q : Path} (hq : q ∈ found) :
    d.isFile q = true := by
  obtain ⟨lists, hlists, rfl⟩ := discover_eq_ok_iff.mp h
  obtain ⟨list, hlist, hq⟩ := List.mem_flatten.mp (List.mem_eraseDups.mp hq)
  obtain ⟨p, -, hp⟩ := mem_of_mapM hlists hlist
  exact isFile_of_mem_expand hp hq

/-- A given file is found, whatever its name. -/
theorem mem_discover_of_isFile {paths found : List Path}
    (h : discover d pattern paths = .ok found) {p : Path} (hp : p ∈ paths)
    (hfile : d.isFile p = true) : p ∈ found := by
  obtain ⟨lists, hlists, rfl⟩ := discover_eq_ok_iff.mp h
  refine List.mem_eraseDups.mpr (List.mem_flatten.mpr ⟨[p], ?_, List.mem_singleton.mpr rfl⟩)
  exact mem_mapM_of_mem hlists hp (expand_of_isFile hfile)

/-- A list that is longer adds what was not found before. -/
theorem discover_append (d : Disk) (pattern : String) (ps qs : List Path) :
    discover d pattern (ps ++ qs) = (do
      let found ← discover d pattern ps
      let more ← discover d pattern qs
      .ok (found ++ more.filter fun q => !found.contains q)) := by
  rw [discover, discover, discover, List.mapM_append]
  cases ps.mapM (expand d pattern) with
  | error failure => rfl
  | ok before =>
      cases qs.mapM (expand d pattern) with
      | error failure => rfl
      | ok after =>
          show Except.ok (before ++ after).flatten.eraseDups = Except.ok _
          rw [List.flatten_append, eraseDups_append_filter]

/-- Files stand for themselves. -/
theorem discover_of_files {files : List Path} (hfiles : ∀ p ∈ files, d.isFile p = true)
    (hnodup : files.Nodup) : discover d pattern files = .ok files := by
  refine discover_eq_ok_iff.mpr ⟨files.map fun p => [p], ?_, ?_⟩
  · clear hnodup
    induction files with
    | nil => rfl
    | cons p files ih =>
        rw [List.forall_mem_cons] at hfiles
        rw [List.mapM_cons, expand_of_isFile hfiles.1, ih hfiles.2]
        rfl
  · rw [← List.flatMap_def, List.flatMap_singleton', eraseDups_of_nodup hnodup]

/-! ## The search with the default glob -/

namespace Glob

/-- A path passes the check of its length unless it is too long. -/
theorem checkLength_eq_ok_iff : checkLength d p = .ok () ↔ d.obstacle? p ≠ some .tooLong := by
  rw [checkLength]
  split_ifs with hlong
  · exact iff_of_false nofun (not_not_intro hlong)
  · exact iff_of_true rfl hlong

/-- A component with wildcards matches names of a directory, unless its path is too long. -/
theorem selectSteps_wild (ps : List Piece) (dir : Path) :
    selectSteps d false [.wild ps] dir =
      (checkLength d dir >>= fun _ => .ok
        (((d.names dir).filter fun name => matchPieces ps name.toList).map dir.child)) := by
  have hkeep (paths : List Path) :
      paths.mapM (fun q => (do
        let found ← (.ok [q] : Except Failure (List Path))
        Step.leave d q (.wild ps)
        .ok found)) = Except.ok (paths.map fun q => [q]) := List.mapM_pure
  simp only [selectSteps, Step.select]
  cases checkLength d dir with
  | error failure => rfl
  | ok _ =>
      show List.mapM _ (List.filter _ _) >>= _ = Except.ok _
      rw [hkeep, List.filter_eq_self.mpr (by simp)]
      show Except.ok (List.map _ _).flatten = Except.ok _
      rw [← List.flatMap_def, List.flatMap_singleton']

/-- What the default search does in one directory. -/
def visit (d : Disk) (dir : Path) : Except Failure (List Path) := do
  let hits ← selectSteps d false sources.steps dir
  Step.leave d dir .anyDepth
  .ok hits

/-- What is found in a directory that can be listed are the names that match, in their order. -/
theorem visit_eq_ok_iff {dir : Path} {hits : List Path} :
    visit d dir = .ok hits ↔ d.obstacle? dir ≠ some .tooLong ∧
      hits = ((d.names dir).filter fun name =>
        matchPieces (.star :: ".estree.json".toList.map .char) name.toList).map dir.child := by
  rw [visit, sources, selectSteps_wild, Step.leave, ← checkLength_eq_ok_iff]
  cases checkLength d dir with
  | error failure => exact iff_of_false nofun fun h => nomatch h.1
  | ok _ =>
      constructor
      · intro h
        cases h
        exact ⟨rfl, rfl⟩
      · rintro ⟨-, rfl⟩
        rfl

/-- The default search goes through all directories. -/
theorem select_sources (d : Disk) (p : Path) :
    sources.select d p = ((dirsBelow d p).mapM (visit d) >>= fun found => .ok found.flatten) :=
  rfl

/-- What the default search hits. -/
theorem mem_select_sources {hits : List Path} (h : sources.select d p = .ok hits) :
    (∀ dir ∈ dirsBelow d p, d.obstacle? dir ≠ some .tooLong) ∧
      ∀ q, q ∈ hits ↔
        ∃ dir ∈ dirsBelow d p, ∃ name ∈ d.names dir, IsSourceName name ∧ q = dir.child name := by
  rw [select_sources] at h
  obtain ⟨lists, hlists, h⟩ := bind_eq_ok_iff.mp h
  cases h
  refine ⟨?_, fun q => ?_⟩
  · intro dir hdir
    obtain ⟨list, hlist⟩ := succeeds_mapM_iff.mp ⟨lists, hlists⟩ dir hdir
    exact (visit_eq_ok_iff.mp hlist).1
  · rw [List.mem_flatten]
    constructor
    · rintro ⟨list, hlist, hq⟩
      obtain ⟨dir, hdir, hvisit⟩ := mem_of_mapM hlists hlist
      -- a hit is a name in the list of some directory
      rw [(visit_eq_ok_iff.mp hvisit).2] at hq
      obtain ⟨name, hname, rfl⟩ := List.mem_map.mp hq
      obtain ⟨hname, hmatch⟩ := List.mem_filter.mp hname
      rw [matchPieces_star_chars, ← isSourceName_iff] at hmatch
      exact ⟨dir, hdir, name, hname, hmatch, rfl⟩
    · rintro ⟨dir, hdir, name, hname, hend, rfl⟩
      obtain ⟨list, hlist⟩ := succeeds_mapM_iff.mp ⟨lists, hlists⟩ dir hdir
      refine ⟨list, mem_mapM_of_mem hlists hdir hlist, ?_⟩
      rw [(visit_eq_ok_iff.mp hlist).2]
      refine List.mem_map.mpr ⟨name, List.mem_filter.mpr ⟨hname, ?_⟩, rfl⟩
      rw [matchPieces_star_chars, ← isSourceName_iff]
      exact hend

end Glob

/-- A regular file below an entry that the default search takes: its name has the right
    end, and no component is excluded. -/
inductive SourceAt (e : Entry) : List String → Prop where
  | mk {parts : List String} {name : String} {f : Entry} (hat : e.At (parts ++ [name]) f)
      (hfile : f.isFile = true) (hname : IsSourceName name)
      (hkept : ∀ c ∈ parts ++ [name], c ∉ excludedNames) : SourceAt e (parts ++ [name])

section Sources

variable (hproper : d.root.Proper) (hfind : d.find p = .ok e)
include hproper hfind

/-- What stands below a path is found if nothing keeps it from being looked up. -/
theorem find_below_of_clear {parts : List String} (hat : e.At parts f)
    (hclear : d.obstacle? (p.below parts) ≠ some .tooLong) : d.find (p.below parts) = .ok f := by
  rw [Disk.obstacle?_below hproper hfind hat] at hclear
  rw [Disk.find_below hproper hfind hat]
  split_ifs at hclear ⊢ with hlong
  · exact absurd rfl hclear
  · rfl

/-- What the default search hits are entries with the right end. -/
theorem at_of_hit {hits : List Path} (h : Glob.sources.select d p = .ok hits) (hq : q ∈ hits) :
    ∃ parts name f, q = p.below (parts ++ [name]) ∧ e.At (parts ++ [name]) f ∧
      IsSourceName name := by
  obtain ⟨hclear, hhits⟩ := Glob.mem_select_sources h
  obtain ⟨dir, hdir, name, hname, hend, rfl⟩ := (hhits q).mp hq
  have hdirclear := hclear dir hdir
  obtain ⟨parts, f, rfl, hat, -⟩ := (Glob.mem_dirsBelow_iff hfind).mp hdir
  rw [Disk.names, find_below_of_clear hproper hfind hat hdirclear] at hname
  obtain ⟨⟨_, c⟩, hentry, rfl⟩ := List.mem_map.mp hname
  cases f with
  | dir entries =>
      exact ⟨parts, _, c, Path.child_below p parts _, Entry.at_concat hat hentry, hend⟩
  | file octets => cases hentry
  | locked => cases hentry
  | sealed => cases hentry

/-- Entries with the right end are hit. -/
theorem hit_of_at {hits : List Path} (h : Glob.sources.select d p = .ok hits)
    {parts : List String} {name : String} (hat : e.At (parts ++ [name]) f)
    (hend : IsSourceName name) : p.below (parts ++ [name]) ∈ hits := by
  obtain ⟨hclear, hhits⟩ := Glob.mem_select_sources h
  obtain ⟨entries, hdir, hentry⟩ := Entry.exists_dir_of_at_concat hat
  have hbelow : p.below parts ∈ Glob.dirsBelow d p :=
    (Glob.mem_dirsBelow_iff hfind).mpr ⟨parts, _, rfl, hdir, rfl⟩
  refine (hhits _).mpr ⟨p.below parts, hbelow, name, ?_, hend, (Path.child_below p parts name).symm⟩
  rw [Disk.names, find_below_of_clear hproper hfind hdir (hclear _ hbelow)]
  exact List.mem_map.mpr ⟨_, hentry, rfl⟩

/-- The search in a directory finds all files that it takes, and no others. -/
theorem mem_filesBelow_sources {found : List Path} (h : filesBelow d Glob.sources p = .ok found) :
    q ∈ found ↔ ∃ parts, q = p.below parts ∧ SourceAt e parts := by
  obtain ⟨hits, hhits, hclear, rfl⟩ := filesBelow_eq_ok h
  rw [List.mem_filter, List.mem_filter, List.mem_mergeSort]
  constructor
  · rintro ⟨⟨hq, hkept⟩, hfile⟩
    obtain ⟨parts, name, f, rfl, hat, hend⟩ := at_of_hit hproper hfind hhits hq
    have hcandidate := hclear _ hq (by simpa using hkept)
    rw [Disk.isFile_of_find (find_below_of_clear hproper hfind hat (by simp [hcandidate]))]
      at hfile
    exact ⟨_, rfl, .mk hat hfile hend (isExcluded_below.mp hkept)⟩
  · rintro ⟨_, rfl, @⟨parts, name, f, hat, hfile, hend, hkept⟩⟩
    have hq := hit_of_at hproper hfind hhits hat hend
    have hnot := (isExcluded_below (p := p)).mpr hkept
    have hcandidate := hclear _ hq (by simpa using hnot)
    refine ⟨⟨hq, hnot⟩, ?_⟩
    rw [Disk.isFile_of_find (find_below_of_clear hproper hfind hat (by simp [hcandidate]))]
    exact hfile

/-- Where no path below a directory is too long, nothing stands in the way of the search. -/
theorem succeeds_filesBelow_sources
    (hshort : ∀ parts f, e.At parts f → (p.below parts).octets ≤ Host.longestPath) :
    Succeeds (filesBelow d Glob.sources p) := by
  have hclear : ∀ {parts : List String} {f : Entry}, e.At parts f →
      d.obstacle? (p.below parts) = none := by
    intro parts f hat
    rw [Disk.obstacle?_below hproper hfind hat, if_neg (Nat.not_lt.mpr (hshort parts f hat))]
  have hvisits : Succeeds ((Glob.dirsBelow d p).mapM (Glob.visit d)) := by
    refine succeeds_mapM_iff.mpr fun dir hdir => ?_
    obtain ⟨parts, f, rfl, hat, -⟩ := (Glob.mem_dirsBelow_iff hfind).mp hdir
    exact ⟨_, Glob.visit_eq_ok_iff.mpr ⟨by simp [hclear hat], rfl⟩⟩
  obtain ⟨lists, hlists⟩ := hvisits
  have hselect : Glob.sources.select d p = .ok lists.flatten := by
    rw [Glob.select_sources, hlists]
    rfl
  refine succeeds_bind_iff.mpr ⟨_, hselect, succeeds_bind_ok_iff.mpr (succeeds_mapM_iff.mpr ?_)⟩
  intro q hq
  have hhit := List.mem_mergeSort.mp (List.mem_filter.mp hq).1
  obtain ⟨parts, name, f, rfl, hat, -⟩ := at_of_hit hproper hfind hselect hhit
  rw [onlyFile, hclear hat]
  exact succeeds_ok _

end Sources

/-- The files below a directory are found in path order. -/
theorem pairwise_filesBelow {found : List Path} (h : filesBelow d g p = .ok found) :
    found.Pairwise fun q r => q.le r = true := by
  obtain ⟨hits, -, -, rfl⟩ := filesBelow_eq_ok h
  exact ((Path.pairwise_mergeSort_le hits).filter _).filter _

/-- One directory stands for what is found in it. -/
theorem discover_singleton (hfind : d.find p = .ok e) (hdir : e.isDir = true) :
    discover d defaultPattern [p] =
      (Failure.checkStack (.search e defaultPattern) >>= fun _ =>
        filesBelow d Glob.sources p >>= fun found => .ok found.eraseDups) := by
  rw [discover, List.mapM_cons, expand_of_dir hfind hdir,
    search_of_glob Glob.ofString_defaultPattern]
  cases Failure.checkStack (.search e defaultPattern) with
  | error failure => rfl
  | ok _ =>
      show (filesBelow d Glob.sources p >>= _) >>= _ = filesBelow d Glob.sources p >>= _
      cases filesBelow d Glob.sources p with
      | error failure => rfl
      | ok found =>
          show Except.ok [found].flatten.eraseDups = _
          rw [List.flatten_singleton]
          rfl

/-- What is found in a directory are all files below it that the default search takes, in the
    order of their components; and something is found, if nothing stands in the way. -/
theorem discover_directory (hproper : d.root.Proper) {entries : List (String × Entry)}
    (hfind : d.find p = .ok (.dir entries)) :
    (∀ found, discover d defaultPattern [p] = .ok found →
      (∀ q, q ∈ found ↔ ∃ parts, q = p.below parts ∧ SourceAt (.dir entries) parts) ∧
      found.Pairwise fun q r => List.Lex (· < ·) q.parts r.parts) ∧
    (Host.overflow? (.search (.dir entries) defaultPattern) = none →
      (∀ parts f, Entry.At (.dir entries) parts f → (p.below parts).octets ≤ Host.longestPath) →
      Succeeds (discover d defaultPattern [p])) := by
  rw [discover_singleton hfind rfl]
  constructor
  · intro found hfound
    obtain ⟨-, -, hfound⟩ := bind_eq_ok_iff.mp hfound
    obtain ⟨files, hfiles, hfound⟩ := bind_eq_ok_iff.mp hfound
    cases hfound
    have hmem : ∀ q, q ∈ files.eraseDups ↔
        ∃ parts, q = p.below parts ∧ SourceAt (.dir entries) parts := by
      intro q
      rw [List.mem_eraseDups, mem_filesBelow_sources hproper hfind hfiles]
    refine ⟨hmem, ?_⟩
    -- the files are sorted and distinct, so each stands before the next at their first difference
    have hordered := (pairwise_filesBelow hfiles).sublist (eraseDups_sublist _)
    refine (hordered.and (Tree.nodup_eraseDups _)).imp_of_mem ?_
    rintro q r hq hr ⟨hle, hne⟩
    obtain ⟨xs, rfl, -⟩ := (hmem q).mp hq
    obtain ⟨ys, rfl, -⟩ := (hmem r).mp hr
    refine Path.lex_of_keyLe (Path.keyLe_parts_of_le rfl hle) ?_
    intro hparts
    exact hne (congrArg (Path.mk p.root) hparts)
  · intro hfits hshort
    refine succeeds_bind_iff.mpr ⟨(), checkStack_eq_ok_iff.mpr hfits, ?_⟩
    exact succeeds_bind_ok_iff.mpr (succeeds_filesBelow_sources hproper hfind hshort)

end Found

/-- A package inside an excluded directory, with a cache of its own. -/
def packageDisk : Disk where
  root := .dir [("node_modules", .dir [
    ("page.estree.json", .file []),
    ("lib", .dir [("util.estree.json", .file []), ("__pycache__", .dir [
      ("old.estree.json", .file [])])])])]
  working := []

section Standard

attribute [local instance] Host.standard

theorem isName_package : ∀ name ∈ ["node_modules", "page.estree.json", "lib",
    "util.estree.json", "__pycache__", "old.estree.json"], Entry.IsName name := by
  have hclean {name : String} (h : name.toList.all (fun c => c.toNat != 0) = true) :
      ∀ c ∈ name.toList, c.toNat ≠ 0 :=
    fun c hc => bne_iff_ne.mp (List.all_eq_true.mp h c hc)
  simp only [List.forall_mem_cons]
  repeat' apply And.intro
  all_goals first | exact ⟨by decide, hclean rfl, by decide⟩ | exact List.forall_mem_nil _

/-- The package is a tree that a disk can hold. -/
theorem proper_packageDisk : packageDisk.root.Proper := by
  unfold packageDisk
  repeat' first
    | exact .file _
    | refine .dir (by decide) (fun name hin => isName_package name ?_) ?_
    | refine List.forall_mem_cons.mpr ⟨?_, ?_⟩
    | exact List.forall_mem_nil _
  all_goals
    simp only [List.map_cons, List.map_nil, List.mem_cons, List.not_mem_nil] at hin ⊢
    tauto

end Standard

end EnvLint
