import Recommend.Indexer.Run
import Recommend.Proofs.Files.Tree

/-!
Which files a directory is listed with, and in which order.

The listing goes through a directory entry by entry, in the order of their names, and
through each entry before the next one.  So it follows the order of paths in which the
first name that differs decides.  This is not the order of paths as texts: what is below
`a` comes before `a.csv`, although a point is smaller than a slash.

Two kinds of files are left out at the end.  One whose own name is a text that starts
with a point is hidden; the directories above it may be named so, and so may a file
whose name is no text at all.  And each file is looked up again by its whole path
(`hasFile_below_iff`), which fails if that path is longer than paths may be.
-/

namespace Recommend

/-! ### Paths below a directory -/

namespace Path

theorem below_concat (dir : Bytes) (names : List Bytes) (name : Bytes) :
    below dir (names ++ [name]) = join (below dir names) name := by
  rw [below, below, List.foldl_append]
  rfl

/-- Each name is a step behind those of the directory. -/
theorem steps_below (dir : Bytes) {names : List Bytes} (h : ∀ n ∈ names, IsName n) :
    steps (below dir names) = steps dir ++ names.map .enter := by
  induction names generalizing dir with
  | nil => exact (List.append_nil _).symm
  | cons name names ih =>
    obtain ⟨hname, hnames⟩ := List.forall_mem_cons.1 h
    show steps (below (join dir name) names) = _
    rw [ih _ hnames, steps_join dir hname, List.append_assoc]
    rfl

/-- A path that goes on from its directory does not end in a slash, so these are all the
steps that it takes. -/
theorem lookupSteps_below (dir : Bytes) {names : List Bytes} (hne : names ≠ [])
    (h : ∀ n ∈ names, IsName n) :
    lookupSteps (below dir names) = steps dir ++ names.map .enter := by
  -- the last byte of the path is that of its last name, which has no slash in it
  have hend : endsInSlash (below dir names) = false := by
    obtain ⟨above, name, rfl⟩ := (List.eq_nil_or_concat names).resolve_left hne
    rw [List.concat_eq_append] at h ⊢
    rw [below_concat]
    exact endsInSlash_join _ (h name (by simp))
  rw [lookupSteps, hend, steps_below dir h]
  exact List.append_nil _

theorem mem_join {dir name : Bytes} {b : UInt8} (h : b ∈ join dir name) :
    b ∈ dir ∨ b = slash ∨ b ∈ name := by
  rw [join] at h
  split at h
  next => exact .inr (.inr h)
  next =>
    split at h
    next => exact (List.mem_append.1 h).imp_right .inr
    next => exact (List.mem_append.1 h).imp_right List.mem_cons.1

/-- Names bring no null into a path. -/
theorem null_notMem_below {dir : Bytes} (hdir : 0 ∉ dir) {names : List Bytes}
    (h : ∀ n ∈ names, IsName n) : 0 ∉ below dir names := by
  induction names generalizing dir with
  | nil => exact hdir
  | cons name names ih =>
    obtain ⟨hname, hnames⟩ := List.forall_mem_cons.1 h
    refine ih (fun hmem => ?_) hnames
    rcases mem_join hmem with hold | hslash | hnew
    · exact hdir hold
    · exact absurd hslash (by decide)
    · exact hname.null_notMem hnew

theorem join_ne_nil (dir : Bytes) {name : Bytes} (h : name ≠ []) : join dir name ≠ [] := by
  rw [join]
  split
  next => exact h
  next =>
    split
    next => simp [h]
    next => simp

theorem below_ne_nil {dir : Bytes} (hdir : dir ≠ []) {names : List Bytes}
    (h : ∀ n ∈ names, IsName n) : below dir names ≠ [] := by
  induction names generalizing dir with
  | nil => exact hdir
  | cons name names ih =>
    obtain ⟨hname, hnames⟩ := List.forall_mem_cons.1 h
    exact ih (join_ne_nil dir hname.ne_nil) hnames

/-- What a path has to be before any tree is looked at. -/
theorem check_eq_ok_iff {path : Bytes} :
    check path = .ok () ↔ 0 ∉ path ∧ path.length ≤ pathLimit ∧ path ≠ [] := by
  unfold check
  -- the checks are made in this order, and each of them is passed on its own
  by_cases hnull : path.contains 0 = true
  · rw [if_pos hnull]
    simp [List.contains_iff_mem.1 hnull]
  · rw [if_neg hnull]
    have hfree : 0 ∉ path := fun hmem => hnull (List.contains_iff_mem.2 hmem)
    by_cases hlong : pathLimit < path.length
    · rw [if_pos hlong]
      simp [Nat.not_le.2 hlong]
    · rw [if_neg hlong]
      by_cases hempty : path = []
      · simp [hempty]
      · rw [if_neg (by simp [hempty])]
        exact iff_of_true rfl ⟨hfree, Nat.le_of_not_lt hlong, hempty⟩

/-- Of a path below one that can be looked at only the length is in question. -/
theorem check_below_iff {dir : Bytes} (hdir : check dir = .ok ()) {names : List Bytes}
    (h : ∀ n ∈ names, IsName n) :
    check (below dir names) = .ok () ↔ (below dir names).length ≤ pathLimit := by
  obtain ⟨hnull, -, hne⟩ := check_eq_ok_iff.1 hdir
  rw [check_eq_ok_iff]
  exact ⟨fun hcheck => hcheck.2.1,
    fun hlength => ⟨null_notMem_below hnull h, hlength, below_ne_nil hne h⟩⟩

end Path

namespace FileTree

open Recommend.Path (Step)

/-! ### Trees and their entries -/

/-- What holds of files, and of a directory if it holds of its entries, holds of every
tree. -/
@[elab_as_elim]
theorem inductionOn {motive : FileTree → Prop} (t : FileTree)
    (file : ∀ content, motive (.file content))
    (directory : ∀ entries, (∀ e ∈ entries, motive e.2) → motive (.directory entries)) :
    motive t :=
  match t with
  | .file content => file content
  | .directory entries => directory entries fun e _ => inductionOn e.2 file directory
termination_by sizeOf t
decreasing_by
  rename_i he
  have hentry := List.sizeOf_lt_of_mem he
  obtain ⟨name, t⟩ := e
  simp only [Prod.mk.sizeOf_spec, Recommend.FileTree.directory.sizeOf_spec] at *
  omega

/-- A tree as file systems have them: in every directory the names are names, and no two
of them are the same. -/
def WellFormed (t : FileTree) : Prop :=
  ∀ ns entries, t.reach? ns = some (.directory entries) →
    (entries.map Prod.fst).Nodup ∧ ∀ e ∈ entries, Path.IsName e.1

variable {entries : List (Bytes × FileTree)}

/-- Where names are distinct, an entry is found under its name. -/
theorem child?_eq_some_iff (h : (entries.map Prod.fst).Nodup) {name : Bytes}
    {t : FileTree} :
    child? entries name = some t ↔ (name, t) ∈ entries := by
  induction entries with
  | nil => simp [child?]
  | cons e entries ih =>
    obtain ⟨hnew, hrest⟩ := List.nodup_cons.1 h
    obtain ⟨first, t'⟩ := e
    rw [child?_cons, List.mem_cons, Prod.mk.injEq]
    by_cases hname : name = first
    · -- no later entry has the name of the first one
      subst hname
      have hlater : (name, t) ∉ entries := fun hmem => hnew (List.mem_map.2 ⟨_, hmem, rfl⟩)
      simp [hlater, eq_comm]
    · rw [if_neg hname, ih hrest]
      simp [hname]

theorem wellFormed_file (content : Bytes) : (file content).WellFormed := by
  intro ns entries hreach
  cases ns <;> cases hreach

/-- A directory is well-formed if its names are, and what stands under them is. -/
theorem wellFormed_directory_iff :
    (directory entries).WellFormed ↔
      ((entries.map Prod.fst).Nodup ∧ ∀ e ∈ entries, Path.IsName e.1) ∧
        ∀ e ∈ entries, e.2.WellFormed := by
  constructor
  · intro h
    have hnames := h [] entries rfl
    refine ⟨hnames, ?_⟩
    intro e he ns es hreach
    have hchild := (child?_eq_some_iff hnames.1).2 he
    exact h (e.1 :: ns) es (reach?_cons_eq_some_iff.2 ⟨entries, e.2, rfl, hchild, hreach⟩)
  · rintro ⟨hnames, hbelow⟩ ns es hreach
    cases ns with
    | nil =>
      cases hreach
      exact hnames
    | cons name ns =>
      obtain ⟨_, t, heq, hchild, ht⟩ := reach?_cons_eq_some_iff.1 hreach
      cases heq
      exact hbelow (name, t) ((child?_eq_some_iff hnames.1).1 hchild) ns es ht

/-- A place may be reached in two stages. -/
theorem reach?_append {t u : FileTree} {ns : List Bytes} (h : t.reach? ns = some u)
    (ns' : List Bytes) : t.reach? (ns ++ ns') = u.reach? ns' := by
  induction ns generalizing t with
  | nil =>
    obtain rfl := Option.some.inj h
    rfl
  | cons n ns ih =>
    obtain ⟨es, below, rfl, hchild, hbelow⟩ := reach?_cons_eq_some_iff.1 h
    rw [List.cons_append, reach?, hchild]
    exact ih hbelow

/-- What stands in a well-formed tree is well-formed. -/
theorem WellFormed.of_reach? {t u : FileTree} (h : t.WellFormed) {ns : List Bytes}
    (hreach : t.reach? ns = some u) : u.WellFormed := by
  intro ns' es hes
  rw [← reach?_append hreach] at hes
  exact h _ es hes

/-- The names that lead to a place are names. -/
theorem WellFormed.isName {t u : FileTree} (h : t.WellFormed) {ns : List Bytes}
    (hreach : t.reach? ns = some u) : ∀ n ∈ ns, Path.IsName n := by
  induction ns generalizing t with
  | nil => exact List.forall_mem_nil _
  | cons n ns ih =>
    obtain ⟨es, below, rfl, hchild, hbelow⟩ := reach?_cons_eq_some_iff.1 hreach
    obtain ⟨⟨hnodup, hnames⟩, hentries⟩ := wellFormed_directory_iff.1 h
    have hentry := (child?_eq_some_iff hnodup).1 hchild
    exact List.forall_mem_cons.2 ⟨hnames _ hentry, ih (hentries _ hentry) hbelow⟩

/-! ### The listing of a tree -/

/-- The entries of a directory in the order of their names, each with the files that it
holds. -/
def sortedFiles (entries : List (Bytes × FileTree)) :
    List (Bytes × List (List Bytes × Bytes)) :=
  (entries.map fun e => (e.1, e.2.files)).mergeSort fun a b => a.1 ≤ b.1

theorem filesOf_eq_map (entries : List (Bytes × FileTree)) :
    filesOf entries = entries.map fun e => (e.1, e.2.files) := by
  induction entries with
  | nil => rw [filesOf, List.map_nil]
  | cons e entries ih => rw [filesOf, ih, List.map_cons]

theorem files_directory (entries : List (Bytes × FileTree)) :
    (directory entries).files =
      (sortedFiles entries).flatMap fun found =>
        found.2.map fun file => (found.1 :: file.1, file.2) := by
  rw [files, filesOf_eq_map]
  rfl

theorem mem_sortedFiles_iff {found : Bytes × List (List Bytes × Bytes)} :
    found ∈ sortedFiles entries ↔ ∃ t, (found.1, t) ∈ entries ∧ t.files = found.2 := by
  rw [sortedFiles, (List.mergeSort_perm _ _).mem_iff, List.mem_map]
  constructor
  · rintro ⟨e, he, rfl⟩
    exact ⟨e.2, he, rfl⟩
  · rintro ⟨t, ht, hfiles⟩
    exact ⟨_, ht, by rw [hfiles]⟩

/-- The files of a directory are those of its entries, each behind the name of its
entry. -/
theorem mem_files_directory_iff {names : List Bytes} {content : Bytes} :
    (names, content) ∈ (directory entries).files ↔
      ∃ name t below, names = name :: below ∧ (name, t) ∈ entries ∧
        (below, content) ∈ t.files := by
  rw [files_directory, List.mem_flatMap]
  constructor
  · rintro ⟨found, hfound, hmem⟩
    obtain ⟨⟨below, content'⟩, hbelow, heq⟩ := List.mem_map.1 hmem
    obtain ⟨t, ht, hfiles⟩ := mem_sortedFiles_iff.1 hfound
    obtain ⟨rfl, rfl⟩ := Prod.mk.inj heq
    exact ⟨found.1, t, below, rfl, ht, hfiles ▸ hbelow⟩
  · rintro ⟨name, t, below, rfl, ht, hbelow⟩
    have hfound : (name, t.files) ∈ sortedFiles entries :=
      mem_sortedFiles_iff.2 ⟨t, ht, rfl⟩
    exact ⟨(name, t.files), hfound, List.mem_map.2 ⟨_, hbelow, rfl⟩⟩

/-- The listing of a tree has exactly the files that stand at the end of names. -/
theorem mem_files_iff {t : FileTree} (h : t.WellFormed) {names : List Bytes}
    {content : Bytes} :
    (names, content) ∈ t.files ↔ t.reach? names = some (.file content) := by
  induction t using inductionOn generalizing names with
  | file content' =>
    rw [files, List.mem_singleton]
    cases names <;> simp [reach?, eq_comm]
  -- the induction hypothesis is about the entries, which are well-formed with the
  -- directory
  | directory entries ih =>
    obtain ⟨⟨hnames, -⟩, hbelow⟩ := wellFormed_directory_iff.1 h
    rw [mem_files_directory_iff]
    constructor
    · rintro ⟨name, t, below, rfl, ht, hmem⟩
      rw [ih _ ht (hbelow _ ht)] at hmem
      have hchild := (child?_eq_some_iff hnames).2 ht
      exact reach?_cons_eq_some_iff.2 ⟨entries, t, rfl, hchild, hmem⟩
    · intro hreach
      cases names with
      | nil => cases hreach
      | cons name below =>
        obtain ⟨_, t, heq, hchild, ht⟩ := reach?_cons_eq_some_iff.1 hreach
        cases heq
        have hentry := (child?_eq_some_iff hnames).1 hchild
        exact ⟨name, t, below, rfl, hentry, (ih _ hentry (hbelow _ hentry)).2 ht⟩

/-! ### The order of paths -/

/-- The entries of a directory come in the strict order of their names. -/
theorem pairwise_sortedFiles (h : (entries.map Prod.fst).Nodup) :
    (sortedFiles entries).Pairwise fun a b => a.1 < b.1 := by
  have hsorted : (sortedFiles entries).Pairwise fun a b => a.1 ≤ b.1 := by
    have hmerge := @List.pairwise_mergeSort (Bytes × List (List Bytes × Bytes))
      (fun a b => decide (a.1 ≤ b.1)) (fun a b c => by simpa using List.le_trans)
      (fun a b => by simpa using List.le_total a.1 b.1)
      (entries.map fun e => (e.1, e.2.files))
    simpa [sortedFiles] using hmerge
  -- sorting only permutes the entries, so their names stay distinct
  have hnames : (sortedFiles entries).Pairwise fun a b => a.1 ≠ b.1 := by
    have hperm : ((sortedFiles entries).map Prod.fst).Perm (entries.map Prod.fst) := by
      have hmap := (List.mergeSort_perm (entries.map fun e => (e.1, e.2.files))
        fun a b => decide (a.1 ≤ b.1)).map Prod.fst
      rwa [List.map_map] at hmap
    exact List.pairwise_map.1 (hperm.nodup_iff.2 h)
  apply (hsorted.and hnames).imp
  rintro a b ⟨hle, hne⟩
  exact List.not_le.1 fun hge => hne (List.le_antisymm hle hge)

/-- A tree is listed in the order of paths: the first name that differs decides, and a
path comes before those that go on from it. -/
theorem pairwise_files {t : FileTree} (h : t.WellFormed) :
    t.files.Pairwise fun a b => a.1 < b.1 := by
  induction t using inductionOn with
  | file content =>
    rw [files]
    exact List.pairwise_singleton _ _
  | directory entries ih =>
    obtain ⟨⟨hnames, -⟩, hbelow⟩ := wellFormed_directory_iff.1 h
    rw [files_directory, List.pairwise_flatMap]
    constructor
    · -- below one entry the paths go on from the same name
      rintro ⟨name, found⟩ hfound
      obtain ⟨t, ht, rfl⟩ := mem_sortedFiles_iff.1 hfound
      rw [List.pairwise_map]
      apply (ih _ ht (hbelow _ ht)).imp
      intro a b hlt
      exact List.cons_lt_cons_iff.2 (.inr ⟨rfl, hlt⟩)
    · -- below two entries their names decide
      apply (pairwise_sortedFiles hnames).imp
      intro a b hlt x hx y hy
      obtain ⟨file, -, rfl⟩ := List.mem_map.1 hx
      obtain ⟨file', -, rfl⟩ := List.mem_map.1 hy
      exact List.cons_lt_cons_iff.2 (.inl hlt)

/-! ### Looking files up -/

/-- Names are walked along like the entries that they name. -/
theorem walk_names {root u : FileTree} {names : List Bytes} (h : ∀ n ∈ names, Path.IsName n)
    {trail : Trail} (hreach : (root.place trail).reach? names = some u) :
    ∃ trail', root.walk trail (names.map .enter) = .ok trail' ∧ root.place trail' = u := by
  induction names generalizing trail with
  | nil => exact ⟨trail, rfl, Option.some.inj hreach⟩
  | cons n names ih =>
    obtain ⟨hn, hnames⟩ := List.forall_mem_cons.1 h
    obtain ⟨es, below, hplace, hchild, hbelow⟩ := reach?_cons_eq_some_iff.1 hreach
    -- the walk goes on from the entry, which is the last thing on the trail
    obtain ⟨trail', hwalk, hend⟩ := @ih hnames ((n, below) :: trail) hbelow
    refine ⟨trail', ?_, hend⟩
    rw [List.map_cons, walk_cons_eq_ok_iff]
    exact ⟨es, hplace, .inr (.inr ⟨n, below, rfl, hn.short, hchild, hwalk⟩)⟩

/-- What a path leads to once it has passed its check. -/
theorem openPath_eq_ok_iff {t u : FileTree} {path : Bytes} :
    t.openPath path = .ok u ↔ Path.check path = .ok () ∧
      ∃ trail, t.walk [] (Path.lookupSteps path) = .ok trail ∧ t.place trail = u := by
  constructor
  · intro h
    obtain ⟨-, hcheck, hwalk⟩ := openPath_eq_ok h
    exact ⟨hcheck, hwalk⟩
  · rintro ⟨hcheck, trail, hwalk, rfl⟩
    rw [openPath, hcheck]
    dsimp only [bind, Except.bind]
    rw [follow, hwalk]
    rfl

/-- A further step `.` stays in a directory, as long as the path does not get too long. -/
theorem openPath_append_stays {t : FileTree} {path : Bytes}
    (h : t.openPath path = .ok (.directory entries)) (n : Nat)
    (hlength : path.length + 2 * n ≤ Path.pathLimit) :
    t.openPath (path ++ (List.replicate n [Path.slash, Path.point]).flatten) =
      .ok (.directory entries) := by
  induction n with
  | zero => simpa using h
  | succ n ih =>
    have hopen := ih (by omega)
    rw [List.replicate_succ', List.flatten_concat, ← List.append_assoc]
    have hsize : (path ++ (List.replicate n [Path.slash, Path.point]).flatten).length =
        path.length + 2 * n := by simp [Nat.mul_comm]
    -- only that the path leads to the directory matters, and how long it is
    revert hopen hsize
    generalize path ++ (List.replicate n [Path.slash, Path.point]).flatten = longer
    intro hopen hsize
    obtain ⟨hcheck, -⟩ := openPath_eq_ok_iff.1 hopen
    obtain ⟨hnull, -, -⟩ := Path.check_eq_ok_iff.1 hcheck
    obtain ⟨ns, hdir⟩ := directoryAt_of_openPath hopen
    obtain ⟨trail, hwalk, hplace, -⟩ := directoryAt_eq_ok_iff.1 hdir
    have hsteps : Path.lookupSteps (longer ++ [Path.slash, Path.point]) =
        Path.steps longer ++ [.stay] := by
      have hend : Path.endsInSlash (longer ++ [Path.slash, Path.point]) = false := by
        simp [Path.endsInSlash, Path.slash, Path.point]
      rw [Path.lookupSteps, hend, Path.steps_append_cons]
      exact List.append_nil _
    have hfits : Path.check (longer ++ [Path.slash, Path.point]) = .ok () := by
      apply Path.check_eq_ok_iff.2
      refine ⟨?_, ?_, by simp⟩
      · simp [hnull, Path.slash, Path.point]
      · rw [List.length_append, hsize]
        exact hlength
    refine openPath_eq_ok_iff.2 ⟨hfits, trail, ?_, hplace⟩
    rw [hsteps, walk_append, hwalk]
    exact walk_cons_eq_ok_iff.2 ⟨entries, hplace, .inl ⟨rfl, rfl⟩⟩

/-- There is a file at a path iff a file can be opened there. -/
theorem hasFile_eq_true_iff {t : FileTree} {path : Bytes} :
    t.hasFile path = true ↔ ∃ content, t.openPath path = .ok (.file content) := by
  unfold hasFile
  split
  next content hopen => simp [hopen]
  next hother =>
    refine iff_of_false Bool.false_ne_true ?_
    rintro ⟨content, hopen⟩
    exact hother content hopen

/-- **A file below a directory can be looked up by its whole path iff that is not too
long.** -/
theorem hasFile_below_iff {tree : FileTree} (h : tree.WellFormed) {path : Bytes}
    (hopen : tree.openPath path = .ok (.directory entries)) {names : List Bytes}
    {content : Bytes} (hfile : (directory entries).reach? names = some (.file content)) :
    tree.hasFile (Path.below path names) = true ↔
      (Path.below path names).length ≤ Path.pathLimit := by
  obtain ⟨hcheck, -⟩ := openPath_eq_ok_iff.1 hopen
  obtain ⟨ns, hdir⟩ := directoryAt_of_openPath hopen
  have hwell : (directory entries).WellFormed := h.of_reach? (reach?_of_directoryAt hdir)
  have hnames := hwell.isName hfile
  have hne : names ≠ [] := by
    rintro rfl
    cases hfile
  -- the walk goes to the directory first, and on from there along the names
  obtain ⟨trail, hwalk, hplace, -⟩ := directoryAt_eq_ok_iff.1 hdir
  rw [← hplace] at hfile
  obtain ⟨trail', hwalk', hend⟩ := walk_names hnames hfile
  have hlookup : tree.walk [] (Path.lookupSteps (Path.below path names)) = .ok trail' := by
    rw [Path.lookupSteps_below path hne hnames, walk_append, hwalk]
    exact hwalk'
  rw [← Path.check_below_iff hcheck hnames, hasFile_eq_true_iff]
  constructor
  · rintro ⟨content', hopen'⟩
    exact (openPath_eq_ok_iff.1 hopen').1
  · intro hfits
    exact ⟨content, openPath_eq_ok_iff.2 ⟨hfits, trail', hlookup, hend⟩⟩

/-! ### Inputs -/

/-- A name is pointed iff it is a text that starts with a point. -/
theorem isPointed_iff {name : Bytes} :
    isPointed name = true ↔ ∃ rest, name = Bytes.ofText ("." ++ rest) := by
  unfold isPointed
  split
  next s hs =>
    rw [beq_iff_eq, List.head?_eq_some_iff]
    constructor
    · rintro ⟨cs, hcs⟩
      have hname : s = "." ++ String.ofList cs := by
        apply String.toList_inj.1
        simp [hcs]
      exact ⟨String.ofList cs, by rw [← hname, Bytes.ofText_of_text? hs]⟩
    · rintro ⟨rest, rfl⟩
      rw [Bytes.text?_ofText] at hs
      obtain rfl := Option.some.inj hs
      exact ⟨rest.toList, String.toList_append⟩
  -- a name that is no text is not pointed, whatever its first byte is
  next hnone =>
    refine iff_of_false (by simp) ?_
    rintro ⟨rest, rfl⟩
    rw [Bytes.text?_ofText] at hnone
    cases hnone

/-- A path is hidden if its last name is a text that starts with a point. -/
theorem isHidden_iff {names : List Bytes} :
    isHidden names = true ↔ ∃ above rest,
      names = above ++ [Bytes.ofText ("." ++ rest)] := by
  unfold isHidden
  split
  next name hlast =>
    obtain ⟨above, rfl⟩ := List.getLast?_eq_some_iff.1 hlast
    rw [isPointed_iff]
    constructor
    · rintro ⟨rest, rfl⟩
      exact ⟨above, rest, rfl⟩
    · rintro ⟨above', rest, heq⟩
      obtain ⟨-, hname⟩ := List.append_inj' heq rfl
      exact ⟨rest, List.singleton_inj.1 hname⟩
  next hnone =>
    rw [List.getLast?_eq_none_iff.1 hnone]
    simp

section Inputs

variable {tree : FileTree} {path : Bytes}

theorem inputs_eq_filter (hopen : tree.openPath path = .ok (.directory entries)) :
    tree.inputs path = (directory entries).files.filter fun found =>
      tree.hasFile (Path.below path found.1) && !isHidden found.1 := by
  rw [inputs, hopen]

/-- What the inputs below a directory are, file by file. -/
theorem mem_inputs_iff (h : tree.WellFormed)
    (hopen : tree.openPath path = .ok (.directory entries)) {names : List Bytes}
    {content : Bytes} :
    (names, content) ∈ tree.inputs path ↔
      (directory entries).reach? names = some (.file content) ∧
        (Path.below path names).length ≤ Path.pathLimit ∧ isHidden names = false := by
  obtain ⟨ns, hdir⟩ := directoryAt_of_openPath hopen
  have hwell : (directory entries).WellFormed := h.of_reach? (reach?_of_directoryAt hdir)
  rw [inputs_eq_filter hopen, List.mem_filter, mem_files_iff hwell, Bool.and_eq_true,
    Bool.not_eq_true']
  -- the lookup is only in question for a file that is there
  apply and_congr_right
  intro hfile
  rw [hasFile_below_iff h hopen hfile]

/-- Inputs come in the order of paths. -/
theorem pairwise_inputs (h : tree.WellFormed)
    (hopen : tree.openPath path = .ok (.directory entries)) :
    (tree.inputs path).Pairwise fun a b => a.1 < b.1 := by
  obtain ⟨ns, hdir⟩ := directoryAt_of_openPath hopen
  rw [inputs_eq_filter hopen]
  exact (pairwise_files (h.of_reach? (reach?_of_directoryAt hdir))).filter _

/-- **The inputs below a directory are all its files that can be looked up and are not
hidden, each once and in the order of paths.**  A file is among them, with its content,
iff it stands at the end of names in the directory, at whatever depth, its whole path is
not too long, and its own name is not a text that starts with a point; the names of the
directories above it do not matter.  Paths are compared name by name, and names by their
bytes. -/
theorem inputs_of_directory (h : tree.WellFormed)
    (hopen : tree.openPath path = .ok (.directory entries)) :
    (∀ names content, (names, content) ∈ tree.inputs path ↔
      (directory entries).reach? names = some (.file content) ∧
        (Path.below path names).length ≤ 4095 ∧
        ¬∃ above rest, names = above ++ [Bytes.ofText ("." ++ rest)]) ∧
      ((tree.inputs path).map Prod.fst).Nodup ∧
      (tree.inputs path).Pairwise fun a b => a.1 < b.1 := by
  have hsorted := pairwise_inputs h hopen
  refine ⟨?_, ?_, hsorted⟩
  · intro names content
    rw [mem_inputs_iff h hopen, ← isHidden_iff, Bool.not_eq_true]
    rfl
  · rw [List.Nodup, List.pairwise_map]
    apply hsorted.imp
    rintro a b hlt heq
    rw [heq] at hlt
    exact List.lt_irrefl _ hlt

end Inputs

/-- A hidden file, a file in a hidden directory, a file with a name that is no text, and
a directory whose name is the start of a file's name: as texts the two paths are the
other way round. -/
theorem inputs_of_directory_mixed :
    let entries : List (Bytes × FileTree) := [("a.csv", file [1]), (".h", .file []),
      ("a", .directory [(".z", .file []), ("z.csv", .file [2])]),
      (".d", .directory [("x.csv", .file [3]), ([46, 255], .file [4])])]
    let tree := directory [("in", .directory entries)]
    tree.WellFormed ∧ tree.openPath "in" = .ok (.directory entries) ∧
      (["a", "z.csv"].map Bytes.ofText, [2]) ∈ tree.inputs "in" ∧
      ([".d", "x.csv"].map Bytes.ofText, [3]) ∈ tree.inputs "in" ∧
      ([Bytes.ofText ".d", [46, 255]], [4]) ∈ tree.inputs "in" ∧
      (∀ content, (["a", ".z"].map Bytes.ofText, content) ∉ tree.inputs "in") ∧
      ((tree.inputs "in").Pairwise fun a b => a.1 < b.1) ∧
      ["a", "z.csv"].map Bytes.ofText < ["a.csv"].map Bytes.ofText ∧
      Bytes.ofText "a.csv" < Bytes.ofText "a/z.csv" := by
  intro entries tree
  have hwell : tree.WellFormed := by
    simp only [tree, entries, wellFormed_directory_iff, List.forall_mem_cons,
      wellFormed_file, List.not_mem_nil, false_imp_iff, implies_true, and_true,
      true_and]
    decide +kernel
  have hopen : tree.openPath "in" = .ok (.directory entries) := rfl
  obtain ⟨hmem, -, hsorted⟩ := inputs_of_directory hwell hopen
  have hshown : ∀ names content, (directory entries).reach? names = some (.file content) →
      (Path.below "in" names).length ≤ 4095 → isHidden names = false →
      (names, content) ∈ tree.inputs "in" := by
    intro names content hreach hlength hshown
    refine (hmem names content).2 ⟨hreach, hlength, ?_⟩
    rw [← isHidden_iff, hshown]
    exact Bool.false_ne_true
  refine ⟨hwell, hopen, hshown _ _ rfl (by decide) (by decide),
    hshown _ _ rfl (by decide) (by decide), hshown _ _ rfl (by decide) (by decide), ?_,
    hsorted, by decide, by decide⟩
  intro content hin
  exact ((hmem _ _).1 hin).2.2 ⟨[Bytes.ofText "a"], "z", rfl⟩

/-- A file's own name alone does not decide whether it is an input.  Below a long path a
file is left out that is not hidden, and a file whose name starts with a point is not
left out if the name is no text. -/
theorem inputs_below_long_path :
    let long : Bytes := List.replicate 250 110
    let entries : List (Bytes × FileTree) :=
      [("a", file [1]), (long, .file [2]), ([Path.point, 255], .file [3])]
    let tree := directory [("in", .directory entries)]
    let path := Bytes.ofText "in" ++ (List.replicate 1950 [Path.slash, Path.point]).flatten
    tree.openPath path = .ok (.directory entries) ∧
      (directory entries).reach? [long] = some (.file [2]) ∧ long.head? ≠ some Path.point ∧
      ([long], [2]) ∉ tree.inputs path ∧ ([Bytes.ofText "a"], [1]) ∈ tree.inputs path ∧
      ([[Path.point, 255]], [3]) ∈ tree.inputs path := by
  intro long entries tree path
  have hwell : tree.WellFormed := by
    simp only [tree, entries, wellFormed_directory_iff, List.forall_mem_cons,
      wellFormed_file, List.not_mem_nil, false_imp_iff, implies_true, and_true]
    decide +kernel
  have hin : tree.openPath "in" = .ok (.directory entries) := rfl
  have hopen : tree.openPath path = .ok (.directory entries) :=
    openPath_append_stays hin 1950 (by decide +kernel)
  have hlong : child? entries long = some (.file [2]) :=
    (child?_eq_some_iff (by decide +kernel)).2 (by simp [entries])
  have hreach : (directory entries).reach? [long] = some (.file [2]) :=
    reach?_cons_eq_some_iff.2 ⟨entries, _, rfl, hlong, rfl⟩
  refine ⟨hopen, hreach, by decide, ?_, ?_, ?_⟩
  · intro hmem
    exact absurd ((mem_inputs_iff hwell hopen).1 hmem).2.1 (by decide +kernel)
  · exact (mem_inputs_iff hwell hopen).2 ⟨rfl, by decide +kernel, by decide⟩
  · exact (mem_inputs_iff hwell hopen).2 ⟨rfl, by decide +kernel, by decide⟩

end FileTree

end Recommend
