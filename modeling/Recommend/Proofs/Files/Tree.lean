import Recommend.Files.Tree
import Recommend.Proofs.Text.Bytes

/-!
Files that are written into a directory stand there.

A path leads to a directory along names (`directoryAt`), and writing puts an entry into
it.  The names are those of the tree before the writing; what is read afterwards is
found by walking the path again, and the path may go up and down through the very
directory that has changed.  So trees are compared by what stands at the end of names
(`reach?`): a tree `Extends` another one if all its places are there and its directories
still are directories, walks in the one then succeed in the other along the same names
(`walk_of_extends`), and putting an entry where no directory stands extends a tree
(`extends_insert`).

The results are about an entry of a directory: it can be written (`writeFile_join`), the
directory is then the same but for that entry (`directoryAt_insert`), and the entry can
be opened (`openPath_join`).
-/

namespace Recommend

/-! ### Paths of entries -/

namespace Path

/-- A name that an entry of a directory can have: one step, and neither a null in it nor
too many bytes. -/
structure IsName (name : Bytes) : Prop where
  slash_notMem : slash ∉ name
  null_notMem : 0 ∉ name
  ne_nil : name ≠ []
  step : Step.ofName name = .enter name
  short : isTooLong name = false

instance (name : Bytes) : Decidable (IsName name) :=
  decidable_of_iff
    (slash ∉ name ∧ 0 ∉ name ∧ name ≠ [] ∧ Step.ofName name = .enter name ∧
      isTooLong name = false)
    ⟨fun ⟨slash_notMem, null_notMem, ne_nil, step, short⟩ =>
        { slash_notMem, null_notMem, ne_nil, step, short },
      fun h => ⟨h.slash_notMem, h.null_notMem, h.ne_nil, h.step, h.short⟩⟩

/-- A name is a path of one step. -/
theorem steps_of_isName {name : Bytes} (h : IsName name) : steps name = [.enter name] := by
  -- without a slash the name is one piece
  have hfree : ∀ b ∈ name, (b == slash) = false := by
    intro b hb
    rw [beq_eq_false_iff_ne]
    rintro rfl
    exact h.slash_notMem hb
  have hend : Text.splitBy (· == slash) [] = [[]] := rfl
  have hsplit := Text.splitBy_append hfree hend
  rw [List.append_nil] at hsplit
  rw [steps, hsplit, ← h.step]
  simp [h.ne_nil]

/-- A slash divides the steps before it from those after it. -/
theorem steps_append_cons (before after : Bytes) :
    steps (before ++ slash :: after) = steps before ++ steps after := by
  have hslash : (slash == slash) = true := rfl
  rw [steps, Text.splitBy_append_cons (p := (· == slash)) hslash, List.filter_append,
    List.map_append]
  rfl

/-- The steps of an entry are those of its directory, and one more. -/
theorem steps_join (dir : Bytes) {name : Bytes} (h : IsName name) :
    steps (join dir name) = steps dir ++ [.enter name] := by
  have hnone : steps [] = [] := rfl
  rw [← steps_of_isName h, join]
  split
  next hempty =>
    rw [List.isEmpty_iff.1 hempty, hnone, List.nil_append]
  next =>
    split
    next hend =>
      -- behind the slash that the directory ends in there are no steps
      obtain ⟨bs, rfl⟩ : ∃ bs, dir = bs ++ [slash] :=
        List.getLast?_eq_some_iff.1 (eq_of_beq hend)
      rw [List.append_assoc, List.singleton_append, steps_append_cons,
        steps_append_cons, hnone, List.append_nil]
    next => exact steps_append_cons dir name

/-- The path of an entry does not end in a slash. -/
theorem endsInSlash_join (dir : Bytes) {name : Bytes} (h : IsName name) :
    endsInSlash (join dir name) = false := by
  have hsome : name.getLast?.isSome = true := by simp [h.ne_nil]
  -- the path ends with the last byte of the name, however the two are joined
  have hlast : (join dir name).getLast? = name.getLast? := by
    rw [join]
    split
    next => rfl
    next =>
      split
      next => rw [List.getLast?_append, Option.or_of_isSome hsome]
      next => rw [List.getLast?_append, List.getLast?_cons_of_ne_nil h.ne_nil,
        Option.or_of_isSome hsome]
  rw [endsInSlash, hlast, beq_eq_false_iff_ne]
  intro hend
  exact h.slash_notMem (List.mem_of_getLast? hend)

/-- Looking something up takes a step at least. -/
theorem lookupSteps_ne_nil {path : Bytes} (h : path ≠ []) : lookupSteps path ≠ [] := by
  intro hnil
  obtain ⟨hsteps, hslash⟩ := List.append_eq_nil_iff.1 hnil
  obtain ⟨b, hb⟩ : ∃ b, path.getLast? = some b := by
    rw [← Option.isSome_iff_exists]
    simp [h]
  -- no piece has a byte, so each byte is a slash, and the last one is
  have hempty : path.filter (fun b => !(b == slash)) = [] := by
    rw [← Text.flatten_splitBy (· == slash), List.flatten_eq_nil_iff]
    intro piece hpiece
    rw [steps, List.map_eq_nil_iff, List.filter_eq_nil_iff] at hsteps
    simpa using hsteps piece hpiece
  have hlast : b = slash := by
    simpa using List.filter_eq_nil_iff.1 hempty b (List.mem_of_getLast? hb)
  rw [endsInSlash, hb, hlast] at hslash
  cases hslash

/-- Looking an entry up takes the steps of its directory, and one more. -/
theorem lookupSteps_join (dir : Bytes) {name : Bytes} (h : IsName name) :
    lookupSteps (join dir name) = steps dir ++ [.enter name] := by
  rw [lookupSteps, endsInSlash_join dir h, steps_join dir h]
  exact List.append_nil _

/-- The bytes of a path that is joined as text are joined as bytes. -/
theorem ofText_joinText (dir name : String) :
    Bytes.ofText (joinText dir name) = join (Bytes.ofText dir) (Bytes.ofText name) := by
  have hempty : (Bytes.ofText dir).isEmpty = dir.isEmpty := by
    rw [Bool.eq_iff_iff, List.isEmpty_iff, Bytes.ofText_eq_nil_iff, String.isEmpty_iff]
  rw [joinText, join, hempty]
  split
  next => rfl
  next =>
    split
    next => exact Bytes.ofText_append dir name
    next =>
      rw [Bytes.ofText_append, Bytes.ofText_append, List.append_assoc]
      rfl

end Path

namespace FileTree

open Recommend.Path (Step)

/-! ### Entries -/

theorem child?_cons (e : Bytes × FileTree) (entries : List (Bytes × FileTree))
    (name : Bytes) :
    child? (e :: entries) name = if name = e.1 then some e.2 else child? entries name := by
  obtain ⟨name', t⟩ := e
  by_cases h : name = name'
  · simp [child?, h]
  · simp [child?, List.lookup_cons, beq_false_of_ne h, h]

/-- The new entry is found under its name. -/
theorem child?_setEntry_self (name : Bytes) (t : FileTree)
    (entries : List (Bytes × FileTree)) :
    child? (setEntry name t entries) name = some t := by
  induction entries with
  | nil => rw [setEntry, child?_cons, if_pos rfl]
  | cons e entries ih =>
    rw [setEntry]
    split
    next => rw [child?_cons, if_pos rfl]
    next hne => rw [child?_cons, if_neg (Ne.symm hne), ih]

/-- All other entries are found as before. -/
theorem child?_setEntry_of_ne {name name' : Bytes} (h : name' ≠ name) (t : FileTree)
    (entries : List (Bytes × FileTree)) :
    child? (setEntry name t entries) name' = child? entries name' := by
  induction entries with
  | nil => rw [setEntry, child?_cons, if_neg h]
  | cons e entries ih =>
    rw [setEntry]
    split
    next heq => rw [child?_cons, child?_cons, if_neg h, if_neg (heq ▸ h)]
    next => rw [child?_cons, child?_cons, ih]

/-! ### Places -/

/-- What stands at the end of the names. -/
def reach? : FileTree → List Bytes → Option FileTree
  | t, [] => some t
  | directory entries, name :: names => (child? entries name).bind fun t => t.reach? names
  | file _, _ :: _ => none

theorem reach?_cons_eq_some_iff {t u : FileTree} {name : Bytes} {ns : List Bytes} :
    t.reach? (name :: ns) = some u ↔
      ∃ entries below, t = .directory entries ∧ child? entries name = some below ∧
        below.reach? ns = some u := by
  cases t with
  | file content => simp [reach?]
  | directory entries => simp [reach?, Option.bind_eq_some_iff]

/-- One name further on from a directory stands the entry of that name. -/
theorem reach?_concat {t : FileTree} {ns : List Bytes} {entries : List (Bytes × FileTree)}
    (h : t.reach? ns = some (.directory entries)) (name : Bytes) :
    t.reach? (ns ++ [name]) = child? entries name := by
  induction ns generalizing t with
  | nil =>
    obtain rfl := Option.some.inj h
    rw [List.nil_append, reach?]
    cases child? entries name with
    | none => rfl
    | some u => rfl
  | cons n ns ih =>
    obtain ⟨es, below, rfl, hchild, hbelow⟩ := reach?_cons_eq_some_iff.1 h
    rw [List.cons_append, reach?, hchild]
    exact ih hbelow

/-- A directory into which something is put has the entry set. -/
theorem reach?_insert {t : FileTree} {ns : List Bytes} {entries : List (Bytes × FileTree)}
    (h : t.reach? ns = some (.directory entries)) (name : Bytes) (new : FileTree) :
    (insert name new ns t).reach? ns = some (.directory (setEntry name new entries)) := by
  induction ns generalizing t with
  | nil =>
    obtain rfl := Option.some.inj h
    rfl
  | cons n ns ih =>
    obtain ⟨es, below, rfl, hchild, hbelow⟩ := reach?_cons_eq_some_iff.1 h
    rw [insert, hchild]
    dsimp only
    rw [reach?, child?_setEntry_self]
    exact ih hbelow

/-- Every place of the one tree is there in the other, and what was a directory is one. -/
def Extends (t t' : FileTree) : Prop :=
  ∀ ns u, t.reach? ns = some u →
    ∃ u', t'.reach? ns = some u' ∧ ∀ es, u = .directory es → ∃ es', u' = .directory es'

/-- Below a file there is nothing to keep. -/
theorem extends_file (content : Bytes) (new : FileTree) : (file content).Extends new := by
  intro ns u hu
  cases ns with
  | nil =>
    obtain rfl := Option.some.inj hu
    exact ⟨new, rfl, fun _ hdir => by cases hdir⟩
  | cons n ns => cases hu

/-- A directory is extended if the entry that is replaced is. -/
theorem extends_setEntry {entries : List (Bytes × FileTree)} {name : Bytes} {new : FileTree}
    (h : ∀ old, child? entries name = some old → old.Extends new) :
    (directory entries).Extends (directory (setEntry name new entries)) := by
  intro ns u hu
  cases ns with
  | nil =>
    obtain rfl := Option.some.inj hu
    exact ⟨_, rfl, fun _ _ => ⟨_, rfl⟩⟩
  | cons n ns =>
    obtain ⟨es, below, heq, hchild, hbelow⟩ := reach?_cons_eq_some_iff.1 hu
    cases heq
    -- below the name that is set the new entry counts, elsewhere nothing has changed
    by_cases hn : n = name
    · subst hn
      obtain ⟨u', hu', hdir⟩ := h below hchild ns u hbelow
      exact ⟨u', reach?_cons_eq_some_iff.2 ⟨_, new, rfl, child?_setEntry_self _ _ _, hu'⟩,
        hdir⟩
    · rw [← child?_setEntry_of_ne hn new] at hchild
      exact ⟨u, reach?_cons_eq_some_iff.2 ⟨_, below, rfl, hchild, hbelow⟩,
        fun es hes => ⟨es, hes⟩⟩

/-- Putting an entry where no directory stands extends the tree. -/
theorem extends_insert {t : FileTree} {ns : List Bytes} {entries : List (Bytes × FileTree)}
    (h : t.reach? ns = some (.directory entries)) {name : Bytes}
    (hfree : ∀ es, child? entries name ≠ some (.directory es)) (new : FileTree) :
    t.Extends (insert name new ns t) := by
  induction ns generalizing t with
  | nil =>
    obtain rfl := Option.some.inj h
    apply extends_setEntry
    intro old hold
    cases old with
    | file content => exact extends_file content new
    -- only a file may give way to the new entry
    | directory es => exact absurd hold (hfree es)
  | cons n ns ih =>
    obtain ⟨es, below, rfl, hchild, hbelow⟩ := reach?_cons_eq_some_iff.1 h
    rw [insert, hchild]
    apply extends_setEntry
    intro old hold
    rw [hchild] at hold
    cases hold
    exact ih hbelow

/-! ### Walks -/

/-- The trail goes from the root along entries of the tree. -/
inductive Rooted (root : FileTree) : Trail → Prop
  | nil : Rooted root []
  | cons {trail : Trail} {entries : List (Bytes × FileTree)} {name : Bytes} {t : FileTree} :
    Rooted root trail → root.place trail = .directory entries →
      child? entries name = some t →
    Rooted root ((name, t) :: trail)

theorem names_cons (name : Bytes) (t : FileTree) (trail : Trail) :
    names ((name, t) :: trail) = names trail ++ [name] := by
  simp [names]

/-- The names of a trail lead to where the trail ends. -/
theorem Rooted.reach?_names {root : FileTree} {trail : Trail} (h : Rooted root trail) :
    root.reach? (names trail) = some (root.place trail) := by
  induction h with
  | nil => rfl
  | cons _ hplace hchild ih =>
    rw [hplace] at ih
    rw [names_cons, reach?_concat ih, hchild]
    rfl

theorem Rooted.tail {root : FileTree} {trail : Trail} (h : Rooted root trail) :
    Rooted root trail.tail := by
  cases h with
  | nil => exact .nil
  | cons htail _ _ => exact htail

/-- The first step of a walk that succeeds is taken in a directory. -/
theorem walk_cons_eq_ok_iff {root : FileTree} {trail trail' : Trail} {step : Step}
    {steps : List Step} :
    root.walk trail (step :: steps) = .ok trail' ↔
      ∃ entries, root.place trail = .directory entries ∧
        ((step = .stay ∧ root.walk trail steps = .ok trail') ∨
          (step = .up ∧ root.walk trail.tail steps = .ok trail') ∨
          ∃ name t, step = .enter name ∧ Path.isTooLong name = false ∧
            child? entries name = some t ∧
            root.walk ((name, t) :: trail) steps = .ok trail') := by
  -- no step leads on from a file, whatever the step is
  cases hplace : root.place trail with
  | file content => simp [walk, hplace]
  | directory entries =>
    cases step with
    | stay => simp [walk, hplace]
    | up => simp [walk, hplace]
    | enter name =>
      cases hlong : Path.isTooLong name with
      | true => simp [walk, hplace, hlong]
      | false =>
        cases hchild : child? entries name with
        | none => simp [walk, hplace, hlong, hchild]
        | some t => simp [walk, hplace, hlong, hchild]

/-- A walk keeps to entries of the tree. -/
theorem Rooted.walk {root : FileTree} {trail trail' : Trail} {steps : List Step}
    (h : Rooted root trail) (hwalk : root.walk trail steps = .ok trail') :
    Rooted root trail' := by
  induction steps generalizing trail with
  | nil =>
    cases hwalk
    exact h
  | cons step steps ih =>
    obtain ⟨entries, hplace, ⟨-, hrest⟩ | ⟨-, hrest⟩ | ⟨name, t, -, -, hchild, hrest⟩⟩ :=
      walk_cons_eq_ok_iff.1 hwalk
    · exact ih h hrest
    · exact ih h.tail hrest
    · exact ih (h.cons hplace hchild) hrest

/-- A walk succeeds in a tree that extends the one where it did, and leads along the
same names. -/
theorem walk_of_extends {root root' : FileTree} (hext : root.Extends root')
    {steps : List Step} {trail trail' done : Trail} (h : Rooted root trail)
    (h' : Rooted root' trail') (hnames : trail'.map Prod.fst = trail.map Prod.fst)
    (hwalk : root.walk trail steps = .ok done) :
    ∃ done', root'.walk trail' steps = .ok done' ∧ names done' = names done := by
  -- the two walks take the same steps; only the places they see may differ
  induction steps generalizing trail trail' with
  | nil =>
    cases hwalk
    exact ⟨trail', rfl, congrArg List.reverse hnames⟩
  | cons step steps ih =>
    obtain ⟨entries, hplace, hstep⟩ := walk_cons_eq_ok_iff.1 hwalk
    have hreach := h.reach?_names
    have hreach' := h'.reach?_names
    have hsame : names trail' = names trail := congrArg List.reverse hnames
    rw [hplace] at hreach
    -- where the first walk stands in a directory, the second one does as well
    obtain ⟨u, hu, hdir⟩ := hext _ _ hreach
    obtain ⟨entries', rfl⟩ := hdir entries rfl
    have hplace' : root'.place trail' = .directory entries' := by
      rw [hsame, hu] at hreach'
      exact (Option.some.inj hreach').symm
    rcases hstep with ⟨rfl, hrest⟩ | ⟨rfl, hrest⟩ | ⟨name, t, rfl, hlong, hchild, hrest⟩
    · obtain ⟨done', hdone, heq⟩ := ih h h' hnames hrest
      exact ⟨done', walk_cons_eq_ok_iff.2 ⟨entries', hplace', .inl ⟨rfl, hdone⟩⟩, heq⟩
    · obtain ⟨done', hdone, heq⟩ :=
        ih h.tail h'.tail (by simp [List.map_tail, hnames]) hrest
      exact ⟨done', walk_cons_eq_ok_iff.2 ⟨entries', hplace', .inr (.inl ⟨rfl, hdone⟩)⟩,
        heq⟩
    · have hbelow : root.reach? (names trail ++ [name]) = some t := by
        rw [reach?_concat hreach, hchild]
      obtain ⟨t', ht', -⟩ := hext _ _ hbelow
      rw [reach?_concat hu] at ht'
      obtain ⟨done', hdone, heq⟩ :=
        ih (h.cons hplace hchild) (h'.cons hplace' ht') (by simp [hnames]) hrest
      exact ⟨done', walk_cons_eq_ok_iff.2
        ⟨entries', hplace', .inr (.inr ⟨name, t', rfl, hlong, ht', hdone⟩)⟩, heq⟩

/-- A walk may be taken in two stages. -/
theorem walk_append (root : FileTree) (trail : Trail) (steps steps' : List Step) :
    root.walk trail (steps ++ steps') = root.walk trail steps >>=
      fun mid => root.walk mid steps' := by
  induction steps generalizing trail with
  | nil => rfl
  | cons step steps ih =>
    rw [List.cons_append]
    cases hplace : root.place trail with
    | file content => simp [walk, hplace, bind, Except.bind]
    | directory entries =>
      cases step with
      | stay => simp [walk, hplace, ih]
      | up => simp [walk, hplace, ih]
      | enter name =>
        cases hlong : Path.isTooLong name with
        | true => simp [walk, hplace, hlong, bind, Except.bind]
        | false =>
          cases hchild : child? entries name with
          | none => simp [walk, hplace, hlong, hchild, bind, Except.bind]
          | some t => simp [walk, hplace, hlong, hchild, ih]

/-! ### Directories -/

/-- A directory is found at the end of a walk. -/
theorem directoryAt_eq_ok_iff {t : FileTree} {steps : List Step} {ns : List Bytes}
    {entries : List (Bytes × FileTree)} :
    t.directoryAt steps = .ok (ns, entries) ↔
      ∃ trail, t.walk [] steps = .ok trail ∧ t.place trail = .directory entries ∧
        names trail = ns := by
  unfold directoryAt
  cases t.walk [] steps with
  | error e => simp [bind, Except.bind]
  | ok trail =>
    dsimp only [bind, Except.bind]
    cases hplace : t.place trail with
    | file content => simp [hplace]
    | directory es => simp [hplace, and_comm]

/-- The names at which a directory is found lead to it. -/
theorem reach?_of_directoryAt {t : FileTree} {steps : List Step} {ns : List Bytes}
    {entries : List (Bytes × FileTree)} (h : t.directoryAt steps = .ok (ns, entries)) :
    t.reach? ns = some (.directory entries) := by
  obtain ⟨trail, hwalk, hplace, rfl⟩ := directoryAt_eq_ok_iff.1 h
  have hrooted : Rooted t trail := Rooted.nil.walk hwalk
  rw [hrooted.reach?_names, hplace]

/-- **A directory that gets an entry is the same directory but for that entry**, on
whatever path it is looked at, unless the entry takes the place of another directory. -/
theorem directoryAt_insert {t : FileTree} {steps : List Step} {ns : List Bytes}
    {entries : List (Bytes × FileTree)} (h : t.directoryAt steps = .ok (ns, entries))
    {name : Bytes} (hfree : ∀ es, child? entries name ≠ some (.directory es))
    (new : FileTree) :
    (insert name new ns t).directoryAt steps = .ok (ns, setEntry name new entries) := by
  have hreach := reach?_of_directoryAt h
  obtain ⟨trail, hwalk, -, rfl⟩ := directoryAt_eq_ok_iff.1 h
  obtain ⟨trail', hwalk', hnames⟩ :=
    walk_of_extends (extends_insert hreach hfree new) .nil .nil rfl hwalk
  have hrooted : Rooted _ trail' := Rooted.nil.walk hwalk'
  -- the same names lead to the directory, and there the entry is set
  have hplace := hrooted.reach?_names
  rw [hnames, reach?_insert hreach] at hplace
  exact directoryAt_eq_ok_iff.2 ⟨trail', hwalk', (Option.some.inj hplace).symm, hnames⟩

/-- From a directory a further step leads to its entries. -/
theorem walk_concat_of_directoryAt {t : FileTree} {steps : List Step} {ns : List Bytes}
    {entries : List (Bytes × FileTree)} (h : t.directoryAt steps = .ok (ns, entries))
    {name : Bytes} (hlong : Path.isTooLong name = false) :
    (∀ u, child? entries name = some u →
      ∃ trail, t.walk [] (steps ++ [.enter name]) = .ok ((name, u) :: trail) ∧
        names trail = ns) ∧
    (child? entries name = none →
      t.walk [] (steps ++ [.enter name]) = .error .notFound) := by
  obtain ⟨trail, hwalk, hplace, hnames⟩ := directoryAt_eq_ok_iff.1 h
  rw [walk_append, hwalk]
  constructor
  · intro u hu
    exact ⟨trail, by simp [bind, Except.bind, walk, hplace, hlong, hu], hnames⟩
  · intro hnone
    simp [bind, Except.bind, walk, hplace, hlong, hnone]

/-! ### Making directories -/

/-- A directory is made where nothing stands. -/
theorem makeOne_eq_ok {t t' : FileTree} {steps : List Step} (h : t.makeOne steps = .ok t') :
    ∃ before name ns entries, steps = before ++ [.enter name] ∧
      Path.isTooLong name = false ∧
      t.directoryAt before = .ok (ns, entries) ∧ child? entries name = none ∧
      t' = insert name emptyDirectory ns t := by
  unfold makeOne at h
  cases hdir : t.directoryAt steps.dropLast with
  | error e =>
    rw [hdir] at h
    cases h
  | ok found =>
    rw [hdir] at h
    dsimp only [bind, Except.bind] at h
    -- a directory is made only under a name that is not too long and not there yet
    split at h
    next name hlast =>
      have hsteps : steps = steps.dropLast ++ [.enter name] := by
        obtain ⟨before, hbefore⟩ := List.getLast?_eq_some_iff.1 hlast
        rw [hbefore, List.dropLast_concat]
      split at h
      next => cases h
      next hlong =>
        split at h
        next => cases h
        next hnone =>
          cases h
          exact ⟨_, name, found.1, found.2, hsteps, Bool.eq_false_iff.2 hlong, hdir, hnone,
            rfl⟩
    next => cases h

theorem follow_of_directoryAt {t : FileTree} {steps : List Step} {ns : List Bytes}
    {entries : List (Bytes × FileTree)} (h : t.directoryAt steps = .ok (ns, entries)) :
    t.follow steps = .ok (.directory entries) := by
  obtain ⟨trail, hwalk, hplace, -⟩ := directoryAt_eq_ok_iff.1 h
  rw [follow, hwalk, ← hplace]
  rfl

theorem exists_directoryAt {t : FileTree} {steps : List Step}
    {entries : List (Bytes × FileTree)}
    (h : t.follow steps = .ok (.directory entries)) :
    ∃ ns, t.directoryAt steps = .ok (ns, entries) := by
  rw [follow] at h
  cases hwalk : t.walk [] steps with
  | error e =>
    rw [hwalk] at h
    cases h
  | ok trail =>
    rw [hwalk] at h
    exact ⟨names trail, directoryAt_eq_ok_iff.2 ⟨trail, hwalk, Except.ok.inj h, rfl⟩⟩

/-- A directory that has been made, or was there, is there. -/
theorem directoryAt_of_makeMissing {t t' : FileTree} {steps : List Step}
    (h : t.makeMissing steps = (t', .ok ())) :
    ∃ ns entries, t'.directoryAt steps = .ok (ns, entries) := by
  unfold makeMissing at h
  split at h
  -- the directory is new, and is found as the entry that has been put in
  next made hmade =>
    cases h
    obtain ⟨before, name, ns, entries, rfl, hlong, hdir, hnone, rfl⟩ := makeOne_eq_ok hmade
    have hfree : ∀ es, child? entries name ≠ some (.directory es) := by simp [hnone]
    obtain ⟨hwalk, -⟩ :=
      walk_concat_of_directoryAt (directoryAt_insert hdir hfree emptyDirectory) hlong
    obtain ⟨trail, htrail, hnames⟩ := hwalk _ (child?_setEntry_self _ _ _)
    exact ⟨_, [], directoryAt_eq_ok_iff.2 ⟨_, htrail, rfl, rfl⟩⟩
  -- it could not be made, but what stands there is a directory
  next e entries _ hfollow =>
    cases h
    obtain ⟨ns, hdir⟩ := exists_directoryAt hfollow
    exact ⟨ns, entries, hdir⟩
  next => cases h

/-- Where a directory stands none is made. -/
theorem makeMissing_of_directoryAt {t : FileTree} {steps : List Step} {ns : List Bytes}
    {entries : List (Bytes × FileTree)} (h : t.directoryAt steps = .ok (ns, entries)) :
    t.makeMissing steps = (t, .ok ()) := by
  have hfollow := follow_of_directoryAt h
  cases hmade : t.makeOne steps with
  | error e => rw [makeMissing, hmade, hfollow]
  -- a directory is made only where a walk fails, and here it does not
  | ok made =>
    obtain ⟨before, name, ns', entries', rfl, hlong, hdir, hnone, -⟩ := makeOne_eq_ok hmade
    obtain ⟨trail, hwalk, -⟩ := directoryAt_eq_ok_iff.1 h
    rw [(walk_concat_of_directoryAt hdir hlong).2 hnone] at hwalk
    cases hwalk

/-- A directory is there once it has been made along with those above it. -/
theorem directoryAt_of_makeAll {t t' : FileTree} {steps : List Step}
    {ancestors : List (List Step)} (h : t.makeAll steps ancestors = (t', .ok ())) :
    ∃ ns entries, t'.directoryAt steps = .ok (ns, entries) := by
  -- whatever was made above it, making the directory itself comes last
  cases ancestors with
  | nil => exact directoryAt_of_makeMissing h
  | cons ancestor ancestors =>
    unfold makeAll at h
    split at h
    next =>
      split at h
      next => exact directoryAt_of_makeMissing h
      next hfailed => exact absurd h (hfailed t')
    next => exact directoryAt_of_makeMissing h

theorem makeAll_of_directoryAt {t : FileTree} {steps : List Step} {ns : List Bytes}
    {entries : List (Bytes × FileTree)} (h : t.directoryAt steps = .ok (ns, entries))
    (ancestors : List (List Step)) : t.makeAll steps ancestors = (t, .ok ()) := by
  cases ancestors with
  | nil => exact makeMissing_of_directoryAt h
  | cons ancestor ancestors => rw [makeAll, makeMissing_of_directoryAt h]

/-- A directory is there once it has been made. -/
theorem directoryAt_of_makeDirectory {entries₀ : List (Bytes × FileTree)}
    {made : FileTree} {path : Bytes}
    (h : (directory entries₀).makeDirectory path = (made, .ok ())) :
    ∃ ns entries, made.directoryAt (Path.steps path) = .ok (ns, entries) := by
  unfold makeDirectory at h
  split at h
  next hempty =>
    -- the empty path leads to the root
    cases h
    rw [List.isEmpty_iff.1 hempty]
    exact ⟨[], entries₀, rfl⟩
  next =>
    split at h
    next => cases h
    next => exact directoryAt_of_makeAll h

/-- A path that could be made is fit to be looked at, unless it is empty. -/
theorem check_of_makeDirectory {t made : FileTree} {path : Bytes}
    (h : t.makeDirectory path = (made, .ok ())) (hpath : path ≠ []) :
    Path.check path = .ok () := by
  rw [makeDirectory, if_neg (by simp [hpath])] at h
  cases hcheck : Path.check path with
  | error e =>
    rw [hcheck] at h
    cases h
  | ok _ => rfl

/-- Making a directory that is there changes nothing. -/
theorem makeDirectory_of_directoryAt {t : FileTree} {path : Bytes}
    (hcheck : path ≠ [] → Path.check path = .ok ()) {ns : List Bytes}
    {entries : List (Bytes × FileTree)}
    (h : t.directoryAt (Path.steps path) = .ok (ns, entries)) :
    t.makeDirectory path = (t, .ok ()) := by
  unfold makeDirectory
  split
  next => rfl
  next hpath =>
    rw [hcheck fun hempty => hpath (List.isEmpty_iff.2 hempty)]
    exact makeAll_of_directoryAt h _

/-! ### Entries of a directory -/

/-- What can be opened has a path that passes the check and can be walked. -/
theorem openPath_eq_ok {t u : FileTree} {path : Bytes} (h : t.openPath path = .ok u) :
    path ≠ [] ∧ Path.check path = .ok () ∧
      ∃ trail, t.walk [] (Path.lookupSteps path) = .ok trail ∧ t.place trail = u := by
  rw [openPath] at h
  cases hcheck : Path.check path with
  | error e =>
    rw [hcheck] at h
    cases h
  | ok _ =>
    have hpath : path ≠ [] := by
      rintro rfl
      cases hcheck
    rw [hcheck] at h
    dsimp only [bind, Except.bind] at h
    rw [follow] at h
    cases hwalk : t.walk [] (Path.lookupSteps path) with
    | error e =>
      rw [hwalk] at h
      cases h
    | ok trail =>
      rw [hwalk] at h
      exact ⟨hpath, rfl, trail, rfl, Except.ok.inj h⟩

/-- Only below a directory there is anything to be opened. -/
theorem exists_eq_directory_of_openPath {t u : FileTree} {path : Bytes}
    (h : t.openPath path = .ok u) :
    ∃ entries, t = .directory entries := by
  obtain ⟨hpath, -, trail, hwalk, -⟩ := openPath_eq_ok h
  obtain ⟨step, steps, hsteps⟩ := List.exists_cons_of_ne_nil (Path.lookupSteps_ne_nil hpath)
  rw [hsteps] at hwalk
  obtain ⟨entries, hplace, -⟩ := walk_cons_eq_ok_iff.1 hwalk
  exact ⟨entries, hplace⟩

/-- A directory that can be opened is one to write into; a slash at the end of its path
does not matter. -/
theorem directoryAt_of_openPath {t : FileTree} {path : Bytes}
    {entries : List (Bytes × FileTree)}
    (h : t.openPath path = .ok (.directory entries)) :
    ∃ ns, t.directoryAt (Path.steps path) = .ok (ns, entries) := by
  obtain ⟨-, -, trail, hwalk, hplace⟩ := openPath_eq_ok h
  rw [Path.lookupSteps, walk_append] at hwalk
  cases hsteps : t.walk [] (Path.steps path) with
  | error e =>
    rw [hsteps] at hwalk
    cases hwalk
  | ok trail' =>
    rw [hsteps] at hwalk
    -- a slash at the end is one more step, which stays where it is
    have hsame : trail' = trail := by
      dsimp only [bind, Except.bind] at hwalk
      split at hwalk
      next =>
        obtain ⟨es, -, ⟨-, hstay⟩ | ⟨hup, -⟩ | ⟨name, u, henter, -⟩⟩ :=
          walk_cons_eq_ok_iff.1 hwalk
        · exact Except.ok.inj hstay
        · cases hup
        · cases henter
      next => exact Except.ok.inj hwalk
    subst hsame
    exact ⟨names trail', directoryAt_eq_ok_iff.2 ⟨trail', hsteps, hplace, rfl⟩⟩

section Entries

variable {t : FileTree} {dir name : Bytes} {ns : List Bytes}
  {entries : List (Bytes × FileTree)}

/-- An entry can be written into a directory unless a directory stands in its place. -/
theorem writeFile_join (h : t.directoryAt (Path.steps dir) = .ok (ns, entries))
    (hname : Path.IsName name) (hcheck : Path.check (Path.join dir name) = .ok ())
    (hfree : ∀ es, child? entries name ≠ some (.directory es)) (content : Bytes) :
    t.writeFile (Path.join dir name) content = .ok (insert name (.file content) ns t) := by
  unfold writeFile
  rw [hcheck, Path.steps_join dir hname, List.dropLast_concat, h, List.getLast?_concat]
  dsimp only [bind, Except.bind]
  rw [Path.endsInSlash_join dir hname, hname.short]
  cases hchild : child? entries name with
  | none => rfl
  | some u =>
    cases u with
    | file old => rfl
    | directory es => exact absurd hchild (hfree es)

/-- An entry of a directory can be opened. -/
theorem openPath_join (h : t.directoryAt (Path.steps dir) = .ok (ns, entries))
    (hname : Path.IsName name) (hcheck : Path.check (Path.join dir name) = .ok ())
    {u : FileTree} (hchild : child? entries name = some u) :
    t.openPath (Path.join dir name) = .ok u := by
  obtain ⟨trail, hwalk, -⟩ := (walk_concat_of_directoryAt h hname.short).1 u hchild
  rw [openPath, hcheck, Path.lookupSteps_join dir hname]
  dsimp only [bind, Except.bind]
  rw [follow, hwalk]
  rfl

/-- What is opened at the path of an entry is that entry. -/
theorem child?_of_openPath_join (h : t.directoryAt (Path.steps dir) = .ok (ns, entries))
    (hname : Path.IsName name) {u : FileTree}
    (hopen : t.openPath (Path.join dir name) = .ok u) :
    child? entries name = some u := by
  obtain ⟨-, hcheck, trail, hwalk, -⟩ := openPath_eq_ok hopen
  cases hchild : child? entries name with
  | none =>
    rw [Path.lookupSteps_join dir hname,
      (walk_concat_of_directoryAt h hname.short).2 hchild] at hwalk
    cases hwalk
  | some v =>
    rw [openPath_join h hname hcheck hchild] at hopen
    rw [Except.ok.inj hopen]

end Entries

end FileTree

end Recommend
