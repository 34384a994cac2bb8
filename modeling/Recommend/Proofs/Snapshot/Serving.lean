import Recommend.Indexer.Run
import Recommend.Pipeline.Node
import Recommend.Proofs.Bulk.Volume
import Recommend.Proofs.Files.Tree
import Recommend.Proofs.Message.Lossless

/-!
A snapshot serves like the sources it was built from.

`Snapshot.Holds tree dir ix` says that a directory holds the index: its stores with
their maps listed in some order, and its description.  Such a directory loads as the
index (`Holds.load`), and that is what saving leaves behind wherever there is room for
the two files (`Writable.holds_save`).  A build saves the index of its input files, and
the index of a bulk file is the same, so the two answer alike; that is
`run_build_serves_like_bulk`.
-/

namespace Recommend

open Listing (countLimit)

namespace Snapshot

/-! ### What loads -/

/-- The directory holds the stores of the index, each map in some order, and their
description. -/
structure Holds (tree : FileTree) (dir : String) (ix : Index) : Prop where
  stores : ∃ l : Listing, l.Lists ix ∧ tree.openPath (storesPath dir) = .ok (.file l.encode)
  description : ∃ createdAt, tree.openPath (metaPath dir) =
    .ok (.file (Bytes.ofText (SnapshotMeta.codec.write (describe ix createdAt)).pretty))

/-- The description is read back. -/
theorem Holds.loadMeta {tree : FileTree} {dir : String} {ix : Index}
    (h : Holds tree dir ix) : ∃ createdAt, loadMeta tree dir = .ok (describe ix createdAt) := by
  obtain ⟨createdAt, hopen⟩ := h.description
  refine ⟨createdAt, ?_⟩
  rw [Snapshot.loadMeta, hopen]
  dsimp only [Except.mapError, bind, Except.bind]
  rw [FileTree.textContent, FileTree.content]
  dsimp only [bind, Except.bind]
  rw [Bytes.text?_ofText]
  dsimp only
  rw [SnapshotMeta.decode_pretty]

/-- What holds an index loads as it. -/
theorem Holds.load {tree : FileTree} {dir : String} {ix : Index} (h : Holds tree dir ix)
    (hsize : ix.Sized countLimit) : load tree dir = .ok ix := by
  obtain ⟨createdAt, hmeta⟩ := h.loadMeta
  obtain ⟨l, hlists, hopen⟩ := h.stores
  have hdecode := Index.decode_encode_append hlists hsize []
  rw [List.append_nil] at hdecode
  rw [Snapshot.load, hmeta]
  dsimp only [bind, Except.bind]
  -- the version of the format is the one that is written
  rw [if_neg (fun hne => hne rfl), hopen]
  dsimp only [Except.mapError, FileTree.content]
  rw [hdecode]
  -- the index has the key field and the number of records that are described
  exact if_pos ⟨rfl, rfl⟩

/-! ### What saving leaves behind -/

theorem ofText_storesPath (dir : String) :
    Bytes.ofText (storesPath dir) = Path.join dir "index.bin" := Path.ofText_joinText dir _

theorem ofText_metaPath (dir : String) :
    Bytes.ofText (metaPath dir) = Path.join dir "meta.json" := Path.ofText_joinText dir _

/-- There is room for a snapshot: the directory is there or can be made, and then
neither of the two files is a directory. -/
def Writable (tree : FileTree) (dir : String) : Prop :=
  ∃ made, tree.makeDirectory dir = (made, .ok ()) ∧
    ∀ path ∈ [storesPath dir, metaPath dir],
      Path.check path = .ok () ∧ ∀ entries, made.openPath path ≠ .ok (.directory entries)

/-- A directory that is there has room unless one of the two files is a directory or has
too long a path; what else it holds does not matter. -/
theorem writable_of_directory {tree : FileTree} {dir : String}
    {entries : List (Bytes × FileTree)} (hdir : tree.openPath dir = .ok (.directory entries))
    (hfiles : ∀ name ∈ ["index.bin", "meta.json"],
      Path.check (Path.join dir name) = .ok () ∧
      ∀ es, FileTree.child? entries name ≠ some (.directory es)) : Writable tree dir := by
  obtain ⟨-, hcheck, -⟩ := FileTree.openPath_eq_ok hdir
  obtain ⟨ns, hat⟩ := FileTree.directoryAt_of_openPath hdir
  have hfree : ∀ name ∈ ["index.bin", "meta.json"],
      Path.check (Path.join dir name) = .ok () ∧
      ∀ es, tree.openPath (Path.join dir name) ≠ .ok (.directory es) := by
    intro name hname
    have hisName : Path.IsName name := by
      rcases List.mem_cons.1 hname with rfl | hname
      · decide
      · rw [List.mem_singleton.1 hname]
        decide
    obtain ⟨hpath, hchild⟩ := hfiles name hname
    refine ⟨hpath, ?_⟩
    intro es hopen
    exact hchild es (FileTree.child?_of_openPath_join hat hisName hopen)
  -- the directory is there, so making it changes nothing
  refine ⟨tree, FileTree.makeDirectory_of_directoryAt (fun _ => hcheck) hat, ?_⟩
  intro path hpath
  rcases List.mem_cons.1 hpath with rfl | hpath
  · rw [ofText_storesPath]
    exact hfree "index.bin" (by simp)
  · rw [List.mem_singleton.1 hpath, ofText_metaPath]
    exact hfree "meta.json" (by simp)

section Put

variable {tree made : FileTree} {dir name : Bytes} {ns : List Bytes}
  {entries : List (Bytes × FileTree)}

/-- A file goes into the directory once that has been made. -/
theorem put_join (hmade : tree.makeDirectory dir = (made, .ok ()))
    (hdir : made.directoryAt (Path.steps dir) = .ok (ns, entries))
    (hname : Path.IsName name) (hcheck : Path.check (Path.join dir name) = .ok ())
    (hfree : ∀ es, FileTree.child? entries name ≠ some (.directory es))
    (content : Bytes) :
    put tree dir (Path.join dir name) content =
      (FileTree.insert name (.file content) ns made, .ok ()) := by
  rw [put, hmade]
  dsimp only
  rw [FileTree.writeFile_join hdir hname hcheck hfree]

/-- No directory is in the way of the file. -/
theorem child?_ne_directory (hdir : made.directoryAt (Path.steps dir) = .ok (ns, entries))
    (hname : Path.IsName name) (hcheck : Path.check (Path.join dir name) = .ok ())
    (h : ∀ es, made.openPath (Path.join dir name) ≠ .ok (.directory es))
    (es : List (Bytes × FileTree)) :
    FileTree.child? entries name ≠ some (.directory es) := by
  intro hchild
  exact h es (FileTree.openPath_join hdir hname hcheck hchild)

theorem save_of_put {dir createdAt : String} {ix : Index} {stored built : FileTree}
    (hstores : put tree dir (storesPath dir) ix.encode = (stored, .ok ()))
    (hmeta : saveMeta stored dir (describe ix createdAt) = (built, .ok ())) :
    save tree dir createdAt ix = (built, .ok (describe ix createdAt)) := by
  rw [save, hstores]
  dsimp only
  rw [hmeta]

end Put

/-- **Saving succeeds where there is room, and the directory then holds the index**,
whatever it held before. -/
theorem Writable.holds_save {entries : List (Bytes × FileTree)} {dir : String}
    (h : Writable (.directory entries) dir) (createdAt : String) (ix : Index) :
    ∃ built, save (.directory entries) dir createdAt ix =
        (built, .ok (describe ix createdAt)) ∧ Holds built dir ix := by
  obtain ⟨made, hmade, hpaths⟩ := h
  obtain ⟨hstores, hstoresOpen⟩ := hpaths (storesPath dir) (by simp)
  obtain ⟨hmeta, hmetaOpen⟩ := hpaths (metaPath dir) (by simp)
  rw [ofText_storesPath] at hstores hstoresOpen
  rw [ofText_metaPath] at hmeta hmetaOpen
  have hindexName : Path.IsName "index.bin" := by decide
  have hmetaName : Path.IsName "meta.json" := by decide
  obtain ⟨ns, es, hdir⟩ := FileTree.directoryAt_of_makeDirectory hmade
  -- the stores go in first, and the directory is then the same but for them
  have hstoresFree := child?_ne_directory hdir hindexName hstores hstoresOpen
  have hput := put_join hmade hdir hindexName hstores hstoresFree ix.encode
  have hdir₁ := FileTree.directoryAt_insert hdir hstoresFree (.file ix.encode)
  -- the directory is made again in vain, and the description goes in beside them
  have hmade₁ :=
    FileTree.makeDirectory_of_directoryAt (FileTree.check_of_makeDirectory hmade) hdir₁
  have hother : Bytes.ofText "meta.json" ≠ Bytes.ofText "index.bin" := by decide
  have hmetaFree : ∀ es', FileTree.child?
      (FileTree.setEntry "index.bin" (.file ix.encode) es) "meta.json" ≠
        some (.directory es') := by
    rw [FileTree.child?_setEntry_of_ne hother]
    exact child?_ne_directory hdir hmetaName hmeta hmetaOpen
  have hput₁ := put_join hmade₁ hdir₁ hmetaName hmeta hmetaFree
    (Bytes.ofText (SnapshotMeta.codec.write (describe ix createdAt)).pretty)
  have hdir₂ := FileTree.directoryAt_insert hdir₁ hmetaFree
    (.file (Bytes.ofText (SnapshotMeta.codec.write (describe ix createdAt)).pretty))
  rw [← ofText_storesPath] at hput
  rw [← ofText_metaPath] at hput₁
  have hsave := save_of_put hput hput₁
  -- the description has another name, so it did not replace the stores
  have hstoresChild : ∀ t, FileTree.child? (FileTree.setEntry "meta.json" t
      (FileTree.setEntry "index.bin" (.file ix.encode) es)) "index.bin" =
        some (.file ix.encode) := by
    intro t
    rw [FileTree.child?_setEntry_of_ne (Ne.symm hother), FileTree.child?_setEntry_self]
  have hopen := FileTree.openPath_join hdir₂ hindexName hstores (hstoresChild _)
  have hopen₁ :=
    FileTree.openPath_join hdir₂ hmetaName hmeta (FileTree.child?_setEntry_self _ _ _)
  rw [← ofText_storesPath] at hopen
  rw [← ofText_metaPath] at hopen₁
  exact ⟨_, hsave, ⟨.ofIndex ix, Listing.lists_ofIndex ix, hopen⟩, ⟨createdAt, hopen₁⟩⟩

end Snapshot

/-! ### Building and serving -/

theorem buildFrom_eq_ok {format : BulkFormat} {b : Builder}
    (h : Builder.start format = .ok b) (sources : List Bytes) :
    buildFrom format sources =
      .ok ((b.consumeAll sources).index, (b.consumeAll sources).stats) := by
  rw [buildFrom, h]
  rfl

theorem inputs_of_file {tree : FileTree} {path : String} {content : Bytes}
    (h : tree.openPath path = .ok (.file content)) : tree.inputs path = [([], content)] := by
  rw [FileTree.inputs, h]

/-- A bulk file opens as the index that a builder makes of its content. -/
theorem openIndexer_bulk {tree : FileTree} {path : String} {content : Bytes}
    {format : BulkFormat} {b : Builder}
    (hopen : tree.openPath path = .ok (.file content))
    (hstart : Builder.start format = .ok b) (net : Network) (name : String) :
    Node.openIndexer net tree name (.bulk path format) =
      .ok (.ofIndex (b.consumeAll [content]).index) := by
  rw [Node.openIndexer, buildFromFile, hstart, hopen]
  dsimp only [bind, Except.bind, FileTree.content]
  rw [buildFrom_eq_ok hstart]
  rfl

theorem openIndexer_snapshot {tree : FileTree} {dir : String} {ix : Index}
    (hload : Snapshot.load tree dir = .ok ix) (net : Network) (name : String) :
    Node.openIndexer net tree name (.snapshot dir) = .ok (.ofIndex ix) := by
  rw [Node.openIndexer, hload]
  rfl

namespace Command

/-- A build whose input is there saves the index of all its files. -/
theorem run_build {tree : FileTree} {now input output : String} {format : BulkFormat}
    {b : Builder} (hinput : tree.inputs input ≠ []) (hstart : Builder.start format = .ok b)
    {built : FileTree} {m : SnapshotMeta}
    (hsave : Snapshot.save tree output now
      (b.consumeAll ((tree.inputs input).map Prod.snd)).index = (built, .ok m)) :
    run tree now (.build input output format) = (built, .ok "") := by
  have hbuild : runBuild tree now input output format = (built, .ok ()) := by
    unfold runBuild
    -- the build goes on unless there is no input
    split
    next hnone => exact absurd hnone hinput
    next =>
      rw [buildFrom_eq_ok hstart]
      dsimp only
      rw [hsave]
  rw [run, hbuild]
  rfl

/-- **A snapshot that is built offline serves like the bulk source it was built from.**
With a field at least, sources of fewer than `2 ^ 64` bytes and room for the snapshot, a
build succeeds, and the directory holds the index of a single builder that has taken in
the input files one after the other.  In whatever order the maps of the stores are
listed, the snapshot loads as that index; and if the input is a file, an indexer opened
from the snapshot gives every request the answer that one opened from the file gives it. -/
theorem run_build_serves_like_bulk {tree : FileTree} {input output : String}
    {format : BulkFormat} (hinput : tree.inputs input ≠ [])
    (hfields : format.fieldIds ≠ [])
    (hsize : ((tree.inputs input).map Prod.snd).flatten.length < countLimit)
    (hout : Snapshot.Writable tree output) (now : String) :
    ∃ built b, run tree now (.build input output format) = (built, .ok "") ∧
      Builder.start format = .ok b ∧
      let ix := (b.consumeAll ((tree.inputs input).map Prod.snd)).index
      Snapshot.Holds built output ix ∧
      ∀ stored, Snapshot.Holds stored output ix →
        Snapshot.load stored output = .ok ix ∧
        ∀ content, tree.openPath input = .ok (.file content) →
          ∀ net name name', ∃ served bulk,
          Node.openIndexer net stored name (.snapshot output) = .ok served ∧
          Node.openIndexer net tree name' (.bulk input format) = .ok bulk ∧
          (∀ q, served.client.forward q = bulk.client.forward q) ∧
          ∀ q, served.client.inverted q = bulk.client.inverted q := by
  -- something was found below the root, so that is a directory
  obtain ⟨entries, rfl⟩ : ∃ entries, tree = .directory entries := by
    cases hopen : tree.openPath input with
    | error e => exact absurd (by rw [FileTree.inputs, hopen]) hinput
    | ok t => exact FileTree.exists_eq_directory_of_openPath hopen
  obtain ⟨b, hstart⟩ : ∃ b, Builder.start format = .ok b := by
    obtain ⟨keyField, fields, hcons⟩ := List.exists_cons_of_ne_nil hfields
    exact ⟨⟨format, .empty keyField, {}⟩, by rw [Builder.start, hcons]⟩
  -- counts and texts of the index are bounded by the bytes of the sources
  have hsized := (Builder.bounded_consumeAll hstart _).sized hsize
  obtain ⟨built, hsave, hholds⟩ := hout.holds_save now
    (b.consumeAll (((FileTree.directory entries).inputs input).map Prod.snd)).index
  refine ⟨built, b, run_build hinput hstart hsave, hstart, hholds, ?_⟩
  intro stored hstored
  -- from here on only what the directory holds matters, not how it came there
  have hload := hstored.load hsized
  refine ⟨hload, ?_⟩
  intro content hopen net name name'
  have hserved := openIndexer_snapshot hload net name
  rw [inputs_of_file hopen] at hserved
  exact ⟨_, _, hserved, openIndexer_bulk hopen hstart net name', fun _ => rfl, fun _ => rfl⟩

/-- A source with a key that comes again and a value held twice, and a directory with a
damaged snapshot and something else. -/
theorem run_build_serves_like_bulk_over_old_files :
    let format : BulkFormat := ⟨[100, 101], ",", some ";"⟩
    let tree : FileTree := .directory
      [("items.csv", .file (Bytes.ofText "k,b;a\nj,a;a\nk,c")),
        ("out", .directory [("index.bin", .file [255]), ("old", .directory [])])]
    let q : InvertedRequest := ⟨[⟨.ofList [(101, .matching (.bytes "a"))]⟩], 10, []⟩
    ∃ built, run tree "2024-01-01" (.build "items.csv" "out" format) = (built, .ok "") ∧
      ∀ net, ∃ served bulk,
        Node.openIndexer net built "offline" (.snapshot "out") = .ok served ∧
        Node.openIndexer net tree "live" (.bulk "items.csv" format) = .ok bulk ∧
        served.client.inverted q = bulk.client.inverted q := by
  intro format tree q
  have hopen : tree.openPath "items.csv" = .ok (.file (Bytes.ofText "k,b;a\nj,a;a\nk,c")) :=
    rfl
  have hinputs := inputs_of_file hopen
  have hout : Snapshot.Writable tree "out" := by
    apply Snapshot.writable_of_directory rfl
    simp only [List.mem_cons, List.not_mem_nil, or_false]
    rintro name (rfl | rfl)
    · exact ⟨rfl, fun _ h => by cases h⟩
    · exact ⟨rfl, fun _ h => by cases h⟩
  obtain ⟨built, b, hrun, -, hholds, hserves⟩ :=
    run_build_serves_like_bulk (by rw [hinputs]; simp)
      (by decide : format.fieldIds ≠ []) (by rw [hinputs]; decide) hout "2024-01-01"
  refine ⟨built, hrun, fun net => ?_⟩
  obtain ⟨-, hlike⟩ := hserves built hholds
  obtain ⟨served, bulk, hserved, hbulk, -, hinverted⟩ := hlike _ hopen net "offline" "live"
  exact ⟨served, bulk, hserved, hbulk, hinverted q⟩

end Command

end Recommend
