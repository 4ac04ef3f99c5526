import Outliner.Proofs.Files.Order

/-!
The outline of a directory tree as a whole: which folders and files are in it, where they stand, and
in what order.
-/

namespace Outliner

/-- The outline of a directory at a path. Places are ways of names from the directory. -/
structure Node.Outlines (tree : Node) (options : Script.Options) (extensions skipped : List Text)
    (path : Path) (top : Entry) : Prop where
  files (names : List Text) :
    names ∈ tree.spotsOf .file ↔ IsListedFile extensions skipped top names
  folders (names : List Text) :
    names ∈ tree.spotsOf .folder ↔ names = [] ∨ IsListedFolder extensions skipped top names
  once (kind : Kind) : kind.isEntry = true → (tree.spotsOf kind).Nodup
  fileThere (names : List Text) (node : Node) : (names, node) ∈ tree.spots → node.kind = .file →
    ∃ entry contents, top.at? names = some entry ∧ entry.contents? = some contents ∧
      node = (outlineRead options (path.follow names) names.length contents).1
  folderThere (names : List Text) (node : Node) : (names, node) ∈ tree.spots →
    node.kind = .folder → ∃ children, node = folderNode (path.follow names) names.length children
  hangs (names : List Text) (name : Text) (node : Node) : (names ++ [name], node) ∈ tree.spots →
    node.kind.isEntry = true → node.name = name ∧
      ∃ directory, (names, directory) ∈ tree.spots ∧ directory.kind = .folder ∧
        node ∈ directory.children
  arranged (folder : Node) : folder ∈ preorder [tree] → folder.kind = .folder → folder.Arranged

theorem Path.follow_nil (path : Path) : path.follow [] = path := by
  rw [follow, List.append_nil]

theorem exists_spot (node root : Node) (member : node ∈ preorder [root]) :
    ∃ names, (names, node) ∈ root.spots := by
  rcases (mem_preorder_root node root).mp member with rfl | below
  · exact ⟨[], List.mem_cons_self⟩
  · rw [← map_snd_trails] at below
    obtain ⟨⟨names, _⟩, trail, rfl⟩ := List.mem_map.mp below
    exact ⟨names, List.mem_cons_of_mem _ trail⟩

theorem mem_preorder_of_mem_spots (names : List Text) (node root : Node)
    (member : (names, node) ∈ root.spots) : node ∈ preorder [root] := by
  rw [mem_preorder_root]
  rcases List.mem_cons.mp member with same | lower
  · injection same with _ same
    exact Or.inl same
  · exact Or.inr (mem_preorder_of_mem_trails names node root.children lower)

theorem Entry.EachDirectory.of_at? (rule : List Text → Prop) (top entry : Entry) (names : List Text)
    (each : top.EachDirectory rule) (leads : top.at? names = some entry) :
    entry.EachDirectory rule := by
  induction names generalizing top with
  | nil =>
      injection leads with same
      rw [← same]
      exact each
  | cons name rest ih =>
      cases top with
      | dir entries =>
          obtain ⟨inner, found, further⟩ := Option.bind_eq_some_iff.mp leads
          exact ih inner (each.of_dir.2 _ (mem_of_lookup? name entries inner found)) further
      | _ => cases leads

theorem scan_eq_scanDirectory (root : Entry) (rules : ScanRules) (path : Path)
    (entries : List (Text × Entry)) (leads : root.resolve path = .ok (.dir entries)) :
    scan root rules path = .ok (scanDirectory root rules path) := by
  rw [scan, leads]
  rfl

theorem scan_dir (root : Entry) (rules : ScanRules) (path : Path) (entries : List (Text × Entry))
    (leads : root.resolve path = .ok (.dir entries)) :
    scan root rules path =
      .ok (folderNode path 0 (childrenOf (foundIn rules path 1 entries)),
        (folderNode? path 0 (foundIn rules path 1 entries)).2) := by
  have listed : root.list path = .ok entries := by rw [Entry.list, leads]
  have node := folderNode?_eq (foundIn rules path 1 entries) path 0
  rw [scan_eq_scanDirectory root rules path entries leads]
  simp only [scanDirectory, listed, node]
  split
  · next empty => rw [empty]; rfl
  · rfl

theorem scan_of_agree (root other : Entry) (rules : ScanRules) (path : Path)
    (entries others : List (Text × Entry)) (leads : root.resolve path = .ok (.dir entries))
    (leadsOther : other.resolve path = .ok (.dir others))
    (proper : (Entry.dir entries).EachDirectory AreNames)
    (properOther : (Entry.dir others).EachDirectory AreNames)
    (distinct : (Entry.dir entries).EachDirectory fun names => (names.map Text.lower).Nodup)
    (agree : (Entry.dir entries).Agree (.dir others)) :
    scan other rules path = scan root rules path := by
  have same := folderNode?_of_agree rules path 1 entries others path 0 proper.of_dir.1
    properOther.of_dir.1 distinct.of_dir.1 agree
  rw [scan_eq_scanDirectory root rules path entries leads,
    scan_eq_scanDirectory other rules path others leadsOther]
  simp only [scanDirectory, Entry.list, leads, leadsOther]
  rw [same]
  intro name entry another found foundOther alike
  have listed := mem_of_lookup? name entries entry found
  have listedOther := mem_of_lookup? name others another foundOther
  exact found_of_agree rules (path.child name) 1 entry another (proper.of_dir.2 _ listed)
    (properOther.of_dir.2 _ listedOther) (distinct.of_dir.2 _ listed) alike

section Outlined

variable (options : Script.Options) (extensions skipped : List Text) (path : Path)
  (entries : List (Text × Entry))

/-- The node of a scanned directory, as far as the entries below it go. -/
def outlineOf : Node :=
  folderNode path 0 (childrenOf (foundIn (.make options extensions skipped) path 1 entries))

theorem wellFormed_outlineOf : WellFormed [outlineOf options extensions skipped path entries] := by
  apply wellFormed_folderNode
  · exact ofKinds_childrenOf _ path 1 entries
  · apply wellFormed_childrenOf
    intro named _ node made
    exact wellFormed_found _ (path.child named.1) 1 named.2 node made

variable (each : (Entry.dir entries).EachDirectory AreNames)
include each

theorem entry_of_mem_spots (names : List Text) (node : Node) (below : names ≠ [])
    (member : (names, node) ∈ (outlineOf options extensions skipped path entries).spots)
    (isEntry : node.kind.isEntry = true) :
    ∃ entry, (Entry.dir entries).at? names = some entry ∧
      (entry.found (.make options extensions skipped) (path.follow names) names.length).node =
        some node := by
  cases names with
  | nil => exact absurd rfl below
  | cons name rest =>
      rcases List.mem_cons.mp member with impossible | lower
      · cases impossible
      · have found := entry_of_mem_trails _ path 1 entries name rest node each lower isEntry
        rw [show (1 : Int) + rest.length = (name :: rest).length by simp; omega] at found
        exact found

theorem folder_of_mem_spots (names : List Text) (node : Node)
    (member : (names, node) ∈ (outlineOf options extensions skipped path entries).spots)
    (kind : node.kind = .folder) :
    ∃ inner, (Entry.dir entries).at? names = some (.dir inner) ∧
      node = folderNode (path.follow names) names.length
        (childrenOf (foundIn (.make options extensions skipped) (path.follow names)
          (names.length + 1) inner)) := by
  cases names with
  | nil =>
      refine ⟨entries, rfl, ?_⟩
      rcases List.mem_cons.mp member with same | impossible
      · injection same with _ same
        rw [same, Path.follow_nil]
        rfl
      · exact absurd impossible (not_mem_trails_nil node _)
  | cons name rest =>
      have isEntry : node.kind.isEntry = true := by rw [kind]; rfl
      obtain ⟨entry, leads, made⟩ := entry_of_mem_spots options extensions skipped path entries each
        (name :: rest) node (List.cons_ne_nil name rest) member isEntry
      rcases entry.kinds with ⟨contents, regular⟩ | ⟨trouble, rfl⟩ | ⟨inner, rfl⟩
      · obtain ⟨_, rfl⟩ := (node_found_regular _ _ _ entry contents regular node).mp made
        rw [kind_outlineRead] at kind
        cases kind
      · rw [node_found_unlistable] at made
        cases made
      · obtain ⟨_, _, same⟩ := (node_found_dir _ _ _ inner node).mp made
        exact ⟨inner, leads, same.symm⟩

theorem file_of_mem_spots (names : List Text) (node : Node)
    (member : (names, node) ∈ (outlineOf options extensions skipped path entries).spots)
    (kind : node.kind = .file) :
    ∃ entry contents, (Entry.dir entries).at? names = some entry ∧
      entry.contents? = some contents ∧
      node = (outlineRead options (path.follow names) names.length contents).1 := by
  have below : names ≠ [] := by
    rintro rfl
    rcases List.mem_cons.mp member with same | impossible
    · injection same with _ same
      rw [same] at kind
      cases kind
    · exact not_mem_trails_nil node _ impossible
  have isEntry : node.kind.isEntry = true := by rw [kind]; rfl
  obtain ⟨entry, leads, made⟩ := entry_of_mem_spots options extensions skipped path entries each
    names node below member isEntry
  rcases entry.kinds with ⟨contents, regular⟩ | ⟨trouble, rfl⟩ | ⟨inner, rfl⟩
  · obtain ⟨_, same⟩ := (node_found_regular _ _ _ entry contents regular node).mp made
    exact ⟨entry, contents, leads, regular, same.symm⟩
  · rw [node_found_unlistable] at made
    cases made
  · obtain ⟨_, _, rfl⟩ := (node_found_dir _ _ _ inner node).mp made
    cases kind

theorem outlineOf_outlines :
    (outlineOf options extensions skipped path entries).Outlines options extensions skipped path
      (.dir entries) where
  files names := by
    rw [Node.spotsOf_eq]
    exact mem_ways_file_iff options extensions skipped path 1 entries names each
  folders names := by
    have below := mem_ways_folder_iff options extensions skipped path 1 entries names each
    rw [Node.spotsOf_eq, ← below]
    exact List.mem_cons
  once kind isEntry := by
    apply nodup_spotsOf
    exact nodup_ways_childrenOf kind isEntry _ path 1 (.dir entries) each entries rfl
  fileThere names node member kind :=
    file_of_mem_spots options extensions skipped path entries each names node member kind
  folderThere names node member kind := by
    obtain ⟨inner, _, same⟩ :=
      folder_of_mem_spots options extensions skipped path entries each names node member kind
    exact ⟨_, same⟩
  hangs names name node member isEntry := by
    rcases List.mem_cons.mp member with impossible | lower
    · simp at impossible
    · obtain ⟨named, parent, spot, below⟩ := parent_of_mem_trails names name node _ lower
      have sound := wellFormed_outlineOf options extensions skipped path entries parent
        (mem_preorder_of_mem_spots names parent _ spot)
      exact ⟨named, parent, spot, isFolder_of_entry parent node sound below isEntry, below⟩
  arranged folder member kind := by
    obtain ⟨names, spot⟩ := exists_spot folder _ member
    obtain ⟨inner, leads, same⟩ :=
      folder_of_mem_spots options extensions skipped path entries each names folder spot kind
    have proper := (each.of_at? AreNames _ _ names leads).of_dir.1
    rw [same]
    exact arranged_folderNode _ _ _ inner _ _ proper

end Outlined

/-- A scan of a directory has an outline, with exactly the files that are asked for and the folders
that hold some of them, each at its place and in order. Where names differ in more than case,
another listing of the same files makes no difference. -/
theorem scan_of_directory (root : Entry) (options : Script.Options) (extensions skipped : List Text)
    (path : Path) (entries : List (Text × Entry))
    (leads : root.resolve path = .ok (.dir entries))
    (proper : (Entry.dir entries).EachDirectory AreNames) :
    ∃ tree notices,
      scan root (.make options extensions skipped) path = .ok (tree, notices) ∧
      tree.Outlines options extensions skipped path (.dir entries) ∧
      ((Entry.dir entries).EachDirectory (fun names => (names.map Text.lower).Nodup) →
        ∀ other others, other.resolve path = .ok (.dir others) →
          (Entry.dir others).EachDirectory AreNames → (Entry.dir entries).Agree (.dir others) →
          scan other (.make options extensions skipped) path = .ok (tree, notices)) := by
  have found := scan_dir root (.make options extensions skipped) path entries leads
  refine ⟨_, _, found, outlineOf_outlines options extensions skipped path entries proper, ?_⟩
  intro distinct other others leadsOther properOther agree
  rw [← found]
  exact scan_of_agree root other _ path entries others leads leadsOther proper properOther distinct
    agree

/-- A project with a script, a document and a directory of build results. -/
def toolEntries : List (Text × Entry) :=
  [("Tools".toList, .dir [("Run.PS1".toList, .file [])]), ("app.json".toList, .file []),
    ("bin".toList, .dir [("Old.ps1".toList, .file [])])]

theorem scan_toolEntries :
    ∃ tree notices,
      scan (.dir toolEntries) (.make {} [] defaultSkipped) {} = .ok (tree, notices) ∧
      tree.Outlines {} [] defaultSkipped {} (.dir toolEntries) ∧
      scan (.dir toolEntries.reverse) (.make {} [] defaultSkipped) {} = .ok (tree, notices) := by
  have each (rule : List Text → Prop) (entries : List (Text × Entry))
      (same : entries.Perm toolEntries) (here : rule (entries.map Prod.fst))
      (tools : rule ["Run.PS1".toList]) (results : rule ["Old.ps1".toList]) :
      (Entry.dir entries).EachDirectory rule := by
    refine .dir entries here ?_
    intro named member
    have listed := same.subset member
    simp only [toolEntries, List.mem_cons, List.not_mem_nil, or_false] at listed
    rcases listed with rfl | rfl | rfl
    · exact .dir _ tools (by simpa using .file [])
    · exact .file []
    · exact .dir _ results (by simpa using .file [])
  have names (entries : List (Text × Entry)) (same : entries.Perm toolEntries) :
      (Entry.dir entries).EachDirectory AreNames := by
    apply each AreNames entries same
    · have own : AreNames (toolEntries.map Prod.fst) := by unfold AreNames; decide
      have alike := same.map Prod.fst
      exact ⟨alike.nodup_iff.mpr own.1, fun member => own.2 (alike.mem_iff.mp member)⟩
    · unfold AreNames; decide
    · unfold AreNames; decide
  have proper := names toolEntries (List.Perm.refl _)
  obtain ⟨tree, notices, found, outlined, relisted⟩ :=
    scan_of_directory (.dir toolEntries) {} [] defaultSkipped {} toolEntries rfl proper
  refine ⟨tree, notices, found, outlined, ?_⟩
  apply relisted _ (.dir toolEntries.reverse) toolEntries.reverse rfl
  · exact names _ (List.reverse_perm toolEntries)
  · exact agree_of_perm toolEntries toolEntries.reverse (List.reverse_perm toolEntries).symm
      proper.of_dir.1.1
  · apply each _ toolEntries (List.Perm.refl _)
    · decide
    · decide
    · decide

end Outliner
