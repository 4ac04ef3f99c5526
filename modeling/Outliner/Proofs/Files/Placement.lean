import Outliner.Proofs.Files.Coverage

namespace Outliner

def Path.follow (path : Path) (names : List Text) : Path :=
  { path with parts := path.parts ++ names }

theorem Path.follow_cons (path : Path) (name : Text) (rest : List Text) :
    path.follow (name :: rest) = (path.child name).follow rest := by
  simp [follow, child]

def Node.spots (root : Node) : List (List Text × Node) :=
  ([], root) :: Outliner.trails root.children

def Node.spotsOf (kind : Kind) (root : Node) : List (List Text) :=
  (root.spots.filter (·.2.kind = kind)).map Prod.fst

theorem Node.spotsOf_eq (kind : Kind) (root : Node) :
    root.spotsOf kind = (if root.kind = kind then [[]] else []) ++ ways kind root.children := by
  rw [spotsOf, spots, List.filter_cons, ways]
  by_cases own : root.kind = kind
  · simp [own]
  · simp [own]

theorem ways_cons (kind : Kind) (root : Node) (rest : List Node) :
    ways kind (root :: rest) =
      (root.spotsOf kind).map (root.name :: ·) ++ ways kind rest := by
  rw [ways, trails_eq_flatMap, List.flatMap_cons, ← trails_eq_flatMap, List.filter_append,
    List.map_append, ← ways, Node.spotsOf, Node.spots, Node.trails_eq, ← List.map_cons
      (f := fun trail : List Text × Node => (root.name :: trail.1, trail.2)) (a := ([], root)),
    List.filter_map, List.map_map, List.map_map]
  rfl

theorem name_of_mem_ways (kind : Kind) (names : List Text) (forest : List Node)
    (member : names ∈ ways kind forest) :
    ∃ name rest, names = name :: rest ∧ name ∈ forest.map Node.name := by
  cases names with
  | nil => exact absurd member (nil_not_mem_ways kind forest)
  | cons name rest =>
      obtain ⟨root, inside, same, _⟩ := (mem_ways_cons kind name rest forest).mp member
      exact ⟨name, rest, rfl, List.mem_map.mpr ⟨root, inside, same⟩⟩

theorem nodup_spotsOf (kind : Kind) (root : Node) (below : (ways kind root.children).Nodup) :
    (root.spotsOf kind).Nodup := by
  rw [Node.spotsOf_eq]
  split
  · rw [List.singleton_append, List.nodup_cons]
    refine ⟨?_, below⟩
    intro member
    obtain ⟨name, rest, impossible, _⟩ := name_of_mem_ways kind [] root.children member
    cases impossible
  · exact below

theorem nodup_ways (kind : Kind) (forest : List Node) (distinct : (forest.map Node.name).Nodup)
    (below : ∀ root ∈ forest, (ways kind root.children).Nodup) : (ways kind forest).Nodup := by
  induction forest with
  | nil => exact List.nodup_nil
  | cons root rest ih =>
      rw [List.map_cons, List.nodup_cons] at distinct
      rw [List.forall_mem_cons] at below
      rw [ways_cons, List.nodup_append]
      refine ⟨?_, ih distinct.2 below.2, ?_⟩
      · have own := nodup_spotsOf kind root below.1
        exact own.map (List.cons_injective)
      · intro names first other later same
        obtain ⟨spot, _, rfl⟩ := List.mem_map.mp first
        obtain ⟨name, after, rfl, listed⟩ := name_of_mem_ways kind other rest later
        injection same with same
        rw [← same] at listed
        exact distinct.1 listed

theorem parent_of_mem_trails (names : List Text) (name : Text) (node root : Node)
    (member : (names ++ [name], node) ∈ trails root.children) :
    node.name = name ∧ ∃ parent, (names, parent) ∈ root.spots ∧ node ∈ parent.children := by
  induction names generalizing root with
  | nil =>
      obtain ⟨child, inside, ⟨same, rfl⟩ | ⟨rest, same, deeper⟩⟩ := (mem_trails _ node _).mp member
      · injection same with same
        exact ⟨same.symm, root, List.mem_cons_self, inside⟩
      · injection same with _ same
        rw [← same] at deeper
        exact absurd deeper (not_mem_trails_nil node _)
  | cons first rest ih =>
      obtain ⟨child, inside, ⟨same, _⟩ | ⟨after, same, deeper⟩⟩ := (mem_trails _ node _).mp member
      · injection same with _ same
        simp at same
      · injection same with same further
        subst same
        rw [← further] at deeper
        obtain ⟨named, parent, spot, below⟩ := ih child deeper
        refine ⟨named, parent, ?_, below⟩
        apply List.mem_cons_of_mem
        rw [mem_trails]
        refine ⟨child, inside, ?_⟩
        rcases List.mem_cons.mp spot with same | lower
        · injection same with same own
          rw [same, own]
          exact Or.inl ⟨rfl, rfl⟩
        · exact Or.inr ⟨rest, rfl, lower⟩

theorem isFolder_of_entry (parent child : Node) (sound : parent.Sound)
    (member : child ∈ parent.children) (entry : child.kind.isEntry = true) :
    parent.kind = .folder := by
  cases own : parent.kind with
  | folder => rfl
  | file =>
      have fits := sound.fits
      rw [Node.FitsKind, own] at fits
      rw [isFileContent_contents parent.children fits child member] at entry
      cases entry
  | _ =>
      have content : parent.kind.isEntry = false := by rw [own]; rfl
      rw [sound.contents_below parent content child member] at entry
      cases entry

theorem nodup_names_childrenOf (rules : ScanRules) (path : Path) (level : Int)
    (entries : List (Text × Entry)) (proper : AreNames (entries.map Prod.fst)) :
    ((childrenOf (foundIn rules path level entries)).map Node.name).Nodup := by
  have same := (childrenOf_perm (foundIn rules path level entries)).map Node.name
  rw [same.nodup_iff, foundIn_eq_map, List.filterMap_map, List.Nodup, List.pairwise_map,
    List.pairwise_filterMap]
  have distinct := List.pairwise_map.mp proper.1
  apply distinct.imp_of_mem
  intro first second inFirst inSecond differ node made other madeOther alike
  have own := name_node_foundAt path level rules first node
    (name_nonempty entries proper first inFirst) made
  have others := name_node_foundAt path level rules second other
    (name_nonempty entries proper second inSecond) madeOther
  rw [own, others] at alike
  exact differ alike

/-- No two folders or files stand at one place, by induction on the directory tree. -/
theorem nodup_ways_childrenOf (kind : Kind) (entry : kind.isEntry = true) (rules : ScanRules)
    (path : Path) (level : Int) (top : Entry) (each : top.EachDirectory AreNames) :
    ∀ entries, top = .dir entries →
      (ways kind (childrenOf (foundIn rules path level entries))).Nodup := by
  induction top using Entry.induction generalizing path level with
  | regular entry contents regular =>
      rintro entries rfl
      cases regular
  | unlistable trouble => nofun
  | dir entries ih =>
      rintro _ ⟨rfl⟩
      obtain ⟨proper, below⟩ := each.of_dir
      apply nodup_ways kind _ (nodup_names_childrenOf rules path level entries proper)
      intro root member
      obtain ⟨⟨name, found⟩, listed, made⟩ :=
        (mem_childrenOf rules level path entries root).mp member
      rw [foundAt] at made
      rcases found.kinds with ⟨contents, regular⟩ | ⟨trouble, rfl⟩ | ⟨inner, rfl⟩
      · obtain ⟨_, rfl⟩ := (node_found_regular rules _ level found contents regular root).mp made
        rw [List.eq_nil_iff_forall_not_mem.mpr
          (ways_outlineRead rules.options kind entry (path.child name) level contents)]
        exact List.nodup_nil
      · rw [node_found_unlistable] at made
        cases made
      · obtain ⟨_, _, rfl⟩ := (node_found_dir rules (path.child name) level inner root).mp made
        exact ih (name, .dir inner) listed (path.child name) (level + 1) (below _ listed) inner rfl

/-- A folder or a file of the outline is what a scan makes of the entry at its place, by induction
on the way to it. -/
theorem entry_of_mem_trails (rules : ScanRules) (path : Path) (level : Int)
    (entries : List (Text × Entry)) (name : Text) (rest : List Text) (node : Node)
    (each : (Entry.dir entries).EachDirectory AreNames)
    (member : (name :: rest, node) ∈ trails (childrenOf (foundIn rules path level entries)))
    (isEntry : node.kind.isEntry = true) :
    ∃ entry, (Entry.dir entries).at? (name :: rest) = some entry ∧
      (entry.found rules (path.follow (name :: rest)) (level + rest.length)).node = some node := by
  induction rest generalizing name path level entries with
  | nil =>
      obtain ⟨root, inside, ⟨same, rfl⟩ | ⟨after, same, deeper⟩⟩ := (mem_trails _ node _).mp member
      · injection same with same
        subst same
        obtain ⟨entry, found, made⟩ :=
          lookup?_of_mem_childrenOf path level entries each.of_dir.1 rules node inside
        refine ⟨entry, ?_, ?_⟩
        · rw [Entry.at?, found]
          rfl
        · simpa [Path.follow, Path.child] using made
      · injection same with _ same
        rw [← same] at deeper
        exact absurd deeper (not_mem_trails_nil node _)
  | cons next rest ih =>
      obtain ⟨root, inside, ⟨same, _⟩ | ⟨after, same, deeper⟩⟩ := (mem_trails _ node _).mp member
      · injection same with _ same
        cases same
      · injection same with same further
        subst same
        rw [← further] at deeper
        obtain ⟨entry, found, made⟩ :=
          lookup?_of_mem_childrenOf path level entries each.of_dir.1 rules root inside
        rcases entry.kinds with ⟨contents, regular⟩ | ⟨trouble, rfl⟩ | ⟨inner, rfl⟩
        · obtain ⟨_, same⟩ := (node_found_regular rules _ level entry contents regular root).mp made
          rw [← same] at deeper
          have listed := (mem_ways node.kind (next :: rest) _).mpr ⟨node, deeper, rfl⟩
          exact absurd listed (ways_outlineRead rules.options node.kind isEntry _ _ _ _)
        · rw [node_found_unlistable] at made
          cases made
        · obtain ⟨_, _, same⟩ := (node_found_dir rules _ level inner root).mp made
          have proper := each.of_dir.2 _ (mem_of_lookup? root.name entries (.dir inner) found)
          rw [← same] at deeper
          obtain ⟨entry, leads, own⟩ :=
            ih (path.child root.name) (level + 1) inner next proper deeper
          refine ⟨entry, ?_, ?_⟩
          · rw [Entry.at?, found]
            exact leads
          · have depth : level + (next :: rest).length = level + 1 + rest.length := by
              rw [List.length_cons]
              omega
            rw [Path.follow_cons, depth]
            exact own

end Outliner
