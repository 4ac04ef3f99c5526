import Outliner.Proofs.Files.Placement
import Outliner.Proofs.Text.Order

namespace Outliner

def InOrder (nodes : List Node) : Prop :=
  nodes.Pairwise fun before after =>
    (Text.lower before.name).isAtMost (Text.lower after.name) = true

def Node.Arranged (node : Node) : Prop :=
  ∃ folders files, node.children = folders ++ files ∧
    OfKinds [.folder] folders ∧ OfKinds [.file] files ∧ InOrder folders ∧ InOrder files

/-- An entry by itself, without what is listed in it. -/
def Entry.bare : Entry → Entry
  | .dir _ => .dir []
  | entry => entry

/-- Two trees have the same directories and files, in whatever order they are listed. -/
def Entry.Agree (first second : Entry) : Prop :=
  ∀ names, (first.at? names).map Entry.bare = (second.at? names).map Entry.bare

theorem Found.le_trans (first second third : Found) (below : first.le second = true)
    (above : second.le third = true) : first.le third = true :=
  Text.isAtMost_trans _ _ _ below above

theorem Found.le_total (first second : Found) : (first.le second || second.le first) = true := by
  rw [Bool.or_eq_true]
  exact Text.isAtMost_total _ _

section Sorted

variable (rules : ScanRules) (path : Path) (level : Int) (entries : List (Text × Entry))

theorem kind_of_mem_foundIn (found : Found) (member : found ∈ foundIn rules path level entries)
    (node : Node) (made : found.node = some node) :
    node.kind = if found.isFolder then .folder else .file := by
  rw [foundIn_eq_map] at member
  obtain ⟨named, _, same⟩ := List.mem_map.mp member
  rw [← same] at made ⊢
  exact kind_found rules (path.child named.1) level named.2 node made

theorem ofKinds_foldersOf : OfKinds [.folder] (foldersOf (foundIn rules path level entries)) := by
  intro node member
  obtain ⟨found, chosen, made⟩ := List.mem_filterMap.mp member
  obtain ⟨listed, isFolder⟩ := List.mem_filter.mp chosen
  have kind := kind_of_mem_foundIn rules path level entries found (List.mem_mergeSort.mp listed)
    node made
  rw [kind, if_pos isFolder]
  exact List.mem_singleton_self _

theorem ofKinds_filesOf : OfKinds [.file] (filesOf (foundIn rules path level entries)) := by
  intro node member
  obtain ⟨found, chosen, made⟩ := List.mem_filterMap.mp member
  obtain ⟨listed, isFile⟩ := List.mem_filter.mp chosen
  have kind := kind_of_mem_foundIn rules path level entries found (List.mem_mergeSort.mp listed)
    node made
  rw [kind, if_neg (by simpa using isFile)]
  exact List.mem_singleton_self _

theorem inOrder_of_sorted (proper : AreNames (entries.map Prod.fst)) (taken : Found → Bool) :
    InOrder ((((foundIn rules path level entries).mergeSort Found.le).filter taken).filterMap
      Found.node) := by
  have sorted := List.pairwise_mergeSort Found.le_trans Found.le_total
    (foundIn rules path level entries)
  rw [InOrder, List.pairwise_filterMap]
  apply (sorted.filter taken).imp_of_mem
  have name (found : Found) (node : Node) (made : found.node = some node)
      (chosen : found ∈ ((foundIn rules path level entries).mergeSort Found.le).filter taken) :
      node.name = found.name := by
    have listed := List.mem_mergeSort.mp (List.mem_of_mem_filter chosen)
    rw [foundIn_eq_map] at listed
    obtain ⟨named, own, same⟩ := List.mem_map.mp listed
    rw [← same] at made ⊢
    rw [name_foundAt]
    exact name_node_foundAt path level rules named node (name_nonempty entries proper named own)
      made
  intro first second inFirst inSecond below node made other madeOther
  rw [name first node made inFirst, name second other madeOther inSecond]
  exact below

theorem arranged_folderNode (root : Path) (depth : Int)
    (proper : AreNames (entries.map Prod.fst)) :
    (folderNode root depth (childrenOf (foundIn rules path level entries))).Arranged :=
  ⟨foldersOf (foundIn rules path level entries), filesOf (foundIn rules path level entries), rfl,
    ofKinds_foldersOf rules path level entries, ofKinds_filesOf rules path level entries,
    inOrder_of_sorted rules path level entries proper (·.isFolder),
    inOrder_of_sorted rules path level entries proper (!·.isFolder)⟩

end Sorted

theorem mergeSort_eq_of_perm (found others : List Found) (perm : found.Perm others)
    (distinct : (found.map fun entry => Text.lower entry.name).Nodup) :
    found.mergeSort Found.le = others.mergeSort Found.le := by
  have same : (found.mergeSort Found.le).Perm (others.mergeSort Found.le) :=
    (List.mergeSort_perm found Found.le).trans
      (perm.trans (List.mergeSort_perm others Found.le).symm)
  have sorted (list : List Found) := List.pairwise_mergeSort Found.le_trans Found.le_total list
  refine List.Perm.eq_of_pairwise ?_ (sorted found) (sorted others) same
  intro first second inFirst inSecond below above
  have alike := Text.isAtMost_antisymm _ _ below above
  have own := List.mem_mergeSort.mp inFirst
  have other := perm.mem_iff.mpr (List.mem_mergeSort.mp inSecond)
  exact List.inj_on_of_nodup_map distinct own other alike

theorem folderNode?_of_perm (path : Path) (level : Int) (found others : List Found)
    (perm : found.Perm others) (distinct : (found.map fun entry => Text.lower entry.name).Nodup) :
    folderNode? path level found = folderNode? path level others := by
  rw [folderNode?, folderNode?, mergeSort_eq_of_perm found others perm distinct]

theorem Entry.Agree.lookup? (entries others : List (Text × Entry)) (name : Text) (entry : Entry)
    (agree : (Entry.dir entries).Agree (.dir others))
    (found : Entry.lookup? name entries = some entry) :
    ∃ other, Entry.lookup? name others = some other ∧ entry.Agree other := by
  have below (names : List Text) := agree (name :: names)
  simp only [Entry.at?, found, Option.bind_some] at below
  cases same : Entry.lookup? name others with
  | none =>
      have impossible := below []
      rw [same] at impossible
      cases impossible
  | some other =>
      refine ⟨other, rfl, ?_⟩
      intro names
      rw [below names, same, Option.bind_some]

theorem Entry.Agree.symm (first second : Entry) (agree : first.Agree second) :
    second.Agree first := by
  intro names
  exact (agree names).symm

theorem agree_of_perm (entries others : List (Text × Entry)) (perm : entries.Perm others)
    (distinct : (entries.map Prod.fst).Nodup) : (Entry.dir entries).Agree (.dir others) := by
  have same (name : Text) : Entry.lookup? name entries = Entry.lookup? name others := by
    apply Option.ext
    intro entry
    rw [lookup?_eq_some_iff name entries entry distinct,
      lookup?_eq_some_iff name others entry ((perm.map Prod.fst).nodup_iff.mp distinct),
      perm.mem_iff]
  intro names
  cases names with
  | nil => rfl
  | cons name rest => rw [Entry.at?, Entry.at?, same name]

section Relisted

variable (rules : ScanRules) (path : Path) (level : Int) (entries others : List (Text × Entry))

theorem nodup_foundIn (proper : AreNames (entries.map Prod.fst)) :
    (foundIn rules path level entries).Nodup := by
  rw [foundIn_eq_map]
  apply List.Nodup.of_map Found.name
  rw [List.map_map, List.map_congr_left (g := Prod.fst)]
  · exact proper.1
  · intro named _
    exact name_foundAt rules path level named

theorem foundIn_subset (proper : AreNames (entries.map Prod.fst))
    (agree : (Entry.dir entries).Agree (.dir others))
    (each : ∀ name entry other, Entry.lookup? name entries = some entry →
      Entry.lookup? name others = some other → entry.Agree other →
      entry.found rules (path.child name) level = other.found rules (path.child name) level) :
    foundIn rules path level entries ⊆ foundIn rules path level others := by
  intro found member
  rw [foundIn_eq_map] at member ⊢
  obtain ⟨⟨name, entry⟩, listed, same⟩ := List.mem_map.mp member
  have own := (lookup?_eq_some_iff name entries entry proper.1).mpr listed
  obtain ⟨other, found, alike⟩ := agree.lookup? entries others name entry own
  refine List.mem_map.mpr ⟨(name, other), mem_of_lookup? name others other found, ?_⟩
  rw [← same, foundAt, foundAt, each name entry other own found alike]

theorem folderNode?_of_agree (root : Path) (depth : Int)
    (proper : AreNames (entries.map Prod.fst)) (properOthers : AreNames (others.map Prod.fst))
    (distinct : ((entries.map Prod.fst).map Text.lower).Nodup)
    (agree : (Entry.dir entries).Agree (.dir others))
    (each : ∀ name entry other, Entry.lookup? name entries = some entry →
      Entry.lookup? name others = some other → entry.Agree other →
      entry.found rules (path.child name) level = other.found rules (path.child name) level) :
    folderNode? root depth (foundIn rules path level entries) =
      folderNode? root depth (foundIn rules path level others) := by
  apply folderNode?_of_perm
  · rw [List.perm_ext_iff_of_nodup (nodup_foundIn rules path level entries proper)
      (nodup_foundIn rules path level others properOthers)]
    have forward := foundIn_subset rules path level entries others proper agree each
    have backward := foundIn_subset rules path level others entries properOthers agree.symm
      fun name entry other found foundOther alike =>
        (each name other entry foundOther found alike.symm).symm
    intro found
    exact ⟨fun member => forward member, fun member => backward member⟩
  · rw [foundIn_eq_map, List.map_map]
    rw [List.map_map] at distinct
    rw [List.map_congr_left (g := Text.lower ∘ Prod.fst)]
    · exact distinct
    · intro named _
      exact congrArg Text.lower (name_foundAt rules path level named)

end Relisted

/-- Trees that agree are outlined alike, by induction on the one of them. -/
theorem found_of_agree (rules : ScanRules) (path : Path) (level : Int) (first second : Entry)
    (proper : first.EachDirectory AreNames) (properSecond : second.EachDirectory AreNames)
    (distinct : first.EachDirectory fun names => (names.map Text.lower).Nodup)
    (agree : first.Agree second) :
    first.found rules path level = second.found rules path level := by
  induction first using Entry.induction generalizing second path level with
  | regular entry contents regular =>
      have same : entry.bare = second.bare := Option.some.inj (agree [])
      cases entry with
      | dir entries => cases regular
      | _ =>
          cases second <;> cases same
          rfl
  | unlistable trouble =>
      have same : (Entry.unlistable trouble).bare = second.bare := Option.some.inj (agree [])
      cases second <;> cases same
      rfl
  | dir entries ih =>
      have same : (Entry.dir []) = second.bare := Option.some.inj (agree [])
      cases second with
      | dir others =>
          have node := folderNode?_of_agree rules path (level + 1) entries others path level
            proper.of_dir.1 properSecond.of_dir.1 distinct.of_dir.1 agree
          rw [Entry.found, Entry.found, node]
          intro name entry other found foundOther alike
          have listed := mem_of_lookup? name entries entry found
          have listedOther := mem_of_lookup? name others other foundOther
          exact ih (name, entry) listed (path.child name) (level + 1) other
            (proper.of_dir.2 _ listed) (properSecond.of_dir.2 _ listedOther)
            (distinct.of_dir.2 _ listed) alike
      | _ => cases same

end Outliner
