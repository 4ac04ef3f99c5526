import Outliner.Files.Scan

namespace Outliner

theorem Entry.sizeOf_lt_dir (entries : List (Text × Entry)) (named : Text × Entry)
    (member : named ∈ entries) : sizeOf named.2 < sizeOf (Entry.dir entries) := by
  have smaller := List.sizeOf_lt_of_mem member
  obtain ⟨name, entry⟩ := named
  simp only [Prod.mk.sizeOf_spec] at smaller
  simp only [Entry.dir.sizeOf_spec]
  omega

def Entry.contents? : Entry → Option (Except Trouble (List UInt8))
  | .file bytes => some (.ok bytes)
  | .unreadable trouble => some (.error trouble)
  | _ => none

theorem Entry.induction {motive : Entry → Prop}
    (regular : ∀ entry contents, entry.contents? = some contents → motive entry)
    (unlistable : ∀ trouble, motive (.unlistable trouble))
    (dir : ∀ entries, (∀ named ∈ entries, motive named.2) → motive (.dir entries)) :
    ∀ entry, motive entry
  | .file bytes => regular (.file bytes) _ rfl
  | .unreadable trouble => regular (.unreadable trouble) _ rfl
  | .unlistable trouble => unlistable trouble
  | .dir entries => dir entries fun named _ => Entry.induction regular unlistable dir named.2
termination_by entry => sizeOf entry
decreasing_by exact Entry.sizeOf_lt_dir entries named ‹_›

theorem Entry.kinds (entry : Entry) :
    (∃ contents, entry.contents? = some contents) ∨ (∃ trouble, entry = .unlistable trouble) ∨
      ∃ entries, entry = .dir entries := by
  cases entry with
  | file bytes => exact Or.inl ⟨_, rfl⟩
  | unreadable trouble => exact Or.inl ⟨_, rfl⟩
  | unlistable trouble => exact Or.inr (Or.inl ⟨trouble, rfl⟩)
  | dir entries => exact Or.inr (Or.inr ⟨entries, rfl⟩)

theorem Entry.isRegular_iff (entry : Entry) :
    entry.isRegular = true ↔ ∃ contents, entry.contents? = some contents := by
  cases entry <;> simp [isRegular, contents?]

def Entry.at? : List Text → Entry → Option Entry
  | [], entry => some entry
  | name :: rest, .dir entries => (lookup? name entries).bind (at? rest)
  | _ :: _, _ => none

theorem Path.name_child (path : Path) (name : Text) : (path.child name).name = name := by
  simp [Path.name, Path.child]

theorem Path.title_child (path : Path) (name : Text) (named : name ≠ []) :
    (path.child name).title = name := by
  rw [Path.title, name_child, if_neg (by simpa using named)]

def foundAt (rules : ScanRules) (directory : Path) (level : Int) (named : Text × Entry) : Found :=
  named.2.found rules (directory.child named.1) level

theorem foundIn_eq_map (rules : ScanRules) (directory : Path) (level : Int)
    (entries : List (Text × Entry)) :
    foundIn rules directory level entries = entries.map (foundAt rules directory level) := by
  induction entries with
  | nil => rfl
  | cons named rest ih => rw [foundIn, ih, List.map_cons, foundAt]

section Regular

variable (rules : ScanRules) (path : Path) (level : Int) (entry : Entry)
  (contents : Except Trouble (List UInt8)) (regular : entry.contents? = some contents)
include regular

theorem found_regular :
    entry.found rules path level =
      if path.suffix ∈ rules.suffixes then
        ⟨path.name, false, some (outlineRead rules.options path level contents).1,
          (outlineRead rules.options path level contents).2⟩
      else ⟨path.name, false, none, []⟩ := by
  cases entry with
  | file bytes =>
      cases regular
      simp only [Entry.found, List.contains_eq_mem, decide_eq_true_eq]
  | unreadable trouble =>
      cases regular
      simp only [Entry.found, List.contains_eq_mem, decide_eq_true_eq]
  | unlistable trouble => cases regular
  | dir entries => cases regular

theorem node_found_regular (node : Node) :
    (entry.found rules path level).node = some node ↔
      path.suffix ∈ rules.suffixes ∧
        (outlineRead rules.options path level contents).1 = node := by
  rw [found_regular rules path level entry contents regular]
  split
  · next asked => simp [asked]
  · next refused => simp [refused]

theorem Entry.at?_regular (name : Text) (rest : List Text) : entry.at? (name :: rest) = none := by
  cases entry with
  | dir entries => cases regular
  | _ => rfl

end Regular

theorem node_found_unlistable (rules : ScanRules) (path : Path) (level : Int) (trouble : Trouble) :
    (Entry.found rules path level (.unlistable trouble)).node = none := by
  rw [Entry.found]
  split <;> rfl

theorem name_foundAt (rules : ScanRules) (directory : Path) (level : Int) (named : Text × Entry) :
    (foundAt rules directory level named).name = named.1 := by
  obtain ⟨name, entry⟩ := named
  have own := directory.name_child name
  rcases entry.kinds with ⟨contents, regular⟩ | ⟨trouble, rfl⟩ | ⟨entries, rfl⟩
  · rw [foundAt, found_regular rules _ level entry contents regular]
    split <;> exact own
  · simp only [foundAt, Entry.found]
    split <;> exact own
  · simp only [foundAt, Entry.found]
    split <;> exact own

section Children

variable (found : List Found)

def foldersOf : List Node :=
  ((found.mergeSort Found.le).filter (·.isFolder)).filterMap Found.node

def filesOf : List Node :=
  ((found.mergeSort Found.le).filter (!·.isFolder)).filterMap Found.node

def childrenOf : List Node :=
  foldersOf found ++ filesOf found

theorem childrenOf_perm : (childrenOf found).Perm (found.filterMap Found.node) := by
  rw [childrenOf, foldersOf, filesOf, ← List.filterMap_append]
  have split := List.filter_append_perm Found.isFolder (found.mergeSort Found.le)
  exact (split.trans (List.mergeSort_perm found Found.le)).filterMap Found.node

def folderNode (path : Path) (level : Int) (children : List Node) : Node :=
  { name := path.title, kind := .folder, path := path.toText, level, children }

theorem folderNode?_eq (path : Path) (level : Int) :
    (folderNode? path level found).1 =
      if childrenOf found = [] then none else some (folderNode path level (childrenOf found)) := by
  rw [childrenOf, foldersOf, filesOf, folderNode?]
  split
  · next empty => rw [if_pos empty]
  · next held => rw [if_neg held]; rfl

end Children

section Nodes

variable (rules : ScanRules) (path : Path) (level : Int)

theorem node_found_dir (entries : List (Text × Entry)) (node : Node) :
    (Entry.found rules path level (.dir entries)).node = some node ↔
      rules.skips path.name = false ∧ childrenOf (foundIn rules path (level + 1) entries) ≠ [] ∧
        folderNode path level (childrenOf (foundIn rules path (level + 1) entries)) = node := by
  rw [Entry.found]
  split
  · next skipped => simp [skipped]
  · next entered => simp [entered, folderNode?_eq]

theorem outlineRead_eq (options : Script.Options) (contents : Except Trouble (List UInt8)) :
    ∃ children, (outlineRead options path level contents).1 = fileNode path level children := by
  unfold outlineRead
  split <;> exact ⟨_, rfl⟩

theorem kind_outlineRead (options : Script.Options) (contents : Except Trouble (List UInt8)) :
    (outlineRead options path level contents).1.kind = .file := by
  obtain ⟨children, same⟩ := outlineRead_eq path level options contents
  rw [same]
  rfl

theorem kind_found (entry : Entry) (node : Node)
    (made : (entry.found rules path level).node = some node) :
    node.kind = if (entry.found rules path level).isFolder then .folder else .file := by
  rcases entry.kinds with ⟨contents, regular⟩ | ⟨trouble, rfl⟩ | ⟨entries, rfl⟩
  · obtain ⟨asked, rfl⟩ := (node_found_regular rules path level entry contents regular node).mp made
    rw [found_regular rules path level entry contents regular, if_pos asked]
    exact kind_outlineRead path level rules.options contents
  · rw [node_found_unlistable] at made
    cases made
  · have isFolder : (Entry.found rules path level (.dir entries)).isFolder = true := by
      rw [Entry.found]
      split <;> rfl
    obtain ⟨_, _, rfl⟩ := (node_found_dir rules path level entries node).mp made
    rw [isFolder]
    rfl

theorem mem_childrenOf (directory : Path) (entries : List (Text × Entry)) (node : Node) :
    node ∈ childrenOf (foundIn rules directory level entries) ↔
      ∃ named ∈ entries, (foundAt rules directory level named).node = some node := by
  rw [(childrenOf_perm _).mem_iff, foundIn_eq_map, List.filterMap_map, List.mem_filterMap]
  rfl

end Nodes

theorem scan_cases (root : Entry) (rules : ScanRules) (path : Path) :
    scan root rules path = .error .badPath ∨ scan root rules path = .error .tooLong ∨
      scan root rules path = .ok (outlineFile root rules.options path 0) ∨
      scan root rules path = .ok (scanDirectory root rules path) := by
  unfold scan
  split
  · exact Or.inl rfl
  · exact Or.inr (Or.inl rfl)
  · exact Or.inr (Or.inr (Or.inr rfl))
  · split
    · exact Or.inr (Or.inr (Or.inl rfl))
    · exact Or.inr (Or.inr (Or.inr rfl))

end Outliner
