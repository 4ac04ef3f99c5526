import Outliner.Proofs.Files.Formation
import Outliner.Proofs.Outline.Trail

namespace Outliner

/-- A rule for the names in a directory holds of a directory and of all directories below it. -/
inductive Entry.EachDirectory (rule : List Text → Prop) : Entry → Prop
  | file (bytes : List UInt8) : EachDirectory rule (.file bytes)
  | unreadable (trouble : Trouble) : EachDirectory rule (.unreadable trouble)
  | unlistable (trouble : Trouble) : EachDirectory rule (.unlistable trouble)
  | dir (entries : List (Text × Entry)) (here : rule (entries.map Prod.fst))
      (below : ∀ named ∈ entries, EachDirectory rule named.2) : EachDirectory rule (.dir entries)

/-- Names that the entries of one directory can have. -/
def AreNames (names : List Text) : Prop :=
  names.Nodup ∧ [] ∉ names

/-- A scan takes files with this name: the suffix is one of the extensions, ignoring case, or of the
default ones if there are none. -/
def IsAskedFor (extensions : List Text) (name : Text) : Prop :=
  Text.lower (Path.suffixOf name) ∈
    (if extensions = [] then defaultExtensions else extensions).map Text.lower

def IsPassedOver (skipped : List Text) (name : Text) : Prop :=
  name ∈ skipped ∨ name.head? = some '.'

instance (extensions : List Text) (name : Text) : Decidable (IsAskedFor extensions name) :=
  inferInstanceAs (Decidable (_ ∈ _))

instance (skipped : List Text) (name : Text) : Decidable (IsPassedOver skipped name) :=
  inferInstanceAs (Decidable (_ ∨ _))

section Rules

variable (extensions skipped : List Text)

structure IsListedFile (top : Entry) (names : List Text) : Prop where
  leads : ∃ entry, top.at? names = some entry ∧ entry.isRegular = true
  asked : ∃ name, names.getLast? = some name ∧ IsAskedFor extensions name
  entered : ∀ directory ∈ names.dropLast, ¬ IsPassedOver skipped directory

structure IsListedFolder (top : Entry) (names : List Text) : Prop where
  leads : ∃ entries, top.at? names = some (.dir entries)
  below : names ≠ []
  entered : ∀ directory ∈ names, ¬ IsPassedOver skipped directory
  holds : ∃ rest, IsListedFile extensions skipped top (names ++ rest)

end Rules

theorem mem_of_lookup? (name : Text) (entries : List (Text × Entry)) (entry : Entry)
    (found : Entry.lookup? name entries = some entry) : (name, entry) ∈ entries := by
  induction entries with
  | nil => cases found
  | cons first rest ih =>
      obtain ⟨other, old⟩ := first
      rw [Entry.lookup?] at found
      split at found
      · next same =>
          injection found with found
          rw [← found, beq_iff_eq.mp same]
          exact List.mem_cons_self
      · exact List.mem_cons_of_mem _ (ih found)

theorem lookup?_eq_some_iff (name : Text) (entries : List (Text × Entry)) (entry : Entry)
    (distinct : (entries.map Prod.fst).Nodup) :
    Entry.lookup? name entries = some entry ↔ (name, entry) ∈ entries := by
  constructor
  · exact mem_of_lookup? name entries entry
  · intro member
    induction entries with
    | nil => cases member
    | cons first rest ih =>
        obtain ⟨other, old⟩ := first
        rw [List.map_cons, List.nodup_cons] at distinct
        rw [Entry.lookup?]
        rcases List.mem_cons.mp member with same | later
        · injection same with sameName sameEntry
          rw [if_pos (by simp [sameName]), sameEntry]
        · have differ : other ≠ name := by
            rintro rfl
            exact distinct.1 (List.mem_map.mpr ⟨(other, entry), later, rfl⟩)
          rw [if_neg (by simpa using differ), ih distinct.2 later]

theorem Entry.EachDirectory.of_dir {rule : List Text → Prop} {entries : List (Text × Entry)}
    (each : (Entry.dir entries).EachDirectory rule) :
    rule (entries.map Prod.fst) ∧ ∀ named ∈ entries, named.2.EachDirectory rule := by
  cases each with
  | dir _ here below => exact ⟨here, below⟩

section Listed

variable (extensions skipped : List Text) (name : Text) (rest : List Text)
  (entries : List (Text × Entry))

theorem isListedFile_at_regular (entry : Entry) (regular : entry.isRegular = true)
    (found : Entry.lookup? name entries = some entry) :
    IsListedFile extensions skipped (.dir entries) (name :: rest) ↔
      rest = [] ∧ IsAskedFor extensions name := by
  obtain ⟨contents, known⟩ := entry.isRegular_iff.mp regular
  constructor
  · rintro ⟨⟨reached, leads, _⟩, ⟨last, ending, asked⟩, _⟩
    rw [Entry.at?, found, Option.bind_some] at leads
    cases rest with
    | nil =>
        injection ending with same
        rw [← same] at asked
        exact ⟨rfl, asked⟩
    | cons next rest =>
        rw [Entry.at?_regular entry contents known] at leads
        cases leads
  · rintro ⟨rfl, asked⟩
    refine ⟨⟨entry, ?_, regular⟩, ⟨name, rfl, asked⟩, nofun⟩
    rw [Entry.at?, found]
    rfl

theorem not_isListedFile_at_unlistable (trouble : Trouble)
    (found : Entry.lookup? name entries = some (.unlistable trouble)) :
    ¬IsListedFile extensions skipped (.dir entries) (name :: rest) := by
  rintro ⟨⟨reached, leads, regular⟩, _, _⟩
  rw [Entry.at?, found, Option.bind_some] at leads
  cases rest with
  | nil =>
      cases leads
      cases regular
  | cons next rest => cases leads

theorem isListedFile_at_dir (inner : List (Text × Entry))
    (found : Entry.lookup? name entries = some (.dir inner)) :
    IsListedFile extensions skipped (.dir entries) (name :: rest) ↔
      ¬ IsPassedOver skipped name ∧ IsListedFile extensions skipped (.dir inner) rest := by
  have step : (Entry.dir entries).at? (name :: rest) = (Entry.dir inner).at? rest := by
    rw [Entry.at?, found, Option.bind_some]
  cases rest with
  | nil =>
      constructor
      · rintro ⟨⟨reached, leads, regular⟩, _, _⟩
        rw [step] at leads
        cases leads
        cases regular
      · rintro ⟨_, ⟨reached, leads, regular⟩, _, _⟩
        cases leads
        cases regular
  | cons next rest =>
      constructor
      · rintro ⟨leads, asked, entered⟩
        rw [step] at leads
        rw [List.getLast?_cons_cons] at asked
        rw [List.dropLast_cons_cons, List.forall_mem_cons] at entered
        exact ⟨entered.1, leads, asked, entered.2⟩
      · rintro ⟨free, leads, asked, entered⟩
        refine ⟨?_, ?_, ?_⟩
        · rwa [step]
        · rwa [List.getLast?_cons_cons]
        · rw [List.dropLast_cons_cons, List.forall_mem_cons]
          exact ⟨free, entered⟩

theorem isListedFolder_at_dir (inner : List (Text × Entry))
    (found : Entry.lookup? name entries = some (.dir inner)) :
    IsListedFolder extensions skipped (.dir entries) (name :: rest) ↔
      ¬ IsPassedOver skipped name ∧
        (rest = [] ∧ (∃ more, IsListedFile extensions skipped (.dir inner) more) ∨
          IsListedFolder extensions skipped (.dir inner) rest) := by
  have step : (Entry.dir entries).at? (name :: rest) = (Entry.dir inner).at? rest := by
    rw [Entry.at?, found, Option.bind_some]
  have files (more : List Text) := isListedFile_at_dir extensions skipped name (rest ++ more)
    entries inner found
  constructor
  · rintro ⟨leads, _, entered, more, listed⟩
    rw [step] at leads
    rw [List.forall_mem_cons] at entered
    have deeper := ((files more).mp listed).2
    refine ⟨entered.1, ?_⟩
    cases rest with
    | nil => exact Or.inl ⟨rfl, more, deeper⟩
    | cons next rest => exact Or.inr ⟨leads, List.cons_ne_nil next rest, entered.2, more, deeper⟩
  · rintro ⟨free, ⟨rfl, more, listed⟩ | ⟨leads, _, entered, more, listed⟩⟩
    · refine ⟨⟨inner, step⟩, List.cons_ne_nil name [], ?_, more, (files more).mpr ⟨free, listed⟩⟩
      simpa using free
    · refine ⟨?_, List.cons_ne_nil name rest, ?_, more, (files more).mpr ⟨free, listed⟩⟩
      · rwa [step]
      · rw [List.forall_mem_cons]
        exact ⟨free, entered⟩

theorem isListedFolder_lookup
    (listed : IsListedFolder extensions skipped (.dir entries) (name :: rest)) :
    ∃ inner, Entry.lookup? name entries = some (.dir inner) := by
  obtain ⟨⟨below, leads⟩, _, _, _⟩ := listed
  rw [Entry.at?] at leads
  obtain ⟨entry, found, leads⟩ := Option.bind_eq_some_iff.mp leads
  cases entry with
  | dir inner => exact ⟨inner, found⟩
  | _ => cases rest <;> cases leads

theorem isListedFile_lookup
    (listed : IsListedFile extensions skipped (.dir entries) (name :: rest)) :
    ∃ entry, Entry.lookup? name entries = some entry := by
  obtain ⟨⟨reached, leads, _⟩, _, _⟩ := listed
  rw [Entry.at?] at leads
  obtain ⟨entry, found, _⟩ := Option.bind_eq_some_iff.mp leads
  exact ⟨entry, found⟩

end Listed

section Rules

variable (options : Script.Options) (extensions skipped : List Text)

theorem mem_suffixes_iff (path : Path) (name : Text) :
    (path.child name).suffix ∈ (ScanRules.make options extensions skipped).suffixes ↔
      IsAskedFor extensions name := by
  rw [Path.suffix, Path.name_child, IsAskedFor]
  cases extensions with
  | nil => rfl
  | cons first others => rfl

theorem skips_iff (name : Text) :
    (ScanRules.make options extensions skipped).skips name = true ↔
      IsPassedOver skipped name := by
  simp [ScanRules.make, ScanRules.skips, IsPassedOver]

theorem isFileContent_contents (children : List Node) (content : IsFileContent children) :
    ∀ child ∈ children, child.kind.isEntry = false := by
  rcases content with kinds | kinds | kinds | ⟨_, kinds⟩
  · exact contents_of_kinds _ (by decide) children kinds
  · exact contents_of_kinds _ (by decide) children kinds
  · exact contents_of_kinds _ (by decide) children kinds
  · exact contents_of_kinds _ (by decide) children kinds

theorem ways_outlineRead (kind : Kind) (entry : kind.isEntry = true) (path : Path) (level : Int)
    (contents : Except Trouble (List UInt8)) (names : List Text) :
    names ∉ ways kind (outlineRead options path level contents).1.children := by
  have whole := wellFormed_outlineRead options path level contents
  obtain ⟨children, same⟩ := outlineRead_eq path level options contents
  rw [same] at whole ⊢
  obtain ⟨sound, below, _⟩ := (wellFormed_cons _ _).mp whole
  exact ways_contents kind entry children below (isFileContent_contents children sound.fits) names

section Ways

variable (kind : Kind) (path : Path) (level : Int) (entries : List (Text × Entry))

theorem name_node_foundAt (rules : ScanRules) (named : Text × Entry) (node : Node)
    (proper : named.1 ≠ []) (made : (foundAt rules path level named).node = some node) :
    node.name = named.1 := by
  obtain ⟨name, entry⟩ := named
  rw [foundAt] at made
  rcases entry.kinds with ⟨contents, regular⟩ | ⟨trouble, rfl⟩ | ⟨inner, rfl⟩
  · obtain ⟨_, rfl⟩ := (node_found_regular rules _ level entry contents regular node).mp made
    obtain ⟨children, same⟩ := outlineRead_eq (path.child name) level rules.options contents
    rw [same]
    exact path.name_child name
  · rw [node_found_unlistable] at made
    cases made
  · obtain ⟨_, _, rfl⟩ := (node_found_dir rules (path.child name) level inner node).mp made
    exact path.title_child name proper

theorem name_nonempty (proper : AreNames (entries.map Prod.fst)) (named : Text × Entry)
    (listed : named ∈ entries) : named.1 ≠ [] := by
  intro empty
  exact proper.2 (List.mem_map.mpr ⟨named, listed, empty⟩)

variable (name : Text) (rest : List Text) (proper : AreNames (entries.map Prod.fst))
include proper

theorem lookup?_of_mem_childrenOf (rules : ScanRules) (root : Node)
    (member : root ∈ childrenOf (foundIn rules path level entries)) :
    ∃ entry, Entry.lookup? root.name entries = some entry ∧
      (entry.found rules (path.child root.name) level).node = some root := by
  obtain ⟨named, listed, made⟩ := (mem_childrenOf rules level path entries root).mp member
  rw [name_node_foundAt path level rules named root (name_nonempty entries proper named listed)
    made]
  exact ⟨named.2, (lookup?_eq_some_iff named.1 entries named.2 proper.1).mpr listed, made⟩

theorem lookup?_of_mem_ways (rules : ScanRules)
    (member : name :: rest ∈ ways kind (childrenOf (foundIn rules path level entries))) :
    ∃ entry root, Entry.lookup? name entries = some entry ∧
      (entry.found rules (path.child name) level).node = some root ∧
      (rest = [] ∧ root.kind = kind ∨ rest ∈ ways kind root.children) := by
  obtain ⟨root, inside, rfl, own⟩ := (mem_ways_cons kind name rest _).mp member
  obtain ⟨entry, found, made⟩ :=
    lookup?_of_mem_childrenOf path level entries proper rules root inside
  exact ⟨entry, root, found, made, own⟩

theorem not_mem_ways_at_none (rules : ScanRules) (missing : Entry.lookup? name entries = none) :
    name :: rest ∉ ways kind (childrenOf (foundIn rules path level entries)) := by
  intro member
  obtain ⟨entry, _, found, _⟩ :=
    lookup?_of_mem_ways kind path level entries name rest proper rules member
  rw [missing] at found
  cases found

theorem mem_ways_childrenOf (rules : ScanRules) (entry : Entry)
    (found : Entry.lookup? name entries = some entry) :
    name :: rest ∈ ways kind (childrenOf (foundIn rules path level entries)) ↔
      ∃ root, (entry.found rules (path.child name) level).node = some root ∧
        (rest = [] ∧ root.kind = kind ∨ rest ∈ ways kind root.children) := by
  constructor
  · intro member
    obtain ⟨other, root, same, made, own⟩ :=
      lookup?_of_mem_ways kind path level entries name rest proper rules member
    rw [found] at same
    injection same with same
    rw [same]
    exact ⟨root, made, own⟩
  · rintro ⟨root, made, own⟩
    have listed := mem_of_lookup? name entries entry found
    have nonempty := name_nonempty entries proper (name, entry) listed
    have same := name_node_foundAt path level rules (name, entry) root nonempty made
    have inside := (mem_childrenOf rules level path entries root).mpr ⟨(name, entry), listed, made⟩
    exact (mem_ways_cons kind name rest _).mpr ⟨root, inside, same, own⟩

theorem mem_ways_at_regular (isEntry : kind.isEntry = true) (entry : Entry)
    (regular : entry.isRegular = true) (found : Entry.lookup? name entries = some entry) :
    name :: rest ∈ ways kind (childrenOf
        (foundIn (.make options extensions skipped) path level entries)) ↔
      rest = [] ∧ kind = .file ∧ IsAskedFor extensions name := by
  obtain ⟨contents, known⟩ := entry.isRegular_iff.mp regular
  rw [mem_ways_childrenOf kind path level entries name rest proper _ _ found]
  simp only [node_found_regular _ _ _ entry contents known, mem_suffixes_iff]
  have own := kind_outlineRead (path.child name) level
    (ScanRules.make options extensions skipped).options contents
  constructor
  · rintro ⟨root, ⟨asked, rfl⟩, ⟨rfl, kind⟩ | below⟩
    · rw [own] at kind
      exact ⟨rfl, kind.symm, asked⟩
    · exact absurd below (ways_outlineRead _ kind isEntry _ _ _ rest)
  · rintro ⟨rfl, rfl, asked⟩
    exact ⟨_, ⟨asked, rfl⟩, Or.inl ⟨rfl, own⟩⟩

theorem not_mem_ways_at_unlistable (rules : ScanRules) (trouble : Trouble)
    (found : Entry.lookup? name entries = some (.unlistable trouble)) :
    name :: rest ∉ ways kind (childrenOf (foundIn rules path level entries)) := by
  rw [mem_ways_childrenOf kind path level entries name rest proper _ _ found]
  rintro ⟨root, made, _⟩
  rw [node_found_unlistable] at made
  cases made

theorem mem_ways_at_dir (inner : List (Text × Entry))
    (found : Entry.lookup? name entries = some (.dir inner)) :
    name :: rest ∈ ways kind (childrenOf
        (foundIn (.make options extensions skipped) path level entries)) ↔
      ¬ IsPassedOver skipped name ∧
        childrenOf (foundIn (.make options extensions skipped) (path.child name) (level + 1) inner)
          ≠ [] ∧
        (rest = [] ∧ kind = .folder ∨ rest ∈ ways kind (childrenOf
          (foundIn (.make options extensions skipped) (path.child name) (level + 1) inner))) := by
  rw [mem_ways_childrenOf kind path level entries name rest proper _ _ found]
  simp only [node_found_dir, Path.name_child, ← Bool.not_eq_true, skips_iff]
  constructor
  · rintro ⟨root, ⟨entered, held, rfl⟩, ⟨rfl, own⟩ | below⟩
    · exact ⟨entered, held, Or.inl ⟨rfl, own.symm⟩⟩
    · exact ⟨entered, held, Or.inr below⟩
  · rintro ⟨entered, held, ⟨rfl, rfl⟩ | below⟩
    · exact ⟨_, ⟨entered, held, rfl⟩, Or.inl ⟨rfl, rfl⟩⟩
    · exact ⟨_, ⟨entered, held, rfl⟩, Or.inr below⟩

end Ways

/-- A folder that has a node has a file somewhere below it, by induction on the directory tree. -/
theorem exists_way_to_file (rules : ScanRules) (path : Path) (level : Int) (top : Entry) :
    ∀ entries, top = .dir entries → childrenOf (foundIn rules path level entries) ≠ [] →
      ∃ names, names ∈ ways .file (childrenOf (foundIn rules path level entries)) := by
  induction top using Entry.induction generalizing path level with
  | regular entry contents regular =>
      rintro entries rfl
      cases regular
  | unlistable trouble => nofun
  | dir entries ih =>
      rintro _ ⟨rfl⟩ held
      obtain ⟨root, member⟩ := List.exists_mem_of_ne_nil _ held
      obtain ⟨⟨name, entry⟩, listed, made⟩ :=
        (mem_childrenOf rules level path entries root).mp member
      rw [foundAt] at made
      rcases entry.kinds with ⟨contents, regular⟩ | ⟨trouble, rfl⟩ | ⟨inner, rfl⟩
      · obtain ⟨_, rfl⟩ := (node_found_regular rules _ level entry contents regular root).mp made
        have own := kind_outlineRead (path.child name) level rules.options contents
        exact ⟨_, (mem_ways_cons _ _ [] _).mpr ⟨_, member, rfl, Or.inl ⟨rfl, own⟩⟩⟩
      · rw [node_found_unlistable] at made
        cases made
      · obtain ⟨_, held, rfl⟩ := (node_found_dir rules (path.child name) level inner root).mp made
        obtain ⟨rest, below⟩ := ih (name, .dir inner) listed (path.child name) (level + 1) inner
          rfl held
        exact ⟨_, (mem_ways_cons _ _ rest _).mpr ⟨_, member, rfl, Or.inr below⟩⟩

section Listings

variable (path : Path) (level : Int) (entries : List (Text × Entry))

/-- The files of the outline are the listed files, by induction on the names of a way. -/
theorem mem_ways_file_iff (names : List Text) (each : (Entry.dir entries).EachDirectory AreNames) :
    names ∈ ways .file
        (childrenOf (foundIn (.make options extensions skipped) path level entries)) ↔
      IsListedFile extensions skipped (.dir entries) names := by
  induction names generalizing path level entries with
  | nil =>
      refine iff_of_false (nil_not_mem_ways .file _) ?_
      rintro ⟨⟨reached, leads, regular⟩, _, _⟩
      cases leads
      cases regular
  | cons name rest ih =>
      obtain ⟨proper, below⟩ := each.of_dir
      cases found : Entry.lookup? name entries with
      | none =>
          refine iff_of_false
            (not_mem_ways_at_none .file path level entries name rest proper _ found) ?_
          intro listed
          obtain ⟨entry, same⟩ := isListedFile_lookup extensions skipped name rest entries listed
          rw [found] at same
          cases same
      | some entry =>
          rcases entry.kinds with ⟨contents, known⟩ | ⟨trouble, rfl⟩ | ⟨inner, rfl⟩
          · have regular := entry.isRegular_iff.mpr ⟨contents, known⟩
            rw [mem_ways_at_regular options extensions skipped .file path level entries name rest
                proper rfl entry regular found,
              isListedFile_at_regular extensions skipped name rest entries entry regular found]
            simp
          · exact iff_of_false
              (not_mem_ways_at_unlistable .file path level entries name rest proper _ trouble found)
              (not_isListedFile_at_unlistable extensions skipped name rest entries trouble found)
          · have deeper := below _ (mem_of_lookup? name entries (.dir inner) found)
            rw [mem_ways_at_dir options extensions skipped .file path level entries name rest
                proper inner found,
              isListedFile_at_dir extensions skipped name rest entries inner found,
              ih (path.child name) (level + 1) inner deeper]
            constructor
            · rintro ⟨entered, _, ⟨_, impossible⟩ | listed⟩
              · cases impossible
              · exact ⟨entered, listed⟩
            · rintro ⟨entered, listed⟩
              refine ⟨entered, ?_, Or.inr listed⟩
              intro empty
              have member := (ih (path.child name) (level + 1) inner deeper).mpr listed
              rw [empty] at member
              cases member

theorem childrenOf_ne_nil_iff (each : (Entry.dir entries).EachDirectory AreNames) :
    childrenOf (foundIn (.make options extensions skipped) path level entries) ≠ [] ↔
      ∃ names, IsListedFile extensions skipped (.dir entries) names := by
  constructor
  · intro held
    obtain ⟨names, member⟩ := exists_way_to_file _ path level (.dir entries) entries rfl held
    exact ⟨names, (mem_ways_file_iff options extensions skipped path level entries names each).mp
      member⟩
  · rintro ⟨names, listed⟩ empty
    have member :=
      (mem_ways_file_iff options extensions skipped path level entries names each).mpr listed
    rw [empty] at member
    cases member

theorem mem_ways_folder_iff (names : List Text)
    (each : (Entry.dir entries).EachDirectory AreNames) :
    names ∈ ways .folder
        (childrenOf (foundIn (.make options extensions skipped) path level entries)) ↔
      IsListedFolder extensions skipped (.dir entries) names := by
  induction names generalizing path level entries with
  | nil =>
      refine iff_of_false (nil_not_mem_ways .folder _) ?_
      rintro ⟨_, impossible, _, _⟩
      exact absurd rfl impossible
  | cons name rest ih =>
      obtain ⟨proper, below⟩ := each.of_dir
      cases found : Entry.lookup? name entries with
      | none =>
          refine iff_of_false
            (not_mem_ways_at_none .folder path level entries name rest proper _ found) ?_
          intro listed
          obtain ⟨inner, same⟩ := isListedFolder_lookup extensions skipped name rest entries listed
          rw [found] at same
          cases same
      | some entry =>
          -- Only a directory can be on the way to a listed folder.
          have isDir (listed : IsListedFolder extensions skipped (.dir entries) (name :: rest)) :
              ∃ inner, entry = .dir inner := by
            obtain ⟨inner, same⟩ :=
              isListedFolder_lookup extensions skipped name rest entries listed
            rw [found] at same
            exact ⟨inner, Option.some.inj same⟩
          rcases entry.kinds with ⟨contents, known⟩ | ⟨trouble, rfl⟩ | ⟨inner, rfl⟩
          · have regular := entry.isRegular_iff.mpr ⟨contents, known⟩
            rw [mem_ways_at_regular options extensions skipped .folder path level entries name rest
              proper rfl entry regular found]
            refine iff_of_false nofun ?_
            intro listed
            obtain ⟨inner, rfl⟩ := isDir listed
            cases known
          · refine iff_of_false
              (not_mem_ways_at_unlistable .folder path level entries name rest proper _ trouble
                found) ?_
            intro listed
            obtain ⟨inner, impossible⟩ := isDir listed
            cases impossible
          · have deeper := below _ (mem_of_lookup? name entries (.dir inner) found)
            have held := childrenOf_ne_nil_iff options extensions skipped (path.child name)
              (level + 1) inner deeper
            rw [mem_ways_at_dir options extensions skipped .folder path level entries name rest
                proper inner found,
              isListedFolder_at_dir extensions skipped name rest entries inner found, held,
              ih (path.child name) (level + 1) inner deeper]
            constructor
            · rintro ⟨entered, listed, ⟨rfl, _⟩ | further⟩
              · exact ⟨entered, Or.inl ⟨rfl, listed⟩⟩
              · exact ⟨entered, Or.inr further⟩
            · rintro ⟨entered, ⟨rfl, listed⟩ | further⟩
              · exact ⟨entered, listed, Or.inl ⟨rfl, rfl⟩⟩
              · obtain ⟨more, listed⟩ := further.holds
                exact ⟨entered, ⟨_, listed⟩, Or.inr further⟩

end Listings

end Rules

end Outliner
