import Mathlib.Data.List.Nodup
import Outliner.Proofs.Outline.WellFormed

namespace Outliner

mutual

def Node.trails : Node → List (List Text × Node)
  | ⟨name, kind, path, level, expanded, lines, children, itemKind⟩ =>
    ([name], ⟨name, kind, path, level, expanded, lines, children, itemKind⟩) ::
      (trails children).map fun trail => (name :: trail.1, trail.2)
termination_by structural node => node

def trails : List Node → List (List Text × Node)
  | [] => []
  | node :: rest => node.trails ++ trails rest
termination_by structural forest => forest

end

def ways (kind : Kind) (forest : List Node) : List (List Text) :=
  ((trails forest).filter (·.2.kind = kind)).map Prod.fst

theorem Node.trails_eq (node : Node) :
    node.trails = ([node.name], node) ::
      (Outliner.trails node.children).map fun trail => (node.name :: trail.1, trail.2) := by
  cases node
  rfl

theorem trails_eq_flatMap (forest : List Node) : trails forest = forest.flatMap Node.trails := by
  induction forest with
  | nil => rfl
  | cons node rest ih => rw [trails, ih, List.flatMap_cons]

theorem Node.map_snd_trails (node : Node) :
    node.trails.map Prod.snd = node :: preorder node.children := by
  induction node using Node.induction with
  | step node ih =>
      rw [Node.trails_eq, trails_eq_flatMap, preorder_eq_flatMap, List.map_cons, List.map_map,
        List.map_flatMap]
      congr 1
      apply List.flatMap_congr
      intro child member
      exact ih child member

theorem map_snd_trails (forest : List Node) : (trails forest).map Prod.snd = preorder forest := by
  rw [trails_eq_flatMap, preorder_eq_flatMap, List.map_flatMap]
  apply List.flatMap_congr
  intro node _
  exact node.map_snd_trails

theorem mem_trails (names : List Text) (node : Node) (forest : List Node) :
    (names, node) ∈ trails forest ↔ ∃ root ∈ forest, names = [root.name] ∧ node = root ∨
      ∃ rest, names = root.name :: rest ∧ (rest, node) ∈ trails root.children := by
  simp only [trails_eq_flatMap forest, List.mem_flatMap, Node.trails_eq, List.mem_cons,
    List.mem_map, Prod.mk.injEq]
  constructor
  · rintro ⟨root, member, own | ⟨⟨rest, found⟩, inside, rfl, rfl⟩⟩
    · exact ⟨root, member, Or.inl own⟩
    · exact ⟨root, member, Or.inr ⟨rest, rfl, inside⟩⟩
  · rintro ⟨root, member, own | ⟨rest, rfl, inside⟩⟩
    · exact ⟨root, member, Or.inl own⟩
    · exact ⟨root, member, Or.inr ⟨(rest, node), inside, rfl, rfl⟩⟩

theorem mem_preorder_of_mem_trails (names : List Text) (node : Node) (forest : List Node)
    (member : (names, node) ∈ trails forest) : node ∈ preorder forest := by
  rw [← map_snd_trails]
  exact List.mem_map.mpr ⟨(names, node), member, rfl⟩

theorem mem_ways (kind : Kind) (names : List Text) (forest : List Node) :
    names ∈ ways kind forest ↔ ∃ node, (names, node) ∈ trails forest ∧ node.kind = kind := by
  simp [ways]

theorem not_mem_trails_nil (node : Node) (forest : List Node) : ([], node) ∉ trails forest := by
  rw [mem_trails]
  rintro ⟨root, _, ⟨impossible, _⟩ | ⟨rest, impossible, _⟩⟩
  · cases impossible
  · cases impossible

theorem nil_not_mem_ways (kind : Kind) (forest : List Node) : [] ∉ ways kind forest := by
  rw [mem_ways]
  rintro ⟨node, impossible, _⟩
  exact not_mem_trails_nil node forest impossible

theorem mem_ways_cons (kind : Kind) (name : Text) (rest : List Text) (forest : List Node) :
    name :: rest ∈ ways kind forest ↔ ∃ root ∈ forest, root.name = name ∧
      (rest = [] ∧ root.kind = kind ∨ rest ∈ ways kind root.children) := by
  simp only [mem_ways, mem_trails (name :: rest), List.cons.injEq]
  constructor
  · rintro ⟨node, ⟨root, member, ⟨⟨rfl, rfl⟩, rfl⟩ | ⟨_, ⟨rfl, rfl⟩, inside⟩⟩, own⟩
    · exact ⟨node, member, rfl, Or.inl ⟨rfl, own⟩⟩
    · exact ⟨root, member, rfl, Or.inr ⟨node, inside, own⟩⟩
  · rintro ⟨root, member, rfl, ⟨rfl, own⟩ | ⟨node, inside, own⟩⟩
    · exact ⟨root, ⟨root, member, Or.inl ⟨⟨rfl, rfl⟩, rfl⟩⟩, own⟩
    · exact ⟨node, ⟨root, member, Or.inr ⟨rest, ⟨rfl, rfl⟩, inside⟩⟩, own⟩

def Kind.isEntry : Kind → Bool
  | .file => true
  | .folder => true
  | _ => false

theorem contents_of_kinds (kinds : List Kind) (plain : ∀ kind ∈ kinds, kind.isEntry = false)
    (forest : List Node) (of : OfKinds kinds forest) :
    ∀ node ∈ forest, node.kind.isEntry = false := by
  intro node member
  exact plain node.kind (of node member)

theorem Node.MatchesSummary.contents (node : Node) (same : node.MatchesSummary) :
    ∀ child ∈ node.children, child.kind.isEntry = false := by
  rcases same with ⟨kinds, _⟩ | ⟨kinds, _⟩
  · exact contents_of_kinds _ (by decide) node.children kinds
  · exact contents_of_kinds _ (by decide) node.children kinds

theorem containerTitle_isEntry (itemKind : Kind) (title : Text)
    (named : containerTitle itemKind = some title) : itemKind.isEntry = false := by
  cases itemKind with
  | file => cases named
  | folder => cases named
  | _ => rfl

theorem Node.Sound.contents_below (node : Node) (sound : node.Sound)
    (content : node.kind.isEntry = false) :
    ∀ child ∈ node.children, child.kind.isEntry = false := by
  have fits := sound.fits
  rw [Node.FitsKind] at fits
  cases own : node.kind with
  | file => simp [own, Kind.isEntry] at content
  | folder => simp [own, Kind.isEntry] at content
  | classType =>
      simp only [own] at fits
      exact contents_of_kinds _ (by decide) node.children fits
  | function =>
      simp only [own] at fits
      intro child member
      have listed := fits.subset (List.mem_map.mpr ⟨child, member, rfl⟩)
      simp only [List.mem_cons, Prod.mk.injEq, List.not_mem_nil, or_false] at listed
      rcases listed with ⟨kind, _⟩ | ⟨kind, _⟩
      · rw [kind]; rfl
      · rw [kind]; rfl
  | container =>
      simp only [own] at fits
      obtain ⟨_, itemKind, title, _, named, kinds, _⟩ := fits
      have plain : ∀ kind ∈ [itemKind], kind.isEntry = false := by
        simp [containerTitle_isEntry itemKind title named]
      exact contents_of_kinds _ plain node.children kinds
  | object =>
      simp only [own] at fits
      exact fits.contents
  | arrayItem =>
      simp only [own] at fits
      rcases fits.2 with childless | same
      · simp [childless]
      · exact same.contents
  | localVariable =>
      simp only [own] at fits
      simp [fits.1]
  | parameter =>
      simp only [own] at fits
      simp [fits]
  | property =>
      simp only [own] at fits
      simp [fits]
  | error =>
      simp only [own] at fits
      simp [fits]

theorem contents_preorder (forest : List Node) (wellFormed : WellFormed forest)
    (roots : ∀ root ∈ forest, root.kind.isEntry = false) :
    ∀ node ∈ preorder forest, node.kind.isEntry = false := by
  have each (root : Node) : WellFormed [root] → root.kind.isEntry = false →
      ∀ node ∈ preorder [root], node.kind.isEntry = false := by
    induction root using Node.induction with
    | step root ih =>
        intro whole content node member
        have sound := ((wellFormed_iff_roots [root]).mp whole) root List.mem_cons_self
        rcases (mem_preorder_root node root).mp member with rfl | below
        · exact content
        · obtain ⟨child, listed, own⟩ := (mem_preorder node _).mp below
          apply ih child listed
          · exact wellFormed_root child root.children sound.2 listed
          · exact sound.1.contents_below root content child listed
          · exact (mem_preorder_root node child).mpr own
  intro node member
  obtain ⟨root, listed, own⟩ := (mem_preorder node forest).mp member
  apply each root (wellFormed_root root forest wellFormed listed) (roots root listed)
  exact (mem_preorder_root node root).mpr own

theorem ways_contents (kind : Kind) (entry : kind.isEntry = true) (forest : List Node)
    (wellFormed : WellFormed forest) (roots : ∀ root ∈ forest, root.kind.isEntry = false)
    (names : List Text) : names ∉ ways kind forest := by
  intro listed
  obtain ⟨node, member, rfl⟩ := (mem_ways kind names forest).mp listed
  have inside := mem_preorder_of_mem_trails names node forest member
  rw [contents_preorder forest wellFormed roots node inside] at entry
  cases entry

end Outliner
