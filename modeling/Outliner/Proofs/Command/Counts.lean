import Outliner.Command.Run
import Outliner.Proofs.Outline.Tally
import Outliner.Proofs.Script.Formation

/-!
The counts under an outline. Each line of a script that starts a class or a function is one node of
its kind in the node of the file, and these numbers are the ones that are reported.
-/

namespace Outliner

namespace Script

section Script

variable (options : Options) (place : Place) (lines : List Text)

/-- The lines that start classes. -/
def classLines : List Nat :=
  (List.range lines.length).filter fun index => (classAt? lines index).isSome

theorem count_functions_extract :
    countKind .function (extract lines options place) = (functionLines lines).length := by
  rw [← functions_length options place lines, functions, ← List.countP_eq_length_filter, countKind]

theorem classOf_declarationAt? (index : Nat) :
    ((declarationAt? options place lines index).map (·.kind == .classType)).getD false =
      (classAt? lines index).isSome := by
  cases start : classAt? lines index with
  | some name => simp [declarationAt?, classNodeAt?, start]
  | none =>
      rw [declarationAt?_plain options place lines index start]
      cases here : functionNodeAt? options place lines index with
      | none => rfl
      | some node =>
          have kind := functionNodeAt?_kind options place lines index node here
          rw [Option.map_some, Option.getD_some, kind]
          rfl

theorem count_classes_extract :
    countKind .classType (extract lines options place) = (classLines lines).length := by
  have narrowed : countKind .classType (extract lines options place) =
      (declarations (extract lines options place)).countP (·.kind == .classType) := by
    rw [countKind, declarations, List.countP_filter]
    congr 1
    funext node
    rw [isDeclaration]
    cases node.kind <;> rfl
  rw [narrowed, declarations_extract, List.countP_filterMap, classLines,
    ← List.countP_eq_length_filter]
  simp only [classOf_declarationAt?]

theorem kind_of_mem_details (parameters : List Parameter) (entries : List (Text × Text))
    (node : Node) (member : node ∈ preorder (details options place parameters entries)) :
    node.kind ∈ [Kind.container, .parameter, .localVariable] := by
  rw [details_eq, preorder_append, List.mem_append] at member
  rcases member with shown | assigned
  · split at shown
    · rw [preorder_cons, preorder_nil, List.append_nil, List.mem_cons] at shown
      rcases shown with rfl | below
      · exact List.mem_cons_self
      · rw [preorder_leaves _ fun leaf held => (parameter_leaf place parameters leaf held).1]
          at below
        rw [(parameter_leaf place parameters node below).2]
        decide
    · cases shown
  · split at assigned
    · rw [preorder_cons, preorder_nil, List.append_nil, List.mem_cons] at assigned
      rcases assigned with rfl | below
      · exact List.mem_cons_self
      · rw [preorder_leaves _ fun leaf held => (variable_leaf place entries leaf held).1] at below
        rw [(variable_leaf place entries node below).2]
        decide
    · cases assigned

theorem count_files_extract : countKind .file (extract lines options place) = 0 := by
  rw [countKind, List.countP_eq_zero]
  intro node member
  obtain ⟨index, own | ⟨function, yielded, rfl | below⟩⟩ :=
    mem_preorder_extract options place lines node member
  · obtain ⟨name, _, rfl⟩ := Option.map_eq_some_iff.mp own
    exact Bool.false_ne_true
  · rw [functionNodeAt?_kind options place lines index node yielded]
    decide
  · obtain ⟨signature, raw, later, _, _, rfl⟩ :=
      functionNodeAt?_eq_some options place lines index function yielded
    have kinds := kind_of_mem_details options _ _ _ node below
    rintro same
    rw [eq_of_beq same] at kinds
    exact absurd kinds (by decide)

theorem extract_eq_nil_iff :
    extract lines options place = [] ↔ classLines lines = [] ∧ functionLines lines = [] := by
  have classes := count_classes_extract options place lines
  have functions := count_functions_extract options place lines
  constructor
  · intro empty
    rw [empty] at classes functions
    exact ⟨List.eq_nil_of_length_eq_zero classes.symm, List.eq_nil_of_length_eq_zero functions.symm⟩
  · rintro ⟨noClass, noFunction⟩
    rw [noClass] at classes
    rw [noFunction] at functions
    -- Every root would be a class or a function, and would count as one.
    rw [List.eq_nil_iff_forall_not_mem]
    intro root member
    have listed := (mem_preorder root _).mpr ⟨root, member, Or.inl rfl⟩
    have kind := ofKinds_extract options place lines root member
    rw [List.mem_cons, List.mem_singleton] at kind
    rcases kind with isClass | isFunction
    · exact List.countP_eq_zero.mp classes root listed (beq_iff_eq.mpr isClass)
    · exact List.countP_eq_zero.mp functions root listed (beq_iff_eq.mpr isFunction)

end Script

end Script

theorem Entry.resolve_of_read (root : Entry) (path : Path) (bytes : List UInt8)
    (held : root.read path = .ok bytes) : root.resolve path = .ok (.file bytes) := by
  unfold read at held
  split at held
  · next same => rw [same, Except.ok.inj held]
  all_goals cases held

section Files

variable (options : Script.Options) (path : Path) (level : Int) (bytes : List UInt8)

/-- The lines of a file, as they are read. -/
def sourceLines : List Text :=
  Text.lines (Text.Utf8.readSource bytes)

theorem outlineRead_script (script : path.format? = some .script) :
    (outlineRead options path level (.ok bytes)).1 =
      fileNode path level
        (Script.extract (sourceLines bytes) options ⟨path.toText, level + 1⟩) := by
  simp only [outlineRead, script]
  rfl

theorem countKind_fileNode (kind : Kind) (children : List Node) :
    countKind kind [fileNode path level children] =
      (if kind = .file then 1 else 0) + countKind kind children := by
  rw [countKind_cons]
  simp [fileNode, countKind, preorder_nil, eq_comm]

theorem hasChildren_fileNode (children : List Node) :
    (fileNode path level children).hasChildren = true ↔ children ≠ [] := by
  rw [Node.hasChildren, fileNode, Bool.not_eq_true', List.isEmpty_eq_false_iff]

end Files

namespace Command

section Show

variable (context : Context) (text : Text) (overrides : Overrides) (bytes : List UInt8)
  (settings : Settings) (notices : List Notice)

theorem buildOutline_file (held : context.files.read (Path.ofText text) = .ok bytes)
    (loaded : context.loadSettings = .ok (settings, notices)) :
    let path := Path.ofText text
    let outlined := outlineRead (applyOverrides overrides settings.options) path 0 (.ok bytes)
    buildOutline context text overrides =
      .ok (path, outlined.1, notices ++ notices ++ outlined.2) := by
  have resolved := Entry.resolve_of_read _ _ _ held
  simp only [buildOutline, Context.target, resolved, loaded, bind, Except.bind, scan, outlineFile,
    held]
  rfl

theorem output_show (input : Text) (expandAll : Bool)
    (held : context.files.read (Path.ofText text) = .ok bytes)
    (loaded : context.loadSettings = .ok (settings, notices)) :
    let path := Path.ofText text
    let root := (outlineRead (applyOverrides overrides settings.options) path 0 (.ok bytes)).1
    root.hasChildren = true →
    (run context (.show text expandAll overrides) input).output =
      Display.printOutline context.width root expandAll ++
        Display.print context.width (countsMarkup root) := by
  intro path root inner
  have built := buildOutline_file context text overrides bytes settings notices held loaded
  simp only [run, start, runShow, built]
  rw [if_pos inner]
  rfl

end Show

end Command

/-- The line under the outline of one script. -/
def scriptCounts (lines : List Text) : Text :=
  Display.dim ("Files: 1  Classes: ".toList ++ Text.ofNat (Script.classLines lines).length ++
    "  Functions: ".toList ++ Text.ofNat (Script.functionLines lines).length)

section Script

variable (options : Script.Options) (path : Path) (level : Int) (bytes : List UInt8)

theorem count_tally_script (script : path.format? = some .script) :
    let lines := sourceLines bytes
    let tally := tally [(outlineRead options path level (.ok bytes)).1]
    tally.count .file = 1 ∧ tally.count .classType = (Script.classLines lines).length ∧
      tally.count .function = (Script.functionLines lines).length := by
  intro lines tally
  simp only [tally, outlineRead_script options path level bytes script, count_tally,
    countKind_fileNode, Script.count_files_extract, Script.count_classes_extract,
    Script.count_functions_extract]
  exact ⟨rfl, Nat.zero_add _, Nat.zero_add _⟩

theorem countsMarkup_script (script : path.format? = some .script) :
    Command.countsMarkup (outlineRead options path level (.ok bytes)).1 =
      scriptCounts (sourceLines bytes) := by
  have counts := count_tally_script options path level bytes script
  simp only [Command.countsMarkup, counts.1, counts.2.1, counts.2.2]
  rfl

theorem hasChildren_script (script : path.format? = some .script) :
    (outlineRead options path level (.ok bytes)).1.hasChildren = true ↔
      Script.classLines (sourceLines bytes) ≠ [] ∨
        Script.functionLines (sourceLines bytes) ≠ [] := by
  rw [outlineRead_script options path level bytes script, hasChildren_fileNode, ne_eq,
    Script.extract_eq_nil_iff, not_and_or]

end Script

/-- A tally has each kind that occurs, with the number of its nodes, in whatever order children
stand and whatever is expanded. The node of a script has as many classes and functions as lines
start some, and these are the numbers that are shown under its outline. -/
theorem tally_counts_nodes :
    (∀ root : Node,
      (∀ kind count, (kind, count) ∈ tally [root] ↔ countKind kind [root] = count ∧ 0 < count) ∧
      ((tally [root]).map Prod.fst).Nodup ∧
      ((tally [root]).map Prod.snd).sum = (preorder [root]).length ∧
      ∀ other, Rearranged [root] [other] →
        ∀ entry, entry ∈ tally [other] ↔ entry ∈ tally [root]) ∧
    (∀ (options : Script.Options) (path : Path) (level : Int) (bytes : List UInt8),
      path.format? = some .script →
      let lines := sourceLines bytes
      let tally := tally [(outlineRead options path level (.ok bytes)).1]
      tally.count .file = 1 ∧ tally.count .classType = (Script.classLines lines).length ∧
        tally.count .function = (Script.functionLines lines).length) ∧
    ∀ (context : Context) (text input : Text) (expandAll : Bool) (overrides : Overrides)
      (bytes : List UInt8) (settings : Settings) (notices : List Notice),
      (Path.ofText text).format? = some .script →
      context.files.read (Path.ofText text) = .ok bytes →
      context.loadSettings = .ok (settings, notices) →
      let lines := sourceLines bytes
      let options := Command.applyOverrides overrides settings.options
      let root := (outlineRead options (Path.ofText text) 0 (.ok bytes)).1
      (root.hasChildren = true ↔
        Script.classLines lines ≠ [] ∨ Script.functionLines lines ≠ []) ∧
      (root.hasChildren = true →
        (Command.run context (.show text expandAll overrides) input).output =
          Display.printOutline context.width root expandAll ++
            Display.print context.width (scriptCounts lines)) := by
  refine ⟨?_, count_tally_script, ?_⟩
  · intro root
    refine ⟨mem_tally [root], (sound_tally [root]).distinct, total_tally [root], ?_⟩
    intro other rearranged entry
    rw [mem_tally [other] entry.1 entry.2, mem_tally [root] entry.1 entry.2,
      countKind_rearranged entry.1 _ _ rearranged]
  · intro context text input expandAll overrides bytes settings notices script held loaded
    have shown := Command.output_show context text overrides bytes settings notices input expandAll
      held loaded
    refine ⟨hasChildren_script _ _ 0 bytes script, ?_⟩
    intro inner
    rw [shown inner, countsMarkup_script _ _ 0 bytes script]

/-- A script with a class, its method and a function. -/
def shapeText : Text :=
  "class Shape \x7b\n  Area() \x7b\n  \x7d\n\x7d\nfunction Get-Shape \x7b\n\x7d\n".toList

def shapeContext : Context where
  files := .dir [("shape.ps1".toList, .file (Text.Utf8.encode shapeText))]
  settings := { parts := ["home".toList, "config.toml".toList] }
  width := 80

theorem shown_counts_shape :
    let root := (outlineRead {} (Path.ofText "shape.ps1".toList) 0
      (.ok (Text.Utf8.encode shapeText))).1
    (Command.run shapeContext (.show "shape.ps1".toList true {}) []).output =
      Display.printOutline 80 root true ++
        Display.print 80 (Display.dim "Files: 1  Classes: 1  Functions: 2".toList) := by
  intro root
  have counted : scriptCounts (sourceLines (Text.Utf8.encode shapeText)) =
      Display.dim "Files: 1  Classes: 1  Functions: 2".toList := by decide +kernel
  have shown := tally_counts_nodes.2.2 shapeContext "shape.ps1".toList [] true {}
    (Text.Utf8.encode shapeText) {} [] (by decide) (by decide +kernel) (by rfl)
  rw [← counted]
  exact shown.2 (shown.1.mpr (Or.inl (by decide +kernel)))

end Outliner
