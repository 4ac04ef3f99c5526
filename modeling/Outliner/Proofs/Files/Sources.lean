import Outliner.Files.Scan
import Outliner.Proofs.Text.LineEnd

/-!
The outline of a file is that of its text. How its newlines are written and whether a byte order
mark stands before it makes no difference.
-/

namespace Outliner

/-- The outline of a file by a format. If its text is given, the file is not read. -/
def Format.outlineOf (format : Format) (root : Entry) (options : Script.Options) (path : Path)
    (level : Int) : Option Text → Except Trouble (List Node)
  | some text => .ok (format.outline text options path.toText level)
  | none => (root.read path).map fun bytes =>
    format.outline (Text.Utf8.readSource bytes) options path.toText level

theorem outlineFile_eq (format : Format) (root : Entry) (options : Script.Options) (path : Path)
    (level : Int) (known : path.format? = some format) :
    outlineFile root options path level =
      match format.outlineOf root options path (level + 1) none with
      | .ok forest => (fileNode path level forest, [])
      | .error trouble => (fileNode path level [], [.unreadable path trouble]) := by
  simp only [outlineFile, outlineRead, known, Format.outlineOf]
  cases root.read path <;> rfl

/-- Whatever its line ends, and with or without a byte order mark, a file has the outline of its
text, by both formats and on every level. -/
theorem outline_of_any_file (format : Format) (root : Entry) (options : Script.Options)
    (path : Path) (level : Int) (style : Text.LineEnd) (marked : Bool) (text : Text)
    (plain : '\r' ∉ text) (unmarked : text.head? ≠ some '\uFEFF')
    (stored : root.read path = .ok (Text.Utf8.file style marked text)) :
    format.outlineOf root options path level none =
        format.outlineOf root options path level (some text) ∧
      (path.format? = some format →
        outlineFile root options path level =
          (fileNode path level (format.outline text options path.toText (level + 1)), [])) := by
  have read (depth : Int) : format.outlineOf root options path depth none =
      format.outlineOf root options path depth (some text) := by
    simp only [Format.outlineOf, stored, Except.map,
      Text.Utf8.readSource_file style marked text plain unmarked]
  refine ⟨read level, ?_⟩
  intro known
  rw [outlineFile_eq format root options path level known, read (level + 1)]
  rfl

def greetText : Text :=
  "function Größe \x7b\n\n  $x = '€ 😀'\n\x7d\n".toList

def greetPath : Path :=
  { parts := ["greet.ps1".toList] }

/-- A file with a byte order mark and a carriage return before each line feed. -/
def greetFiles : Entry :=
  .dir [("greet.ps1".toList, .file (Text.Utf8.file .both true greetText))]

theorem outline_greetFiles :
    '\r' ∉ greetText ∧ greetText.head? ≠ some '\uFEFF' ∧
      greetFiles.read greetPath = .ok (Text.Utf8.file .both true greetText) ∧
      greetPath.format? = some .script ∧
      (outlineFile greetFiles {} greetPath 0).1.children =
        Script.outline greetText {} ⟨"greet.ps1".toList, 1⟩ := by
  have plain : '\r' ∉ greetText := by decide
  have unmarked : greetText.head? ≠ some '\uFEFF' := by decide
  have stored : greetFiles.read greetPath = .ok (Text.Utf8.file .both true greetText) := rfl
  have known : greetPath.format? = some .script := by decide
  have outlined := (outline_of_any_file .script greetFiles {} greetPath 0 .both true greetText
    plain unmarked stored).2 known
  exact ⟨plain, unmarked, stored, known, by rw [outlined]; rfl⟩

end Outliner
