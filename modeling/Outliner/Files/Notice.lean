import Outliner.Files.Entry

namespace Outliner

inductive Severity where
  | debug
  | warning
deriving DecidableEq, Repr

inductive Notice where
  | noReader (path : Path)
  | unreadable (path : Path) (trouble : Trouble)
  | unlistable (path : Path) (trouble : Trouble)
  | scanned (path : Path) (folders files : Nat)
  | settingsIgnored (path : Path) (trouble : Trouble)
  | settingsUnwritable (path : Path) (trouble : Trouble)
  /-- A setting is of the wrong type; what stands in its place is shown as written in messages, if it
  can be. -/
  | notBoolean (key : Text) (shown : Option Text)
  | notList (key : Text) (shown : Option Text)
deriving DecidableEq, Repr

namespace Notice

def severity : Notice → Severity
  | noReader _ => .debug
  | scanned _ _ _ => .debug
  | _ => .warning

def message (describe : Trouble → Text) : Notice → Text
  | noReader path => "No extractor for ".toList ++ path.toText
  | unreadable path .badPath =>
    "Failed to outline ".toList ++ path.toText ++ ": ".toList ++ describe .badPath
  | unreadable path trouble =>
    "Could not read ".toList ++ path.toText ++ ": ".toList ++ describe trouble
  | unlistable path trouble =>
    "Cannot list ".toList ++ path.toText ++ ": ".toList ++ describe trouble
  | scanned path folders files =>
    "Scanned ".toList ++ path.toText ++ ": ".toList ++ Text.ofNat folders ++
      " folders, ".toList ++ Text.ofNat files ++ " files".toList
  | settingsIgnored path trouble =>
    "Ignoring unreadable config ".toList ++ path.toText ++ ": ".toList ++ describe trouble
  | settingsUnwritable path trouble =>
    "Could not write config ".toList ++ path.toText ++ ": ".toList ++ describe trouble
  | notBoolean key shown =>
    "Config ".toList ++ key ++ " must be a boolean, got ".toList ++ shown.getD []
  | notList key shown =>
    "Config ".toList ++ key ++ " must be a list, got ".toList ++ shown.getD []

/-- Whether a notice has words. What reports one without breaks off. -/
def hasWords : Notice → Bool
  | notBoolean _ shown => shown.isSome
  | notList _ shown => shown.isSome
  | _ => true

end Notice

end Outliner
