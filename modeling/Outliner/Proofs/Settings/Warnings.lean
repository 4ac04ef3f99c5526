import Outliner.Proofs.Settings.Merged

namespace Outliner

namespace Setting

/-- Whether a value is of the type of a setting. -/
def accepts : Setting → Toml.Value → Bool
  | toggle _, .bool _ => true
  | toggle _, _ => false
  | _, .array _ => true
  | _, _ => false

/-- What is reported of a value that is not of the type of a setting. -/
def complaint (setting : Setting) (value : Toml.Value) : Notice :=
  match setting with
  | toggle _ => .notBoolean setting.key value.shown
  | _ => .notList setting.key value.shown

def complaints (setting : Setting) (table : Toml.Table) : List Notice :=
  match setting.entry? table with
  | some value => if setting.accepts value then [] else [setting.complaint value]
  | none => []

theorem key_injective (setting other : Setting) (same : setting.key = other.key) :
    setting = other := by
  have distinct : ∀ setting ∈ all, ∀ other ∈ all, setting.key = other.key → setting = other := by
    decide
  exact distinct setting setting.mem_all other other.mem_all same

theorem valueOf_of_refused (setting : Setting) (table : Toml.Table) (value : Toml.Value)
    (held : setting.entry? table = some value) (refused : setting.accepts value = false) :
    setting.valueOf (table.view setting.keys) = .ok (({} : Settings).get setting) := by
  rw [view_keys, held]
  cases setting with
  | toggle choice =>
      cases value with
      | bool flag => cases refused
      | _ => rfl
  | extensions =>
      cases value with
      | array items => cases refused
      | _ => rfl
  | skippedDirs =>
      cases value with
      | array items => cases refused
      | _ => rfl

theorem takeValue_of_refused (setting : Setting) (reading : Reading) (value : Toml.Value)
    (refused : setting.accepts value = false) :
    reading.takeValue setting value = reading.report (setting.complaint value) := by
  cases setting with
  | toggle choice =>
      cases value with
      | bool flag => cases refused
      | _ => rfl
  | extensions =>
      cases value with
      | array items => cases refused
      | _ => rfl
  | skippedDirs =>
      cases value with
      | array items => cases refused
      | _ => rfl

end Setting

/-- Whether a notice is about the setting of a key. -/
def Notice.isAbout (key : Text) : Notice → Bool
  | notBoolean other _ => other == key
  | notList other _ => other == key
  | _ => false

theorem isAbout_complaint (setting other : Setting) (value : Toml.Value) :
    (other.complaint value).isAbout setting.key = decide (other = setting) := by
  have same : (other.key == setting.key) = decide (other = setting) := by
    rw [Bool.eq_iff_iff, beq_iff_eq, decide_eq_true_eq]
    exact ⟨other.key_injective setting, congrArg Setting.key⟩
  cases other <;> exact same

theorem filter_complaints (setting other : Setting) (table : Toml.Table) :
    (other.complaints table).filter (Notice.isAbout setting.key) =
      if other = setting then other.complaints table else [] := by
  rw [Setting.complaints]
  split
  · split
    · split <;> rfl
    · rw [List.filter_cons, isAbout_complaint]
      by_cases same : other = setting <;> simp [same]
  · split <;> rfl

section Taking

variable (table : Toml.Table) (reading : Reading) (setting : Setting)

theorem notices_take (fine : reading.fault = none) :
    (reading.take table setting).notices = reading.notices ++ setting.complaints table := by
  rw [Reading.take, fine, Setting.complaints]
  cases setting.entry? table with
  | none => exact (List.append_nil reading.notices).symm
  | some value =>
      have list (items : List Toml.Value) (change : Settings → List Text → Settings) :
          (reading.takeList items change).notices = reading.notices ++ [] := by
        rw [Reading.takeList, List.append_nil]
        split <;> rfl
      cases setting with
      | toggle choice =>
          cases value with
          | bool flag => exact (List.append_nil reading.notices).symm
          | _ => rfl
      | extensions =>
          cases value with
          | array items => exact list items _
          | _ => rfl
      | skippedDirs =>
          cases value with
          | array items => exact list items _
          | _ => rfl

theorem fault_none_of_foldl_take (settings : List Setting)
    (unbroken : (settings.foldl (Reading.take table) reading).fault = none) :
    reading.fault = none := by
  cases broken : reading.fault with
  | none => rfl
  | some fault =>
      rw [foldl_take_broken table settings reading fault broken, broken] at unbroken
      cases unbroken

theorem notices_foldl_take (settings : List Setting)
    (unbroken : (settings.foldl (Reading.take table) reading).fault = none) :
    (settings.foldl (Reading.take table) reading).notices =
      reading.notices ++ settings.flatMap (Setting.complaints · table) := by
  induction settings generalizing reading with
  | nil => exact (List.append_nil reading.notices).symm
  | cons first rest ih =>
      have fine := fault_none_of_foldl_take table reading (first :: rest) unbroken
      rw [List.foldl_cons] at unbroken ⊢
      rw [ih _ unbroken, notices_take table reading first fine, List.flatMap_cons,
        List.append_assoc]

end Taking

theorem notices_ofTable (table : Toml.Table) (unbroken : (Settings.ofTable table).fault = none) :
    (Settings.ofTable table).notices = Setting.all.flatMap (Setting.complaints · table) :=
  notices_foldl_take table {} Setting.all unbroken

theorem notices_about (table : Toml.Table) (setting : Setting)
    (unbroken : (Settings.ofTable table).fault = none) :
    (Settings.ofTable table).notices.filter (Notice.isAbout setting.key) =
      setting.complaints table := by
  rw [notices_ofTable table unbroken, List.filter_flatMap]
  simp only [filter_complaints]
  cases setting with
  | toggle choice => cases choice <;> simp [Setting.all, Toggle.all]
  | extensions => simp [Setting.all, Toggle.all]
  | skippedDirs => simp [Setting.all, Toggle.all]

theorem ofTable_of_entries (table other : Toml.Table)
    (same : ∀ setting : Setting, setting.entry? table = setting.entry? other) :
    Settings.ofTable table = Settings.ofTable other := by
  have take : Reading.take table = Reading.take other := by
    funext reading setting
    rw [Reading.take, Reading.take, same]
  rw [Settings.ofTable, Settings.ofTable, take]

theorem takeValue_silent (settings : Settings) (notices others : List Notice)
    (fault : Option Toml.Fault) (setting : Setting) (value : Toml.Value) :
    ((⟨settings, others, fault⟩ : Reading).takeValue setting value).settings =
        ((⟨settings, notices, fault⟩ : Reading).takeValue setting value).settings ∧
      ((⟨settings, others, fault⟩ : Reading).takeValue setting value).fault =
        ((⟨settings, notices, fault⟩ : Reading).takeValue setting value).fault := by
  have list (items : List Toml.Value) (change : Settings → List Text → Settings) :
      ((⟨settings, others, fault⟩ : Reading).takeList items change).settings =
          ((⟨settings, notices, fault⟩ : Reading).takeList items change).settings ∧
        ((⟨settings, others, fault⟩ : Reading).takeList items change).fault =
          ((⟨settings, notices, fault⟩ : Reading).takeList items change).fault := by
    rw [Reading.takeList, Reading.takeList]
    cases items.mapM Toml.Value.asText <;> exact ⟨rfl, rfl⟩
  cases setting with
  | toggle choice => cases value <;> exact ⟨rfl, rfl⟩
  | extensions =>
      cases value with
      | array items => exact list items _
      | _ => exact ⟨rfl, rfl⟩
  | skippedDirs =>
      cases value with
      | array items => exact list items _
      | _ => exact ⟨rfl, rfl⟩

structure Reading.SameBut (key : Text) (reading other : Reading) : Prop where
  settings : other.settings = reading.settings
  fault : other.fault = reading.fault
  notices : other.notices = reading.notices.filter (!·.isAbout key)

section Refused

variable (table other : Toml.Table) (setting : Setting) (value : Toml.Value)
  (held : setting.entry? table = some value) (refused : setting.accepts value = false)
  (missing : setting.entry? other = none)
  (rest : ∀ another : Setting, another ≠ setting → another.entry? other = another.entry? table)

include held refused missing in
theorem sameBut_take_own (reading alike : Reading) (same : reading.SameBut setting.key alike)
    (unbroken : reading.fault = none) :
    (reading.take table setting).SameBut setting.key (alike.take other setting) := by
  have reported : reading.take table setting = reading.report (setting.complaint value) := by
    rw [Reading.take, unbroken, held, ← setting.takeValue_of_refused reading value refused]
  have stays : alike.take other setting = alike := by
    rw [Reading.take, same.fault, unbroken, missing]
  rw [reported, stays]
  refine ⟨same.settings, same.fault, ?_⟩
  rw [Reading.report, List.filter_append, same.notices, List.filter_cons, isAbout_complaint]
  simp

include rest in
theorem sameBut_take_another (reading alike : Reading) (same : reading.SameBut setting.key alike)
    (unbroken : reading.fault = none) (taken : Setting) (differ : taken ≠ setting) :
    (reading.take table taken).SameBut setting.key (alike.take other taken) := by
  have notices : (alike.take other taken).notices =
      (reading.take table taken).notices.filter (!·.isAbout setting.key) := by
    have kept : (taken.complaints table).filter (!·.isAbout setting.key) =
        taken.complaints other := by
      have none := filter_complaints setting taken table
      rw [if_neg differ, List.filter_eq_nil_iff] at none
      have alike : taken.complaints other = taken.complaints table := by
        rw [Setting.complaints, rest taken differ, ← Setting.complaints]
      rw [alike, List.filter_eq_self]
      intro notice member
      rw [Bool.not_eq_true', Bool.eq_false_iff]
      exact none notice member
    rw [notices_take other alike taken (same.fault.trans unbroken),
      notices_take table reading taken unbroken, List.filter_append, same.notices, kept]
  obtain ⟨settings, reported, fault⟩ := reading
  obtain ⟨others, remarks, trouble⟩ := alike
  obtain ⟨sameSettings, sameFault, _⟩ := same
  simp only at sameSettings sameFault unbroken
  subst sameSettings sameFault unbroken
  rw [Reading.take, Reading.take, rest taken differ] at *
  cases entry : taken.entry? table with
  | none =>
      rw [entry] at notices
      exact ⟨rfl, rfl, notices⟩
  | some given =>
      rw [entry] at notices
      have silent := takeValue_silent others reported remarks none taken given
      exact ⟨silent.1, silent.2, notices⟩

include held refused missing rest

theorem sameBut_ofTable :
    (Settings.ofTable table).SameBut setting.key (Settings.ofTable other) := by
  have each (settings : List Setting) (reading alike : Reading)
      (same : reading.SameBut setting.key alike) :
      (settings.foldl (Reading.take table) reading).SameBut setting.key
        (settings.foldl (Reading.take other) alike) := by
    induction settings generalizing reading alike with
    | nil => exact same
    | cons taken later ih =>
        apply ih
        cases broken : reading.fault with
        | some fault =>
            have stays : reading.take table taken = reading := by rw [Reading.take, broken]
            have also : alike.take other taken = alike := by
              rw [Reading.take, same.fault, broken]
            rw [stays, also]
            exact same
        | none =>
            by_cases own : taken = setting
            · rw [own]
              exact sameBut_take_own table other setting value held refused missing reading alike
                same broken
            · exact sameBut_take_another table other setting rest reading alike same broken taken
                own
  exact each Setting.all {} {} ⟨rfl, rfl, rfl⟩

end Refused

end Outliner
