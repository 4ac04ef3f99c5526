import Outliner.Proofs.Script.ParameterList
import Outliner.Proofs.Text.Strip

/-!
The form of parameter declarations, and that a list of declarations is read as the parameters that
they declare.
-/

namespace Outliner.Script

open Text (Blank Stops)

def isDotted (c : Char) : Bool :=
  Text.isWord c || c == '.'

def IsDottedName (text : Text) : Prop :=
  ∀ c ∈ text, isDotted c = true

instance (text : Text) : Decidable (IsDottedName text) :=
  List.decidableBAll (fun c => isDotted c = true) text

def IsAttribute (text : Text) : Prop :=
  ∃ name arguments, text = '[' :: (name ++ '(' :: arguments ++ [')']) ++ [']'] ∧ name ≠ [] ∧
    IsDottedName name ∧ '[' ∉ arguments ∧ ']' ∉ arguments

inductive Attributes : Text → Prop
  | none : Attributes []
  | more (first gap rest : Text) (form : IsAttribute first) (blank : Blank gap)
      (later : Attributes rest) : Attributes (first ++ gap ++ rest)

def BeginsWithWord (keyword text : Text) : Prop :=
  ∃ word rest, text = word ++ rest ∧ Spells keyword word ∧ Stops Text.isWord rest

def MarksAttribute (text : Text) : Prop :=
  BeginsWithWord "parameter".toList text ∨ BeginsWithWord "cmdletbinding".toList text

inductive TypeGroups : Text → Prop
  | none : TypeGroups []
  | more (inner rest : Text) (dotted : IsDottedName inner) (plain : ¬ MarksAttribute inner)
      (later : TypeGroups rest) : TypeGroups ('[' :: inner ++ ']' :: rest)

def IsType (type : Text) : Prop :=
  ∃ name groups, type = name ++ groups ∧ name ≠ [] ∧ IsDottedName name ∧ TypeGroups groups ∧
    ¬ MarksAttribute type

def TypePart : Option Text → Text → Prop
  | none, text => text = []
  | some type, text => ∃ gap, text = '[' :: type ++ ']' :: gap ∧ IsType type ∧ Blank gap

def DefaultPart (text : Text) : Prop :=
  text = [] ∨ ∃ gap value, text = gap ++ " = ".toList ++ value ∧ Blank gap ∧ ',' ∉ value ∧
    '[' ∉ value ∧ ']' ∉ value

def NamesParameter (name : Text) : Prop :=
  name ≠ [] ∧ IsWord name ∧ Text.lower name ∉ constantNames

/-- Attributes, a type, a variable and a default value, of which only the variable has to be
there. -/
def Declares (text : Text) (parameter : Parameter) : Prop :=
  ∃ attributes typed default, text = attributes ++ typed ++ '$' :: parameter.name ++ default ∧
    Attributes attributes ∧ TypePart parameter.type typed ∧ NamesParameter parameter.name ∧
    DefaultPart default

section Characters

theorem isDotted_ne (c mark : Char) (dotted : isDotted c = true) (other : isDotted mark = false) :
    c ≠ mark := by
  rintro rfl
  rw [other] at dotted
  cases dotted

theorem isSpace_of_isDotted (c : Char) (dotted : isDotted c = true) : Text.isSpace c = false := by
  rw [isDotted, Bool.or_eq_true] at dotted
  rcases dotted with word | dot
  · exact Text.isSpace_of_isWord c word
  · rw [beq_iff_eq.mp dot]
    decide

theorem not_mem_dotted (mark : Char) (name : Text) (dotted : IsDottedName name)
    (other : isDotted mark = false) : mark ∉ name :=
  fun member => isDotted_ne mark mark (dotted mark member) other rfl

theorem stripStart_dotted (name rest : Text) (dotted : IsDottedName name)
    (stops : name = [] → Stops Text.isSpace rest) :
    Text.stripStart (name ++ rest) = name ++ rest := by
  apply Text.stripStart_of_stops
  cases name with
  | nil => exact stops rfl
  | cons c later =>
      exact Text.stops_cons _ _ c (isSpace_of_isDotted c (dotted c List.mem_cons_self))

end Characters

section Kinds

theorem startsWithWord_iff (keyword body : Text) :
    startsWithWord keyword body = true ↔ BeginsWithWord keyword (Text.stripStart body) := by
  rw [startsWithWord]
  constructor
  · intro starts
    split at starts
    · next c rest found =>
        obtain ⟨word, whole, spelled⟩ := (afterKeyword?_eq_some_iff _ _ _).mp found
        refine ⟨word, c :: rest, whole, spelled, Text.stops_cons _ _ c ?_⟩
        simpa using starts
    · next found =>
        obtain ⟨word, whole, spelled⟩ := (afterKeyword?_eq_some_iff _ _ _).mp found
        exact ⟨word, [], whole, spelled, nofun⟩
    · cases starts
  · rintro ⟨word, rest, whole, spelled, stops⟩
    rw [(afterKeyword?_eq_some_iff _ _ rest).mpr ⟨word, whole, spelled⟩]
    cases rest with
    | nil => rfl
    | cons c later => simp [stops c rfl]

theorem marksAttribute_iff (body : Text) :
    MarksAttribute (Text.stripStart body) ↔
      (startsWithWord "parameter".toList body ||
        startsWithWord "cmdletbinding".toList body) = true := by
  rw [Bool.or_eq_true, startsWithWord_iff, startsWithWord_iff]
  rfl

theorem isCall_iff (c : Char) (name rest : Text) (dotted : IsDottedName (c :: name))
    (stops : Stops isDotted rest) :
    isCall (c :: name ++ rest) =
      match Text.stripStart rest with
      | '(' :: arguments => (Text.stripEnd arguments).getLast? == some ')'
      | _ => false := by
  have solid := stripStart_dotted (c :: name) rest dotted (fun empty => by cases empty)
  have each := List.forall_mem_cons.mp dotted
  have run := Text.dropWhile_run isDotted name rest each.2 stops
  rw [isCall, solid, List.cons_append]
  change (isDotted c && match Text.stripStart ((name ++ rest).dropWhile isDotted) with
    | '(' :: arguments => (Text.stripEnd arguments).getLast? == some ')'
    | _ => false) = _
  rw [run, each.1, Bool.true_and]

theorem isAttribute_call (name arguments : Text) (held : name ≠ []) (dotted : IsDottedName name) :
    isAttribute (name ++ '(' :: arguments ++ [')']) = true := by
  have call : isCall (name ++ '(' :: arguments ++ [')']) = true := by
    cases name with
    | nil => exact absurd rfl held
    | cons c later =>
        have ending : (Text.stripEnd (arguments ++ [')'])).getLast? = some ')' := by
          rw [Text.stripEnd, Text.dropEndWhile, List.reverse_concat,
            List.dropWhile_cons_of_neg (by decide), List.getLast?_reverse, List.head?_cons]
        have joined : c :: later ++ '(' :: arguments ++ [')'] =
            c :: later ++ '(' :: (arguments ++ [')']) := by simp
        rw [joined, isCall_iff c later _ dotted (Text.stops_cons _ _ '(' (by decide)),
          Text.stripStart_of_stops _ (Text.stops_cons _ _ '(' (by decide))]
        simp [ending]
  rw [isAttribute, call, Bool.or_true]

theorem isCall_type (name groups : Text) (dotted : IsDottedName name) (form : TypeGroups groups) :
    isCall (name ++ groups) = false := by
  have stops : Stops isDotted groups ∧ Stops Text.isSpace groups := by
    cases form with
    | none => exact ⟨nofun, nofun⟩
    | more => exact ⟨Text.stops_cons _ _ '[' (by decide), Text.stops_cons _ _ '[' (by decide)⟩
  cases name with
  | nil =>
      rw [List.nil_append, isCall, Text.stripStart_of_stops groups stops.2]
      cases form with
      | none => rfl
      | more inner rest => rfl
  | cons c later =>
      rw [isCall_iff c later groups dotted stops.1, Text.stripStart_of_stops groups stops.2]
      cases form <;> rfl

theorem isAttribute_type (name groups : Text) (dotted : IsDottedName name)
    (form : TypeGroups groups) (plain : ¬ MarksAttribute (name ++ groups)) :
    isAttribute (name ++ groups) = false := by
  have solid : Text.stripStart (name ++ groups) = name ++ groups := by
    apply stripStart_dotted name groups dotted
    intro _
    cases form with
    | none => nofun
    | more => exact Text.stops_cons _ _ '[' (by decide)
  rw [← solid, marksAttribute_iff, Bool.not_eq_true] at plain
  rw [isAttribute, plain, isCall_type name groups dotted form]
  rfl

end Kinds

section Shapes

theorem TypeGroups.oneDeep (groups : Text) (form : TypeGroups groups) : OneDeep groups := by
  induction form with
  | none => exact OneDeep.nil
  | more inner rest dotted plain later ih =>
      apply OneDeep.group inner rest
      · exact not_mem_dotted '[' inner dotted (by decide)
      · exact not_mem_dotted ']' inner dotted (by decide)
      · exact ih

theorem oneDeep_type (name groups : Text) (dotted : IsDottedName name) (form : TypeGroups groups) :
    OneDeep (name ++ groups) :=
  oneDeep_append name groups (not_mem_dotted '[' name dotted (by decide))
    (not_mem_dotted ']' name dotted (by decide)) (form.oneDeep groups)

theorem closesGroups_group (body rest : Text) (closed : ClosesGroups body)
    (later : ClosesGroups rest) : ClosesGroups ('[' :: body ++ ']' :: rest) := by
  have own := closed body List.suffix_rfl
  have others := later rest List.suffix_rfl
  rw [List.cons_append, closesGroups_cons]
  constructor
  · simp only [List.count_cons, List.count_append, beq_self_eq_true, if_true]
    simp
    omega
  · apply closesGroups_append body _ closed
    rw [closesGroups_cons]
    refine ⟨?_, later⟩
    simp
    omega

theorem OneDeep.closesGroups (body : Text) (shape : OneDeep body) : ClosesGroups body := by
  induction shape with
  | nil => exact closesGroups_nil
  | plain c rest opening closing later ih =>
      exact closesGroups_append [c] rest
        (closesGroups_of_not_mem [c] (by simpa using Ne.symm opening)) ih
  | group inner rest opening closing later ih =>
      exact closesGroups_group inner rest (closesGroups_of_not_mem inner opening) ih

theorem TypeGroups.mem (groups : Text) (form : TypeGroups groups) (c : Char)
    (member : c ∈ groups) : isDotted c = true ∨ c = '[' ∨ c = ']' := by
  induction form with
  | none => cases member
  | more inner rest dotted plain later ih =>
      simp only [List.cons_append, List.mem_cons, List.mem_append] at member
      rcases member with opening | inside | closing | further
      · exact Or.inr (Or.inl opening)
      · exact Or.inl (dotted c inside)
      · exact Or.inr (Or.inr closing)
      · exact ih further

theorem not_mem_type (mark : Char) (type : Text) (form : IsType type)
    (other : isDotted mark = false) (opening : mark ≠ '[') (closing : mark ≠ ']') :
    mark ∉ type := by
  obtain ⟨name, groups, rfl, _, dotted, grouped, _⟩ := form
  intro member
  rcases List.mem_append.mp member with inside | inside
  · exact not_mem_dotted mark name dotted other inside
  · rcases grouped.mem groups mark inside with wrong | same | same
    · exact isDotted_ne mark mark wrong other rfl
    · exact opening same
    · exact closing same

end Shapes

section Parts

theorem blankAttributes_group (body rest : Text) (shape : OneDeep body)
    (plain : isAttribute body = false) :
    blankAttributes ('[' :: body ++ ']' :: rest) =
      '[' :: blankAttributes (body ++ ']' :: rest) := by
  have found := (group?_eq_some_iff ('[' :: body ++ ']' :: rest) body rest).mpr ⟨rfl, shape⟩
  have none_found : attribute? ('[' :: body ++ ']' :: rest) = none := by
    rw [attribute?, found]
    simp [plain]
  rw [List.cons_append] at none_found ⊢
  rw [blankAttributes_cons, none_found]

theorem blankAttributes_typeGroups (groups rest : Text) (form : TypeGroups groups) :
    blankAttributes (groups ++ rest) = groups ++ blankAttributes rest := by
  induction form with
  | none => rfl
  | more inner others dotted plain later ih =>
      have kept : isAttribute inner = false := by
        have kind := isAttribute_type inner [] dotted TypeGroups.none
        rw [List.append_nil] at kind
        exact kind plain
      have opening := not_mem_dotted '[' inner dotted (by decide)
      have closing := not_mem_dotted ']' inner dotted (by decide)
      calc
        _ = blankAttributes ('[' :: inner ++ ']' :: (others ++ rest)) := by simp
        _ = '[' :: blankAttributes ((inner ++ [']']) ++ (others ++ rest)) := by
          rw [blankAttributes_group inner _ (oneDeep_plain inner opening closing) kept,
            List.append_assoc, List.singleton_append]
        _ = '[' :: ((inner ++ [']']) ++ (others ++ blankAttributes rest)) := by
          rw [blankAttributes_plain _ _ (by simp [opening]), ih]
        _ = _ := by simp

theorem blankAttributes_type (type rest : Text) (form : IsType type) :
    blankAttributes ('[' :: type ++ ']' :: rest) = '[' :: type ++ ']' :: blankAttributes rest := by
  obtain ⟨name, groups, rfl, _, dotted, grouped, plain⟩ := form
  have opening := not_mem_dotted '[' name dotted (by decide)
  have after : blankAttributes (']' :: rest) = ']' :: blankAttributes rest :=
    blankAttributes_plain [']'] rest (by decide)
  rw [blankAttributes_group _ rest (oneDeep_type name groups dotted grouped)
    (isAttribute_type name groups dotted grouped plain), List.append_assoc,
    blankAttributes_plain name _ opening, blankAttributes_typeGroups groups _ grouped, after]
  simp

theorem findType?_type (type gap : Text) (form : IsType type) :
    findType? ('[' :: type ++ ']' :: gap) = some type := by
  have solid : ∀ c ∈ type, Text.isSpace c = false := by
    intro c member
    rw [Bool.eq_false_iff]
    intro blank
    apply not_mem_type c type form _ _ _ member
    · rw [Bool.eq_false_iff]
      intro dotted
      rw [isSpace_of_isDotted c dotted] at blank
      cases blank
    · exact Text.isSpace_ne c '[' blank (by decide)
    · exact Text.isSpace_ne c ']' blank (by decide)
  obtain ⟨name, groups, rfl, held, dotted, grouped, _⟩ := form
  have found := (group?_eq_some_iff ('[' :: (name ++ groups) ++ ']' :: gap) _ gap).mpr
    ⟨rfl, oneDeep_type name groups dotted grouped⟩
  cases name with
  | nil => exact absurd rfl held
  | cons c later =>
      have kept := Text.strip_of_solid_ends c (later ++ groups) (solid c List.mem_cons_self)
        (Text.endsSolid_of_solid _ solid)
      rw [List.cons_append] at found ⊢
      rw [findType?, found, Option.bind_some]
      simp only [List.cons_append] at kept ⊢
      rw [typeOfGroup, kept]

theorem exists_blanked (attributes : Text) (form : Attributes attributes) :
    ∃ blanks, Blank blanks ∧
      ∀ rest, blankAttributes (attributes ++ rest) = blanks ++ blankAttributes rest := by
  induction form with
  | none => exact ⟨[], nofun, fun _ => rfl⟩
  | more first gap others form blank later ih =>
      obtain ⟨blanks, blankLater, cleared⟩ := ih
      obtain ⟨name, arguments, rfl, held, dotted, opening, closing⟩ := form
      refine ⟨' ' :: gap ++ blanks, ?_, ?_⟩
      · apply List.forall_mem_append.mpr ⟨List.forall_mem_cons.mpr ⟨by decide, blank⟩, blankLater⟩
      · intro rest
        have shape : OneDeep (name ++ '(' :: arguments ++ [')']) := by
          apply oneDeep_plain
          · simp [not_mem_dotted '[' name dotted (by decide), opening]
          · simp [not_mem_dotted ']' name dotted (by decide), closing]
        have solid := not_mem_of_blank '[' gap blank (by decide)
        calc
          _ = blankAttributes ('[' :: (name ++ '(' :: arguments ++ [')']) ++
              ']' :: (gap ++ (others ++ rest))) := by simp
          _ = ' ' :: (gap ++ (blanks ++ blankAttributes rest)) := by
            rw [blankAttributes_attribute _ _ shape (isAttribute_call name arguments held dotted),
              blankAttributes_plain gap _ solid, cleared]
          _ = _ := by simp

theorem Attributes.closesGroups (attributes : Text) (form : Attributes attributes) :
    ClosesGroups attributes := by
  induction form with
  | none => exact closesGroups_nil
  | more first gap others form blank later ih =>
      obtain ⟨name, arguments, rfl, _, dotted, opening, _⟩ := form
      apply closesGroups_append _ others _ ih
      apply closesGroups_append _ gap
      · apply closesGroups_group _ [] _ closesGroups_nil
        apply closesGroups_of_not_mem
        simp [not_mem_dotted '[' name dotted (by decide), opening]
      · exact closesGroups_of_not_mem gap (not_mem_of_blank '[' gap blank (by decide))

end Parts

section Declarations

variable (typed default name : Text) (type : Option Text)

theorem not_mem_default (mark : Char) (form : DefaultPart default)
    (solid : Text.isSpace mark = false) (other : mark ≠ '=')
    (absent : ∀ value : Text, ',' ∉ value → '[' ∉ value → ']' ∉ value → mark ∉ value) :
    mark ∉ default := by
  rcases form with rfl | ⟨gap, value, rfl, blank, comma, opening, closing⟩
  · exact List.not_mem_nil
  · have between : mark ∉ " = ".toList := by
      have space : mark ≠ ' ' := by
        rintro rfl
        exact absurd solid (by decide)
      simp [space, other]
    simp only [List.mem_append, not_or]
    exact ⟨⟨not_mem_of_blank mark gap blank solid, between⟩, absent value comma opening closing⟩

theorem stops_default (form : DefaultPart default) : Stops Text.isWord default := by
  rcases form with rfl | ⟨gap, value, rfl, blank, _⟩
  · nofun
  · have spaced : Blank (gap ++ [' ']) :=
      List.forall_mem_append.mpr ⟨blank, List.forall_mem_singleton.mpr (by decide)⟩
    intro c first
    apply Text.isWord_of_isSpace
    apply spaced
    cases gap with
    | nil => simpa using first.symm
    | cons d later => simpa using Or.inl first.symm

theorem not_mem_typePart (mark : Char) (form : TypePart type typed) (other : isDotted mark = false)
    (solid : Text.isSpace mark = false) (opening : mark ≠ '[') (closing : mark ≠ ']') :
    mark ∉ typed := by
  cases type with
  | none =>
      rw [show typed = [] from form]
      exact List.not_mem_nil
  | some type =>
      obtain ⟨gap, rfl, shape, blank⟩ := form
      simp [opening, closing, not_mem_type mark type shape other opening closing,
        not_mem_of_blank mark gap blank solid]

theorem blankAttributes_typePart (rest : Text) (form : TypePart type typed) :
    blankAttributes (typed ++ rest) = typed ++ blankAttributes rest := by
  cases type with
  | none =>
      rw [show typed = [] from form]
      rfl
  | some type =>
      obtain ⟨gap, rfl, shape, blank⟩ := form
      have joined : '[' :: type ++ ']' :: gap ++ rest = '[' :: type ++ ']' :: (gap ++ rest) := by
        simp
      rw [joined, blankAttributes_type type _ shape,
        blankAttributes_plain gap rest (not_mem_of_blank '[' gap blank (by decide))]
      simp

theorem findType?_typePart (form : TypePart type typed) : findType? typed = type := by
  cases type with
  | none =>
      rw [show typed = [] from form]
      rfl
  | some type =>
      obtain ⟨gap, rfl, shape, _⟩ := form
      exact findType?_type type gap shape

theorem closesGroups_typePart (form : TypePart type typed) : ClosesGroups typed := by
  cases type with
  | none =>
      rw [show typed = [] from form]
      exact closesGroups_nil
  | some type =>
      obtain ⟨gap, rfl, ⟨own, groups, rfl, _, dotted, grouped, _⟩, blank⟩ := form
      apply closesGroups_group
      · exact (oneDeep_type own groups dotted grouped).closesGroups
      · exact closesGroups_of_not_mem gap (not_mem_of_blank '[' gap blank (by decide))

variable (form : TypePart type typed) (named : NamesParameter name) (value : DefaultPart default)

include named value

theorem opening_not_mem_variable : '[' ∉ '$' :: name ++ default := by
  have word : '[' ∉ name := fun member => absurd (named.2.1 '[' member) (by decide)
  have rest := not_mem_default default '[' value (by decide) (by decide) fun _ _ absent _ => absent
  simp [word, rest]

include form

theorem blankAttributes_variable :
    blankAttributes (typed ++ ('$' :: name ++ default)) = typed ++ ('$' :: name ++ default) := by
  rw [blankAttributes_typePart typed type _ form,
    blankAttributes_of_not_mem _ (opening_not_mem_variable default name named value)]

theorem parse?_variable :
    Parameter.parse? (typed ++ ('$' :: name ++ default)) = some ⟨name, type⟩ := by
  have found := findVariable?_named name default named.1 named.2.1 (stops_default default value)
  have before := not_mem_typePart typed type '$' form (by decide) (by decide) (by decide)
    (by decide)
  rw [Parameter.parse?, blankAttributes_variable typed default name type form named value,
    findVariable?_plain typed _ before, found]
  simp [named.2.2, findType?_typePart typed type form]

theorem comma_not_mem_variable : ',' ∉ typed ++ ('$' :: name ++ default) := by
  have word : ',' ∉ name := fun member => absurd (named.2.1 ',' member) (by decide)
  have rest := not_mem_default default ',' value (by decide) (by decide) fun _ absent _ _ => absent
  have before := not_mem_typePart typed type ',' form (by decide) (by decide) (by decide)
    (by decide)
  simp [word, rest, before]

end Declarations

section Lists

theorem parseList_declares (text : Text) (parameter : Parameter)
    (declared : Declares text parameter) : Parameter.parseList text = [parameter] := by
  obtain ⟨attributes, typed, default, rfl, attributed, form, named, value⟩ := declared
  obtain ⟨blanks, blank, cleared⟩ := exists_blanked attributes attributed
  have rest := comma_not_mem_variable typed default parameter.name parameter.type form named value
  have comma : ',' ∉ blanks ++ (typed ++ ('$' :: parameter.name ++ default)) := by
    rw [List.mem_append, not_or]
    exact ⟨not_mem_of_blank ',' blanks blank (by decide), rest⟩
  calc
    _ = Parameter.parseList (attributes ++ (typed ++ ('$' :: parameter.name ++ default))) := by simp
    _ = (Text.cutAt ',' (blanks ++ (typed ++ ('$' :: parameter.name ++ default)))).filterMap
        Parameter.parse? := by
      rw [Parameter.parseList, cleared,
        blankAttributes_variable typed default parameter.name parameter.type form named value]
    _ = [parameter] := by
      rw [Text.cutAt_whole ',' _ comma, List.filterMap_cons, parse?_lead _ blanks blank,
        parse?_variable typed default parameter.name parameter.type form named value]
      rfl

theorem Declares.closesGroups (text : Text) (parameter : Parameter)
    (declared : Declares text parameter) : ClosesGroups text := by
  obtain ⟨attributes, typed, default, rfl, attributed, form, named, value⟩ := declared
  rw [List.append_assoc]
  apply closesGroups_append
  · apply closesGroups_append attributes typed (attributed.closesGroups attributes)
    exact closesGroups_typePart typed parameter.type form
  · exact closesGroups_of_not_mem _ (opening_not_mem_variable default parameter.name named value)

/-- Declarations with commas between them are read as the parameters that they declare, in order. -/
theorem parseList_declarations (declarations : List Text) (parameters : List Parameter)
    (declared : List.Forall₂ Declares declarations parameters) :
    Parameter.parseList (Text.join ", ".toList declarations) = parameters := by
  have closed : ∀ declaration ∈ declarations, ClosesGroups declaration := by
    induction declared with
    | nil => nofun
    | cons here later ih => exact List.forall_mem_cons.mpr ⟨here.closesGroups _ _, ih⟩
  have blank : Blank [' '] := List.forall_mem_singleton.mpr (by decide)
  rw [show ", ".toList = [',', ' '] from rfl, parseList_join [' '] blank declarations closed]
  induction declared with
  | nil => rfl
  | cons here later ih =>
      rw [List.forall_mem_cons] at closed
      rw [List.flatMap_cons, parseList_declares _ _ here, ih closed.2]
      rfl

end Lists

example : Parameter.parseList "[Parameters]$a, [Parameter]$b".toList =
    [⟨"a".toList, some "Parameters".toList⟩, ⟨"b".toList, none⟩] := by decide +kernel

def markedDeclarations : List Text :=
  ["[Parameter(Mandatory = $true, Position = 0)][ValidateNotNull()] [Bag[string]]$Items = (1)",
    "$Force"].map String.toList

theorem declares_markedDeclarations :
    List.Forall₂ Declares markedDeclarations
      [⟨"Items".toList, some "Bag[string]".toList⟩, ⟨"Force".toList, none⟩] := by
  have plainGroup : ¬ MarksAttribute (Text.stripStart "string".toList) := by
    rw [marksAttribute_iff]
    decide
  have plain : ¬ MarksAttribute (Text.stripStart "Bag[string]".toList) := by
    rw [marksAttribute_iff]
    decide
  have groups := TypeGroups.more "string".toList [] (by decide +kernel) plainGroup TypeGroups.none
  have type : IsType "Bag[string]".toList :=
    ⟨"Bag".toList, "[string]".toList, rfl, by decide, by decide +kernel, groups, plain⟩
  have mandatory : IsAttribute "[Parameter(Mandatory = $true, Position = 0)]".toList :=
    ⟨"Parameter".toList, "Mandatory = $true, Position = 0".toList, rfl, by decide,
      by decide +kernel, by decide, by decide⟩
  have filled : IsAttribute "[ValidateNotNull()]".toList :=
    ⟨"ValidateNotNull".toList, [], rfl, by decide, by decide +kernel, by decide, by decide⟩
  have attributes := Attributes.more _ [] _ mandatory (by decide)
    (Attributes.more _ " ".toList [] filled (by decide) Attributes.none)
  apply List.Forall₂.cons
  · exact ⟨_, "[Bag[string]]".toList, " = (1)".toList, rfl, attributes, ⟨[], rfl, type, by decide⟩,
      ⟨by decide, by decide +kernel, by decide +kernel⟩,
      Or.inr ⟨[], "(1)".toList, rfl, by decide, by decide, by decide, by decide⟩⟩
  · apply List.Forall₂.cons _ List.Forall₂.nil
    exact ⟨[], [], [], rfl, Attributes.none, rfl, ⟨by decide, by decide +kernel, by decide +kernel⟩,
      Or.inl rfl⟩

theorem parseList_markedDeclarations :
    List.Forall₂ Declares markedDeclarations
        [⟨"Items".toList, some "Bag[string]".toList⟩, ⟨"Force".toList, none⟩] ∧
      Parameter.parseList (Text.join ", ".toList markedDeclarations) =
        [⟨"Items".toList, some "Bag[string]".toList⟩, ⟨"Force".toList, none⟩] :=
  ⟨declares_markedDeclarations, parseList_declarations _ _ declares_markedDeclarations⟩

end Outliner.Script
