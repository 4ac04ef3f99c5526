import Outliner.Proofs.Text.Digits
import Outliner.Text.Numeral

namespace Outliner.Text

def Blank (text : Text) : Prop :=
  ∀ c ∈ text, isSpace c = true

instance (text : Text) : Decidable (Blank text) :=
  List.decidableBAll (fun c => isSpace c = true) text

def Stops (p : Char → Bool) (text : Text) : Prop :=
  ∀ c, text.head? = some c → p c = false

section Kinds

def areApart (ranges others : List (Nat × Nat)) : Bool :=
  ranges.all fun range => others.all fun other => range.2 < other.1 || other.2 < range.1

theorem inRanges_apart (ranges others : List (Nat × Nat)) (n : Nat)
    (apart : areApart ranges others = true) (inside : inRanges ranges n = true) :
    inRanges others n = false := by
  obtain ⟨range, member, low, high⟩ := inRanges_eq_true ranges n inside
  apply inRanges_eq_false
  intro other listed
  have away := List.all_eq_true.mp (List.all_eq_true.mp apart range member) other listed
  simp only [Bool.or_eq_true, decide_eq_true_eq] at away
  omega

theorem isWord_of_isSpace (c : Char) (blank : isSpace c = true) : isWord c = false := by
  have letter : isLetter c = false :=
    inRanges_apart spaceRanges letterRanges c.toNat (by decide +kernel) blank
  have numeral : isNumeral c = false :=
    inRanges_apart spaceRanges numeralRanges c.toNat (by decide +kernel) blank
  have line : (c == '_') = false := by
    rw [beq_eq_false_iff_ne]
    rintro rfl
    exact absurd blank (by decide)
  rw [isWord, isAlphanumeric, letter, numeral, line]
  rfl

theorem isSpace_of_isWord (c : Char) (word : isWord c = true) : isSpace c = false := by
  rw [Bool.eq_false_iff]
  intro blank
  rw [isWord_of_isSpace c blank] at word
  cases word

theorem isSpace_ne (c mark : Char) (blank : isSpace c = true) (solid : isSpace mark = false) :
    c ≠ mark := by
  rintro rfl
  rw [solid] at blank
  cases blank

end Kinds

section Runs

variable (p : Char → Bool) (front rest : Text)

theorem takeWhile_run (each : ∀ c ∈ front, p c = true) (stops : Stops p rest) :
    (front ++ rest).takeWhile p = front := by
  rw [List.takeWhile_append_of_pos each]
  cases rest with
  | nil => rw [List.takeWhile_nil, List.append_nil]
  | cons c rest => rw [List.takeWhile_cons_of_neg (by simp [stops c rfl]), List.append_nil]

theorem dropWhile_run (each : ∀ c ∈ front, p c = true) (stops : Stops p rest) :
    (front ++ rest).dropWhile p = rest := by
  rw [List.dropWhile_append_of_pos each]
  cases rest with
  | nil => rfl
  | cons c rest => rw [List.dropWhile_cons_of_neg (by simp [stops c rfl])]

theorem stops_dropWhile (text : Text) : Stops p (text.dropWhile p) := by
  intro c first
  have outside := List.head?_dropWhile_not p text
  rw [first] at outside
  simpa using outside

theorem stops_cons (c : Char) (other : p c = false) : Stops p (c :: rest) := by
  intro d first
  injection first with same
  rw [← same, other]

theorem stripStart_run (blank : Blank front) (stops : Stops isSpace rest) :
    stripStart (front ++ rest) = rest :=
  dropWhile_run isSpace front rest blank stops

theorem stripStart_of_stops (stops : Stops isSpace rest) : stripStart rest = rest :=
  stripStart_run [] rest nofun stops

theorem exists_blank_front (text : Text) :
    ∃ blanks, text = blanks ++ stripStart text ∧ Blank blanks ∧ Stops isSpace (stripStart text) :=
  ⟨text.takeWhile isSpace, (List.takeWhile_append_dropWhile).symm,
    fun c member => List.all_eq_true.mp List.all_takeWhile c member, stops_dropWhile isSpace text⟩

theorem exists_blanks_around (text : Text) :
    ∃ before after, text = before ++ strip text ++ after ∧ Blank before ∧ Blank after := by
  obtain ⟨before, start, blank, _⟩ := exists_blank_front text
  obtain ⟨after, ending, blankAfter, _⟩ := exists_blank_front (stripStart text).reverse
  refine ⟨before, after.reverse, ?_, blank, ?_⟩
  · have turned := congrArg List.reverse ending
    rw [List.reverse_append, List.reverse_reverse] at turned
    rw [List.append_assoc]
    exact start.trans (congrArg (before ++ ·) turned)
  · intro c member
    exact blankAfter c (List.mem_reverse.mp member)

end Runs

section Marks

variable (mark : Char) (text : Text)

theorem afterFirst?_eq_some_iff (rest : Text) :
    afterFirst? mark text = some rest ↔
      ∃ before, text = before ++ mark :: rest ∧ mark ∉ before := by
  rw [afterFirst?]
  constructor
  · intro found
    split at found
    · cases found
    · next c later dropped =>
        injection found with same
        have stop := stops_dropWhile (· != mark) text c (by rw [dropped]; rfl)
        have first : c = mark := by simpa using stop
        refine ⟨text.takeWhile (· != mark), ?_, ?_⟩
        · rw [← same, ← first, ← dropped, first, List.takeWhile_append_dropWhile]
        · intro member
          have passed := List.all_eq_true.mp List.all_takeWhile mark member
          simp at passed
  · rintro ⟨before, rfl, absent⟩
    have each : ∀ c ∈ before, (c != mark) = true := by
      intro c member
      simpa using fun same : c = mark => absent (same ▸ member)
    rw [dropWhile_run _ before _ each (stops_cons _ rest mark (by simp))]

theorem beforeLast?_eq_some_iff (inside : Text) :
    beforeLast? mark text = some inside ↔
      ∃ after, text = inside ++ mark :: after ∧ mark ∉ after := by
  rw [beforeLast?, Option.map_eq_some_iff]
  simp only [afterFirst?_eq_some_iff]
  constructor
  · rintro ⟨_, ⟨before, turned, absent⟩, rfl⟩
    refine ⟨before.reverse, ?_, by simpa using absent⟩
    have whole := congrArg List.reverse turned
    simpa using whole
  · rintro ⟨after, rfl, absent⟩
    exact ⟨inside.reverse, ⟨after.reverse, by simp, by simpa using absent⟩, by simp⟩

theorem not_mem_of_beforeLast? (missing : beforeLast? mark text = none) : mark ∉ text := by
  intro member
  obtain ⟨before, after, turned, absent⟩ :=
    List.eq_append_cons_of_mem (List.mem_reverse.mpr member)
  have whole := congrArg List.reverse turned
  have found := (beforeLast?_eq_some_iff mark text after.reverse).mpr
    ⟨before.reverse, by simpa using whole, by simpa using absent⟩
  rw [missing] at found
  cases found

end Marks

end Outliner.Text
