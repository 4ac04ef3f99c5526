import Outliner.Proofs.Files.Found

namespace Outliner.Entry

theorem lookup?_insert (name other : Text) (entry : Entry) (entries : List (Text × Entry)) :
    lookup? other (insert name entry entries) =
      if name = other then some entry else lookup? other entries := by
  induction entries with
  | nil => simp [insert, lookup?]
  | cons first rest ih =>
      obtain ⟨own, old⟩ := first
      rw [insert]
      by_cases here : own = name
      · subst here
        rw [if_pos (by simp), lookup?, lookup?]
        by_cases found : own = other
        · simp [found]
        · simp [found]
      · rw [if_neg (by simpa using here), lookup?, ih, lookup?]
        by_cases found : own = other
        · subst found
          simp [Ne.symm here]
        · simp [found]

theorem at?_append (first second : List Text) (top : Entry) :
    at? (first ++ second) top = (at? first top).bind (at? second) := by
  induction first generalizing top with
  | nil => rfl
  | cons name rest ih =>
      cases top with
      | dir entries =>
          rw [List.cons_append, at?, at?]
          cases lookup? name entries with
          | none => rfl
          | some entry => exact ih entry
      | _ => rfl

def HasDir (top : Entry) (place : List Text) : Prop :=
  ∃ entries, at? place top = some (.dir entries)

theorem hasDir_of_append (top : Entry) (first second : List Text)
    (there : top.HasDir (first ++ second)) (further : second ≠ []) : top.HasDir first := by
  obtain ⟨entries, found⟩ := there
  rw [at?_append] at found
  obtain ⟨entry, reached, below⟩ := Option.bind_eq_some_iff.mp found
  cases entry with
  | dir inner => exact ⟨inner, reached⟩
  | _ =>
      cases second with
      | nil => exact absurd rfl further
      | cons name rest => cases below

section Place

variable (new : Entry) (name : Text) (way : List Text) (top placed : Entry)

theorem place_cons (done : place new (name :: way) top = .ok placed) :
    ∃ entries changed, top = .dir entries ∧
      place new way ((lookup? name entries).getD (.dir [])) = .ok changed ∧
      placed = .dir (insert name changed entries) := by
  cases top with
  | dir entries =>
      rw [place] at done
      cases below : place new way ((lookup? name entries).getD (.dir [])) with
      | error trouble =>
          rw [below] at done
          cases done
      | ok changed =>
          rw [below] at done
          injection done with same
          exact ⟨entries, changed, rfl, below, same.symm⟩
  | _ => cases done

variable (done : place new way top = .ok placed)
include done

theorem at?_place (further : List Text) : at? (way ++ further) placed = at? further new := by
  induction way generalizing top placed with
  | nil =>
      injection done with same
      rw [← same]
      rfl
  | cons name rest ih =>
      obtain ⟨entries, changed, rfl, below, rfl⟩ := place_cons new name rest top placed done
      rw [List.cons_append, at?, lookup?_insert, if_pos rfl]
      exact ih _ changed below

theorem hasDir_place (spot : List Text) (there : top.HasDir spot) (apart : ¬ way <+: spot) :
    placed.HasDir spot := by
  induction way generalizing top placed spot with
  | nil => exact absurd List.nil_prefix apart
  | cons name rest ih =>
      obtain ⟨entries, changed, rfl, below, rfl⟩ := place_cons new name rest top placed done
      cases spot with
      | nil => exact ⟨_, rfl⟩
      | cons first others =>
          obtain ⟨inner, found⟩ := there
          rw [at?] at found
          obtain ⟨entry, here, further⟩ := Option.bind_eq_some_iff.mp found
          rw [HasDir, at?, lookup?_insert]
          by_cases same : name = first
          · subst same
            rw [here] at below
            rw [if_pos rfl]
            refine ih entry changed below others ⟨inner, further⟩ ?_
            intro within
            exact apart (List.cons_prefix_cons.mpr ⟨rfl, within⟩)
          · rw [if_neg same, here]
            exact ⟨inner, further⟩

end Place

theorem place_of_makeDirs (way : List Text) (top made : Entry)
    (done : makeDirs way top = .ok made) :
    ∃ entries, place (.dir entries) way top = .ok made ∧
      ∀ entry, at? way top = some entry → entry = .dir entries := by
  induction way generalizing top made with
  | nil =>
      cases top with
      | dir entries =>
          injection done with same
          refine ⟨entries, congrArg Except.ok same, ?_⟩
          intro entry found
          injection found with same
          exact same.symm
      | _ => cases done
  | cons name rest ih =>
      cases top with
      | file bytes => cases done
      | unreadable trouble => cases done
      | unlistable trouble => cases done
      | dir entries =>
          rw [makeDirs] at done
          cases below : makeDirs rest ((lookup? name entries).getD (.dir [])) with
          | error trouble =>
              rw [below] at done
              cases done
          | ok changed =>
              rw [below] at done
              obtain ⟨inner, put, kept⟩ := ih _ changed below
              refine ⟨inner, ?_, ?_⟩
              · rw [place, put]
                exact done
              · intro entry found
                rw [at?] at found
                obtain ⟨child, here, further⟩ := Option.bind_eq_some_iff.mp found
                rw [here] at kept
                exact kept entry further

theorem hasDir_makeDirs (way : List Text) (top made : Entry) (done : makeDirs way top = .ok made) :
    made.HasDir way ∧ ∀ spot, top.HasDir spot → made.HasDir spot := by
  obtain ⟨entries, put, kept⟩ := place_of_makeDirs way top made done
  have there := at?_place (.dir entries) way top made put
  constructor
  · refine ⟨entries, ?_⟩
    rw [← List.append_nil way, there]
    rfl
  · intro spot dir
    by_cases within : way <+: spot
    · obtain ⟨further, rfl⟩ := within
      obtain ⟨inner, found⟩ := dir
      rw [at?_append] at found
      obtain ⟨entry, reached, below⟩ := Option.bind_eq_some_iff.mp found
      refine ⟨inner, ?_⟩
      rw [there, ← kept entry reached, below]
    · exact hasDir_place (.dir entries) way top made put spot dir within

def Passes (top : Entry) : List Text → List Text → Prop
  | _, [] => True
  | reached, part :: rest =>
    top.HasDir reached.reverse ∧ Passes top (Path.stepFrom reached part) rest

theorem Passes.mono (top other : Entry) (kept : ∀ spot, top.HasDir spot → other.HasDir spot)
    (reached way : List Text) (passes : top.Passes reached way) : other.Passes reached way := by
  induction way generalizing reached with
  | nil => trivial
  | cons part rest ih => exact ⟨kept _ passes.1, ih _ passes.2⟩

theorem Passes.of_append (top : Entry) (reached first second : List Text)
    (passes : top.Passes reached (first ++ second)) : top.Passes reached first := by
  induction first generalizing reached with
  | nil => trivial
  | cons part rest ih => exact ⟨passes.1, ih _ passes.2⟩

theorem passes_makeWay (reached way : List Text) (last : Text) (top made : Entry)
    (done : makeWay reached way top = .ok made) :
    (∀ spot, top.HasDir spot → made.HasDir spot) ∧ made.Passes reached (way ++ [last]) := by
  induction way generalizing reached top with
  | nil =>
      rw [makeWay] at done
      obtain ⟨there, kept⟩ := hasDir_makeDirs _ top made done
      exact ⟨kept, there, trivial⟩
  | cons part rest ih =>
      rw [makeWay] at done
      cases ready : makeDirs reached.reverse top with
      | error trouble =>
          rw [ready] at done
          cases trouble <;> cases done
      | ok next =>
          rw [ready] at done
          obtain ⟨there, kept⟩ := hasDir_makeDirs _ top next ready
          obtain ⟨later, passes⟩ := ih (Path.stepFrom reached part) next done
          refine ⟨?_, later _ there, passes⟩
          intro spot dir
          exact later spot (kept spot dir)

def Above (top : Entry) : List Text → List Entry → Prop
  | [], before => before = []
  | _ :: reached, before =>
    ∃ up others, before = up :: others ∧ at? reached.reverse top = some up ∧
      Above top reached others

def isLong (part : Text) : Bool :=
  part != ['.', '.'] && Path.nameLimit < Path.byteLength part

theorem walk_of_passes (top here : Entry) (before : List Entry) (reached way : List Text)
    (above : top.Above reached before) (stands : at? reached.reverse top = some here)
    (passes : top.Passes reached way) :
    walk before here way =
      if way.any isLong then .error .tooLong
      else match at? (way.foldl Path.stepFrom reached).reverse top with
        | some entry => .ok entry
        | none => .error .notFound := by
  induction way generalizing here before reached with
  | nil =>
      rw [walk, List.foldl_nil, stands]
      rfl
  | cons part rest ih =>
      obtain ⟨⟨entries, dir⟩, further⟩ := passes
      rw [stands] at dir
      injection dir with dir
      subst dir
      rw [List.foldl_cons, List.any_cons]
      unfold walk
      by_cases back : part = ['.', '.']
      · have short : isLong part = false := by simp [isLong, back]
        have step : Path.stepFrom reached part = reached.drop 1 := by simp [Path.stepFrom, back]
        rw [step] at further
        rw [if_pos (beq_iff_eq.mpr back), short, Bool.false_or, step]
        cases reached with
        | nil =>
            rw [above]
            exact ih (.dir entries) [] [] rfl stands further
        | cons name reached =>
            -- The directory on top of those passed is the one that the names lead back to.
            obtain ⟨up, others, both, found, higher⟩ := above
            rw [both]
            exact ih up others reached higher found further
      · have step : Path.stepFrom reached part = part :: reached := by simp [Path.stepFrom, back]
        rw [step] at further
        rw [if_neg (mt beq_iff_eq.mp back), step]
        by_cases long : Path.nameLimit < Path.byteLength part
        · have refused : isLong part = true := by simp [isLong, back, long]
          rw [if_pos long, refused, Bool.true_or, if_pos rfl]
        · have short : isLong part = false := by simp [isLong, long]
          rw [if_neg long, short, Bool.false_or]
          have child : at? (part :: reached).reverse top = lookup? part entries := by
            rw [List.reverse_cons, at?_append, stands, Option.bind_some, at?]
            cases lookup? part entries <;> rfl
          cases found : lookup? part entries with
          | some entry =>
              rw [found] at child
              exact ih entry _ (part :: reached) ⟨_, before, rfl, stands, above⟩ child further
          | none =>
              -- Only the last part may be missing, since all before it is passed.
              rw [found] at child
              cases rest with
              | nil =>
                  rw [List.foldl_nil, child]
                  rfl
              | cons next rest =>
                  obtain ⟨⟨inner, there⟩, _⟩ := further
                  rw [child] at there
                  cases there

def refusal? (path : Path) : Option Trouble :=
  if path.parts.any (·.contains '\x00') then some .badPath
  else if Path.pathLimit < Path.byteLength path.toText then some .tooLong
  else if path.way.any isLong then some .tooLong
  else none

theorem refusal?_ne_notFound (path : Path) : refusal? path ≠ some .notFound := by
  rw [refusal?]
  split
  · nofun
  · split
    · nofun
    · split <;> nofun

theorem resolve_of_passes (top : Entry) (path : Path) (passes : top.Passes [] path.way) :
    top.resolve path =
      match refusal? path with
      | some trouble => .error trouble
      | none => match at? path.straight top with
        | some entry => .ok entry
        | none => .error .notFound := by
  rw [resolve, walk_of_passes top top [] [] path.way rfl rfl passes, refusal?]
  split
  · rfl
  · split
    · rfl
    · split
      · rfl
      · rfl

theorem passes_way (path : Path) (root ready : Entry)
    (made : makeWay [] path.parent.way root = .ok ready) : ready.Passes [] path.way := by
  rcases path.parts.eq_nil_or_concat with empty | ⟨parts, name, ends⟩
  · have same : path.parent.way = path.way := by
      rw [Path.way, Path.way, Path.parent, empty, List.dropLast_nil]
    rw [same] at made
    exact Passes.of_append ready [] path.way [[]] (passes_makeWay [] path.way [] root ready made).2
  · have longer : path.way = path.parent.way ++ [name] := by
      rw [Path.way, Path.way, Path.parent, ends, List.concat_eq_append, List.dropLast_concat]
      split <;> rfl
    rw [longer]
    exact (passes_makeWay [] path.parent.way name root ready made).2

theorem hasDir_place_file (bytes : List UInt8) (way : List Text) (top placed : Entry)
    (done : place (.file bytes) way top = .ok placed) (free : ¬ top.HasDir way) (spot : List Text)
    (there : top.HasDir spot) : placed.HasDir spot := by
  apply hasDir_place (.file bytes) way top placed done spot there
  rintro ⟨further, rfl⟩
  cases further with
  | nil => exact free (List.append_nil way ▸ there)
  | cons name rest => exact free (hasDir_of_append top way (name :: rest) there nofun)

theorem place_of_write (root written : Entry) (path : Path) (bytes : List UInt8)
    (done : root.write path bytes = .ok written) :
    refusal? path = none ∧ ∃ ready, place (.file bytes) path.straight ready = .ok written ∧
      ready.Passes [] path.way ∧ ¬ ready.HasDir path.straight := by
  rw [write] at done
  cases made : makeWay [] path.parent.way root with
  | error trouble =>
      rw [made] at done
      cases done
  | ok ready =>
      have passes := passes_way path root ready made
      rw [made] at done
      simp only [bind, Except.bind, resolve_of_passes ready path passes] at done
      cases refused : refusal? path with
      | some trouble =>
          rw [refused] at done
          cases trouble with
          | notFound => exact absurd refused (refusal?_ne_notFound path)
          | _ => cases done
      | none =>
          rw [refused] at done
          refine ⟨rfl, ready, ?_, passes, ?_⟩
          · cases found : at? path.straight ready with
            | none => rw [found] at done; exact done
            | some entry =>
                rw [found] at done
                cases entry with
                | file old => exact done
                | _ => cases done
          · rintro ⟨entries, found⟩
            rw [found] at done
            cases done

theorem resolve_write (root written : Entry) (path : Path) (bytes : List UInt8)
    (done : root.write path bytes = .ok written) : written.resolve path = .ok (.file bytes) := by
  obtain ⟨accepted, ready, placed, passes, free⟩ := place_of_write root written path bytes done
  have kept := hasDir_place_file bytes path.straight ready written placed free
  have found := at?_place (.file bytes) path.straight ready written placed []
  rw [List.append_nil] at found
  rw [resolve_of_passes written path (passes.mono ready written kept [] path.way), accepted, found]
  rfl

theorem read_write (root written : Entry) (path : Path) (bytes : List UInt8)
    (done : root.write path bytes = .ok written) :
    written.isPresent path = true ∧ written.read path = .ok bytes := by
  have found := resolve_write root written path bytes done
  rw [isPresent, read, found]
  exact ⟨rfl, rfl⟩

theorem isPresent_of_read (root : Entry) (path : Path) (bytes : List UInt8)
    (found : root.read path = .ok bytes) : root.isPresent path = true := by
  rw [isPresent]
  rw [read] at found
  cases resolved : root.resolve path with
  | ok entry => rfl
  | error trouble =>
      rw [resolved] at found
      cases found

theorem exists_place (new other : Entry) (way : List Text) (top placed : Entry)
    (done : place new way top = .ok placed) : ∃ again, place other way top = .ok again := by
  induction way generalizing top placed with
  | nil => exact ⟨other, rfl⟩
  | cons name rest ih =>
      rcases place_cons new name rest top placed done with ⟨entries, changed, rfl, below, rfl⟩
      rcases ih _ changed below with ⟨again, placed⟩
      refine ⟨.dir (insert name again entries), ?_⟩
      rw [place, placed]
      rfl

theorem exists_write (root written : Entry) (path : Path) (bytes others : List UInt8)
    (done : root.write path bytes = .ok written) : ∃ again, root.write path others = .ok again := by
  rw [write] at done ⊢
  cases made : makeWay [] path.parent.way root with
  | error trouble =>
      rw [made] at done
      cases done
  | ok ready =>
      rw [made] at done
      simp only [bind, Except.bind] at done ⊢
      cases resolved : ready.resolve path with
      | ok entry =>
          rw [resolved] at done
          cases entry with
          | file old => exact exists_place _ (.file others) path.straight ready written done
          | _ => cases done
      | error trouble =>
          rw [resolved] at done
          cases trouble with
          | notFound => exact exists_place _ (.file others) path.straight ready written done
          | _ => cases done

/-- A file can be written at a path. -/
def IsWritable (root : Entry) (path : Path) : Prop :=
  ∃ bytes written, root.write path bytes = .ok written

end Outliner.Entry
