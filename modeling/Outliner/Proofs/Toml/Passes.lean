import Outliner.Proofs.Toml.Lines

namespace Outliner.Toml.Layout

def atLine (before : Text) : Layout :=
  { before := before }

def inHeaderAt (before : Text) : Layout :=
  { before := before, inHeader := true, atLineStart := false }

def inKey (before : Text) : Layout :=
  { before := before, phase := .name, atLineStart := false }

def afterKey (before : Text) : Layout :=
  { before := before, phase := .afterName, atLineStart := false }

def inLine (before : Text) : Layout :=
  { before := before, atLineStart := false }

def inList (before : Text) : Layout :=
  { before := before, arrays := 1, atLineStart := false }

def inString (before : Text) : Layout :=
  { before := before, quote := some '"', arrays := 1, atLineStart := false }

def Keeps (start : Text → Layout) (text : Text) (stop : Text → Layout) : Prop :=
  ∀ before rest, run (start before) (text ++ rest) = run (stop (text.reverse ++ before)) rest

theorem keeps_nil (place : Text → Layout) : Keeps place [] place :=
  fun _ _ => rfl

theorem keeps_append (start middle stop : Text → Layout) (text more : Text)
    (first : Keeps start text middle) (second : Keeps middle more stop) :
    Keeps start (text ++ more) stop := by
  intro before rest
  rw [List.append_assoc, first, second, List.reverse_append, List.append_assoc]

theorem keeps_char (start stop : Text → Layout) (c : Char)
    (steps : ∀ before rest, (start before).step c rest = .ok (stop (c :: before))) :
    Keeps start [c] stop := by
  intro before rest
  rw [List.singleton_append, run, steps]
  rfl

theorem keeps_each (place : Text → Layout) (text : Text)
    (steps : ∀ c ∈ text, ∀ before rest, (place before).step c rest = .ok (place (c :: before))) :
    Keeps place text place := by
  induction text with
  | nil => exact keeps_nil place
  | cons c rest ih =>
      rw [List.forall_mem_cons] at steps
      exact keeps_append place place place [c] rest (keeps_char place place c steps.1) (ih steps.2)

def isMute (c : Char) : Bool :=
  !List.contains ['\n', '"', '\'', '#', '[', ']'] c

theorem step_mute (state : Layout) (c : Char) (rest : Text) (calm : state.inComment = false)
    (outside : state.phase = .outside) (middle : state.atLineStart = false)
    (mute : isMute c = true) : state.step c rest = .ok (state.push c) := by
  simp only [isMute, Bool.not_eq_true', List.contains_eq_mem, List.mem_cons, List.not_mem_nil,
    or_false, decide_eq_false_iff_not, not_or] at mute
  simp [step, plainStep, bracketStep, startStep, bind, Except.bind, pure, Except.pure, calm, outside,
    middle, mute]

theorem step_inString (before : Text) (c : Char) (rest : Text) (line : c ≠ '\n') (quote : c ≠ '"') :
    (inString before).step c rest = .ok (inString (c :: before)) := by
  simp [step, plainStep, bracketStep, startStep, inString, line, quote]
  rfl

theorem takeWhile_stop (p : Char → Bool) (front : Text) (c : Char) (rest : Text)
    (stop : p c = false) : (front ++ c :: rest).takeWhile p = front.takeWhile p := by
  rw [List.takeWhile_append, List.takeWhile_cons, stop]
  split
  · next whole =>
      rw [if_neg Bool.false_ne_true, List.append_nil]
      exact (List.takeWhile_prefix p).eq_of_length whole |>.symm
  · rfl

def back (before inside : Text) : Text :=
  inside.reverse ++ '"' :: ' ' :: before

theorem oddBackslashes_back (before inside more : Text) :
    oddBackslashes (back before inside ++ more) = endsOddBackslashes inside := by
  rw [oddBackslashes, back, List.append_assoc, List.cons_append,
    takeWhile_stop _ _ '"' _ (by decide), endsOddBackslashes]

theorem step_quote (state next : Layout) (rest : Text) (calm : state.inComment = false)
    (outside : state.phase = .outside) (double : state.quote ≠ some '\'')
    (quoted : quoteStep state '"' rest = next) (middle : next.atLineStart = false) :
    state.step '"' rest = .ok (next.push '"') := by
  have bracket : bracketStep next '"' rest = next := by
    simp [bracketStep]
  simp [step, plainStep, startStep, bind, Except.bind, pure, Except.pure, calm, outside, double, quoted,
    bracket, middle]

section Quotes

variable (state : Layout) (rest : Text)

theorem quoteStep_escaped
    (run : ((state.before ++ ('"' :: rest).reverse).takeWhile (· == '"')).length = 0)
    (odd : oddBackslashes (state.before ++ ('"' :: rest).reverse) = true) :
    quoteStep state '"' rest = state := by
  have single : ¬ 2 ≤ 0 := by decide
  simp only [quoteStep, run, odd, single, if_false, beq_self_eq_true, Bool.and_self, if_true]

theorem quoteStep_plain
    (run : ((state.before ++ ('"' :: rest).reverse).takeWhile (· == '"')).length < 2)
    (even : oddBackslashes (state.before ++ ('"' :: rest).reverse) = false) :
    quoteStep state '"' rest =
      { state with quote := if state.quote.isSome then none else some '"' } := by
  have single := Nat.not_le.mpr run
  simp only [quoteStep, single, even, if_false, Bool.and_false, Bool.false_eq_true]

end Quotes

theorem step_open (before : Text) (rest : Text) :
    (inList (' ' :: before)).step '"' rest = .ok (inString ('"' :: ' ' :: before)) :=
  step_quote (inList (' ' :: before)) (inString (' ' :: before)) rest rfl rfl nofun
    (quoteStep_plain _ rest Nat.zero_lt_two rfl) rfl

theorem step_escaped (before inside rest : Text) (even : endsOddBackslashes inside = false) :
    (inString (back before (inside ++ ['\\']))).step '"' rest =
      .ok (inString (back before (inside ++ ['\\', '"']))) := by
  have odd := oddBackslashes_back before (inside ++ ['\\']) ('"' :: rest).reverse
  rw [odd_backslash inside even] at odd
  have run : ((back before (inside ++ ['\\']) ++ ('"' :: rest).reverse).takeWhile (· == '"')).length =
      0 := by
    rw [back, List.reverse_append]
    rfl
  have double : (inString (back before (inside ++ ['\\']))).quote ≠ some '\'' := by
    show some '"' ≠ some '\''
    decide
  have stepped := step_quote (inString (back before (inside ++ ['\\']))) _ rest rfl rfl double
    (quoteStep_escaped (inString (back before (inside ++ ['\\']))) rest run odd) rfl
  have pushed : back before (inside ++ ['\\', '"']) = '"' :: back before (inside ++ ['\\']) := by
    rw [back, back, List.append_cons inside '\\', List.reverse_append, List.reverse_singleton]
    rfl
  rw [stepped, pushed]
  rfl

def EndsSingle (inside : Text) : Prop :=
  ((back [] inside).takeWhile (· == '"')).length < 2

theorem step_close (before inside rest : Text) (even : endsOddBackslashes inside = false)
    (single : EndsSingle inside) :
    (inString (back before inside)).step '"' rest = .ok (inList ('"' :: back before inside)) := by
  have odd := oddBackslashes_back before inside ('"' :: rest).reverse
  rw [even] at odd
  have run : ((back before inside ++ ('"' :: rest).reverse).takeWhile (· == '"')).length < 2 := by
    rw [EndsSingle, back, List.append_cons, takeWhile_stop _ _ ' ' _ (by decide)] at single
    rw [back, List.append_cons inside.reverse, List.append_assoc, List.cons_append,
      takeWhile_stop _ _ ' ' _ (by decide)]
    exact single
  have double : (inString (back before inside)).quote ≠ some '\'' := by
    show some '"' ≠ some '\''
    decide
  exact step_quote (inString (back before inside)) (inList (back before inside)) rest rfl rfl double
    (quoteStep_plain (inString (back before inside)) rest run odd) rfl

theorem endsSingle_formed (hides : Char → Bool) (text : Text)
    (large : ∀ c ∈ text, hides c = true → 0xFF < c.toNat) : EndsSingle (formed hides text) := by
  rcases List.eq_nil_or_concat text with rfl | ⟨front, c, rfl⟩
  · exact Nat.one_lt_two
  · have kind := form_kind hides c (large c (by simp))
    rw [List.concat_eq_append, formed, List.flatMap_append, List.flatMap_singleton]
    have last (inside : Text) (d : Char) (apart : d ≠ '"') : EndsSingle (inside ++ [d]) := by
      rw [EndsSingle, back, List.reverse_append, List.reverse_singleton, List.append_assoc,
        List.singleton_append, List.takeWhile_cons, if_neg (by simpa using apart)]
      exact Nat.zero_lt_two
    have digits (letter : Char) (width n : Nat) (apart : letter ≠ '"') (inside : Text) :
        EndsSingle (inside ++ '\\' :: letter :: Text.hex width n) := by
      rcases List.eq_nil_or_concat (letter :: Text.hex width n) with empty | ⟨more, d, whole⟩
      · cases empty
      · rw [List.concat_eq_append] at whole
        rw [whole, List.append_cons, ← List.append_assoc]
        apply last
        exact ne_of_mem_digits letter '"' width n apart rfl d (by rw [whole]; simp)
    generalize form hides c = written at kind
    cases kind with
    | quote =>
        rw [EndsSingle, back, List.reverse_append]
        exact Nat.one_lt_two
    | backslash =>
        rw [List.append_cons]
        exact last _ '\\' (by decide)
    | short => exact digits 'u' 4 _ (by decide) _
    | long => exact digits 'U' 8 _ (by decide) _
    | plain _ _ quote _ => exact last _ c quote

theorem run_inString (before inside front rest : Text) (line : '\n' ∉ front) (quote : '"' ∉ front) :
    run (inString (back before inside)) (front ++ rest) =
      run (inString (back before (inside ++ front))) rest := by
  have kept : Keeps inString front inString := by
    apply keeps_each
    intro c member before rest
    apply step_inString
    · rintro rfl
      exact line member
    · rintro rfl
      exact quote member
  have joined : front.reverse ++ back before inside = back before (inside ++ front) := by
    rw [back, back, List.reverse_append, List.append_assoc]
  rw [kept, joined]

theorem run_formed (before inside text rest : Text) (even : endsOddBackslashes inside = false)
    (large : ∀ c ∈ text, isHidden c = true → 0xFF < c.toNat) :
    run (inString (back before inside)) (formed isHidden text ++ rest) =
      run (inString (back before (inside ++ formed isHidden text))) rest := by
  induction text generalizing inside with
  | nil =>
      rw [formed, List.flatMap_nil, List.append_nil]
      rfl
  | cons c later ih =>
      rw [List.forall_mem_cons] at large
      have kind := form_kind isHidden c large.1
      have next := even_form isHidden inside even c _ kind
      rw [formed, List.flatMap_cons, List.append_assoc, ← List.append_assoc inside, ← formed,
        ← ih _ next large.2]
      have digits (letter : Char) (width n : Nat) (line : letter ≠ '\n') (quote : letter ≠ '"') :
          '\n' ∉ '\\' :: letter :: Text.hex width n ∧ '"' ∉ '\\' :: letter :: Text.hex width n := by
        constructor
        · rw [List.mem_cons, not_or]
          exact ⟨by decide, fun digit => ne_of_mem_digits letter '\n' width n line rfl _ digit rfl⟩
        · rw [List.mem_cons, not_or]
          exact ⟨by decide, fun digit => ne_of_mem_digits letter '"' width n quote rfl _ digit rfl⟩
      generalize form isHidden c = written at kind
      cases kind with
      | quote =>
          rw [← List.singleton_append, List.append_assoc, run_inString before inside ['\\'] _
            (by decide) (by decide), List.singleton_append, run, step_escaped before inside _ even]
          rfl
      | backslash => exact run_inString before inside _ _ (by decide) (by decide)
      | short =>
          obtain ⟨line, quote⟩ := digits 'u' 4 c.toNat (by decide) (by decide)
          exact run_inString before inside _ _ line quote
      | long =>
          obtain ⟨line, quote⟩ := digits 'U' 8 c.toNat (by decide) (by decide)
          exact run_inString before inside _ _ line quote
      | plain _ shown quote _ =>
          apply run_inString
          · rw [List.mem_singleton]
            rintro rfl
            exact absurd shown (by decide)
          · simpa using quote.symm

theorem keeps_piece (text : Text) (legible : Legible text) :
    Keeps inList (piece text) inList := by
  intro before rest
  have even := even_formed text isHidden [] rfl legible.hidden
  rw [List.nil_append] at even
  have single := endsSingle_formed isHidden text legible.hidden
  have opened : back before [] = '"' :: ' ' :: before := rfl
  have closed : (piece text).reverse ++ before = '"' :: back before (formed isHidden text) := by
    simp [piece, literal, back]
  rw [piece, literal, List.cons_append, run,
    step_mute (inList before) ' ' _ rfl rfl rfl (by decide)]
  show run (inList (' ' :: before)) _ = _
  rw [List.cons_append, List.cons_append, run, step_open, List.append_assoc]
  show run (inString ('"' :: ' ' :: before)) _ = _
  rw [← opened, run_formed before [] text _ rfl legible.hidden, List.nil_append,
    List.singleton_append, run, step_close before _ rest even single, ← List.cons_append, ← literal,
    ← piece, closed]
  rfl

theorem keeps_listForm (texts : List Text) (legible : ∀ text ∈ texts, Legible text) :
    Keeps inLine (listForm texts) inLine := by
  have pieces : Keeps inList (texts.flatMap fun text => piece text ++ [',']) inList := by
    induction texts with
    | nil => exact keeps_nil inList
    | cons text rest ih =>
        rw [List.forall_mem_cons] at legible
        have comma : Keeps inList [','] inList := keeps_char inList inList ',' fun before rest =>
          step_mute (inList before) ',' rest rfl rfl rfl (by decide)
        exact keeps_append _ inList _ _ _
          (keeps_append _ inList _ _ _ (keeps_piece text legible.1) comma) (ih legible.2)
  rw [listForm_eq]
  exact keeps_append _ inList _ _ _
    (keeps_append _ inList _ _ _ (keeps_char inLine inList '[' fun _ _ => rfl) pieces)
    (keeps_char inList inLine ']' fun _ _ => rfl)

theorem keeps_valueText (value : Value) (plain : PlainValue value) :
    Keeps inLine (valueText value) inLine := by
  cases plain with
  | flag value =>
      apply keeps_each
      intro c member before rest
      apply step_mute (inLine before) c rest rfl rfl rfl
      cases value
      · exact List.all_eq_true.mp (by decide : "false".toList.all isMute = true) c member
      · exact List.all_eq_true.mp (by decide : "true".toList.all isMute = true) c member
  | list text texts listable =>
      rw [valueText_list]
      exact keeps_listForm _ fun other member => (listable other member).legible

section Bare

variable (c : Char) (bare : isBareChar c = true) (before rest : Text)
include bare

theorem isMute_of_isBareChar : isMute c = true :=
  of_isBareChar isMute (by decide) c bare

theorem step_start : (atLine before).step c rest = .ok (inKey (c :: before)) := by
  have mute := isMute_of_isBareChar c bare
  have first := of_isBareChar (fun c => c != ' ' && c != '\t' && c != '=') (by decide) c bare
  simp only [isMute, Bool.not_eq_true', List.contains_eq_mem, List.mem_cons, List.not_mem_nil,
    or_false, decide_eq_false_iff_not, not_or] at mute
  simp only [Bool.and_eq_true, bne_iff_ne, ne_eq] at first
  simp [step, plainStep, bracketStep, startStep, atLine, mute, first]
  rfl

theorem step_key : (inKey before).step c rest = .ok (inKey (c :: before)) := by
  have solid := isSpace_of_isBareChar c bare
  have named := of_isBareChar isNameChar (by decide +kernel) c bare
  have other := of_isBareChar (fun c => c != '\n' && c != '.') (by decide) c bare
  simp only [Bool.and_eq_true, bne_iff_ne, ne_eq] at other
  simp [step, keyStep, inKey, solid, named, other]
  rfl

theorem step_header : (inHeaderAt before).step c rest = .ok (inHeaderAt (c :: before)) :=
  step_mute (inHeaderAt before) c rest rfl rfl rfl (isMute_of_isBareChar c bare)

end Bare

theorem keeps_entryLine (entry : Text × Value) (bare : isBareName entry.1 = true)
    (plain : PlainValue entry.2) : Keeps atLine (entryLine entry ++ ['\n']) atLine := by
  obtain ⟨key, value⟩ := entry
  obtain ⟨c, rest, rfl⟩ := exists_bare_cons key bare
  have chars : ∀ d ∈ c :: rest, isBareChar d = true := by
    rw [isBareName, Bool.and_eq_true, List.all_eq_true] at bare
    exact bare.2
  rw [List.forall_mem_cons] at chars
  have first := keeps_char atLine inKey c (step_start c chars.1)
  have name := keeps_each inKey rest fun d member => step_key d (chars.2 d member)
  have blank := keeps_char inKey afterKey ' ' fun _ _ => rfl
  have sign := keeps_char afterKey inLine '=' fun _ _ => rfl
  have space := keeps_char inLine inLine ' ' fun before rest =>
    step_mute (inLine before) ' ' rest rfl rfl rfl (by decide)
  have line := keeps_char inLine atLine '\n' fun _ _ => rfl
  have whole := keeps_append _ _ _ _ _ first (keeps_append _ _ _ _ _ name
    (keeps_append _ _ _ _ _ blank (keeps_append _ _ _ _ _ sign (keeps_append _ _ _ _ _ space
      (keeps_append _ _ _ _ _ (keeps_valueText value plain) line)))))
  have same : entryLine (c :: rest, value) ++ ['\n'] =
      [c] ++ (rest ++ ([' '] ++ (['='] ++ ([' '] ++ (valueText value ++ ['\n']))))) := by
    simp [entryLine]
  rw [same]
  exact whole

theorem keeps_header (name : Text) (bare : isBareName name = true) :
    Keeps atLine (header name) atLine := by
  obtain ⟨c, rest, rfl⟩ := exists_bare_cons name bare
  have chars : ∀ d ∈ c :: rest, isBareChar d = true := by
    rw [isBareName, Bool.and_eq_true, List.all_eq_true] at bare
    exact bare.2
  have bracket := isMute_of_isBareChar c (chars c List.mem_cons_self)
  have name := keeps_each inHeaderAt (c :: rest) fun d member => step_header d (chars d member)
  have closing := keeps_char inHeaderAt inLine ']' fun _ _ => rfl
  have line := keeps_char inLine atLine '\n' fun _ _ => rfl
  intro before more
  have opening (tail : Text) :
      run (atLine before) ('[' :: c :: tail) = run (inHeaderAt ('[' :: before)) (c :: tail) := by
    have other : c ≠ '[' := by
      rintro rfl
      exact absurd bracket (by decide)
    have stepped : (atLine before).step '[' (c :: tail) = .ok (inHeaderAt ('[' :: before)) := by
      simp [step, plainStep, bracketStep, startStep, atLine, other]
      rfl
    rw [run, stepped]
    rfl
  have later := keeps_append _ _ _ _ _ name (keeps_append _ _ _ _ _ closing line)
  have reversed : (header (c :: rest)).reverse ++ before =
      (c :: rest ++ "]\n".toList).reverse ++ '[' :: before := by
    rw [header, List.cons_append, List.reverse_cons, List.append_assoc, List.singleton_append]
  rw [reversed]
  exact (opening _).trans (later ('[' :: before) more)

theorem keeps_blank : Keeps atLine ['\n'] atLine :=
  keeps_char atLine atLine '\n' fun _ _ => rfl

theorem layout_of_keeps (text : Text) (kept : Keeps atLine text atLine) : layout text = .ok text := by
  have whole := kept [] []
  rw [List.append_nil, List.append_nil] at whole
  have ran : run {} text = .ok (atLine text.reverse) := whole
  rw [layout, ran]
  exact congrArg Except.ok (List.reverse_reverse text)

end Outliner.Toml.Layout
