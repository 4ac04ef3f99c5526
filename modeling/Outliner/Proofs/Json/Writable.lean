import Mathlib.Algebra.Ring.Nat
import Outliner.Proofs.Fallible
import Outliner.Proofs.Json.Entry

namespace Outliner

namespace Text

theorem isSome_ofInt? (value : Int) :
    (ofInt? value).isSome = true ↔ value.natAbs < 10 ^ digitLimit := by
  rw [← Nat.length_toDigits_le_iff (by decide) (by decide), ofInt?, ofNat]
  split <;> simp [*]

theorem foldl_digits_lt (digits : Text) (each : ∀ c ∈ digits, isAsciiDigit c = true) (start : Nat) :
    digits.foldl (fun value c => 10 * value + (c.toNat - '0'.toNat)) start <
      (start + 1) * 10 ^ digits.length := by
  induction digits generalizing start with
  | nil => simp
  | cons c rest ih =>
      rw [List.forall_mem_cons] at each
      have small : c.toNat - '0'.toNat ≤ 9 := by
        have digit := each.1
        simp only [isAsciiDigit, Bool.and_eq_true, decide_eq_true_eq] at digit
        have low : c.toNat ≤ '9'.toNat := digit.2
        have nine : '9'.toNat = '0'.toNat + 9 := rfl
        omega
      calc
        _ < (10 * start + (c.toNat - '0'.toNat) + 1) * 10 ^ rest.length := ih each.2 _
        _ ≤ ((start + 1) * 10) * 10 ^ rest.length := Nat.mul_le_mul_right _ (by omega)
        _ = (start + 1) * 10 ^ (c :: rest).length := by
          rw [List.length_cons, Nat.pow_succ', Nat.mul_assoc]

theorem digitsValue_lt (digits : Text) (each : ∀ c ∈ digits, isAsciiDigit c = true) :
    digitsValue digits < 10 ^ digits.length := by
  have bound := foldl_digits_lt digits each 0
  rwa [Nat.zero_add, Nat.one_mul] at bound

end Text

namespace Json

def Entry.isWritable (entry : Entry) : Bool :=
  entry.value.isComposite || entry.value.scalarText?.isSome

theorem itemsWritable_eq_all (items : List Value) :
    itemsWritable items = items.all Value.isWritable := by
  induction items with
  | nil => rfl
  | cons value rest ih => rw [itemsWritable, ih, List.all_cons]

theorem membersWritable_eq_all (members : List (Text × Value)) :
    membersWritable members = members.all fun member => member.2.isWritable := by
  induction members with
  | nil => rfl
  | cons member rest ih => rw [membersWritable, ih, List.all_cons]

theorem isWritable_of_composite (value : Value) (composite : value.isComposite = true) :
    value.isWritable = value.entries.all fun entry => entry.value.isWritable := by
  cases value with
  | array items =>
      have values : items.all Value.isWritable =
          (items.zipIdx.map Prod.fst).all Value.isWritable := by rw [List.zipIdx_map_fst]
      rw [Value.isWritable, itemsWritable_eq_all, Value.entries, values, List.all_map, List.all_map]
      rfl
  | object members =>
      rw [Value.isWritable, membersWritable_eq_all, Value.entries, List.all_map]
      rfl
  | _ => cases composite

theorem isWritable_of_scalar (entry : Entry) (scalar : entry.value.isComposite = false) :
    entry.isWritable = entry.value.isWritable := by
  rw [Entry.isWritable, scalar, Bool.false_or]
  cases value : entry.value with
  | array items =>
      rw [value] at scalar
      cases scalar
  | object members =>
      rw [value] at scalar
      cases scalar
  | _ => rfl

theorem isWritable_eq_entries (value : Value) :
    value.isWritable = ((value.topEntries.all Entry.isWritable) &&
      value.topEntries.all fun entry => !entry.value.isComposite || entry.value.isWritable) := by
  have each (entry : Entry) : entry.value.isWritable = true ↔ entry.isWritable = true ∧
      (!entry.value.isComposite || entry.value.isWritable) = true := by
    cases composite : entry.value.isComposite with
    | true => simp [Entry.isWritable, composite]
    | false => simp [isWritable_of_scalar entry composite]
  have entries : value.isWritable = value.topEntries.all fun entry => entry.value.isWritable := by
    cases composite : value.isComposite with
    | true => rw [value.topEntries_of_composite composite, isWritable_of_composite value composite]
    | false =>
        rw [value.topEntries_of_scalar composite]
        exact (Bool.and_true _).symm
  rw [entries, Bool.eq_iff_iff]
  simp only [Bool.and_eq_true, List.all_eq_true, each, imp_and, forall_and]

theorem isWritable_entry_iff (entry : Entry) :
    entry.isWritable = true ↔ ∀ n, entry.value = .integer n → n.natAbs < 10 ^ Text.digitLimit := by
  rw [Entry.isWritable]
  cases entry.value with
  | integer n =>
      simp only [Value.isComposite, Value.scalarText?, Bool.false_or, Text.isSome_ofInt?,
        Value.integer.injEq, forall_eq']
  | bool value => cases value <;> simp [Value.isComposite, Value.scalarText?]
  | _ => simp [Value.isComposite, Value.scalarText?]

theorem isWritable_of_mem (value : Value) (writable : value.isWritable = true) (entry : Entry)
    (member : entry ∈ value.entries) : entry.value.isWritable = true := by
  have composite : value.isComposite = true := by
    cases value with
    | array items => rfl
    | object members => rfl
    | _ => cases member
  rw [isWritable_of_composite value composite] at writable
  exact List.all_eq_true.mp writable entry member

theorem isWritable_of_entryAt? (value : Value) (writable : value.isWritable = true)
    (address : List Nat) (entry : Entry) (found : value.entryAt? address = some entry) :
    entry.value.isWritable = true := by
  induction address generalizing value with
  | nil => cases found
  | cons index address ih =>
      cases address with
      | nil => exact isWritable_of_mem value writable entry (List.mem_of_getElem? found)
      | cons next address =>
          obtain ⟨first, here, further⟩ := Option.bind_eq_some_iff.mp found
          have own := isWritable_of_mem value writable first (List.mem_of_getElem? here)
          exact ih first.value own further

theorem isWritable_of_entries (value : Value) (composite : value.isComposite = true)
    (each : ∀ address entry, value.entryAt? address = some entry → entry.isWritable = true) :
    value.isWritable = true := by
  induction value using Value.induction with
  | step value ih =>
      rw [isWritable_of_composite value composite, List.all_eq_true]
      intro entry member
      obtain ⟨index, here⟩ := List.mem_iff_getElem?.mp member
      cases inner : entry.value.isComposite with
      | false =>
          rw [← isWritable_of_scalar entry inner]
          exact each [index] entry here
      | true =>
          apply ih entry member inner
          intro address part found
          cases address with
          | nil => cases found
          | cons next address =>
              apply each (index :: next :: address) part
              rw [Value.entryAt?, here]
              · exact found
              · exact List.cons_ne_nil next address

/-- Somewhere in a value there is an integer of more than 4300 decimal digits. -/
def Value.HasLongInteger (value : Value) : Prop :=
  ∃ address entry n, value.partAt? address = some entry ∧ entry.value = .integer n ∧
    10 ^ 4300 ≤ n.natAbs

theorem isWritable_partAt? (value : Value) (writable : value.isWritable = true)
    (address : List Nat) (entry : Entry) (found : value.partAt? address = some entry) :
    entry.isWritable = true := by
  have own : entry.value.isWritable = true := by
    rw [Value.partAt?] at found
    split at found
    · exact isWritable_of_entryAt? value writable address entry found
    · split at found
      · rwa [← Option.some.inj found]
      · cases found
  cases inner : entry.value.isComposite with
  | true => rw [Entry.isWritable, inner, Bool.true_or]
  | false => rwa [isWritable_of_scalar entry inner]

theorem isWritable_iff (value : Value) : value.isWritable = true ↔ ¬value.HasLongInteger := by
  have limit : 10 ^ Text.digitLimit = 10 ^ 4300 := by rw [Text.digitLimit]
  constructor
  · rintro writable ⟨address, entry, n, found, held, long⟩
    have short := isWritable_partAt? value writable address entry found
    rw [isWritable_entry_iff, limit] at short
    exact absurd (short n held) (Nat.not_lt.mpr long)
  · intro short
    have each (address : List Nat) (entry : Entry) (found : value.partAt? address = some entry) :
        entry.isWritable = true := by
      rw [isWritable_entry_iff, limit]
      intro n held
      exact Nat.lt_of_not_le fun long => short ⟨address, entry, n, found, held, long⟩
    cases composite : value.isComposite with
    | true =>
        apply isWritable_of_entries value composite
        intro address entry found
        exact each address entry (by rw [Value.partAt?, composite, if_pos rfl, found])
    | false =>
        have whole := each [0] (.whole value) (by rw [Value.partAt?, composite]; rfl)
        rwa [isWritable_of_scalar (.whole value) composite] at whole

def Yields (item : Reader) : Prop :=
  ∀ cursor value last, item cursor = .ok (value, last) → value.isWritable = true

theorem digits_whole? (text whole rest : Text) (read : whole? text = some (whole, rest)) :
    ∀ c ∈ whole, Text.isAsciiDigit c = true := by
  unfold whole? at read
  split at read
  · obtain ⟨rfl, _⟩ := Prod.mk.inj (Option.some.inj read)
    exact List.forall_mem_singleton.mpr rfl
  · next c later _ =>
      split at read
      · next digit =>
          obtain ⟨rfl, _⟩ := Prod.mk.inj (Option.some.inj read)
          rw [List.forall_mem_cons]
          exact ⟨digit, List.all_eq_true.mp List.all_takeWhile⟩
      · cases read
  · cases read

theorem digits_number? (text rest : Text) (number : Number)
    (read : number? text = some (number, rest)) :
    ∀ c ∈ number.whole, Text.isAsciiDigit c = true := by
  unfold number? at read
  split at read
  next negative unsigned signed =>
  simp only [Option.bind_eq_bind, Option.bind_eq_some_iff] at read
  obtain ⟨⟨whole, afterWhole⟩, wholeRead, read⟩ := read
  have digits := digits_whole? unsigned whole afterWhole wholeRead
  split at read
  · obtain ⟨rfl, _⟩ := Prod.mk.inj (Option.some.inj read)
    exact digits
  · obtain ⟨rfl, _⟩ := Prod.mk.inj (Option.some.inj read)
    exact digits

theorem isWritable_number (number : Number) (value : Value)
    (digits : ∀ c ∈ number.whole, Text.isAsciiDigit c = true)
    (read : number.value = .ok value) : value.isWritable = true := by
  unfold Number.value at read
  split at read
  · split at read
    · cases read
    · next short =>
        have bound : Text.digitsValue number.whole < 10 ^ Text.digitLimit :=
          calc
            _ < 10 ^ number.whole.length := Text.digitsValue_lt number.whole digits
            _ ≤ 10 ^ Text.digitLimit := Nat.pow_le_pow_right (by decide) (Nat.not_lt.mp short)
        cases read
        rw [Value.isWritable, Value.scalarText?, Text.isSome_ofInt?]
        · split
          · rwa [Int.natAbs_neg, Int.natAbs_natCast]
          · rwa [Int.natAbs_natCast]
        · nofun
        · nofun
  · cases read
    rfl

theorem yields_simpleValue : Yields simpleValue := by
  intro cursor value last read
  unfold simpleValue at read
  split at read
  · next meant size found =>
      have words : ∀ word ∈ wordValues, word.2.isWritable = true := by decide
      obtain ⟨rfl, _⟩ := Prod.mk.inj (Except.ok.inj read)
      obtain ⟨word, known, same⟩ := Option.map_eq_some_iff.mp found
      rw [← (Prod.mk.inj same).1]
      exact words word (List.mem_of_find?_eq_some known)
  · split at read
    · next number rest numeral =>
        obtain ⟨given, valued, done⟩ := exists_of_bind read
        cases done
        exact isWritable_number number value (digits_number? _ rest number numeral) valued
    · cases read

section Composites

variable (item : Reader) (yields : Yields item)
include yields

theorem yields_itemsFrom (count : Nat) (cursor last : Cursor) (values : List Value)
    (read : itemsFrom item count cursor = .ok (values, last)) :
    values.all Value.isWritable = true := by
  induction count generalizing cursor values last with
  | zero => cases read
  | succ count ih =>
      obtain ⟨⟨value, afterValue⟩, first, read⟩ := exists_of_bind read
      have own := yields cursor value afterValue first
      simp only at read
      split at read
      · cases read
        rw [List.all_cons, own, List.all_nil, Bool.and_self]
      · obtain ⟨⟨others, stop⟩, later, read⟩ := exists_of_bind read
        cases read
        rw [List.all_cons, own, ih _ _ others later, Bool.and_self]
      · cases read

theorem yields_membersFrom (count : Nat) (cursor last : Cursor)
    (members : List (List Point × Value))
    (read : membersFrom item count cursor = .ok (members, last)) :
    ∀ member ∈ members, member.2.isWritable = true := by
  induction count generalizing cursor members last with
  | zero => cases read
  | succ count ih =>
      unfold membersFrom at read
      split at read
      · obtain ⟨⟨name, afterName⟩, _, read⟩ := exists_of_bind read
        simp only at read
        split at read
        · obtain ⟨⟨value, afterValue⟩, first, read⟩ := exists_of_bind read
          have own := yields _ value afterValue first
          simp only at read
          split at read
          · cases read
            exact List.forall_mem_singleton.mpr own
          · obtain ⟨⟨others, stop⟩, later, read⟩ := exists_of_bind read
            cases read
            exact List.forall_mem_cons.mpr ⟨own, ih _ _ others later⟩
          · cases read
        · cases read
      · cases read

end Composites

section Members

variable {Name : Type} [DecidableEq Name] (holds : Value → Prop)

theorem forall_put (name : Name) (value : Value) (members : List (Name × Value))
    (own : holds value) (others : ∀ member ∈ members, holds member.2) :
    ∀ member ∈ put name value members, holds member.2 := by
  induction members with
  | nil => exact List.forall_mem_singleton.mpr own
  | cons first rest ih =>
      rw [List.forall_mem_cons] at others
      rw [put]
      split
      · exact List.forall_mem_cons.mpr ⟨own, others.2⟩
      · exact List.forall_mem_cons.mpr ⟨others.1, ih others.2⟩

theorem forall_collapse (members : List (Name × Value))
    (each : ∀ member ∈ members, holds member.2) :
    ∀ member ∈ collapse members, holds member.2 := by
  unfold collapse
  apply List.foldlRecOn (motive := fun kept : List (Name × Value) =>
    ∀ member ∈ kept, holds member.2)
  · exact nofun
  · intro kept held member present
    exact forall_put holds member.1 member.2 kept (each member present) held

end Members

theorem yields_arrayRest (item : Reader) (yields : Yields item) : Yields (arrayRest item) := by
  intro cursor value last read
  unfold arrayRest at read
  simp only at read
  split at read
  · cases read
    rfl
  · obtain ⟨⟨values, stop⟩, items, read⟩ := exists_of_bind read
    cases read
    rw [Value.isWritable, itemsWritable_eq_all]
    exact yields_itemsFrom item yields _ _ _ values items

theorem yields_objectRest (item : Reader) (yields : Yields item) : Yields (objectRest item) := by
  intro cursor value last read
  unfold objectRest at read
  simp only at read
  split at read
  · cases read
    rfl
  · obtain ⟨⟨members, stop⟩, listed, read⟩ := exists_of_bind read
    cases read
    have each := yields_membersFrom item yields _ _ _ members listed
    rw [Value.isWritable, membersWritable_eq_all, List.all_map, List.all_eq_true]
    exact forall_collapse (fun value => value.isWritable = true) members each

theorem yields_value (depth : Nat) : Yields (value depth) := by
  -- The depth only matters where a composite is opened, so that one step serves every depth.
  have level (depth : Nat) (inner : ∀ below, depth = below + 1 → Yields (value below)) :
      Yields (value depth) := by
    intro cursor found last read
    unfold value at read
    split at read
    · obtain ⟨_, _, read⟩ := exists_of_bind read
      cases read
      rfl
    · cases read
    · cases read
    · next below _ => exact yields_arrayRest _ (inner below rfl) _ found last read
    · next below _ => exact yields_objectRest _ (inner below rfl) _ found last read
    · exact yields_simpleValue cursor found last read
  induction depth with
  | zero => exact level 0 nofun
  | succ depth ih =>
      refine level (depth + 1) ?_
      intro below deeper
      rwa [← Nat.succ.inj deeper]

theorem isWritable_of_decode (document : Text) (found : Value)
    (decoded : decode document = .ok found) : found.isWritable = true := by
  unfold decode at decoded
  simp only at decoded
  split at decoded
  · cases decoded
  · obtain ⟨⟨result, last⟩, valued, decoded⟩ := exists_of_bind decoded
    have writable := yields_value depthLimit _ result last valued
    simp only at decoded
    split at decoded
    · cases decoded
      exact writable
    · cases decoded

section Outlines

variable (value : Value) (level : Int) (path : Text)

theorem extract_cases :
    value.HasLongInteger ∧ extract value level path = .error .unwritable ∧
        (∀ document, decode document ≠ .ok value) ∨
      ¬value.HasLongInteger ∧ extract value level path = .ok (mirror value level path) := by
  have writable := isWritable_iff value
  cases whether : value.isWritable with
  | true => exact Or.inr ⟨writable.mp whether, by rw [extract, whether, if_pos rfl]⟩
  | false =>
      refine Or.inl ⟨?_, by rw [extract, whether]; rfl, ?_⟩
      · rw [whether] at writable
        simpa using writable
      · intro document decoded
        rw [isWritable_of_decode document value decoded] at whether
        cases whether

theorem extract_of_decode (document : Text) (decoded : decode document = .ok value) :
    extract value level path = .ok (mirror value level path) := by
  rw [extract, isWritable_of_decode document value decoded, if_pos rfl]

theorem outline_of_decode (document : Text) (decoded : decode document = .ok value) :
    outline document level path = mirror value level path := by
  simp only [outline, decoded, bind, Except.bind, extract_of_decode value level path document decoded]

end Outlines

theorem outline_of_fault (document : Text) (level : Int) (path : Text) (fault : Fault)
    (failed : decode document = .error fault) :
    outline document level path =
      errorForest ("Invalid JSON: ".toList ++ fault.message document) level path := by
  simp only [outline, failed, bind, Except.bind]

end Json

end Outliner
