namespace Outliner

variable {α β ε : Type}

theorem exists_of_bind {first : Except ε α} {next : α → Except ε β} {result : β}
    (done : first >>= next = .ok result) :
    ∃ middle, first = .ok middle ∧ next middle = .ok result := by
  cases first with
  | error fault => cases done
  | ok middle => exact ⟨middle, rfl, done⟩

theorem ok_of_toOption {result : Except ε α} {value : α} (held : result.toOption = some value) :
    result = .ok value := by
  cases result with
  | error fault => cases held
  | ok other => exact congrArg Except.ok (Option.some.inj held)

theorem foldlM_keeps (step : β → α → Except ε β) (holds : β → Prop) (items : List α)
    (state final : β) (start : holds state)
    (keeps : ∀ item ∈ items, ∀ state next, holds state → step state item = .ok next → holds next)
    (done : items.foldlM step state = .ok final) : holds final := by
  induction items generalizing state with
  | nil =>
      cases done
      exact start
  | cons item rest ih =>
      rw [List.forall_mem_cons] at keeps
      rw [List.foldlM_cons] at done
      obtain ⟨next, stepped, later⟩ := exists_of_bind done
      exact ih next (keeps.1 state next start stepped) keeps.2 later

theorem exists_ok_of_mapM (change : α → Except ε β) (items : List α) (results : List β)
    (done : items.mapM change = .ok results) : ∀ item ∈ items, ∃ result, change item = .ok result := by
  induction items generalizing results with
  | nil => nofun
  | cons item rest ih =>
      rw [List.mapM_cons] at done
      obtain ⟨result, first, done⟩ := exists_of_bind done
      obtain ⟨others, later, _⟩ := exists_of_bind done
      rw [List.forall_mem_cons]
      exact ⟨⟨result, first⟩, ih others later⟩

theorem exists_error_of_mapM (change : α → Except ε β) (items : List α) (fault : ε)
    (failed : items.mapM change = .error fault) : ∃ item ∈ items, change item = .error fault := by
  induction items with
  | nil => cases failed
  | cons item rest ih =>
      rw [List.mapM_cons] at failed
      cases first : change item with
      | error own =>
          rw [first] at failed
          cases failed
          exact ⟨item, List.mem_cons_self, first⟩
      | ok result =>
          cases later : rest.mapM change with
          | error other =>
              rw [first, later] at failed
              cases failed
              obtain ⟨item, member, held⟩ := ih later
              exact ⟨item, List.mem_cons_of_mem _ member, held⟩
          | ok results =>
              rw [first, later] at failed
              cases failed

theorem exists_step_of_foldlM (step : β → α → Except ε β) (items : List α) (state final : β)
    (done : items.foldlM step state = .ok final) :
    ∀ item ∈ items, ∃ before after, step before item = .ok after := by
  induction items generalizing state with
  | nil => nofun
  | cons item rest ih =>
      rw [List.foldlM_cons] at done
      obtain ⟨next, stepped, later⟩ := exists_of_bind done
      rw [List.forall_mem_cons]
      exact ⟨⟨state, next, stepped⟩, ih next later⟩

end Outliner
