import EventFormation.Proofs.Pairs
import EventFormation.TimeSpan

namespace EventFormation

/-- A computation in two steps succeeds where both steps do. -/
theorem bind_eq_ok_iff {ε α β : Type} {first : Except ε α} {next : α → Except ε β} {result : β} :
    first >>= next = .ok result ↔ ∃ middle, first = .ok middle ∧ next middle = .ok result := by
  cases first with
  | error fault =>
    constructor
    · intro run
      cases run
    · rintro ⟨middle, run, _⟩
      cases run
  | ok middle =>
    constructor
    · intro run
      exact ⟨middle, rfl, run⟩
    · rintro ⟨_, same, run⟩
      cases same
      exact run

theorem exists_bind_pure_eq_ok_iff {ε α β : Type} {first : Except ε α} {g : α → β} :
    (∃ result, (first >>= fun value => pure (g value)) = .ok result) ↔ ∃ value, first = .ok value := by
  cases first with
  | error fault => exact iff_of_false (fun ⟨_, failed⟩ => nomatch failed) (fun ⟨_, failed⟩ => nomatch failed)
  | ok value => exact iff_of_true ⟨g value, rfl⟩ ⟨value, rfl⟩

theorem bind_eq_error_iff {ε α β : Type} {first : Except ε α} {next : α → Except ε β} {fault : ε} :
    first >>= next = .error fault ↔
      first = .error fault ∨ ∃ middle, first = .ok middle ∧ next middle = .error fault := by
  cases first with
  | error reason =>
    constructor
    · intro failed
      cases failed
      exact Or.inl rfl
    · rintro (failed | ⟨middle, run, _⟩)
      · cases failed
        rfl
      · cases run
  | ok middle =>
    constructor
    · intro failed
      exact Or.inr ⟨middle, rfl, failed⟩
    · rintro (failed | ⟨_, same, failed⟩)
      · cases failed
      · cases same
        exact failed

theorem map_eq_ok_iff {ε α β : Type} {first : Except ε α} {view : α → β} {result : β} :
    first.map view = .ok result ↔ ∃ value, first = .ok value ∧ view value = result := by
  cases first with
  | error fault => simp [Except.map]
  | ok value => simp [Except.map]

theorem eq_ok_of_toOption {ε α : Type} {result : Except ε α} {value : α}
    (some : result.toOption = some value) : result = .ok value := by
  cases result with
  | error fault => cases some
  | ok other => cases some; rfl

section All

variable {ε α β γ : Type} {f : α → Except ε γ} {items : List α} {results : List γ}

theorem map_mapM (f : α → Except ε β) (view : β → γ) (items : List α) :
    (items.mapM f).map (List.map view) = items.mapM fun item => (f item).map view := by
  induction items with
  | nil => rfl
  | cons item rest ih =>
    rw [List.mapM_cons, List.mapM_cons, ← ih]
    cases f item with
    | error fault => rfl
    | ok value => cases rest.mapM f <;> rfl

theorem mapM_forall₂ {g : β → Except ε γ} {as : List α} {bs : List β}
    (same : List.Forall₂ (fun a b => f a = g b) as bs) : as.mapM f = bs.mapM g := by
  induction same with
  | nil => rfl
  | cons first _ ih => rw [List.mapM_cons, List.mapM_cons, first, ih]

theorem mapM_total_of {good : β → γ → Prop} {targets : List β}
    (answers : List.Forall₂ (fun item target => ∃ result, f item = .ok result ∧ good target result) items targets) :
    ∃ results, items.mapM f = .ok results ∧ List.Forall₂ good targets results := by
  induction answers with
  | nil => exact ⟨[], rfl, .nil⟩
  | cons first _ ih =>
    obtain ⟨result, atItem, holds⟩ := first
    obtain ⟨results, atRest, all⟩ := ih
    exact ⟨result :: results, by rw [List.mapM_cons, atItem, atRest]; rfl, .cons holds all⟩

theorem mapM_total (answers : ∀ item ∈ items, ∃ result, f item = .ok result) :
    ∃ results, items.mapM f = .ok results := by
  obtain ⟨results, run, _⟩ := @mapM_total_of ε α α γ f items (fun _ _ => True) items
    (List.forall₂_same.mpr fun item member => (answers item member).imp fun _ atItem => ⟨atItem, trivial⟩)
  exact ⟨results, run⟩

theorem forall₂_of_mapM (run : items.mapM f = .ok results) :
    List.Forall₂ (fun item result => f item = .ok result) items results := by
  induction items generalizing results with
  | nil =>
    cases run
    exact .nil
  | cons item rest ih =>
    rw [List.mapM_cons] at run
    obtain ⟨result, atItem, run⟩ := bind_eq_ok_iff.mp run
    obtain ⟨others, atRest, run⟩ := bind_eq_ok_iff.mp run
    cases run
    exact .cons atItem (ih atRest)

theorem mapM_of_forall₂ (each : List.Forall₂ (fun item result => f item = .ok result) items results) :
    items.mapM f = .ok results := by
  induction each with
  | nil => rfl
  | cons first _ ih =>
    rw [List.mapM_cons, first, ih]
    rfl

theorem length_mapM (run : items.mapM f = .ok results) : results.length = items.length :=
  (forall₂_of_mapM run).length_eq.symm

theorem mem_of_mapM (run : items.mapM f = .ok results) {item : α} (member : item ∈ items) :
    ∃ result ∈ results, f item = .ok result :=
  forall₂_mem_left (forall₂_of_mapM run) member

/-- If there is one fault that can happen and it does, it is the outcome. -/
theorem mapM_fault {fault : ε} (answers : ∀ item ∈ items, f item = .error fault ∨ ∃ result, f item = .ok result)
    (fails : ∃ item ∈ items, f item = .error fault) : items.mapM f = .error fault := by
  induction items with
  | nil =>
    obtain ⟨item, member, _⟩ := fails
    cases member
  | cons item rest ih =>
    rw [List.mapM_cons]
    rcases answers item List.mem_cons_self with atItem | ⟨result, atItem⟩
    · rw [atItem]
      rfl
    · have later : rest.mapM f = .error fault := by
        refine ih (fun other member => answers other (List.mem_cons_of_mem item member)) ?_
        obtain ⟨other, member, atOther⟩ := fails
        rcases List.mem_cons.mp member with rfl | behind
        · rw [atItem] at atOther
          cases atOther
        · exact ⟨other, behind, atOther⟩
      rw [atItem, later]
      rfl

end All

end EventFormation
