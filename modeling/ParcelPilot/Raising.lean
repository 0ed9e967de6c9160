import Mathlib.Data.List.Forall2

namespace ParcelPilot

variable {ε α β : Type} {allowed : ε → Prop}

theorem except_bind_ok {first : Except ε α} {rest : α → Except ε β} {value : β} :
    (first >>= rest) = .ok value ↔ ∃ middle, first = .ok middle ∧ rest middle = .ok value := by
  cases first with
  | error error =>
      constructor
      · intro ran
        cases ran
      · rintro ⟨_,same,_⟩
        cases same
  | ok middle =>
      constructor
      · intro ran
        exact ⟨middle,rfl,ran⟩
      · rintro ⟨_,same,ran⟩
        cases same
        exact ran

theorem mapM_ok {step : α → Except ε β} {items : List α} {results : List β}
    (ran : items.mapM step = .ok results) :
    List.Forall₂ (fun item result => step item = .ok result) items results := by
  induction items generalizing results with
  | nil =>
      cases ran
      exact .nil
  | cons item rest ih =>
      rw [List.mapM_cons] at ran
      obtain ⟨result,first,ran⟩ := except_bind_ok.mp ran
      obtain ⟨later,others,ran⟩ := except_bind_ok.mp ran
      cases ran
      exact .cons first (ih others)

theorem paired_right {R : α → β → Prop} {items : List α} {results : List β} {result : β}
    (all : List.Forall₂ R items results) (member : result ∈ results) : ∃ item ∈ items, R item result := by
  induction all with
  | nil => cases member
  | @cons item head rest later first _ ih =>
      rcases List.mem_cons.mp member with same | after
      · rw [same]
        exact ⟨item,List.mem_cons_self,first⟩
      · obtain ⟨other,listed,made⟩ := ih after
        exact ⟨other,List.mem_cons_of_mem _ listed,made⟩

theorem paired_left {R : α → β → Prop} {items : List α} {results : List β} {item : α}
    (all : List.Forall₂ R items results) (listed : item ∈ items) : ∃ result ∈ results, R item result :=
  paired_right all.flip listed

theorem mapM_result {step : α → Except ε β} {items : List α} {results : List β} {result : β}
    (ran : items.mapM step = .ok results) (member : result ∈ results) :
    ∃ item ∈ items, step item = .ok result :=
  paired_right (R := fun item result => step item = .ok result) (mapM_ok ran) member

theorem mapM_item {step : α → Except ε β} {items : List α} {results : List β} {item : α}
    (ran : items.mapM step = .ok results) (listed : item ∈ items) :
    ∃ result ∈ results, step item = .ok result :=
  paired_left (R := fun item result => step item = .ok result) (mapM_ok ran) listed

theorem raised_of_map {result : Except ε α} {error : ε}
    (told : result.map (fun _ => ()) = .error error) : result = .error error := by
  cases result with
  | error other =>
      cases told
      rfl
  | ok value => cases told

theorem returned_of_map {result : Except ε α} (told : result.map (fun _ => ()) = .ok ()) :
    ∃ value, result = .ok value := by
  cases result with
  | error error => cases told
  | ok value => exact ⟨value,rfl⟩

-- A computation raises nothing but errors of a kind.
def Raises (allowed : ε → Prop) (result : Except ε α) : Prop :=
  ∀ error, result = .error error → allowed error

@[simp] theorem raises_ok {value : α} : Raises allowed (Except.ok value) := nofun

@[simp] theorem raises_error {error : ε} :
    Raises allowed (Except.error error : Except ε α) ↔ allowed error := by
  constructor
  · intro raises
    exact raises error rfl
  · intro kind other same
    cases same
    exact kind

theorem raises_bind {first : Except ε α} {rest : α → Except ε β} :
    Raises allowed (first >>= rest) ↔
      Raises allowed first ∧ ∀ value, first = .ok value → Raises allowed (rest value) := by
  cases first with
  | error error =>
      have same : (Except.error error >>= rest) = Except.error error := rfl
      rw [same,raises_error,raises_error]
      simp
  | ok value =>
      have same : (Except.ok value >>= rest) = rest value := rfl
      rw [same]
      simp

theorem raises_bind_of {first : Except ε α} {rest : α → Except ε β}
    (kind : Raises allowed first) :
    Raises allowed (first >>= rest) ↔ ∀ value, first = .ok value → Raises allowed (rest value) := by
  rw [raises_bind,and_iff_right kind]

theorem raises_mapM {step : α → Except ε β} {items : List α} :
    Raises allowed (items.mapM step) ↔ ∀ earlier item later, items = earlier ++ item :: later →
      (∃ results, earlier.mapM step = .ok results) → Raises allowed (step item) := by
  induction items with
  | nil => simp [List.mapM_nil,pure,Except.pure]
  | cons first rest ih =>
      have last (result : β) (results : Except ε (List β)) :
          Raises allowed (results >>= fun others => pure (result :: others)) ↔
            Raises allowed results := by
        rw [raises_bind]
        exact and_iff_left fun _ _ => raises_ok
      rw [List.mapM_cons,raises_bind]
      simp only [last,ih]
      constructor
      · intro each earlier item later split passed
        obtain ⟨results,passed⟩ := passed
        cases earlier with
        | nil =>
            cases split
            exact each.1
        | cons head others =>
            obtain ⟨rfl,tail⟩ := List.cons.inj split
            rw [List.mapM_cons] at passed
            cases made : step first with
            | error error =>
                rw [made] at passed
                cases passed
            | ok result =>
                refine each.2 result made others item later tail ?_
                rw [made] at passed
                cases ended : others.mapM step with
                | error error =>
                    rw [ended] at passed
                    cases passed
                | ok results => exact ⟨results,rfl⟩
      · intro each
        refine ⟨each [] first rest rfl ⟨[],rfl⟩,?_⟩
        intro result made earlier item later split passed
        obtain ⟨results,passed⟩ := passed
        refine each (first :: earlier) item later (by rw [split]; rfl) ⟨result :: results,?_⟩
        rw [List.mapM_cons,made,passed]
        rfl

theorem raises_mapM_of {step : α → Except ε β} {items : List α}
    (kind : ∀ item ∈ items, Raises allowed (step item)) : Raises allowed (items.mapM step) := by
  rw [raises_mapM]
  intro earlier item later split _
  exact kind item (by rw [split]; simp)

theorem raises_nothing {result : Except ε α} :
    Raises (fun _ => False) result ↔ ∃ value, result = .ok value := by
  cases result with
  | error error => simp
  | ok value => simp

theorem mapM_returns {step : α → Except ε β} {items : List α}
    (each : ∀ item ∈ items, ∃ result, step item = .ok result) :
    ∃ results, items.mapM step = .ok results :=
  raises_nothing.mp (raises_mapM_of fun item listed => raises_nothing.mpr (each item listed))

theorem mapM_map {step : α → Except ε β} {holds : α → Prop} {value : α → β}
    (each : ∀ item result, step item = .ok result ↔ holds item ∧ result = value item)
    {items : List α} {results : List β} :
    items.mapM step = .ok results ↔ (∀ item ∈ items, holds item) ∧ results = items.map value := by
  have values {others : List β} (ran : items.mapM step = .ok others) :
      (∀ item ∈ items, holds item) ∧ others = items.map value := by
    have made := mapM_ok ran
    clear ran
    induction made with
    | nil => exact ⟨nofun,rfl⟩
    | cons first _ ih =>
        obtain ⟨here,rfl⟩ := (each _ _).mp first
        exact ⟨List.forall_mem_cons.mpr ⟨here,ih.1⟩,by rw [ih.2,List.map_cons]⟩
  constructor
  · exact values
  · intro held
    obtain ⟨others,ran⟩ : ∃ others, items.mapM step = .ok others :=
      mapM_returns fun item listed => ⟨_,(each item _).mpr ⟨held.1 item listed,rfl⟩⟩
    rw [ran,(values ran).2,held.2]

end ParcelPilot
