import Mathlib.Data.List.Sort

namespace ParcelPilot

-- A table in stored order with a primary key. A row with a key already present
-- cannot be added, so no lemma below assumes uniqueness.
structure Table {ρ κ : Type} (key : ρ → κ) where
  rows : List ρ
  unique : (rows.map key).Nodup

namespace Table

variable {ρ κ : Type} {key : ρ → κ}

def empty : Table key := ⟨[],List.nodup_nil⟩

theorem same_row (table : Table key) {one two : ρ} (here : one ∈ table.rows)
    (there : two ∈ table.rows) (same : key one = key two) : one = two :=
  List.inj_on_of_nodup_map table.unique here there same

theorem rows_nodup (table : Table key) : table.rows.Nodup := List.Nodup.of_map key table.unique

section Lookup

variable [DecidableEq κ]

def row (table : Table key) (wanted : κ) : Option ρ :=
  table.rows.find? (fun candidate => key candidate = wanted)

theorem row_eq_some {table : Table key} {wanted : κ} {found : ρ} :
    table.row wanted = some found ↔ found ∈ table.rows ∧ key found = wanted := by
  constructor
  · intro hit
    exact ⟨List.mem_of_find?_eq_some hit,by simpa using List.find?_some hit⟩
  · rintro ⟨member,rfl⟩
    cases hit : table.row (key found) with
    | none =>
        have absent := List.find?_eq_none.mp hit found member
        simp at absent
    | some other =>
        have same : key other = key found := by simpa using List.find?_some hit
        rw [table.same_row (List.mem_of_find?_eq_some hit) member same]

theorem row_eq_none {table : Table key} {wanted : κ} :
    table.row wanted = none ↔ ∀ candidate ∈ table.rows, key candidate ≠ wanted := by
  simp [row,List.find?_eq_none]

theorem row_key {table : Table key} {wanted : κ} {found : ρ}
    (hit : table.row wanted = some found) : key found = wanted := (row_eq_some.mp hit).2

theorem row_congr {one two : Table key} {wanted : κ}
    (same : ∀ candidate, key candidate = wanted → (candidate ∈ one.rows ↔ candidate ∈ two.rows)) :
    one.row wanted = two.row wanted := by
  ext found
  rw [row_eq_some,row_eq_some]
  constructor <;> rintro ⟨member,rfl⟩
  · exact ⟨(same found rfl).mp member,rfl⟩
  · exact ⟨(same found rfl).mpr member,rfl⟩

-- INSERT under the primary key: refused when the key is taken.
def insert (table : Table key) (fresh : ρ) : Option (Table key) :=
  if absent : table.row (key fresh) = none then
    some ⟨table.rows ++ [fresh],by
      rw [List.map_append,List.nodup_append]
      refine ⟨table.unique,by simp,?_⟩
      intro a present b last equal
      obtain ⟨candidate,member,rfl⟩ := List.mem_map.mp present
      simp only [List.map_cons,List.map_nil,List.mem_singleton] at last
      exact row_eq_none.mp absent candidate member (equal.trans last)⟩
  else none

theorem insert_row {table after : Table key} {fresh : ρ} (inserted : table.insert fresh = some after)
    (wanted : κ) :
    after.row wanted = if key fresh = wanted then some fresh else table.row wanted := by
  unfold insert at inserted
  split at inserted
  · rename_i absent
    cases Option.some.inj inserted
    unfold row
    rw [List.find?_append]
    by_cases here : key fresh = wanted
    · subst here
      have missing : table.rows.find? (fun candidate => key candidate = key fresh) = none := absent
      simp [missing]
    · simp [here]
  · cases inserted

theorem insert_rows {table after : Table key} {fresh : ρ}
    (inserted : table.insert fresh = some after) : after.rows = table.rows ++ [fresh] := by
  unfold insert at inserted
  split at inserted
  · cases Option.some.inj inserted
    rfl
  · cases inserted

theorem insert_fresh {table after : Table key} {fresh : ρ}
    (inserted : table.insert fresh = some after) : table.row (key fresh) = none := by
  unfold insert at inserted
  split at inserted
  · assumption
  · cases inserted

theorem insert_of_fresh {table : Table key} {fresh : ρ} (absent : table.row (key fresh) = none) :
    ∃ after, table.insert fresh = some after := by simp [insert,absent]

-- UPDATE ... WHERE: a change that leaves the key alone.
def update (table : Table key) (chosen : ρ → Bool) (change : ρ → ρ)
    (keeps : ∀ row, key (change row) = key row) : Table key :=
  ⟨table.rows.map (fun row => if chosen row then change row else row),by
    have same : (table.rows.map (fun row => if chosen row then change row else row)).map key =
        table.rows.map key := by
      rw [List.map_map]
      refine List.map_congr_left fun row _ => ?_
      by_cases picked : chosen row = true <;> simp [picked,keeps]
    rw [same]
    exact table.unique⟩

theorem update_row (table : Table key) (chosen : ρ → Bool) (change : ρ → ρ)
    (keeps : ∀ row, key (change row) = key row) (wanted : κ) :
    (table.update chosen change keeps).row wanted =
      (table.row wanted).map (fun row => if chosen row then change row else row) := by
  unfold row update
  rw [List.find?_map]
  congr 2
  funext row
  by_cases picked : chosen row = true <;> simp [picked,keeps]

end Lookup

section Listing

variable [LinearOrder κ]

-- SELECT ... WHERE ... ORDER BY key
def listing (table : Table key) (chosen : ρ → Bool) : List ρ :=
  (table.rows.filter chosen).insertionSort (fun one two => key one ≤ key two)

theorem mem_listing {table : Table key} {chosen : ρ → Bool} {row : ρ} :
    row ∈ table.listing chosen ↔ row ∈ table.rows ∧ chosen row = true := by
  rw [listing,List.mem_insertionSort,List.mem_filter]

theorem listing_keys_nodup (table : Table key) (chosen : ρ → Bool) :
    ((table.listing chosen).map key).Nodup := by
  have sorted := List.perm_insertionSort (fun one two => key one ≤ key two) (table.rows.filter chosen)
  exact (sorted.map key).nodup_iff.mpr (table.unique.sublist (List.filter_sublist.map key))

theorem listing_congr {one two : Table key} {chosen : ρ → Bool}
    (same : ∀ row, chosen row = true → (row ∈ one.rows ↔ row ∈ two.rows)) :
    one.listing chosen = two.listing chosen := by
  let le : ρ → ρ → Prop := fun one two => key one ≤ key two
  have : Std.Total le := ⟨fun a b => le_total (key a) (key b)⟩
  have : IsTrans ρ le := ⟨fun _ _ _ ab bc => le_trans ab bc⟩
  have permuted : (one.listing chosen).Perm (two.listing chosen) := by
    refine (List.perm_insertionSort le _).trans (List.Perm.trans ?_ (List.perm_insertionSort le _).symm)
    refine (List.perm_ext_iff_of_nodup (one.rows_nodup.filter _) (two.rows_nodup.filter _)).mpr ?_
    intro row
    simp only [List.mem_filter]
    exact ⟨fun h => ⟨(same row h.2).mp h.1,h.2⟩,fun h => ⟨(same row h.2).mpr h.1,h.2⟩⟩
  refine List.Perm.eq_of_pairwise ?_ (List.pairwise_insertionSort le _) (List.pairwise_insertionSort le _) permuted
  intro a b left right ab ba
  have inOne : b ∈ one.rows := (mem_listing.mp (permuted.mem_iff.mpr right)).1
  exact one.same_row (mem_listing.mp left).1 inOne (le_antisymm ab ba)

end Listing

end Table

end ParcelPilot
