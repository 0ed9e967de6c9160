import Mathlib.Data.List.Dedup
import Mathlib.Data.List.Induction
import ParcelPilot.Runtime

namespace ParcelPilot
namespace Py

section Values

variable {κ ν : Type} [DecidableEq κ]

-- `d[key(item)] = item` for each item in turn: the last item of a key stays.
def keyed (key : ν → κ) (items : List ν) : List (κ × ν) :=
  items.foldl (fun dict item => dictSet dict (key item) item) []

theorem dictSet_keys (dict : List (κ × ν)) (key wanted : κ) (value : ν) :
    wanted ∈ (dictSet dict key value).map (·.1) ↔ wanted = key ∨ wanted ∈ dict.map (·.1) := by
  induction dict with
  | nil => simp [dictSet]
  | cons entry rest ih =>
      obtain ⟨k,v⟩ := entry
      unfold dictSet
      by_cases same : k = key
      · simp [same]
      · simp only [same,if_false,List.map_cons,List.mem_cons,ih]
        exact or_left_comm

theorem dictSet_nodup {dict : List (κ × ν)} (distinct : (dict.map (·.1)).Nodup) (key : κ) (value : ν) :
    ((dictSet dict key value).map (·.1)).Nodup := by
  induction dict with
  | nil => simp [dictSet]
  | cons entry rest ih =>
      obtain ⟨k,v⟩ := entry
      unfold dictSet
      by_cases same : k = key
      · rw [if_pos same]
        exact distinct
      · rw [List.map_cons,List.nodup_cons] at distinct
        rw [if_neg same,List.map_cons,List.nodup_cons,dictSet_keys,not_or]
        exact ⟨⟨same,distinct.1⟩,ih distinct.2⟩

theorem dictGet_set (dict : List (κ × ν)) (key wanted : κ) (value : ν) :
    dictGet (dictSet dict key value) wanted = if key = wanted then some value else dictGet dict wanted := by
  induction dict with
  | nil => by_cases same : key = wanted <;> simp [dictSet,dictGet,same]
  | cons entry rest ih =>
      obtain ⟨k,v⟩ := entry
      unfold dictSet
      by_cases here : k = key
      · subst here
        by_cases same : k = wanted <;> simp [dictGet,same]
      · by_cases same : k = wanted
        · subst same
          simp [dictGet,here,Ne.symm here]
        · simpa [dictGet,here,same] using ih

theorem dictGet_some {dict : List (κ × ν)} (distinct : (dict.map (·.1)).Nodup) {key : κ} {value : ν} :
    dictGet dict key = some value ↔ (key,value) ∈ dict := by
  induction dict with
  | nil => simp [dictGet]
  | cons entry rest ih =>
      obtain ⟨k,v⟩ := entry
      rw [List.map_cons,List.nodup_cons] at distinct
      by_cases same : k = key
      · subst same
        have absent : (k,value) ∉ rest := fun member =>
          distinct.1 (List.mem_map.mpr ⟨(k,value),member,rfl⟩)
        simp only [dictGet,List.find?_cons_of_pos,decide_true,Option.map_some,Option.some.injEq,
          List.mem_cons,Prod.mk.injEq,true_and,absent,or_false]
        exact eq_comm
      · have other : (key,value) ≠ (k,v) := fun equal => same (Prod.mk.inj equal).1.symm
        simpa [dictGet,same,other] using ih distinct.2

theorem dictSet_fresh {dict : List (κ × ν)} {key : κ} (fresh : key ∉ dict.map (·.1)) (value : ν) :
    dictSet dict key value = dict ++ [(key,value)] := by
  induction dict with
  | nil => rfl
  | cons entry rest ih =>
      rw [List.map_cons,List.mem_cons,not_or] at fresh
      rw [dictSet,if_neg fun same => fresh.1 same.symm,ih fresh.2,List.cons_append]

-- `d[key] = value` for each pair in turn.
def dictOf (pairs : List (κ × ν)) : List (κ × ν) :=
  pairs.foldl (fun dict pair => dictSet dict pair.1 pair.2) []

theorem dictOf_append (pairs : List (κ × ν)) (last : κ × ν) :
    dictOf (pairs ++ [last]) = dictSet (dictOf pairs) last.1 last.2 := by
  simp [dictOf]

theorem dictOf_keys {pairs : List (κ × ν)} {wanted : κ} :
    wanted ∈ (dictOf pairs).map (·.1) ↔ wanted ∈ pairs.map (·.1) := by
  induction pairs using List.reverseRecOn with
  | nil => rfl
  | append_singleton pairs last ih =>
      rw [dictOf_append,dictSet_keys,ih,List.map_append,List.mem_append,or_comm]
      simp

theorem dictOf_nodup (pairs : List (κ × ν)) : ((dictOf pairs).map (·.1)).Nodup := by
  induction pairs using List.reverseRecOn with
  | nil => exact List.nodup_nil
  | append_singleton pairs last ih =>
      rw [dictOf_append]
      exact dictSet_nodup ih _ _

theorem dictOf_distinct {pairs : List (κ × ν)} (distinct : (pairs.map (·.1)).Nodup) :
    dictOf pairs = pairs := by
  induction pairs using List.reverseRecOn with
  | nil => rfl
  | append_singleton pairs last ih =>
      rw [List.map_append,List.nodup_append] at distinct
      rw [dictOf_append,ih distinct.1]
      apply dictSet_fresh
      intro listed
      exact distinct.2.2 _ listed _ (by simp) rfl

theorem dictOf_length (pairs : List (κ × ν)) :
    (dictOf pairs).length = (pairs.map (·.1)).dedup.length := by
  have permuted : ((dictOf pairs).map (·.1)).Perm (pairs.map (·.1)).dedup := by
    rw [List.perm_ext_iff_of_nodup (dictOf_nodup pairs) (List.nodup_dedup _)]
    intro key
    rw [dictOf_keys,List.mem_dedup]
  rw [← permuted.length_eq,List.length_map]

theorem dictOf_length_le (pairs : List (κ × ν)) : (dictOf pairs).length ≤ pairs.length := by
  have shorter := (List.dedup_sublist (pairs.map (·.1))).length_le
  rwa [← dictOf_length,List.length_map] at shorter

theorem dictOf_full {pairs : List (κ × ν)} (full : (dictOf pairs).length = pairs.length) :
    (pairs.map (·.1)).Nodup := by
  have same : (pairs.map (·.1)).dedup = pairs.map (·.1) := by
    apply (List.dedup_sublist _).eq_of_length
    rw [← dictOf_length,full,List.length_map]
  rw [← same]
  exact List.nodup_dedup _

theorem keyed_append (key : ν → κ) (items : List ν) (last : ν) :
    keyed key (items ++ [last]) = dictSet (keyed key items) (key last) last := by
  simp [keyed]

theorem keyed_nodup (key : ν → κ) (items : List ν) : ((keyed key items).map (·.1)).Nodup := by
  induction items using List.reverseRecOn with
  | nil => exact List.nodup_nil
  | append_singleton items last ih =>
      rw [keyed_append]
      exact dictSet_nodup ih _ _

theorem keyed_get (key : ν → κ) (items : List ν) (wanted : κ) :
    dictGet (keyed key items) wanted = (items.filter (key · = wanted)).getLast? := by
  induction items using List.reverseRecOn with
  | nil => rfl
  | append_singleton items last ih =>
      rw [keyed_append,dictGet_set,ih,List.filter_append]
      by_cases same : key last = wanted <;> simp [same]

theorem mem_keyed (key : ν → κ) (items : List ν) (wanted : κ) (value : ν) :
    (wanted,value) ∈ keyed key items ↔ (items.filter (key · = wanted)).getLast? = some value := by
  rw [← dictGet_some (keyed_nodup key items),keyed_get]

theorem keyed_key {key : ν → κ} {items : List ν} {wanted : κ} {value : ν}
    (entry : (wanted,value) ∈ keyed key items) : value ∈ items ∧ key value = wanted := by
  have last := List.mem_of_getLast? ((mem_keyed key items wanted value).mp entry)
  rw [List.mem_filter] at last
  exact ⟨last.1,by simpa using last.2⟩

end Values

section Groups

variable {κ ν : Type} [DecidableEq κ]

-- `d.setdefault(key(item), []).append(item)` for each item in turn
def grouped (key : ν → κ) (items : List ν) : List (κ × List ν) :=
  items.foldl (fun dict item => dictAppend dict (key item) item) []

theorem dictAppend_set (dict : List (κ × List ν)) (key : κ) (value : ν) :
    dictAppend dict key value = dictSet dict key ((dictGet dict key).getD [] ++ [value]) := by
  induction dict with
  | nil => rfl
  | cons entry rest ih =>
      obtain ⟨k,vs⟩ := entry
      unfold dictAppend dictSet
      by_cases same : k = key
      · simp [dictGet,same]
      · simpa [dictGet,same] using ih

theorem grouped_append (key : ν → κ) (items : List ν) (last : ν) :
    grouped key (items ++ [last]) = dictAppend (grouped key items) (key last) last := by
  simp [grouped]

theorem grouped_nodup (key : ν → κ) (items : List ν) : ((grouped key items).map (·.1)).Nodup := by
  induction items using List.reverseRecOn with
  | nil => exact List.nodup_nil
  | append_singleton items last ih =>
      rw [grouped_append,dictAppend_set]
      exact dictSet_nodup ih _ _

theorem grouped_get (key : ν → κ) (items : List ν) (wanted : κ) :
    dictGet (grouped key items) wanted =
      if items.filter (key · = wanted) = [] then none else some (items.filter (key · = wanted)) := by
  induction items using List.reverseRecOn with
  | nil => rfl
  | append_singleton items last ih =>
      rw [grouped_append,dictAppend_set,dictGet_set,List.filter_append]
      by_cases same : key last = wanted
      · rw [same,ih]
        by_cases first : items.filter (key · = wanted) = [] <;> simp [same,first]
      · simp [same,ih]

theorem mem_grouped (key : ν → κ) (items : List ν) (wanted : κ) (group : List ν) :
    (wanted,group) ∈ grouped key items ↔ group = items.filter (key · = wanted) ∧ group ≠ [] := by
  rw [← dictGet_some (grouped_nodup key items),grouped_get]
  split
  · rename_i none
    simp only [none,reduceCtorEq,false_iff,not_and,not_not]
    exact id
  · rename_i some
    simp only [Option.some.injEq]
    constructor
    · rintro rfl
      exact ⟨rfl,some⟩
    · rintro ⟨rfl,_⟩
      rfl

theorem dictAppend_values {μ : Type} (value : ν → μ) (dict : List (κ × List ν)) (key : κ) (item : ν) :
    dictAppend (dict.map fun group => (group.1,group.2.map value)) key (value item) =
      (dictAppend dict key item).map fun group => (group.1,group.2.map value) := by
  induction dict with
  | nil => rfl
  | cons entry rest ih =>
      obtain ⟨k,vs⟩ := entry
      rw [List.map_cons]
      unfold dictAppend
      by_cases same : k = key
      · simp [same]
      · simp [same,ih]

-- A dict filled with part of each item is the dict of the items cut down to it.
theorem foldl_dictAppend {μ : Type} (key : ν → κ) (value : ν → μ) (items : List ν) :
    items.foldl (fun dict item => dictAppend dict (key item) (value item)) [] =
      (grouped key items).map fun group => (group.1,group.2.map value) := by
  induction items using List.reverseRecOn with
  | nil => rfl
  | append_singleton items last ih =>
      rw [List.foldl_append,ih,grouped_append]
      exact dictAppend_values value _ _ _

theorem grouped_keys (key : ν → κ) (items : List ν) (wanted : κ) :
    wanted ∈ (grouped key items).map (·.1) ↔ ∃ item ∈ items, key item = wanted := by
  rw [List.mem_map]
  constructor
  · rintro ⟨⟨_,group⟩,member,rfl⟩
    obtain ⟨rfl,some⟩ := (mem_grouped _ _ _ _).mp member
    obtain ⟨item,first⟩ := List.exists_mem_of_ne_nil _ some
    obtain ⟨stored,same⟩ := List.mem_filter.mp first
    exact ⟨item,stored,of_decide_eq_true same⟩
  · rintro ⟨item,stored,rfl⟩
    have first : item ∈ items.filter (key · = key item) := List.mem_filter.mpr ⟨stored,by simp⟩
    exact ⟨(key item,_),(mem_grouped _ _ _ _).mpr ⟨rfl,List.ne_nil_of_mem first⟩,rfl⟩

end Groups

theorem getLast?_copies {α β : Type} {pieces : α → List β} {copy : List β} {items : List α} {last : β}
    (each : ∀ item ∈ items, pieces item = [] ∨ pieces item = copy) :
    (items.flatMap pieces).getLast? = some last ↔
      copy.getLast? = some last ∧ ∃ item ∈ items, pieces item = copy := by
  induction items using List.reverseRecOn with
  | nil => simp
  | append_singleton items item ih =>
      have others := ih fun other member => each other (List.mem_append_left _ member)
      rw [List.flatMap_append,List.flatMap_singleton,List.getLast?_append]
      rcases each item (by simp) with none | one
      · rw [none,List.getLast?_nil,Option.none_or,others]
        refine and_congr_right fun ends => ⟨?_,?_⟩
        · rintro ⟨other,member,same⟩
          exact ⟨other,List.mem_append_left _ member,same⟩
        · rintro ⟨other,member,same⟩
          rcases List.mem_append.mp member with before | here
          · exact ⟨other,before,same⟩
          · cases List.mem_singleton.mp here
            rw [← same,none] at ends
            cases ends
      · rw [one]
        constructor
        · intro ends
          refine ⟨?_,item,by simp,one⟩
          cases found : copy.getLast? with
          | none =>
              rw [List.getLast?_eq_none_iff] at found
              subst found
              rw [List.getLast?_nil,Option.none_or,others] at ends
              exact ends.1
          | some _ => simpa [found] using ends
        · rintro ⟨ends,_⟩
          rw [ends]
          rfl

theorem sortedSet_congr {one two : List String} (same : ∀ item, item ∈ one ↔ item ∈ two) :
    sortedSet one = sortedSet two := by
  have permuted : one.dedup.Perm two.dedup := by
    rw [List.perm_ext_iff_of_nodup (List.nodup_dedup one) (List.nodup_dedup two)]
    simpa only [List.mem_dedup] using same
  refine List.Perm.eq_of_pairwise (fun _ _ _ _ => le_antisymm)
    (List.pairwise_insertionSort (· ≤ ·) one.dedup) (List.pairwise_insertionSort (· ≤ ·) two.dedup) ?_
  exact (List.perm_insertionSort _ _).trans (permuted.trans (List.perm_insertionSort _ _).symm)

theorem mem_sortedSet {items : List String} {item : String} :
    item ∈ sortedSet items ↔ item ∈ items := by
  rw [sortedSet,List.mem_insertionSort,List.mem_dedup]

theorem sortedSet_ascending (items : List String) : (sortedSet items).Pairwise (· < ·) := by
  have distinct : (sortedSet items).Nodup :=
    (List.perm_insertionSort _ _).nodup_iff.mpr items.nodup_dedup
  refine (List.pairwise_insertionSort (· ≤ ·) items.dedup).imp₂ ?_ distinct
  intro one two before apart
  exact lt_of_le_of_ne before apart

theorem sorted_set {one two : List String} (distinct : one.Nodup)
    (same : ∀ item, item ∈ one ↔ item ∈ two) : one.insertionSort (· ≤ ·) = sortedSet two := by
  rw [← sortedSet_congr same,sortedSet,distinct.dedup]

theorem mem_sorted {items : List String} {item : String} : item ∈ sorted items ↔ item ∈ items :=
  List.mem_insertionSort _

section FirstOccurrences

variable {κ ν : Type} [DecidableEq κ] {key : ν → κ} {seen : List κ} {items : List ν} {item : ν}

theorem mem_firstOccurrences : item ∈ firstOccurrences key seen items ↔
    key item ∉ seen ∧ ∃ before after, items = before ++ item :: after ∧
      ∀ earlier ∈ before, key earlier ≠ key item := by
  induction items generalizing seen with
  | nil => simp [firstOccurrences]
  | cons head rest ih =>
      have parts : (∃ before after, head :: rest = before ++ item :: after ∧
            ∀ earlier ∈ before, key earlier ≠ key item) ↔
          head = item ∨ (key head ≠ key item ∧ ∃ before after, rest = before ++ item :: after ∧
            ∀ earlier ∈ before, key earlier ≠ key item) := by
        constructor
        · intro found
          obtain ⟨before,after,split_,apart⟩ := found
          rcases List.cons_eq_append_iff.mp split_ with ⟨_,same⟩ | ⟨more,rfl,tail⟩
          · exact .inl (List.cons.inj same).1.symm
          · exact .inr ⟨apart head (by simp),more,after,tail,fun earlier member =>
              apart earlier (List.mem_cons_of_mem _ member)⟩
        · intro found
          rcases found with rfl | ⟨other,before,after,rfl,apart⟩
          · exact ⟨[],rest,rfl,by simp⟩
          · exact ⟨head :: before,after,rfl,by simpa [other] using apart⟩
      rw [parts]
      unfold firstOccurrences
      split
      · rename_i already
        rw [ih]
        constructor
        · intro kept
          refine ⟨kept.1,.inr ⟨?_,kept.2⟩⟩
          intro same
          rw [same] at already
          exact kept.1 already
        · intro kept
          rcases kept.2 with same | later
          · rw [same] at already
            exact absurd already kept.1
          · exact ⟨kept.1,later.2⟩
      · rename_i fresh
        rw [List.mem_cons,ih,List.mem_cons,not_or]
        constructor
        · intro kept
          rcases kept with same | kept
          · rw [same]
            exact ⟨fresh,.inl rfl⟩
          · exact ⟨kept.1.2,.inr ⟨Ne.symm kept.1.1,kept.2⟩⟩
        · intro kept
          rcases kept.2 with same | later
          · exact .inl same.symm
          · exact .inr ⟨⟨Ne.symm later.1,kept.1⟩,later.2⟩

theorem firstOccurrences_mem (kept : item ∈ firstOccurrences key seen items) : item ∈ items := by
  obtain ⟨_,before,after,rfl,_⟩ := mem_firstOccurrences.mp kept
  simp

theorem firstOccurrences_keys [BEq κ] [LawfulBEq κ] : (firstOccurrences key seen items).map key =
    ((items.map key).filter (· ∉ seen)).eraseDups := by
  induction items generalizing seen with
  | nil => simp [firstOccurrences]
  | cons item rest ih =>
      unfold firstOccurrences
      split
      · rename_i already
        simp [ih,already]
      · rename_i fresh
        rw [List.map_cons,ih,List.map_cons,List.filter_cons_of_pos (by simpa using fresh),
          List.eraseDups_cons,List.filter_filter]
        congr 3
        funext other
        by_cases same : other = key item <;> simp [same]

theorem firstOccurrences_covers (key : ν → κ) (unseen : key item ∉ seen) (member : item ∈ items) :
    ∃ kept ∈ firstOccurrences key seen items, key kept = key item := by
  have listed : key item ∈ (firstOccurrences key seen items).map key := by
    rw [firstOccurrences_keys,List.mem_eraseDups,List.mem_filter]
    exact ⟨List.mem_map_of_mem member,by simpa using unseen⟩
  exact List.mem_map.mp listed

theorem firstOccurrences_nodup (key : ν → κ) (seen : List κ) (items : List ν) :
    ((firstOccurrences key seen items).map key).Nodup := by
  induction items generalizing seen with
  | nil => simp [firstOccurrences]
  | cons item rest ih =>
      unfold firstOccurrences
      split
      · exact ih seen
      · rw [List.map_cons,List.nodup_cons]
        refine ⟨fun again => ?_,ih (key item :: seen)⟩
        obtain ⟨other,later,same⟩ := List.mem_map.mp again
        exact (mem_firstOccurrences.mp later).1 (by simp [same])

end FirstOccurrences

end Py
end ParcelPilot
