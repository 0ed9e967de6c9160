import ParcelPilot.Lines
import ParcelPilot.RadarAlerts

namespace ParcelPilot

-- What an alert's id is made from. The ids are any texts but empty ones.
structure AlertInput where
  alertType : AlertType
  timeWindow : String
  version : String
  entities : List String
  filled : ∀ id ∈ entities, id ≠ ""

def AlertInput.key (input : AlertInput) : String :=
  alertKey input.alertType input.timeWindow input.version input.entities

-- The same but for the order and the repetition of the ids
structure SameInput (one two : AlertInput) : Prop where
  alertType : one.alertType = two.alertType
  timeWindow : one.timeWindow = two.timeWindow
  version : one.version = two.version
  entities : ∀ id, id ∈ one.entities ↔ id ∈ two.entities

-- An input's key is that of no other input.
def Separated (one : AlertInput) : Prop := ∀ two, one.key = two.key ↔ SameInput one two

-- No separator between the parts of the key, one id at most, and no comma in it that
-- could stand between two ids in their order.
structure Unambiguous (input : AlertInput) : Prop where
  timeWindow : '|' ∉ input.timeWindow.toList
  version : '|' ∉ input.version.toList
  entities : ∀ id ∈ input.entities, '|' ∉ id.toList
  single : ∀ id ∈ input.entities, ∀ other ∈ input.entities, id = other
  whole : ∀ id ∈ input.entities, ∀ before after, id = before ++ ("," ++ after) → before ≠ "" →
    after ≠ "" → ¬ before < after

-- No separators at all
structure Plain (input : AlertInput) : Prop where
  timeWindow : '|' ∉ input.timeWindow.toList
  version : '|' ∉ input.version.toList
  entities : ∀ id ∈ input.entities, '|' ∉ id.toList ∧ ',' ∉ id.toList

variable {one two : AlertInput}

theorem same_key (same : SameInput one two) : one.key = two.key := by
  unfold AlertInput.key
  rw [alertKey_text,alertKey_text,same.alertType,same.timeWindow,same.version,
    idsText_congr same.entities]

-- What comes behind the type in the key
def AlertInput.rest (input : AlertInput) : String :=
  input.timeWindow ++ ("|" ++ (input.version ++ ("|" ++ idsText input.entities)))

theorem key_iff : one.key = two.key ↔ one.alertType = two.alertType ∧ one.rest = two.rest := by
  have named (alertType : AlertType) : '|' ∉ alertType.value.toList := by
    cases alertType <;> decide
  have apart : one.alertType.value = two.alertType.value ↔ one.alertType = two.alertType := by
    cases one.alertType <;> cases two.alertType <;> decide
  have parts (input : AlertInput) : input.key = input.alertType.value ++ "|" ++ input.rest := by
    unfold AlertInput.key AlertInput.rest
    rw [alertKey_text]
    simp only [String.append_assoc]
  rw [parts,parts,Texts.cut (show "|".toList = ['|'] from rfl) (named _) (named _),apart]

theorem cut_first {first other x y : String} (plain : '|' ∉ first.toList)
    (same : first ++ ("|" ++ x) = other ++ ("|" ++ y)) :
    (first = other ∧ x = y) ∨ ∃ more, other = first ++ ("|" ++ more) ∧ x = more ++ ("|" ++ y) := by
  have chars : first.toList ++ '|' :: x.toList = other.toList ++ '|' :: y.toList := by
    simpa using congrArg String.toList same
  rcases List.append_eq_append_iff.mp chars with ⟨more,whole,tail⟩ | ⟨more,whole,tail⟩
  · cases more with
    | nil =>
        rw [List.append_nil] at whole
        exact .inl ⟨(String.toList_inj.mp whole).symm,String.toList_inj.mp (List.cons.inj tail).2⟩
    | cons c more =>
        obtain ⟨rfl,behind⟩ := List.cons.inj tail
        refine .inr ⟨String.ofList more,?_,?_⟩
        · rw [← String.toList_inj]
          simpa using whole
        · rw [← String.toList_inj]
          simpa using behind
  · cases more with
    | nil =>
        rw [List.append_nil] at whole
        exact .inl ⟨String.toList_inj.mp whole,(String.toList_inj.mp (List.cons.inj tail).2).symm⟩
    | cons c more =>
        obtain ⟨rfl,_⟩ := List.cons.inj tail
        rw [whole] at plain
        exact absurd (by simp) plain

theorem idsText_bar {ids : List String} (plain : ∀ id ∈ ids, '|' ∉ id.toList) :
    '|' ∉ (idsText ids).toList := by
  intro member
  rcases Py.join_mem member with comma | ⟨id,listed,inside⟩
  · exact absurd comma (by decide)
  · exact plain id (Py.mem_sortedSet.mp listed) inside

-- Without bars of its own the key is cut where the other is.
theorem rest_parts (window : '|' ∉ one.timeWindow.toList) (version : '|' ∉ one.version.toList)
    (ids : ∀ id ∈ one.entities, '|' ∉ id.toList) (same : one.rest = two.rest) :
    one.timeWindow = two.timeWindow ∧ one.version = two.version ∧
      idsText one.entities = idsText two.entities := by
  have plain := idsText_bar ids
  have no_bar {more y : String} : idsText one.entities ≠ more ++ ("|" ++ y) := by
    intro parts
    rw [parts] at plain
    exact plain (by simp)
  unfold AlertInput.rest at same
  rcases cut_first window same with ⟨first,same⟩ | ⟨more,_,same⟩
  · rcases cut_first version same with ⟨second,same⟩ | ⟨more,_,same⟩
    · exact ⟨first,second,same⟩
    · exact absurd same no_bar
  · rcases cut_first version same with ⟨_,same⟩ | ⟨_,_,same⟩
    · exact absurd same no_bar
    · exact absurd same no_bar

theorem lt_append {before part others : String} (less : before < part) : before < part ++ others := by
  rw [String.lt_iff_toList_lt,String.toList_append] at *
  exact List.Lex.append_right _ _ less

theorem idsText_whole {id : String} (whole : ∀ before after, id = before ++ ("," ++ after) →
      before ≠ "" → after ≠ "" → ¬ before < after) {others : List String}
    (filled : ∀ other ∈ others, other ≠ "") (some_ : id ≠ "") (same : id = idsText others) :
    ∀ other, other ∈ others ↔ other = id := by
  have ascending := Py.sortedSet_ascending others
  have solid : ∀ other ∈ Py.sortedSet others, other ≠ "" :=
    fun other listed => filled other (Py.mem_sortedSet.mp listed)
  unfold idsText Py.join at same
  have members (other : String) : other ∈ others ↔ other ∈ Py.sortedSet others :=
    Py.mem_sortedSet.symm
  cases sorted : Py.sortedSet others with
  | nil =>
      rw [sorted] at same
      exact absurd same some_
  | cons first rest =>
      rw [sorted] at same ascending solid
      cases rest with
      | nil =>
          rw [String.intercalate_singleton] at same
          intro other
          rw [members,sorted,List.mem_singleton,same]
      | cons second more =>
          rw [String.intercalate_cons_cons,String.append_assoc] at same
          have less : first < second := List.rel_of_pairwise_cons ascending List.mem_cons_self
          have behind : first < String.intercalate "," (second :: more) := by
            cases more with
            | nil => rwa [String.intercalate_singleton]
            | cons third others =>
                rw [String.intercalate_cons_cons,String.append_assoc]
                exact lt_append less
          refine absurd behind (whole _ _ same (solid first List.mem_cons_self) ?_)
          exact Py.join_ne_empty (by simp) fun part listed => solid part (List.mem_cons_of_mem _ listed)

theorem unambiguous_separated (unambiguous : Unambiguous one) : Separated one := by
  intro two
  refine ⟨fun same => ?_,same_key⟩
  obtain ⟨typed,rest⟩ := key_iff.mp same
  obtain ⟨window,version,ids⟩ := rest_parts unambiguous.timeWindow unambiguous.version
    unambiguous.entities rest
  refine ⟨typed,window,version,?_⟩
  cases listed : one.entities with
  | nil =>
      rw [listed] at ids
      have none : Py.sortedSet two.entities = [] := by
        by_contra some_
        exact Py.join_ne_empty some_ (fun other member => two.filled other (Py.mem_sortedSet.mp member))
          ids.symm
      intro id
      rw [← @Py.mem_sortedSet two.entities,none]
  | cons first others =>
      have member : first ∈ one.entities := by simp [listed]
      have alone : ∀ id, id ∈ one.entities ↔ id = first := by
        intro id
        constructor
        · intro another
          exact unambiguous.single id another first member
        · rintro rfl
          exact member
      have named : idsText one.entities = first := by
        rw [idsText_congr (fun id => (alone id).trans List.mem_singleton.symm),idsText_single]
      rw [named] at ids
      intro id
      rw [← listed,alone,idsText_whole (unambiguous.whole first member) two.filled
        (one.filled first member) ids]

-- Any text is the ids of one id, or of none.
def idsOf (text : String) : List String := if text = "" then [] else [text]

theorem idsOf_filled (text : String) : ∀ id ∈ idsOf text, id ≠ "" := by
  intro id listed
  unfold idsOf at listed
  split at listed
  · cases listed
  · rename_i some_
    rwa [List.mem_singleton.mp listed]

theorem idsText_idsOf (text : String) : idsText (idsOf text) = text := by
  unfold idsOf
  split
  · rename_i none
    rw [none]
    rfl
  · exact idsText_single text

theorem bar_parts {text : String} (member : '|' ∈ text.toList) :
    ∃ before after, text = before ++ ("|" ++ after) := by
  obtain ⟨before,after,parts⟩ := List.append_of_mem member
  refine ⟨String.ofList before,String.ofList after,?_⟩
  rw [← String.toList_inj,parts]
  simp

theorem bar_longer (before after : String) : before ++ ("|" ++ after) ≠ before := by
  intro same
  have none : "|" ++ after = "" := String.append_eq_left_iff.mp same
  simp at none

theorem separated_parts (separated : Separated one) {window version ids : String}
    (cut : one.rest = window ++ ("|" ++ (version ++ ("|" ++ ids)))) :
    one.timeWindow = window ∧ one.version = version ∧ ∀ id, id ∈ one.entities ↔ id ∈ idsOf ids := by
  have same := (separated ⟨one.alertType,window,version,idsOf ids,idsOf_filled ids⟩).mp <| by
    refine key_iff.mpr ⟨rfl,?_⟩
    rw [cut]
    unfold AlertInput.rest
    rw [idsText_idsOf]
  exact ⟨same.timeWindow,same.version,same.entities⟩

theorem separated_unambiguous (separated : Separated one) : Unambiguous one := by
  have alone : ∀ id, id ∈ one.entities ↔ id ∈ idsOf (idsText one.entities) :=
    (separated_parts separated rfl).2.2
  have single : ∀ id ∈ one.entities, id = idsText one.entities := by
    intro id listed
    have member := (alone id).mp listed
    unfold idsOf at member
    split at member
    · cases member
    · exact List.mem_singleton.mp member
  refine ⟨?_,?_,?_,?_,?_⟩
  · intro bar
    obtain ⟨before,after,parts⟩ := bar_parts bar
    have cut : one.rest = before ++ ("|" ++ (after ++ ("|" ++ (one.version ++ ("|" ++ idsText one.entities))))) := by
      rw [AlertInput.rest,parts]
      simp only [String.append_assoc]
    rw [(separated_parts separated cut).1] at parts
    exact bar_longer before after parts.symm
  · intro bar
    obtain ⟨before,after,parts⟩ := bar_parts bar
    have cut : one.rest =
        one.timeWindow ++ ("|" ++ (before ++ ("|" ++ (after ++ ("|" ++ idsText one.entities))))) := by
      rw [AlertInput.rest,parts]
      simp only [String.append_assoc]
    rw [(separated_parts separated cut).2.1] at parts
    exact bar_longer before after parts.symm
  · intro id listed bar
    obtain ⟨before,after,parts⟩ := bar_parts bar
    have cut : one.rest =
        (one.timeWindow ++ ("|" ++ one.version)) ++ ("|" ++ (before ++ ("|" ++ after))) := by
      rw [AlertInput.rest,← single id listed,parts]
      simp only [String.append_assoc]
    exact bar_longer one.timeWindow one.version (separated_parts separated cut).1.symm
  · intro id listed other another
    rw [single id listed,single other another]
  · intro id listed before after parts left right less
    have filled : ∀ part ∈ [before,after], part ≠ "" := by
      intro part member
      simp only [List.mem_cons,List.not_mem_nil,or_false] at member
      rcases member with rfl | rfl
      · exact left
      · exact right
    have text : idsText [before,after] = idsText one.entities := by
      have ascending : [before,after].Pairwise (· ≤ ·) := by simpa using less.le
      have sorted : Py.sortedSet [before,after] = [before,after] := by
        rw [Py.sortedSet,List.Nodup.dedup (by simpa using less.ne),ascending.insertionSort_eq]
      rw [← single id listed,parts,idsText,sorted]
      simp [Py.join,String.append_assoc]
    have same := (separated ⟨one.alertType,one.timeWindow,one.version,[before,after],filled⟩).mp <| by
      refine key_iff.mpr ⟨rfl,?_⟩
      unfold AlertInput.rest
      rw [text]
    have first := (same.entities before).mpr List.mem_cons_self
    have whole := (single before first).trans (single id listed).symm
    rw [parts] at whole
    have nothing : "," ++ after = "" := String.append_eq_left_iff.mp whole.symm
    simp at nothing

-- An input is told from every other exactly when it is unambiguous, and inputs
-- without separators from each other.
theorem fingerprint_separates_iff (one : AlertInput) :
    (Separated one ↔ Unambiguous one) ∧
      ∀ two, Plain one → Plain two → (one.key = two.key ↔ SameInput one two) := by
  refine ⟨⟨separated_unambiguous,unambiguous_separated⟩,?_⟩
  intro two plain other
  refine ⟨fun same => ?_,same_key⟩
  obtain ⟨typed,rest⟩ := key_iff.mp same
  obtain ⟨window,version,ids⟩ := rest_parts plain.timeWindow plain.version
    (fun id listed => (plain.entities id listed).1) rest
  have clean {input : AlertInput} (plain : Plain input) :
      ∀ id ∈ Py.sortedSet input.entities, id ≠ "" ∧ ',' ∉ id.toList := by
    intro id listed
    have member := Py.mem_sortedSet.mp listed
    exact ⟨input.filled id member,(plain.entities id member).2⟩
  have sorted : Py.sortedSet one.entities = Py.sortedSet two.entities :=
    Py.join_lines_inj rfl (clean plain) (clean other) ids
  refine ⟨typed,window,version,fun id => ?_⟩
  rw [← @Py.mem_sortedSet one.entities,sorted,Py.mem_sortedSet]

-- Two tickets, and one whose id is both of theirs.
def twoTickets : AlertInput := ⟨.recurringIssue,"30d","v1",["TKT-2","TKT-1"],by decide⟩

def joinedTicket : AlertInput := ⟨.recurringIssue,"30d","v1",["TKT-1,TKT-2"],by decide⟩

def repeatedTickets : AlertInput := ⟨.recurringIssue,"30d","v1",["TKT-1","TKT-2","TKT-1"],by decide⟩

theorem fingerprint_separates_tickets :
    (Separated joinedTicket ↔ Unambiguous joinedTicket) ∧
      (twoTickets.key = repeatedTickets.key ↔ SameInput twoTickets repeatedTickets) := by
  have plain : Plain twoTickets := ⟨by decide,by decide,by decide⟩
  have other : Plain repeatedTickets := ⟨by decide,by decide,by decide⟩
  exact ⟨(fingerprint_separates_iff joinedTicket).1,
    (fingerprint_separates_iff twoTickets).2 repeatedTickets plain other⟩

theorem tickets_collide : ¬ (twoTickets.key = joinedTicket.key ↔ SameInput twoTickets joinedTicket) := by
  intro law
  have same := (law.mp (by decide +kernel)).entities "TKT-1"
  exact absurd (same.mp (by decide)) (by decide)

end ParcelPilot
