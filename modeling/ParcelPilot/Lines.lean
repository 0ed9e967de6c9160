import Mathlib.Data.List.Infix
import Mathlib.Data.List.TakeWhile
import ParcelPilot.Formats

namespace ParcelPilot
namespace Py

-- Texts as they are stripped, cut into lines and joined.
section Blanks

variable [Host] {text : List Char} {c : Char}

def AllBlank (text : List Char) : Prop := ∀ c ∈ text, Host.isSpace c = true

theorem lstrip_append (text : List Char) :
    text = text.takeWhile Host.isSpace ++ lstrip text := List.takeWhile_append_dropWhile.symm

theorem takeWhile_blank (text : List Char) : AllBlank (text.takeWhile Host.isSpace) := by
  intro c member
  exact List.mem_takeWhile_imp member

theorem lstrip_head {rest : List Char} (left : lstrip text = c :: rest) : Host.isSpace c = false := by
  have first := List.head?_dropWhile_not Host.isSpace text
  rw [show List.dropWhile Host.isSpace text = c :: rest from left] at first
  exact first

theorem lstrip_blanks {blanks : List Char} (blank : AllBlank blanks) :
    lstrip (blanks ++ text) = lstrip text := List.dropWhile_append_of_pos blank

theorem lstrip_solid {rest : List Char} (solid : Host.isSpace c = false) :
    lstrip (c :: rest) = c :: rest := List.dropWhile_cons_of_neg (by simp [solid])

theorem lstrip_stripped (text : List Char) :
    ∃ right, AllBlank right ∧ lstrip text = stripped text ++ right := by
  refine ⟨((lstrip text).reverse.takeWhile Host.isSpace).reverse,?_,?_⟩
  · intro c member
    exact takeWhile_blank _ c (List.mem_reverse.mp member)
  · have back := congrArg List.reverse (lstrip_append (lstrip text).reverse)
    rwa [List.reverse_reverse,List.reverse_append] at back

theorem stripped_parts (text : List Char) :
    ∃ left right, AllBlank left ∧ AllBlank right ∧ text = left ++ stripped text ++ right := by
  obtain ⟨right,blank,whole⟩ := lstrip_stripped text
  refine ⟨text.takeWhile Host.isSpace,right,takeWhile_blank text,blank,?_⟩
  rw [List.append_assoc,← whole]
  exact lstrip_append text

theorem stripped_first {rest : List Char} (kept : stripped text = c :: rest) :
    Host.isSpace c = false := by
  obtain ⟨right,_,whole⟩ := lstrip_stripped text
  rw [kept,List.cons_append] at whole
  exact lstrip_head whole

theorem stripped_last {before : List Char} (kept : stripped text = before ++ [c]) :
    Host.isSpace c = false := by
  unfold stripped at kept
  have turned := congrArg List.reverse kept
  rw [List.reverse_reverse,List.reverse_append,List.reverse_singleton,List.singleton_append] at turned
  exact lstrip_head turned

-- A text that starts with no blank is only stripped behind, and the other way round.
theorem stripped_behind {rest : List Char} (solid : Host.isSpace c = false) :
    ∃ right, AllBlank right ∧ c :: rest = stripped (c :: rest) ++ right := by
  obtain ⟨left,right,before,behind,whole⟩ := stripped_parts (c :: rest)
  cases left with
  | nil => exact ⟨right,behind,whole⟩
  | cons first others =>
      have blank := before first List.mem_cons_self
      rw [List.cons_append,List.cons_append] at whole
      rw [← (List.cons.inj whole).1,solid] at blank
      cases blank

theorem stripped_before {front : List Char} (solid : Host.isSpace c = false) :
    ∃ left, AllBlank left ∧ front ++ [c] = left ++ stripped (front ++ [c]) := by
  obtain ⟨left,right,before,behind,whole⟩ := stripped_parts (front ++ [c])
  rcases List.eq_nil_or_concat' right with rfl | ⟨others,last,rfl⟩
  · rw [List.append_nil] at whole
    exact ⟨left,before,whole⟩
  · have blank := behind last (by simp)
    rw [← List.append_assoc] at whole
    rw [← List.singleton_inj.mp (List.append_inj_right' whole rfl),solid] at blank
    cases blank

theorem stripped_bare (first : ∀ c ∈ text.head?, Host.isSpace c = false)
    (last : ∀ c ∈ text.getLast?, Host.isSpace c = false) : stripped text = text := by
  cases text with
  | nil => rfl
  | cons c rest =>
      obtain ⟨right,blank,whole⟩ := @stripped_behind _ c rest (first c rfl)
      rcases List.eq_nil_or_concat' right with rfl | ⟨others,end_,rfl⟩
      · rw [List.append_nil] at whole
        exact whole.symm
      · have solid := last end_ (by rw [whole,← List.append_assoc,List.getLast?_concat]; rfl)
        rw [blank end_ (by simp)] at solid
        cases solid

theorem stripped_again (text : List Char) : stripped (stripped text) = stripped text := by
  apply stripped_bare
  · intro c first
    obtain ⟨rest,kept⟩ := List.head?_eq_some_iff.mp first
    exact stripped_first kept
  · intro c last
    obtain ⟨front,kept⟩ := List.getLast?_eq_some_iff.mp last
    exact stripped_last kept

theorem strip_again (text : String) : strip (strip text) = strip text := by
  unfold strip
  rw [String.toList_ofList,stripped_again]

end Blanks

-- A text is cut into the same lines as its parts.
section Cutting

variable [Host]

def SingleLine (text : String) : Prop := ∀ c ∈ text.toList, isLineBreak c = false

-- Lines as they are cut, stripped, without the blank ones.
def keptLines (lines : List (List Char)) : List String :=
  ((lines.map String.ofList).map strip).filter (· ≠ "")

theorem textLines_kept (text : String) : textLines text = keptLines (linesFrom false [] text.toList) := rfl

theorem keptLines_cons (line : List Char) (lines : List (List Char)) :
    keptLines (line :: lines) = keptLines [line] ++ keptLines lines := by
  unfold keptLines
  rw [← List.filter_append]
  rfl

theorem keptLines_empty : keptLines [[]] = [] := rfl

-- The last line counts whether or not there is anything on it.
theorem keptLines_end (afterReturn : Bool) (pending : List Char) :
    keptLines (linesFrom afterReturn pending []) = keptLines [pending.reverse] := by
  cases pending with
  | nil => rfl
  | cons c rest => rfl

omit [Host] in
theorem linesFrom_cons (afterReturn : Bool) (pending : List Char) (c : Char) (rest : List Char) :
    linesFrom afterReturn pending (c :: rest) =
      if afterReturn && c = '\n' then linesFrom false pending rest
      else if isLineBreak c then pending.reverse :: linesFrom (c = '\r') [] rest
      else linesFrom false (c :: pending) rest := rfl

-- A break ends the line before it; the one behind "\r" belongs to that.
theorem linesFrom_break {one two pending : List Char} {afterReturn : Bool}
    (settled : afterReturn = true → pending = []) :
    keptLines (linesFrom afterReturn pending (one ++ '\n' :: two)) =
      keptLines (linesFrom afterReturn pending one) ++ keptLines (linesFrom false [] two) := by
  induction one generalizing afterReturn pending with
  | nil =>
      rw [List.nil_append,keptLines_end]
      cases afterReturn with
      | true =>
          rw [settled rfl,List.reverse_nil,keptLines_empty]
          rfl
      | false => exact keptLines_cons _ _
  | cons c one ih =>
      rw [List.cons_append,linesFrom_cons,linesFrom_cons]
      split
      · exact ih (by simp)
      · split
        · rw [keptLines_cons,ih fun _ => rfl,← List.append_assoc,← keptLines_cons]
        · exact ih (by simp)

theorem textLines_append (one two : String) :
    textLines (one ++ ("\n" ++ two)) = textLines one ++ textLines two := by
  rw [textLines_kept,String.toList_append,String.toList_append]
  exact linesFrom_break (by simp)

theorem textLines_join (texts : List String) :
    textLines ("\n".intercalate texts) = texts.flatMap textLines := by
  induction texts with
  | nil => rfl
  | cons first rest ih =>
      cases rest with
      | nil => simp
      | cons second others =>
          rw [String.intercalate_cons_cons,String.append_assoc,textLines_append,ih]
          rfl

theorem linesFrom_single {text pending : List Char} (single : ∀ c ∈ text, isLineBreak c = false) :
    keptLines (linesFrom false pending text) = keptLines [pending.reverse ++ text] := by
  induction text generalizing pending with
  | nil => rw [keptLines_end,List.append_nil]
  | cons c text ih =>
      obtain ⟨here,later⟩ := List.forall_mem_cons.mp single
      have step : linesFrom false pending (c :: text) = linesFrom false (c :: pending) text := by
        simp [linesFrom,here]
      rw [step,ih later,List.reverse_cons,List.append_assoc,List.singleton_append]

theorem textLines_single {text : String} (single : SingleLine text) :
    textLines text = [strip text].filter (· ≠ "") := by
  rw [textLines_kept,linesFrom_single single,List.reverse_nil,List.nil_append]
  unfold keptLines
  rw [List.map_singleton,String.ofList_toList,List.map_singleton]

omit [Host] in
theorem linesFrom_parts {text pending line : List Char} {afterReturn : Bool}
    (single : ∀ c ∈ pending, isLineBreak c = false) (cut : line ∈ linesFrom afterReturn pending text) :
    ∀ c ∈ line, isLineBreak c = false := by
  have turned : ∀ c ∈ pending.reverse, isLineBreak c = false :=
    fun c member => single c (List.mem_reverse.mp member)
  induction text generalizing afterReturn pending with
  | nil =>
      unfold linesFrom at cut
      split at cut
      · cases cut
      · rw [List.mem_singleton.mp cut]
        exact turned
  | cons c text ih =>
      have fresh : ∀ c ∈ ([] : List Char), isLineBreak c = false := nofun
      rw [linesFrom_cons] at cut
      split at cut
      · exact ih single cut turned
      · split at cut
        · rcases List.mem_cons.mp cut with rfl | later
          · exact turned
          · exact ih fresh later fresh
        · rename_i plain
          have more : ∀ d ∈ c :: pending, isLineBreak d = false :=
            List.forall_mem_cons.mpr ⟨Bool.eq_false_iff.mpr plain,single⟩
          exact ih more cut fun d member => more d (List.mem_reverse.mp member)

theorem mem_textLines {text line : String} (listed : line ∈ textLines text) :
    line ≠ "" ∧ strip line = line ∧ SingleLine line := by
  obtain ⟨member,filled⟩ := List.mem_filter.mp listed
  obtain ⟨whole,cut,rfl⟩ := List.mem_map.mp member
  obtain ⟨chars,part,rfl⟩ := List.mem_map.mp cut
  refine ⟨by simpa using filled,strip_again _,?_⟩
  obtain ⟨left,right,_,_,parts⟩ := stripped_parts chars
  intro c inside
  have kept : c ∈ stripped chars := by simpa [strip] using inside
  exact linesFrom_parts (by simp) part c (by rw [parts]; simp [kept])

end Cutting

theorem join_inj {separator : String} {c : Char} (single : separator.toList = [c])
    {one two : List String} (first : one ≠ []) (second : two ≠ [])
    (plain : ∀ line ∈ one, c ∉ line.toList) (otherPlain : ∀ line ∈ two, c ∉ line.toList)
    (same : separator.intercalate one = separator.intercalate two) : one = two := by
  have cut {lines : List String} (some_ : lines ≠ []) (clean : ∀ line ∈ lines, c ∉ line.toList) :
      (separator.intercalate lines).toList.splitOn c = lines.map String.toList := by
    rw [String.toList_intercalate,single]
    refine List.splitOn_intercalate c ?_ (by simpa using some_)
    intro text member
    obtain ⟨line,listed,rfl⟩ := List.mem_map.mp member
    exact clean line listed
  have pieces : one.map String.toList = two.map String.toList := by
    rw [← cut first plain,← cut second otherPlain,same]
  exact List.map_injective_iff.mpr (fun _ _ equal => String.toList_inj.mp equal) pieces

theorem join_ne_empty {separator : String} {lines : List String} (some_ : lines ≠ [])
    (filled : ∀ line ∈ lines, line ≠ "") : separator.intercalate lines ≠ "" := by
  cases lines with
  | nil => exact absurd rfl some_
  | cons first rest =>
      have solid := filled first List.mem_cons_self
      cases rest with
      | nil => simpa using solid
      | cons second others =>
          rw [String.intercalate_cons_cons]
          simp [solid]

-- Lines that are not empty are told apart even from none.
theorem join_lines_inj {separator : String} {c : Char} (single : separator.toList = [c])
    {one two : List String} (filled : ∀ line ∈ one, line ≠ "" ∧ c ∉ line.toList)
    (otherFilled : ∀ line ∈ two, line ≠ "" ∧ c ∉ line.toList)
    (same : separator.intercalate one = separator.intercalate two) : one = two := by
  by_cases first : one = []
  · by_contra other
    have second : two ≠ [] := fun none => other (first.trans none.symm)
    rw [first,String.intercalate_nil] at same
    exact join_ne_empty second (fun line member => (otherFilled line member).1) same.symm
  · by_cases second : two = []
    · rw [second,String.intercalate_nil] at same
      exact absurd same (join_ne_empty first fun line member => (filled line member).1)
    · exact join_inj single first second (fun line member => (filled line member).2)
        (fun line member => (otherFilled line member).2) same

theorem join_prefix {separator : String} {one more : List String}
    (filled : ∀ line ∈ more, line ≠ "")
    (same : separator.intercalate one = separator.intercalate (one ++ more)) : more = [] := by
  by_contra some_
  have solid := @join_ne_empty separator more some_ filled
  by_cases first : one = []
  · rw [first,String.intercalate_nil,List.nil_append] at same
    exact solid same.symm
  · rw [String.intercalate_append_of_ne_nil first some_,String.append_assoc] at same
    have nothing := String.append_eq_left_iff.mp same.symm
    simp [solid] at nothing

theorem join_mem {separator : String} {parts : List String} {c : Char}
    (member : c ∈ (separator.intercalate parts).toList) :
    c ∈ separator.toList ∨ ∃ part ∈ parts, c ∈ part.toList := by
  induction parts with
  | nil => simp at member
  | cons first rest ih =>
      cases rest with
      | nil => exact .inr ⟨first,List.mem_cons_self,by simpa using member⟩
      | cons second others =>
          rw [String.intercalate_cons_cons,String.toList_append,String.toList_append,List.mem_append,
            List.mem_append] at member
          rcases member with (here | between) | later
          · exact .inr ⟨first,List.mem_cons_self,here⟩
          · exact .inl between
          · refine (ih later).imp_right ?_
            rintro ⟨part,listed,inside⟩
            exact ⟨part,List.mem_cons_of_mem _ listed,inside⟩

theorem occursIn_iff {needle hay : String} :
    occursIn needle hay = true ↔ needle.toList <:+: hay.toList := by
  simp only [occursIn,List.any_eq_true,List.mem_tails,List.isPrefixOf_iff_prefix,
    List.infix_iff_prefix_suffix]
  exact exists_congr fun rest => and_comm

theorem drop_takeWhile {p : α → Bool} (items : List α) :
    items.drop (items.takeWhile p).length = items.dropWhile p := by
  have parts := congrArg (List.drop (items.takeWhile p).length)
    (@List.takeWhile_append_dropWhile _ p items)
  rw [List.drop_left] at parts
  exact parts.symm

end Py
end ParcelPilot
