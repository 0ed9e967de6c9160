import ParcelPilot.Pattern

namespace ParcelPilot
namespace Pattern

variable {isWord : Char → Bool} {pattern first second : Pattern} {accepts : Char → Bool}
  {cursor stop : Cursor} {least : Nat} {most : Option Nat} {before text : List Char}

theorem alpha_codes {c : Char} : c.isAlpha = true ↔
    65 ≤ c.toNat ∧ c.toNat ≤ 90 ∨ 97 ≤ c.toNat ∧ c.toNat ≤ 122 := by
  delta Char.isAlpha Char.isUpper Char.isLower
  simp only [Bool.or_eq_true,Bool.and_eq_true,decide_eq_true_eq,UInt32.le_iff_toNat_le,ge_iff_le]
  exact Iff.rfl

theorem digit_codes {c : Char} : c.isDigit = true ↔ 48 ≤ c.toNat ∧ c.toNat ≤ 57 := by
  delta Char.isDigit
  simp only [Bool.and_eq_true,decide_eq_true_eq,UInt32.le_iff_toNat_le,ge_iff_le]
  exact Iff.rfl

-- What each way to match has passed, apart from the order they are tried in.
theorem mem_ends_one : stop ∈ ends isWord (.one accepts) cursor ↔
    ∃ c rest, cursor.after = c :: rest ∧ accepts c = true ∧ stop = ⟨c :: cursor.before,rest⟩ := by
  unfold ends
  cases ahead : cursor.after with
  | nil => simp
  | cons c rest => by_cases accepted : accepts c = true <;> simp [accepted]

theorem mem_ends_seq : stop ∈ ends isWord (.seq first second) cursor ↔
    ∃ middle ∈ ends isWord first cursor, stop ∈ ends isWord second middle := by
  simp only [ends,List.mem_flatMap]

theorem mem_ends_either : stop ∈ ends isWord (.either first second) cursor ↔
    stop ∈ ends isWord first cursor ∨ stop ∈ ends isWord second cursor := by
  simp only [ends,List.mem_append]

theorem mem_ends_sequence {rest : List Pattern} :
    stop ∈ ends isWord (sequence (pattern :: rest)) cursor ↔
      ∃ middle ∈ ends isWord pattern cursor, stop ∈ ends isWord (sequence rest) middle := by
  cases rest with
  | nil => simp [sequence,ends]
  | cons second others => exact mem_ends_seq

theorem mem_ends_literal {wording : String} :
    stop ∈ ends isWord (literal (· = ·) wording) cursor ↔
      ∃ rest, cursor.after = wording.toList ++ rest ∧
        stop = ⟨wording.toList.reverse ++ cursor.before,rest⟩ := by
  unfold literal
  generalize wording.toList = letters
  induction letters generalizing cursor with
  | nil =>
      obtain ⟨before,after⟩ := cursor
      simp [sequence,ends]
  | cons c letters ih =>
      rw [List.map_cons,mem_ends_sequence]
      simp only [mem_ends_one,ih,decide_eq_true_eq]
      constructor
      · intro passed
        obtain ⟨_,⟨d,after,ahead,rfl,rfl⟩,rest,more,rfl⟩ := passed
        exact ⟨rest,by rw [ahead,show after = letters ++ rest from more,List.cons_append],by simp⟩
      · intro passed
        obtain ⟨rest,ahead,rfl⟩ := passed
        exact ⟨_,⟨c,letters ++ rest,ahead,rfl,rfl⟩,rest,rfl,by simp⟩

theorem mem_ends_boundary : stop ∈ ends isWord .boundary cursor ↔
    wordAt isWord cursor.before ≠ wordAt isWord cursor.after ∧ stop = cursor := by
  unfold ends
  by_cases apart : wordAt isWord cursor.before = wordAt isWord cursor.after <;> simp [apart]

theorem mem_downFrom {longest n : Nat} : n ∈ downFrom longest least ↔ least ≤ n ∧ n ≤ longest := by
  simp only [downFrom,List.mem_reverse,List.mem_filter,List.mem_range,decide_eq_true_eq]
  omega

theorem advance_append (run rest : List Char) (before : List Char) :
    Cursor.advance run.length ⟨before,run ++ rest⟩ = ⟨run.reverse ++ before,rest⟩ := by
  induction run generalizing before with
  | nil => rfl
  | cons c run ih =>
      rw [List.length_cons,List.cons_append,Cursor.advance,ih]
      simp

theorem le_runLength {n : Nat} : n ≤ runLength accepts most text ↔
    n ≤ text.length ∧ (∀ bound ∈ most, n ≤ bound) ∧ ∀ c ∈ text.take n, accepts c = true := by
  induction text generalizing n most with
  | nil =>
      rcases most with _ | _ | bound <;> simp [runLength]
      omega
  | cons c rest ih =>
      cases n with
      | zero => simp
      | succ n =>
          rcases most with _ | _ | bound
          · by_cases accepted : accepts c = true
            · have shorter := @ih none n
              simp only [Option.not_mem_none,IsEmpty.forall_iff,implies_true,true_and] at shorter
              simp [runLength,accepted,shorter]
            · simp [runLength,accepted]
          · simp [runLength]
          · by_cases accepted : accepts c = true
            · have shorter := @ih (some bound) n
              simp only [Option.mem_def,Option.some.injEq,forall_eq'] at shorter
              simp [runLength,accepted,shorter]
            · simp [runLength,accepted]

theorem mem_ends_many : stop ∈ ends isWord (.many accepts least most) cursor ↔
    ∃ run rest, cursor.after = run ++ rest ∧ least ≤ run.length ∧ (∀ bound ∈ most, run.length ≤ bound) ∧
      (∀ c ∈ run, accepts c = true) ∧ stop = ⟨run.reverse ++ cursor.before,rest⟩ := by
  obtain ⟨before,after⟩ := cursor
  simp only [ends,List.mem_map,mem_downFrom]
  constructor
  · intro passed
    obtain ⟨n,⟨enough,within⟩,rfl⟩ := passed
    obtain ⟨inside,bounded,all⟩ := le_runLength.mp within
    have length : (after.take n).length = n := List.length_take_of_le inside
    refine ⟨after.take n,after.drop n,(List.take_append_drop n after).symm,?_,?_,all,?_⟩
    · omega
    · intro bound known
      have limit := bounded bound known
      omega
    · have advanced := advance_append (after.take n) (after.drop n) before
      rwa [length,List.take_append_drop] at advanced
  · intro passed
    obtain ⟨run,rest,rfl,enough,bounded,all,rfl⟩ := passed
    refine ⟨run.length,⟨enough,le_runLength.mpr ⟨?_,bounded,?_⟩⟩,advance_append run rest before⟩
    · simp
    · rw [List.take_left]
      exact all

theorem matchHere_unique (alone : ∀ one ∈ ends isWord pattern cursor,
      ∀ two ∈ ends isWord pattern cursor, one = two) :
    matchHere isWord pattern cursor = some stop ↔ stop ∈ ends isWord pattern cursor := by
  unfold matchHere
  constructor
  · exact List.mem_of_head?
  · intro member
    cases tried : ends isWord pattern cursor with
    | nil => simp [tried] at member
    | cons earliest others =>
        have same := alone earliest (by simp [tried]) stop member
        rw [List.head?_cons,same]

theorem findFrom_sound {skip : Nat} {start : Cursor} {found : List Char}
    (reported : (start,found) ∈ findFrom isWord pattern skip before text) :
    ∃ left, text = left ++ start.after ∧ start.before = left.reverse ++ before ∧
      ∃ stop, matchHere isWord pattern start = some stop ∧
        found = start.after.take (start.after.length - stop.after.length) := by
  induction text generalizing skip before with
  | nil => cases skip <;> simp [findFrom] at reported
  | cons c rest ih =>
      have later : ∀ {skip}, (start,found) ∈ findFrom isWord pattern skip (c :: before) rest →
          ∃ left, c :: rest = left ++ start.after ∧ start.before = left.reverse ++ before ∧
            ∃ stop, matchHere isWord pattern start = some stop ∧
              found = start.after.take (start.after.length - stop.after.length) := by
        intro skip inRest
        obtain ⟨left,split_,stands,matched⟩ := ih inRest
        exact ⟨c :: left,by rw [split_,List.cons_append],by simp [stands],matched⟩
      cases skip with
      | succ skip => exact later reported
      | zero =>
          unfold findFrom at reported
          cases here : matchHere isWord pattern ⟨before,c :: rest⟩ with
          | none =>
              simp only [here] at reported
              exact later reported
          | some stop =>
              simp only [here] at reported
              rcases List.mem_cons.mp reported with same | inRest
              · cases same
                exact ⟨[],rfl,rfl,stop,here,rfl⟩
              · exact later inRest

theorem findFrom_head (some_ : text ≠ [])
    (matched : matchHere isWord pattern ⟨before,text⟩ = some stop) :
    (findFrom isWord pattern 0 before text).head? =
      some (⟨before,text⟩,text.take (text.length - stop.after.length)) := by
  cases text with
  | nil => exact absurd rfl some_
  | cons c rest =>
      unfold findFrom
      rw [matched]
      rfl

theorem findFrom_first {start : Cursor} {found : List Char} {others : List (Cursor × List Char)}
    (reported : findFrom isWord pattern 0 before text = (start,found) :: others) :
    ∃ left, text = left ++ start.after ∧ start.before = left.reverse ++ before ∧
      (∃ stop, matchHere isWord pattern start = some stop ∧
        found = start.after.take (start.after.length - stop.after.length)) ∧
      ∀ one two, left = one ++ two → two ≠ [] →
        matchHere isWord pattern ⟨one.reverse ++ before,two ++ start.after⟩ = none := by
  induction text generalizing before with
  | nil => simp [findFrom] at reported
  | cons c rest ih =>
      unfold findFrom at reported
      cases here : matchHere isWord pattern ⟨before,c :: rest⟩ with
      | some stop =>
          simp only [here] at reported
          cases reported
          refine ⟨[],rfl,rfl,⟨stop,here,rfl⟩,?_⟩
          intro one two parts some_
          exact absurd (List.append_eq_nil_iff.mp parts.symm).2 some_
      | none =>
          simp only [here] at reported
          obtain ⟨left,split_,stands,matched,earliest⟩ := ih reported
          refine ⟨c :: left,by rw [split_,List.cons_append],by simp [stands],matched,?_⟩
          intro one two parts some_
          cases one with
          | nil =>
              rw [List.nil_append] at parts
              rw [← parts,List.cons_append,← split_]
              exact here
          | cons d one =>
              obtain ⟨rfl,tail⟩ := List.cons.inj parts
              have later := earliest one two tail some_
              simpa using later

-- A match is reported unless one that starts earlier reaches into it.
theorem findFrom_complete {skip : Nat} {left right : List Char} (split_ : text = left ++ right)
    (ahead : right ≠ []) (skipped : skip ≤ left.length)
    (matched : matchHere isWord pattern ⟨left.reverse ++ before,right⟩ = some stop)
    (clear : ∀ one two earlier, left = one ++ two → two ≠ [] →
      matchHere isWord pattern ⟨one.reverse ++ before,two ++ right⟩ = some earlier →
      right.length ≤ earlier.after.length) :
    (⟨left.reverse ++ before,right⟩,right.take (right.length - stop.after.length)) ∈
      findFrom isWord pattern skip before text := by
  subst split_
  induction left generalizing skip before with
  | nil =>
      cases Nat.le_zero.mp skipped
      cases right with
      | nil => exact absurd rfl ahead
      | cons c rest =>
          simp only [List.reverse_nil,List.nil_append] at matched ⊢
          unfold findFrom
          simp [matched]
  | cons c left ih =>
      have onward : ∀ {skip}, skip ≤ left.length →
          (⟨(c :: left).reverse ++ before,right⟩,right.take (right.length - stop.after.length)) ∈
            findFrom isWord pattern skip (c :: before) (left ++ right) := by
        intro skip within
        have moved : (c :: left).reverse ++ before = left.reverse ++ c :: before := by simp
        rw [moved] at matched ⊢
        apply ih within matched
        intro one two earlier parts some_ found
        refine clear (c :: one) two earlier (by rw [parts,List.cons_append]) some_ ?_
        rw [← found]
        congr 2
        simp
      cases skip with
      | succ skip => exact onward (Nat.le_of_succ_le_succ skipped)
      | zero =>
          rw [List.cons_append]
          unfold findFrom
          cases here : matchHere isWord pattern ⟨before,c :: (left ++ right)⟩ with
          | none => exact onward (Nat.zero_le _)
          | some earlier =>
              have reach := clear [] (c :: left) earlier rfl (by simp) (by simpa using here)
              apply List.mem_cons_of_mem
              apply onward
              simp only [List.length_cons,List.length_append]
              omega

end Pattern
end ParcelPilot
