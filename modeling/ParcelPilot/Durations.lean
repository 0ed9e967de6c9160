import Mathlib.Data.List.Induction
import Mathlib.Tactic.Linarith
import Mathlib.Tactic.Ring
import ParcelPilot.Lines
import ParcelPilot.Scanning
import ParcelPilot.SlaTable

namespace ParcelPilot

section Durations

variable [Formats]

def durationUnits : List String := ["hour","hours","minute","minutes"]

-- `int(digits)`, whatever their number
def digitsValue (digits : List Char) : Nat :=
  digits.foldl (fun value c => 10 * value + Formats.digitValue c) 0

def decimalValue (number : List Char) : Option Rat :=
  match number.dropWhile Host.isDigit with
  | [] => some (digitsValue number)
  | point :: behind =>
      if point = '.' ∧ behind ≠ [] ∧ behind.all Host.isDigit = true then
        some (digitsValue (number.takeWhile Host.isDigit ++ behind) / 10 ^ behind.length)
      else none

def perUnit (unit : List Char) : Nat := if "hour".toList.isPrefixOf unit then 60 else 1

-- How a text may write a duration: what stands within a number besides digits, the
-- words that are numbers, what comes between a number and its unit besides blanks, and
-- the units of time, the parser's four among them.
structure Spelling where
  within : Char → Bool
  numberWords : List String
  between : Char → Bool
  units : List String
  point : within '.' = true
  within_apart : ∀ c, within c = true → Host.isDigit c = false
  between_apart : ∀ c, between c = true → Host.isDigit c = false
  common : ∀ unit ∈ durationUnits, unit ∈ units

structure Duration where
  number : List Char
  unit : String
deriving DecidableEq

namespace Spelling

variable (spelling : Spelling)

def gap (c : Char) : Bool := Host.isSpace c || spelling.between c

-- What stands before the first digit or point of a run is no part of the number.
def label (c : Char) : Bool := spelling.within c && c ≠ '.'

-- The number in front of a unit; `before` is read backwards.
def numberBefore (before : List Char) : Option (List Char) :=
  let behind := before.dropWhile spelling.gap
  if behind.head?.any Host.isDigit then
    some ((behind.takeWhile fun c => Host.isDigit c || spelling.within c).reverse.dropWhile
      spelling.label)
  else
    let word := (behind.takeWhile Host.isWord).reverse
    if behind.length < before.length && spelling.numberWords.contains (String.ofList word) then some word
    else none

def unitAt (after : List Char) (unit : String) : Bool :=
  unit.toList.isPrefixOf after &&
    (after.drop unit.toList.length).head?.all fun c => !Host.isWord c || Host.isDigit c

def durationsFrom : List Char → List Char → List Duration
  | _,[] => []
  | before,c :: rest =>
      (spelling.units.filter (unitAt (c :: rest))).filterMap (fun unit =>
        (spelling.numberBefore before).map (⟨·,unit⟩)) ++ durationsFrom (c :: before) rest

def durations (text : List Char) : List Duration := spelling.durationsFrom [] text

end Spelling

-- The minutes are the value of the one duration in the text.
def ReadsAs (spelling : Spelling) (text : List Char) (minutes : Int) : Prop :=
  ∃ duration number, spelling.durations text = [duration] ∧ duration.unit ∈ durationUnits ∧
    decimalValue duration.number = some number ∧
    (minutes : Rat) = number * perUnit duration.unit.toList

-- One duration, its number in digits alone unless it is zero
def SingleWhole (spelling : Spelling) (text : List Char) : Prop :=
  ∃ duration, spelling.durations text = [duration] ∧
    (duration.number.all Host.isDigit = true ∨ decimalValue duration.number = some 0)

-- What `unicodedata` documents of a decimal digit.
def PlainDigits : Prop :=
  ∀ c, Host.isDigit c = true → Formats.digitValue c < 10 ∧ Host.isSpace c = false

theorem digitsValue_append (one two : List Char) :
    digitsValue (one ++ two) = digitsValue one * 10 ^ two.length + digitsValue two := by
  have from_ (digits : List Char) (start : Nat) :
      digits.foldl (fun value c => 10 * value + Formats.digitValue c) start =
        start * 10 ^ digits.length + digitsValue digits := by
    induction digits generalizing start with
    | nil => simp [digitsValue]
    | cons c rest ih =>
        have first : digitsValue (c :: rest) =
            (10 * 0 + Formats.digitValue c) * 10 ^ rest.length + digitsValue rest := ih _
        rw [List.foldl_cons,ih,first,List.length_cons,pow_succ]
        ring
  have parts : digitsValue (one ++ two) =
      two.foldl (fun value c => 10 * value + Formats.digitValue c) (digitsValue one) :=
    List.foldl_append
  rw [parts,from_]

theorem digitsValue_lt (plain : PlainDigits) {digits : List Char}
    (numeric : ∀ c ∈ digits, Host.isDigit c = true) : digitsValue digits < 10 ^ digits.length := by
  induction digits using List.reverseRecOn with
  | nil => simp [digitsValue]
  | append_singleton front last ih =>
      have before := ih fun c member => numeric c (List.mem_append_left _ member)
      have here := (plain last (numeric last (by simp))).1
      have one : digitsValue [last] = Formats.digitValue last := by simp [digitsValue]
      rw [digitsValue_append,List.length_append,List.length_singleton,one,pow_one,pow_succ]
      omega

theorem parseDuration_minutes {text : String} {minutes : Int} {is24x7 business : Bool}
    (parsed : parseDuration text = .ok (some minutes,is24x7,business)) :
    ∃ found, durationIn (Host.lower text) = some found ∧
      minutes = (digitsValue (durationNum found) * perUnit (durationUnit found) : Nat) := by
  unfold parseDuration at parsed
  dsimp only at parsed
  split at parsed
  · cases parsed
  · split at parsed
    · cases parsed
    · rename_i found matched
      obtain ⟨n,number,parsed⟩ := except_bind_ok.mp parsed
      unfold Py.int at number
      split at number
      · cases number
      · cases number
        simp only [pure,Except.pure,Except.ok.injEq,Prod.mk.injEq,Option.some.injEq] at parsed
        refine ⟨found,matched,?_⟩
        rw [← parsed.1,perUnit]
        split <;> simp [digitsValue]

-- A text whose number, if it is looked at, `int` takes.
def Readable (text : String) : Prop :=
  Py.occursIn "business" (Host.lower text) = true ∨ ∀ found, durationIn (Host.lower text) = some found →
    (durationNum found).length ≤ Py.maxStrDigits

theorem parseDuration_readable {text : String} (readable : Readable text) :
    ∃ reading, parseDuration text = .ok reading := by
  unfold parseDuration
  dsimp only
  split
  · exact ⟨_,rfl⟩
  · rename_i plain
    split
    · exact ⟨_,rfl⟩
    · rename_i found matched
      have short := (readable.resolve_left plain) found matched
      rw [Py.int,if_neg (Nat.not_lt.mpr short)]
      exact ⟨_,rfl⟩

theorem parseDuration_unreadable {text : String} (long : ¬ Readable text) :
    ∃ message, parseDuration text = .error (.raised (.valueError message)) := by
  unfold Readable at long
  push Not at long
  obtain ⟨plain,found,matched,digits⟩ := long
  unfold parseDuration
  dsimp only
  rw [if_neg plain,matched]
  dsimp only
  rw [Py.int,if_pos digits]
  exact ⟨_,rfl⟩

theorem parseDuration_returns {text : String} :
    (∃ reading, parseDuration text = .ok reading) ↔ Readable text := by
  refine ⟨?_,parseDuration_readable⟩
  rintro ⟨reading,parsed⟩
  by_contra long
  obtain ⟨message,raised⟩ := parseDuration_unreadable long
  rw [raised] at parsed
  cases parsed

-- A row is made where its text can be read, and says what it was made from.
section Rows

variable {sourceId severity text : String} {plan accountId : Option String}

theorem slaTarget_returns :
    (∃ target, slaTarget sourceId plan accountId severity text = .ok target) ↔ Readable text := by
  rw [← parseDuration_returns]
  constructor
  · rintro ⟨target,made⟩
    obtain ⟨reading,parsed,_⟩ := except_bind_ok.mp made
    exact ⟨reading,parsed⟩
  · rintro ⟨reading,parsed⟩
    rw [slaTarget,parsed]
    exact ⟨_,rfl⟩

def SlaTarget.place (target : SlaTarget) : String × Option String × Option String × String × String :=
  (target.sourceId,target.plan,target.accountId,target.severity,target.targetText)

theorem slaTarget_place {target : SlaTarget}
    (made : slaTarget sourceId plan accountId severity text = .ok target) :
    target.place = (sourceId,plan,accountId,severity,text) := by
  obtain ⟨reading,_,made⟩ := except_bind_ok.mp made
  cases made
  rfl

end Rows

theorem mem_ends_units {cursor stop : Pattern.Cursor} :
    stop ∈ Pattern.ends Host.isWord (Pattern.oneOf [exactly "hour",exactly "hours",exactly "minute",
      exactly "minutes"]) cursor ↔ ∃ unit ∈ durationUnits, ∃ rest,
        cursor.after = unit.toList ++ rest ∧ stop = ⟨unit.toList.reverse ++ cursor.before,rest⟩ := by
  simp only [Pattern.oneOf,Pattern.mem_ends_either,exactly,Pattern.mem_ends_literal,durationUnits,
    List.mem_cons,List.not_mem_nil,or_false]
  constructor
  · rintro (here | here | here | here)
    · exact ⟨"hour",.inl rfl,here⟩
    · exact ⟨"hours",.inr (.inl rfl),here⟩
    · exact ⟨"minute",.inr (.inr (.inl rfl)),here⟩
    · exact ⟨"minutes",.inr (.inr (.inr rfl)),here⟩
  · rintro ⟨unit,rfl | rfl | rfl | rfl,here⟩
    · exact .inl here
    · exact .inr (.inl here)
    · exact .inr (.inr (.inl here))
    · exact .inr (.inr (.inr here))

theorem unit_ends {unit : String} (listed : unit ∈ durationUnits) (before : List Char) :
    Pattern.wordAt Host.isWord (unit.toList.reverse ++ before) = true := by
  simp only [durationUnits,List.mem_cons,List.not_mem_nil,or_false] at listed
  rcases listed with rfl | rfl | rfl | rfl <;>
    exact (Host.isWord_ascii _ (by decide)).trans (by decide)

theorem mem_ends_duration {cursor stop : Pattern.Cursor} :
    stop ∈ Pattern.ends Host.isWord duration cursor ↔ ∃ num blanks, ∃ unit ∈ durationUnits, ∃ right,
      cursor.after = num ++ (blanks ++ (unit.toList ++ right)) ∧ num ≠ [] ∧
        (∀ c ∈ num, Host.isDigit c = true) ∧ Py.AllBlank blanks ∧
        Pattern.wordAt Host.isWord right = false ∧
        stop = ⟨unit.toList.reverse ++ (blanks.reverse ++ (num.reverse ++ cursor.before)),right⟩ := by
  simp only [duration,Pattern.sequence,Pattern.mem_ends_seq,Pattern.mem_ends_many,
    Pattern.mem_ends_boundary,mem_ends_units]
  constructor
  · intro passed
    obtain ⟨_,⟨num,_,first,some_,_,numeric,rfl⟩,_,⟨blanks,_,second,_,_,blank,rfl⟩,_,
      ⟨unit,listed,right,third,rfl⟩,edge,rfl⟩ := passed
    dsimp only at second third edge
    rw [unit_ends listed] at edge
    refine ⟨num,blanks,unit,listed,right,?_,List.ne_nil_of_length_pos some_,numeric,blank,?_,rfl⟩
    · rw [first,second,third]
    · cases ahead : Pattern.wordAt Host.isWord right with
      | false => rfl
      | true => exact absurd ahead.symm edge
  · intro passed
    obtain ⟨num,blanks,unit,listed,right,whole,some_,numeric,blank,edge,rfl⟩ := passed
    refine ⟨_,⟨num,_,whole,List.length_pos_iff.mpr some_,by simp,numeric,rfl⟩,_,
      ⟨blanks,_,rfl,Nat.zero_le _,by simp,blank,rfl⟩,_,⟨unit,listed,right,rfl,rfl⟩,?_,rfl⟩
    rw [unit_ends listed,edge]
    exact Bool.noConfusion

theorem unit_head {unit : String} (listed : unit ∈ durationUnits) :
    ∃ c rest, unit.toList = c :: rest ∧ Host.isDigit c = false ∧ Host.isSpace c = false := by
  have letter {c : Char} (ascii : c.toNat < 128) (plain : c.isDigit = false)
      (solid : (c = ' ' || (9 ≤ c.toNat && c.toNat ≤ 13) || (28 ≤ c.toNat && c.toNat ≤ 31)) = false) :
      Host.isDigit c = false ∧ Host.isSpace c = false :=
    ⟨(Host.isDigit_ascii c ascii).trans plain,(Host.isSpace_ascii c ascii).trans solid⟩
  simp only [durationUnits,List.mem_cons,List.not_mem_nil,or_false] at listed
  rcases listed with rfl | rfl | rfl | rfl
  · exact ⟨'h',_,rfl,letter (by decide) (by decide) (by decide)⟩
  · exact ⟨'h',_,rfl,letter (by decide) (by decide) (by decide)⟩
  · exact ⟨'m',_,rfl,letter (by decide) (by decide) (by decide)⟩
  · exact ⟨'m',_,rfl,letter (by decide) (by decide) (by decide)⟩

theorem duration_groups {num blanks : List Char} {unit : String}
    (numeric : ∀ c ∈ num, Host.isDigit c = true) (blank : Py.AllBlank blanks)
    (listed : unit ∈ durationUnits) :
    ∃ more others, blanks = more ++ others ∧ (∀ c ∈ more, Host.isDigit c = true) ∧
      durationNum (num ++ (blanks ++ unit.toList)) = num ++ more ∧
      durationUnit (num ++ (blanks ++ unit.toList)) = unit.toList := by
  obtain ⟨c,rest,spelt,notDigit,solid⟩ := unit_head listed
  have stops : unit.toList.takeWhile Host.isDigit = [] := by simp [spelt,notDigit]
  have starts : unit.toList.dropWhile Host.isDigit = unit.toList := by simp [spelt,notDigit]
  refine ⟨blanks.takeWhile Host.isDigit,blanks.dropWhile Host.isDigit,
    List.takeWhile_append_dropWhile.symm,fun c member => List.mem_takeWhile_imp member,?_,?_⟩
  · unfold durationNum
    rw [List.takeWhile_append_of_pos numeric,List.takeWhile_append,stops]
    split
    · rename_i all
      have same := (List.takeWhile_prefix Host.isDigit).eq_of_length all
      rw [List.append_nil,same]
    · rfl
  · unfold durationUnit
    rw [List.dropWhile_append_of_pos numeric,List.dropWhile_append]
    have remaining : (if (blanks.dropWhile Host.isDigit).isEmpty then unit.toList.dropWhile Host.isDigit
        else blanks.dropWhile Host.isDigit ++ unit.toList) =
        blanks.dropWhile Host.isDigit ++ unit.toList := by
      split
      · rename_i none
        rw [List.isEmpty_iff.mp none,starts,List.nil_append]
      · rfl
    rw [remaining,List.dropWhile_append_of_pos fun d member =>
      blank d ((List.dropWhile_sublist _).subset member),spelt]
    simp [solid]

-- The first match: its digits go as far to the left as there are any.
theorem first_match {lower : String} {found : List Char} (matched : durationIn lower = some found) :
    ∃ left num blanks unit right, lower.toList = left ++ num ++ blanks ++ unit.toList ++ right ∧
      num ≠ [] ∧ (∀ c ∈ num, Host.isDigit c = true) ∧ Py.AllBlank blanks ∧ unit ∈ durationUnits ∧
      Pattern.wordAt Host.isWord right = false ∧ (∀ c ∈ left.getLast?, Host.isDigit c = false) ∧
      durationNum found = num ∧ durationUnit found = unit.toList := by
  unfold durationIn Pattern.findIter at matched
  obtain ⟨⟨start,_⟩,first,rfl⟩ := Option.map_eq_some_iff.mp matched
  obtain ⟨others,reported⟩ := List.head?_eq_some_iff.mp first
  obtain ⟨left,whole,stands,⟨stop,here,rfl⟩,earliest⟩ := Pattern.findFrom_first reported
  obtain ⟨num,blanks,unit,listed,right,ahead,some_,numeric,blank,edge,rfl⟩ :=
    mem_ends_duration.mp (List.mem_of_head? here)
  obtain ⟨more,rest,rfl,digits,number,word⟩ := duration_groups numeric blank listed
  have taken : start.after.take (start.after.length - right.length) =
      num ++ ((more ++ rest) ++ unit.toList) := by
    have parts : start.after = (num ++ ((more ++ rest) ++ unit.toList)) ++ right := by
      rw [ahead]
      simp only [List.append_assoc]
    rw [parts,List.length_append,Nat.add_sub_cancel,List.take_left]
  dsimp only
  rw [taken]
  refine ⟨left,num ++ more,rest,unit,right,?_,by simp [some_],?_,?_,listed,edge,?_,number,word⟩
  · rw [whole,ahead]
    simp only [List.append_assoc]
  · intro c member
    rcases List.mem_append.mp member with inNum | inMore
    · exact numeric c inNum
    · exact digits c inMore
  · exact fun c member => blank c (List.mem_append_right _ member)
  · intro c last
    obtain ⟨front,rfl⟩ := List.getLast?_eq_some_iff.mp last
    -- with a digit before it the match would have started there
    cases digit : Host.isDigit c with
    | false => rfl
    | true =>
        have none := earliest front [c] rfl (by simp)
        have ends_ : (Pattern.ends Host.isWord duration ⟨front.reverse ++ [],[c] ++ start.after⟩) ≠ [] := by
          refine List.ne_nil_of_mem (mem_ends_duration.mpr ⟨c :: num,more ++ rest,unit,listed,right,
            ?_,by simp,?_,blank,edge,rfl⟩)
          · rw [ahead]
            rfl
          · intro d member
            rcases List.mem_cons.mp member with rfl | inNum
            · exact digit
            · exact numeric d inNum
        exact absurd (List.head?_eq_none_iff.mp none) ends_

-- The number that `num` ends, when `left` stands before it
def Spelling.lead (spelling : Spelling) (left : List Char) : List Char :=
  (left.reverse.takeWhile fun c => Host.isDigit c || spelling.within c).reverse.dropWhile
    spelling.label

theorem lead_last {spelling : Spelling} {left : List Char} {c : Char}
    (starts : ∀ c ∈ left.getLast?, Host.isDigit c = false)
    (last : (spelling.lead left).getLast? = some c) : Host.isDigit c = false := by
  unfold Spelling.lead at last
  obtain ⟨skipped,parts⟩ := List.dropWhile_suffix spelling.label
    (l := (left.reverse.takeWhile fun c => Host.isDigit c || spelling.within c).reverse)
  have whole := congrArg List.getLast? parts
  rw [List.getLast?_append,last,Option.some_or,List.getLast?_reverse,List.head?_takeWhile,
    List.head?_reverse] at whole
  obtain ⟨ends_,_⟩ := Option.filter_eq_some_iff.mp whole.symm
  exact starts c ends_

theorem numberBefore_digits {spelling : Spelling} (plain : PlainDigits) {left num blanks : List Char}
    (some_ : num ≠ []) (numeric : ∀ c ∈ num, Host.isDigit c = true) (blank : Py.AllBlank blanks) :
    spelling.numberBefore (blanks.reverse ++ (num.reverse ++ left.reverse)) =
      some (spelling.lead left ++ num) := by
  have back : ∀ c ∈ num.reverse, Host.isDigit c = true := fun c member =>
    numeric c (List.mem_reverse.mp member)
  obtain ⟨d,rest,order⟩ := List.exists_cons_of_ne_nil (List.reverse_ne_nil_iff.mpr some_)
  have digit : Host.isDigit d = true := back d (by simp [order])
  have solid : spelling.gap d = false := by
    have apart : spelling.between d = false := by
      cases joined : spelling.between d with
      | false => rfl
      | true => exact absurd digit (by simp [spelling.between_apart d joined])
    simp [Spelling.gap,(plain d digit).2,apart]
  have behind : (blanks.reverse ++ (num.reverse ++ left.reverse)).dropWhile spelling.gap =
      num.reverse ++ left.reverse := by
    rw [List.dropWhile_append_of_pos,order,List.cons_append,List.dropWhile_cons_of_neg (by simp [solid])]
    intro c member
    simp [Spelling.gap,blank c (List.mem_reverse.mp member)]
  have run : (num.reverse ++ left.reverse).takeWhile (fun c => Host.isDigit c || spelling.within c) =
      num.reverse ++ left.reverse.takeWhile fun c => Host.isDigit c || spelling.within c :=
    List.takeWhile_append_of_pos fun c member => by simp [back c member]
  have stops : num.dropWhile spelling.label = num := by
    cases num with
    | nil => rfl
    | cons c others =>
        have here := numeric c List.mem_cons_self
        have inside : spelling.within c = false := by
          cases joined : spelling.within c with
          | false => rfl
          | true => exact absurd here (by simp [spelling.within_apart c joined])
        rw [List.dropWhile_cons_of_neg (by simp [Spelling.label,inside])]
  have first : (num.reverse ++ left.reverse).head?.any Host.isDigit = true := by
    simp [order,digit]
  unfold Spelling.numberBefore
  rw [behind]
  dsimp only
  rw [if_pos first,run,List.reverse_append,List.reverse_reverse,List.dropWhile_append,stops]
  split
  · rename_i none
    rw [Spelling.lead,List.isEmpty_iff.mp none,List.nil_append]
  · rfl

theorem stated_from {spelling : Spelling} {before left right number : List Char} {unit : String}
    (counted : spelling.numberBefore (left.reverse ++ before) = some number)
    (listed : unit ∈ spelling.units) (here : Spelling.unitAt right unit = true) (some_ : right ≠ []) :
    ⟨number,unit⟩ ∈ spelling.durationsFrom before (left ++ right) := by
  induction left generalizing before with
  | nil =>
      obtain ⟨c,rest,rfl⟩ := List.exists_cons_of_ne_nil some_
      refine List.mem_append_left _ (List.mem_filterMap.mpr ⟨unit,List.mem_filter.mpr ⟨listed,here⟩,?_⟩)
      rw [show spelling.numberBefore before = some number from counted]
      rfl
  | cons c left ih =>
      refine List.mem_append_right _ (ih ?_)
      simpa using counted

theorem unitAt_word {unit : String} {right : List Char}
    (edge : Pattern.wordAt Host.isWord right = false) :
    Spelling.unitAt (unit.toList ++ right) unit = true := by
  unfold Spelling.unitAt
  rw [List.drop_left]
  cases right with
  | nil => simp
  | cons c rest =>
      have plain : Host.isWord c = false := edge
      simp [plain]

-- What is read is the digits that the number of the first duration ends in.
theorem first_duration {text : String} {minutes : Int} {is24x7 business : Bool} (spelling : Spelling)
    (plain : PlainDigits) (parsed : parseDuration text = .ok (some minutes,is24x7,business)) :
    ∃ lead num unit, ⟨lead ++ num,unit⟩ ∈ spelling.durations (Host.lower text).toList ∧
      unit ∈ durationUnits ∧ (∀ c ∈ num, Host.isDigit c = true) ∧
      (∀ c ∈ lead.getLast?, Host.isDigit c = false) ∧
      minutes = (digitsValue num * perUnit unit.toList : Nat) := by
  obtain ⟨found,matched,value⟩ := parseDuration_minutes parsed
  obtain ⟨left,num,blanks,unit,right,whole,some_,numeric,blank,listed,edge,starts,number,word⟩ :=
    first_match matched
  rw [number,word] at value
  refine ⟨spelling.lead left,num,unit,?_,listed,numeric,fun c last => lead_last starts last,value⟩
  have counted : spelling.numberBefore ((left ++ num ++ blanks).reverse ++ []) =
      some (spelling.lead left ++ num) := by
    simpa using numberBefore_digits plain some_ numeric blank
  have stated := stated_from counted (spelling.common unit listed) (unitAt_word edge) ?_
  · rw [Spelling.durations,whole]
    simpa using stated
  · obtain ⟨c,rest,spelt,_⟩ := unit_head listed
    simp [spelt]

omit [Formats] in
theorem perUnit_pos (unit : List Char) : 0 < perUnit unit := by
  unfold perUnit
  split <;> decide

omit [Formats] in
theorem fraction_nothing {before behind power : Nat} (small : behind < power)
    (same : behind * power = before * power + behind) : before = 0 ∧ behind = 0 := by
  have positive : 0 < power := Nat.lt_of_le_of_lt (Nat.zero_le _) small
  rcases Nat.lt_or_ge before behind with more | fewer
  · have wide : (before + 1) * power ≤ behind * power := Nat.mul_le_mul_right power more
    rw [Nat.add_mul,Nat.one_mul] at wide
    omega
  · have narrow : behind * power ≤ before * power := Nat.mul_le_mul_right power fewer
    have none : behind = 0 := by omega
    rw [none,Nat.zero_mul,Nat.add_zero] at same
    exact ⟨(Nat.mul_eq_zero.mp same.symm).resolve_right (by omega),none⟩

theorem decimal_digits {num : List Char} (numeric : ∀ c ∈ num, Host.isDigit c = true) :
    decimalValue num = some (digitsValue num : Rat) := by
  unfold decimalValue
  rw [List.dropWhile_eq_nil_iff.mpr numeric]

theorem last_other {one two behind num : List Char} {c d : Char} (first : Host.isDigit c = false)
    (second : Host.isDigit d = false) (some_ : ∀ e ∈ behind, Host.isDigit e = true)
    (numeric : ∀ e ∈ num, Host.isDigit e = true) (same : one ++ c :: behind = two ++ d :: num) :
    one = two ∧ c = d ∧ behind = num := by
  have turned : behind.reverse ++ c :: one.reverse = num.reverse ++ d :: two.reverse := by
    have reversed := congrArg List.reverse same
    simpa using reversed
  have taken := congrArg (List.takeWhile Host.isDigit) turned
  rw [List.takeWhile_append_of_pos fun e member => some_ e (List.mem_reverse.mp member),
    List.takeWhile_append_of_pos fun e member => numeric e (List.mem_reverse.mp member),
    List.takeWhile_cons_of_neg (by simp [first]),List.takeWhile_cons_of_neg (by simp [second]),
    List.append_nil,List.append_nil,List.reverse_inj] at taken
  subst taken
  obtain ⟨rfl,fronts⟩ := List.cons.inj (List.append_cancel_left turned)
  exact ⟨List.reverse_inj.mp fronts,rfl,rfl⟩

theorem decimal_fraction {lead num : List Char} {number : Rat} (some_ : lead ≠ [])
    (last : ∀ c ∈ lead.getLast?, Host.isDigit c = false)
    (numeric : ∀ c ∈ num, Host.isDigit c = true) (decimal : decimalValue (lead ++ num) = some number) :
    ∃ whole : List Char, number =
      ((digitsValue whole * 10 ^ num.length + digitsValue num : Nat) : Rat) / 10 ^ num.length := by
  obtain ⟨front,c,rfl⟩ : ∃ front c, lead = front ++ [c] :=
    ⟨_,_,(List.dropLast_append_getLast some_).symm⟩
  have other : Host.isDigit c = false := last c (by simp)
  unfold decimalValue at decimal
  split at decimal
  · rename_i none
    have digit := List.dropWhile_eq_nil_iff.mp none c (by simp)
    rw [other] at digit
    cases digit
  · rename_i point behind rest
    split at decimal
    · rename_i pointed
      obtain ⟨rfl,_,all⟩ := pointed
      have dot : Host.isDigit '.' = false := Host.isDigit_ascii '.' (by decide)
      have parts := List.takeWhile_append_dropWhile (p := Host.isDigit) (l := front ++ [c] ++ num)
      rw [rest,List.append_assoc] at parts
      obtain ⟨_,_,rfl⟩ := last_other dot other (List.all_eq_true.mp all) numeric parts
      cases decimal
      rw [digitsValue_append]
      exact ⟨_,rfl⟩
    · cases decimal

theorem fraction_minutes {before : Nat} {num : List Char} {per : Nat} {number : Rat} (plain : PlainDigits)
    (numeric : ∀ c ∈ num, Host.isDigit c = true) (positive : 0 < per)
    (value : number = ((before * 10 ^ num.length + digitsValue num : Nat) : Rat) / 10 ^ num.length) :
    ((digitsValue num * per : Nat) : Rat) = number * per ↔ number = 0 := by
  have unit_ : (per : Rat) ≠ 0 := by exact_mod_cast positive.ne'
  have power : (10 : Rat) ^ num.length ≠ 0 := pow_ne_zero _ (by norm_num)
  have small := digitsValue_lt plain numeric
  rw [value,Nat.cast_mul,mul_left_inj' unit_,eq_div_iff power,div_eq_zero_iff,or_iff_left power,
    Nat.cast_eq_zero]
  constructor
  · intro same
    have exact_ : digitsValue num * 10 ^ num.length =
        before * 10 ^ num.length + digitsValue num := by exact_mod_cast same
    obtain ⟨whole,after⟩ := fraction_nothing small exact_
    rw [whole,after]
    simp
  · intro nothing
    have after : digitsValue num = 0 := by omega
    rw [nothing,after]
    simp

-- The minutes are right when the text states one duration, in digits alone, however
-- durations may be written.
theorem duration_exact_iff (spelling : Spelling) (plain : PlainDigits) {text : String} {minutes : Int}
    {is24x7 business : Bool} (parsed : parseDuration text = .ok (some minutes,is24x7,business)) :
    ReadsAs spelling (Host.lower text).toList minutes ↔
      SingleWhole spelling (Host.lower text).toList := by
  obtain ⟨lead,num,unit,stated,listed,numeric,last,value⟩ := first_duration spelling plain parsed
  have cast_ : (minutes : Rat) = ((digitsValue num * perUnit unit.toList : Nat) : Rat) := by
    rw [value]
    exact Int.cast_natCast _
  have exact_ : (∃ number, decimalValue (lead ++ num) = some number ∧
      (minutes : Rat) = number * perUnit unit.toList) ↔
      (lead ++ num).all Host.isDigit = true ∨ decimalValue (lead ++ num) = some 0 := by
    by_cases none : lead = []
    · subst none
      refine iff_of_true ⟨_,decimal_digits numeric,?_⟩ (.inl (List.all_eq_true.mpr numeric))
      rw [cast_,Nat.cast_mul,List.nil_append]
    · have mixed : (lead ++ num).all Host.isDigit = false := by
        have member := List.getLast_mem none
        have other := last _ (List.getLast?_eq_some_getLast none)
        rw [List.all_eq_false]
        exact ⟨_,List.mem_append_left _ member,by simp [other]⟩
      rw [mixed,cast_]
      constructor
      · rintro ⟨number,decimal,same⟩
        obtain ⟨whole,fraction⟩ := decimal_fraction none last numeric decimal
        rw [(fraction_minutes plain numeric (perUnit_pos _) fraction).mp same] at decimal
        exact .inr decimal
      · rintro (whole | decimal)
        · cases whole
        · obtain ⟨whole,fraction⟩ := decimal_fraction none last numeric decimal
          exact ⟨0,decimal,(fraction_minutes plain numeric (perUnit_pos _) fraction).mpr rfl⟩
  constructor
  · rintro ⟨duration,number,only,_,decimal,same⟩
    rw [only,List.mem_singleton] at stated
    subst stated
    exact ⟨_,only,exact_.mp ⟨number,decimal,same⟩⟩
  · rintro ⟨duration,only,whole⟩
    rw [only,List.mem_singleton] at stated
    subst stated
    obtain ⟨number,decimal,same⟩ := exact_.mpr whole
    exact ⟨_,number,only,listed,decimal,same⟩

end Durations

theorem asciiFormats_plain : let _ := asciiFormats [] []
    PlainDigits := by
  intro _ c digit
  have codes := Pattern.digit_codes.mp digit
  refine ⟨?_,?_⟩
  · change c.toNat - 48 < 10
    omega
  · have blank : c ≠ ' ' := by
      rintro rfl
      exact absurd codes (by decide)
    change (c = ' ' || (9 ≤ c.toNat && c.toNat ≤ 13) || (28 ≤ c.toNat && c.toNat ≤ 31)) = false
    simp [blank]
    omega

-- A number is all of a run without blanks, whatever joins its digits; numbers and units
-- may be words and abbreviations.
def everydaySpelling : @Spelling (asciiFormats [] []) :=
  let _ := asciiFormats [] []
  { within := fun c => !(Host.isDigit c || Host.isSpace c)
    numberWords := ["a","an","half","quarter","one","two","three","four","five","six","seven","eight",
      "nine","ten","eleven","twelve","fifteen","twenty","thirty","forty","fifty","sixty","ninety"]
    between := fun c => c = '-'
    units := ["h","hr","hrs","hour","hours","m","min","mins","minute","minutes","s","sec","secs",
      "second","seconds","d","day","days","w","week","weeks","month","months","year","years","half",
      "quarter","quarters"]
    point := by decide
    within_apart := by
      intro c inside
      cases digit : Host.isDigit c with
      | false => rfl
      | true => simp [digit] at inside
    between_apart := by
      intro c hyphen
      rw [of_decide_eq_true hyphen]
      decide
    common := by decide }

theorem duration_exact_round : let _ := asciiFormats [] []
    parseDuration "30 minutes, 24x7" = .ok (some 30,true,false) ∧
      ReadsAs everydaySpelling (Host.lower "30 minutes, 24x7").toList 30 := by
  intro _
  have parsed : parseDuration "30 minutes, 24x7" = .ok (some 30,true,false) := by decide +kernel
  have stated : everydaySpelling.durations (Host.lower "30 minutes, 24x7").toList =
      [⟨['3','0'],"minutes"⟩] := by decide +kernel
  exact ⟨parsed,(duration_exact_iff everydaySpelling asciiFormats_plain parsed).mpr
    ⟨_,stated,.inl (by decide)⟩⟩

-- A compound duration: the hour counts, the minutes do not.
theorem compound_shortened : let _ := asciiFormats [] []
    parseDuration "1 hour 30 minutes" = .ok (some 60,false,false) ∧
      ¬ ReadsAs everydaySpelling (Host.lower "1 hour 30 minutes").toList 60 := by
  intro _
  refine ⟨by decide +kernel,?_⟩
  rintro ⟨duration,number,only,_⟩
  have two : (everydaySpelling.durations (Host.lower "1 hour 30 minutes").toList).length = 2 := by
    decide +kernel
  rw [only] at two
  cases two

end ParcelPilot
