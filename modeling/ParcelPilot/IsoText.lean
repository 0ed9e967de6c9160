import ParcelPilot.Calendar

namespace ParcelPilot.IsoText

open Calendar

-- A number of fixed width, and what stands behind it
def readDigits : Nat → Nat → List Char → Option (Nat × List Char)
  | 0,value,rest => some (value,rest)
  | _ + 1,_,[] => none
  | width + 1,value,c :: rest =>
      if c.isDigit then readDigits width (10 * value + (c.toNat - 48)) rest else none

def after (mark : Char) : List Char → Option (List Char)
  | [] => none
  | c :: rest => if c = mark then some rest else none

-- `YYYY-MM-DD`
def readDate (text : List Char) : Option (Date × List Char) := do
  let (year,rest) ← readDigits 4 0 text
  let rest ← after '-' rest
  let (month,rest) ← readDigits 2 0 rest
  let rest ← after '-' rest
  let (day,rest) ← readDigits 2 0 rest
  if ValidDate year month day then some (ordinal year month day,rest) else none

-- `[.ffffff]`
def readFraction : List Char → Option (Nat × List Char)
  | '.' :: rest => readDigits 6 0 rest
  | rest => some (0,rest)

-- `[:SS[.ffffff]]`
def readSeconds : List Char → Option ((Nat × Nat) × List Char)
  | ':' :: rest => do
      let (seconds,rest) ← readDigits 2 0 rest
      let (micros,rest) ← readFraction rest
      some ((seconds,micros),rest)
  | rest => some ((0,0),rest)

-- `HH:MM[:SS[.ffffff]]`, in microseconds
def readClock (text : List Char) : Option (Nat × List Char) := do
  let (hours,rest) ← readDigits 2 0 text
  let rest ← after ':' rest
  let (minutes,rest) ← readDigits 2 0 rest
  let ((seconds,micros),rest) ← readSeconds rest
  if hours < 24 ∧ minutes < 60 ∧ seconds < 60 then
    some (((hours * 60 + minutes) * 60 + seconds) * 1000000 + micros,rest)
  else none

-- Nothing, or `+` or `-` and a time
def readOffset : List Char → Option (Option Int)
  | [] => some none
  | sign :: rest =>
      match readClock rest with
      | some (micros,[]) =>
          if sign = '+' then some (some micros)
          else if sign = '-' then some (some (-micros))
          else none
      | _ => none

-- The extended format, date and time joined by `T`: of the many forms that
-- `datetime.fromisoformat` takes, the one that `isoformat` writes.
def isoStamp (text : String) : Option Stamp := do
  let (date,rest) ← readDate text.toList
  let rest ← after 'T' rest
  let (micros,rest) ← readClock rest
  let offset ← readOffset rest
  if inRange : 0 ≤ date * microsPerDay + micros ∧
      date * microsPerDay + micros < maxOrdinal * microsPerDay then
    some ⟨date * microsPerDay + micros,offset,inRange⟩
  else none

theorem readDigits_all {digits : List Char} (all : ∀ c ∈ digits, c.isDigit = true) (value : Nat)
    (rest : List Char) : readDigits digits.length value (digits ++ rest) =
      some (Nat.ofDigitChars 10 digits value,rest) := by
  induction digits generalizing value with
  | nil => rfl
  | cons c digits ih =>
      have here : c.isDigit = true := all c List.mem_cons_self
      change (if c.isDigit then readDigits digits.length (10 * value + (c.toNat - 48)) (digits ++ rest)
        else none) = _
      rw [if_pos here,ih (fun d member => all d (List.mem_cons_of_mem _ member))]
      rfl

theorem padded_toList (width n : Nat) : (padded width n).toList =
    List.replicate (width - (Nat.toDigits 10 n).length) '0' ++ Nat.toDigits 10 n := by
  simp [padded,Nat.toString_eq_repr,Nat.toList_repr,← String.length_toList]

theorem readDigits_padded {width n : Nat} (wide : 0 < width) (small : n < 10 ^ width)
    (rest : List Char) : readDigits width 0 ((padded width n).toList ++ rest) = some (n,rest) := by
  have fits : (Nat.toDigits 10 n).length ≤ width :=
    (Nat.length_toDigits_le_iff (by decide) wide).mpr small
  have length : (padded width n).toList.length = width := by
    rw [padded_toList,List.length_append,List.length_replicate]
    omega
  have digits : ∀ c ∈ (padded width n).toList, c.isDigit = true := by
    intro c member
    rw [padded_toList,List.mem_append] at member
    rcases member with zero | digit
    · rw [List.eq_of_mem_replicate zero]
      rfl
    · exact Nat.isDigit_of_mem_toDigits (by decide) (by decide) digit
  have read := readDigits_all digits 0 rest
  rw [length] at read
  rw [read,padded_toList,Nat.ofDigitChars_append,Nat.ofDigitChars_replicate_zero,Nat.mul_zero,
    Nat.ofDigitChars_ten_toDigits]

theorem after_mark (mark : Char) (rest : List Char) : after mark (mark :: rest) = some rest :=
  if_pos rfl

theorem readDate_isoDate {date : Date} (inRange : 0 ≤ date ∧ date < maxOrdinal) (rest : List Char) :
    readDate ((isoDate date).toList ++ rest) = some (date,rest) := by
  obtain ⟨valid,same⟩ := civil_valid inRange
  unfold isoDate
  generalize civil date = found at valid same ⊢
  obtain ⟨year,month,day⟩ := found
  dsimp only at valid same ⊢
  have longest : daysInMonth year month ≤ 31 := by
    unfold daysInMonth
    split <;> split <;> omega
  have years : year < 10 ^ 4 := Nat.lt_of_le_of_lt valid.1.2 (by decide)
  have months : month < 10 ^ 2 := Nat.lt_of_le_of_lt valid.2.1.2 (by decide)
  have days : day < 10 ^ 2 := Nat.lt_of_le_of_lt (Nat.le_trans valid.2.2.2 longest) (by decide)
  simp only [String.toList_append,List.append_assoc,show "-".toList = ['-'] from rfl,
    List.cons_append,List.nil_append]
  unfold readDate
  rw [readDigits_padded (by decide) years]
  simp only [Option.bind_eq_bind,Option.bind_some,after_mark]
  rw [readDigits_padded (by decide) months]
  simp only [Option.bind_some,after_mark]
  rw [readDigits_padded (by decide) days]
  simp only [Option.bind_some]
  rw [if_pos valid,same]

theorem readSeconds_none {rest : List Char} (last : rest.head? ≠ some ':') :
    readSeconds rest = some ((0,0),rest) := by
  unfold readSeconds
  split
  · exact absurd rfl last
  · rfl

theorem readSeconds_whole {seconds : Nat} (small : seconds < 60) {rest : List Char}
    (last : rest.head? ≠ some '.') :
    readSeconds (':' :: ((padded 2 seconds).toList ++ rest)) = some ((seconds,0),rest) := by
  unfold readSeconds readFraction
  simp only
  rw [readDigits_padded (by decide) (Nat.lt_trans small (by decide))]
  simp only [Option.bind_eq_bind,Option.bind_some]
  split
  · exact absurd rfl last
  · rfl

theorem readSeconds_fraction {seconds micros : Nat} (small : seconds < 60) (below : micros < 1000000)
    (rest : List Char) :
    readSeconds (':' :: ((padded 2 seconds).toList ++ '.' :: ((padded 6 micros).toList ++ rest))) =
      some ((seconds,micros),rest) := by
  unfold readSeconds readFraction
  simp only
  rw [readDigits_padded (by decide) (Nat.lt_trans small (by decide))]
  simp only [Option.bind_eq_bind,Option.bind_some]
  rw [readDigits_padded (by decide) (Nat.lt_of_lt_of_le below (by decide))]
  rfl

theorem readClock_parts {hours minutes seconds micros : Nat} {behind rest : List Char}
    (day : hours < 24) (hour : minutes < 60) (minute : seconds < 60)
    (last : readSeconds behind = some ((seconds,micros),rest)) :
    readClock ((padded 2 hours).toList ++ ':' :: ((padded 2 minutes).toList ++ behind)) =
      some (((hours * 60 + minutes) * 60 + seconds) * 1000000 + micros,rest) := by
  unfold readClock
  rw [readDigits_padded (by decide) (Nat.lt_trans day (by decide))]
  simp only [Option.bind_eq_bind,Option.bind_some,after_mark]
  rw [readDigits_padded (by decide) (Nat.lt_trans hour (by decide))]
  simp only [Option.bind_some,last]
  rw [if_pos ⟨day,hour,minute⟩]

theorem clock_value (seconds : Nat) :
    (seconds / 3600 * 60 + seconds / 60 % 60) * 60 + seconds % 60 = seconds := by omega

-- What `isoformat` writes of an offset is whole seconds.
def Whole (offset : Int) : Prop := offset % 1000000 = 0 ∧ offset.natAbs < 86400000000

instance (offset : Int) : Decidable (Whole offset) := inferInstanceAs (Decidable (_ ∧ _))

theorem readClock_offset {seconds : Nat} (bounded : seconds < 86400) :
    readClock ((padded 2 (seconds / 3600)).toList ++ ':' :: ((padded 2 (seconds / 60 % 60)).toList ++
      (if seconds % 60 = 0 then "" else ":" ++ padded 2 (seconds % 60)).toList)) =
        some (seconds * 1000000,[]) := by
  have hours : seconds / 3600 < 24 := by omega
  have minutes : seconds / 60 % 60 < 60 := Nat.mod_lt _ (by decide)
  have value := clock_value seconds
  by_cases none_ : seconds % 60 = 0
  · rw [if_pos none_,readClock_parts hours minutes (by decide : 0 < 60) (readSeconds_none (by decide)),
      Nat.add_zero]
    rw [none_] at value
    rw [value]
    rfl
  · have last := @readSeconds_whole (seconds % 60) (Nat.mod_lt seconds (by decide)) [] (by decide)
    rw [List.append_nil] at last
    rw [if_neg none_,String.toList_append,show ":".toList = [':'] from rfl,List.singleton_append,
      readClock_parts hours minutes (Nat.mod_lt _ (by decide)) last,Nat.add_zero,value]

theorem readOffset_east {text : List Char} {micros : Nat} (read : readClock text = some (micros,[])) :
    readOffset ('+' :: text) = some (some (micros : Int)) := by
  simp only [readOffset,read]
  rfl

theorem readOffset_west {text : List Char} {micros : Nat} (read : readClock text = some (micros,[])) :
    readOffset ('-' :: text) = some (some (-(micros : Int))) := by
  simp only [readOffset,read]
  rfl

theorem readOffset_isoOffset {offset : Int} (whole : Whole offset) :
    readOffset (isoOffset offset).toList = some (some offset) := by
  obtain ⟨exact_,bounded⟩ := whole
  have read := readClock_offset (show offset.natAbs / 1000000 < 86400 by omega)
  have value : offset.natAbs / 1000000 * 1000000 = offset.natAbs := by omega
  rw [value] at read
  unfold isoOffset
  simp only [String.toList_append,List.append_assoc,show ":".toList = [':'] from rfl,
    List.cons_append,List.nil_append]
  by_cases negative : offset < 0
  · have signed : -(offset.natAbs : Int) = offset := by omega
    rw [if_pos negative,show "-".toList = ['-'] from rfl,List.cons_append,List.nil_append,
      readOffset_west read,signed]
  · have signed : (offset.natAbs : Int) = offset := by omega
    rw [if_neg negative,show "+".toList = ['+'] from rfl,List.cons_append,List.nil_append,
      readOffset_east read,signed]

theorem isoOffset_head (offset : Int) (mark : Char) (other : mark ≠ '+' ∧ mark ≠ '-') :
    (isoOffset offset).toList.head? ≠ some mark := by
  unfold isoOffset
  simp only [String.toList_append]
  split
  · exact fun same => other.2 (Option.some.inj same).symm
  · exact fun same => other.1 (Option.some.inj same).symm

theorem readClock_local {micros : Nat} (inDay : micros < 86400000000) {offset : List Char}
    (point : offset.head? ≠ some '.') :
    readClock ((padded 2 (micros / 1000000 / 3600)).toList ++
      ':' :: ((padded 2 (micros / 1000000 / 60 % 60)).toList ++
        ':' :: ((padded 2 (micros / 1000000 % 60)).toList ++
          ((if micros % 1000000 = 0 then "" else "." ++ padded 6 (micros % 1000000)).toList ++
            offset)))) = some (micros,offset) := by
  have hours : micros / 1000000 / 3600 < 24 := by omega
  have value := clock_value (micros / 1000000)
  have split_ : micros / 1000000 * 1000000 + micros % 1000000 = micros := Nat.div_add_mod' _ _
  have minutes : micros / 1000000 / 60 % 60 < 60 := Nat.mod_lt _ (by decide)
  have seconds : micros / 1000000 % 60 < 60 := Nat.mod_lt _ (by decide)
  by_cases whole : micros % 1000000 = 0
  · rw [whole] at split_
    rw [if_pos whole,show "".toList = [] from rfl,List.nil_append,
      readClock_parts hours minutes seconds (readSeconds_whole seconds point),value,split_]
  · have below : micros % 1000000 < 1000000 := Nat.mod_lt _ (by decide)
    rw [if_neg whole,String.toList_append,show ".".toList = ['.'] from rfl,List.cons_append,
      List.nil_append,List.cons_append,
      readClock_parts hours minutes seconds (readSeconds_fraction seconds below _),value,split_]

theorem isoStamp_isoformat {instant : DateTime} (whole : Whole instant.offset) :
    isoStamp instant.isoformat = some ⟨instant.wall,some instant.offset,instant.inRange⟩ := by
  obtain ⟨wall,offset,inRange⟩ := instant
  dsimp only at whole ⊢
  have dateRange : 0 ≤ wall / microsPerDay ∧ wall / microsPerDay < maxOrdinal := by
    unfold microsPerDay maxOrdinal at *
    omega
  have inDay : (wall % microsPerDay).toNat < 86400000000 := by
    unfold microsPerDay
    omega
  have rest : wall / microsPerDay * microsPerDay + (wall % microsPerDay).toNat = wall := by
    unfold microsPerDay
    omega
  unfold isoStamp DateTime.isoformat isoLocal
  simp only [String.toList_append,List.append_assoc,show ":".toList = [':'] from rfl,
    show "T".toList = ['T'] from rfl,List.cons_append,List.nil_append]
  rw [readDate_isoDate dateRange]
  simp only [Option.bind_eq_bind,Option.bind_some,after_mark]
  rw [readClock_local inDay (isoOffset_head offset '.' (by decide))]
  simp only [Option.bind_some,readOffset_isoOffset whole,rest]
  rw [dif_pos inRange]

example : isoStamp "2026-02-29T10:00:00+05:30" = none ∧
    (isoStamp "2024-02-29T10:00:00.25+05:30").isNone ∧
    (isoStamp "2024-02-29T10:00:00-00:30").map (·.offset) = some (some (-1800000000)) := by
  decide +kernel

end ParcelPilot.IsoText
