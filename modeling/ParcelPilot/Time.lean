import ParcelPilot.Runtime

namespace ParcelPilot

def microsPerMinute : Int := 60000000
def microsPerDay : Int := 86400000000
-- days in the years 1 to 9999
def maxOrdinal : Int := 3652059

-- A date is the number of days since 0001-01-01.
abbrev Date := Int

-- An aware datetime with a fixed offset, as `datetime.fromisoformat` builds it:
-- local time in microseconds since 0001-01-01T00:00, and the offset from UTC.
-- The years 1 to 9999 are all there is.
structure DateTime where
  wall : Int
  offset : Int
  inRange : 0 ≤ wall ∧ wall < maxOrdinal * microsPerDay
deriving DecidableEq

-- `timedelta(microseconds=n)`: a C int of days, at most 999999999 of them
def timedelta (n : Int) : Except PyError Int :=
  let days := n / microsPerDay
  if days < -2147483648 ∨ 2147483647 < days then
    .error (.overflowError "Python int too large to convert to C int")
  else if days.natAbs > 999999999 then
    .error (.overflowError ("days=" ++ toString days ++ "; must have magnitude <= 999999999"))
  else .ok n

namespace DateTime

def instant (d : DateTime) : Int := d.wall - d.offset

instance : LE DateTime := ⟨fun a b => a.instant ≤ b.instant⟩
instance : LT DateTime := ⟨fun a b => a.instant < b.instant⟩
instance (a b : DateTime) : Decidable (a ≤ b) := inferInstanceAs (Decidable (a.instant ≤ b.instant))
instance (a b : DateTime) : Decidable (a < b) := inferInstanceAs (Decidable (a.instant < b.instant))

theorem le_of_not_lt {a b : DateTime} (notBefore : ¬ a < b) : b ≤ a := Int.not_lt.mp notBefore

-- `(a - b).total_seconds() / 60`
def minutesSince (a b : DateTime) : Rat := ((a.instant - b.instant : Int) : Rat) / microsPerMinute

-- `(a - b).total_seconds() / 3600`
def hoursSince (a b : DateTime) : Rat := minutesSince a b / 60

def date (d : DateTime) : Date := d.wall / microsPerDay

-- `d + timedelta(microseconds=n)`
def shift (d : DateTime) (n : Int) : Except PyError DateTime :=
  if inside : 0 ≤ d.wall + n ∧ d.wall + n < maxOrdinal * microsPerDay then
    .ok ⟨d.wall + n,d.offset,inside⟩
  else .error (.overflowError "date value out of range")

-- `d + timedelta(minutes=n)`, `d - timedelta(days=n)`
def plusMinutes (d : DateTime) (n : Int) : Except PyError DateTime :=
  (timedelta (n * microsPerMinute)).bind d.shift

def minusDays (d : DateTime) (n : Int) : Except PyError DateTime :=
  (timedelta (n * microsPerDay)).bind (fun length => d.shift (-length))

theorem minusDays_instant {d earlier : DateTime} {n : Int} (within : d.minusDays n = .ok earlier) :
    earlier.instant = d.instant - n * microsPerDay := by
  unfold minusDays timedelta at within
  dsimp only at within
  split at within
  · cases within
  · split at within
    · cases within
    · simp only [Except.bind,shift] at within
      split at within
      · cases within
        simp only [instant]
        omega
      · cases within

theorem minusDays_le {d one two : DateTime} {n m : Int} (first : d.minusDays n = .ok one)
    (second : d.minusDays m = .ok two) (longer : n ≤ m) : two ≤ one := by
  change two.instant ≤ one.instant
  rw [minusDays_instant first,minusDays_instant second]
  have days : n * microsPerDay ≤ m * microsPerDay := Int.mul_le_mul_of_nonneg_right longer (by decide)
  omega

end DateTime

-- A datetime as stored: ISO text with or without an offset.
structure Stamp where
  wall : Int
  offset : Option Int
  inRange : 0 ≤ wall ∧ wall < maxOrdinal * microsPerDay
deriving DecidableEq

-- `_dt`: a naive value takes the caller's zone.
def Stamp.read (stamp : Stamp) (tz : Int) : DateTime :=
  ⟨stamp.wall,stamp.offset.getD tz,stamp.inRange⟩

-- 1970-01-01
def DateTime.epoch : DateTime := ⟨719162 * microsPerDay,0,by decide⟩

def Stamp.epoch : Stamp := ⟨719162 * microsPerDay,none,by decide⟩

-- `SnapshotClock`: `now()` is always the same aware instant.
structure SnapshotClock where
  now : DateTime

def SnapshotClock.tz (clock : SnapshotClock) : Int := clock.now.offset

def padded (width : Nat) (n : Nat) : String :=
  let digits := toString n
  String.ofList (List.replicate (width - digits.length) '0') ++ digits

-- Year, month and day of an ordinal, counting 400-year cycles from 0000-03-01.
def civil (date : Date) : Nat × Nat × Nat :=
  let z := date.toNat + 306
  let era := z / 146097
  let doe := z % 146097
  let yoe := (doe - doe / 1460 + doe / 36524 - doe / 146096) / 365
  let doy := doe - (365 * yoe + yoe / 4 - yoe / 100)
  let mp := (5 * doy + 2) / 153
  let day := doy - (153 * mp + 2) / 5 + 1
  let month := if mp < 10 then mp + 3 else mp - 9
  (yoe + era * 400 + (if month ≤ 2 then 1 else 0),month,day)

def isoDate (date : Date) : String :=
  let (year,month,day) := civil date
  padded 4 year ++ "-" ++ padded 2 month ++ "-" ++ padded 2 day

def isoOffset (offset : Int) : String :=
  let seconds := offset.natAbs / 1000000
  (if offset < 0 then "-" else "+") ++ padded 2 (seconds / 3600) ++ ":" ++
    padded 2 (seconds / 60 % 60) ++
    (if seconds % 60 = 0 then "" else ":" ++ padded 2 (seconds % 60))

def isoLocal (wall : Int) : String :=
  let rest := (wall % microsPerDay).toNat
  let seconds := rest / 1000000
  isoDate (wall / microsPerDay) ++ "T" ++ padded 2 (seconds / 3600) ++ ":" ++
    padded 2 (seconds / 60 % 60) ++ ":" ++ padded 2 (seconds % 60) ++
    (if rest % 1000000 = 0 then "" else "." ++ padded 6 (rest % 1000000))

def DateTime.isoformat (d : DateTime) : String := isoLocal d.wall ++ isoOffset d.offset

-- `model_dump(mode="json")` of a datetime
def DateTime.json (d : DateTime) : PyValue :=
  .str (isoLocal d.wall ++ (if d.offset = 0 then "Z" else isoOffset d.offset))

example : isoDate 0 = "0001-01-01" ∧ isoDate 739843 = "2026-08-16" ∧
    isoDate (maxOrdinal - 1) = "9999-12-31" := by decide

end ParcelPilot
