import ParcelPilot.Raising
import ParcelPilot.Records

namespace ParcelPilot

-- `datetime.min` to `datetime.max`, in microseconds
abbrev WallTime (wall : Int) : Prop := 0 ≤ wall ∧ wall < maxOrdinal * microsPerDay

-- A value as openpyxl reads it from a sheet. Its datetimes are naive.
inductive Cell where
  | blank
  | bool (value : Bool)
  | int (value : Int)
  | float (value : PyFloat)
  | str (value : String)
  | datetime (wall : Int) (inRange : WallTime wall)
  | date (day : Date) (inRange : 0 ≤ day ∧ day < maxOrdinal)
  | time (micros : Nat)
  | timedelta (micros : Int)
deriving DecidableEq

-- `bool(value)`
def Cell.truthy : Cell → Bool
  | .blank => false
  | .bool value => value
  | .int value => value != 0
  | .float value => value != 0
  | .str value => value != ""
  | .datetime .. => true
  | .date .. => true
  | .time _ => true
  | .timedelta micros => micros != 0

-- the type as a TypeError names it
def Cell.typeName : Cell → String
  | .blank => "NoneType"
  | .bool _ => "bool"
  | .int _ => "int"
  | .float _ => "float"
  | .str _ => "str"
  | .datetime .. => "datetime.datetime"
  | .date .. => "datetime.date"
  | .time _ => "datetime.time"
  | .timedelta _ => "datetime.timedelta"

-- What ingestion takes from the interpreter and its libraries beyond the host:
-- Unicode tables, the readers of dates and numbers, the zone database, and how
-- values and validation failures print. A zone gives the offset at a wall time.
class Formats extends Host where
  upper : String → String
  nfkc : String → String
  digitValue : Char → Nat
  parseFloat : String → Option PyFloat
  fromisoformat : String → Except String Stamp
  strptimeDate : String → Option Date
  zoneInfo : String → Option (Int → Int)
  strCell : Cell → String
  reprCell : Cell → String
  reprRow : List (Cell × Cell) → String
  validationError : String → List (String × Cell) → String
  upper_ascii : ∀ s : String, (∀ c ∈ s.toList, c.toNat < 128) →
    upper s = String.ofList (s.toList.map Char.toUpper)
  nfkc_ascii : ∀ s : String, (∀ c ∈ s.toList, c.toNat < 128) → nfkc s = s
  digitValue_ascii : ∀ c : Char, c.isDigit → digitValue c = c.toNat - 48
  strCell_str : ∀ text : String, strCell (.str text) = text

-- Formats for ASCII text: dates and times are looked up, numbers are whole, and
-- values print as their kind.
@[reducible] def asciiFormats (stamps : List (String × Stamp)) (dates : List (String × Date)) :
    Formats := {asciiHost [] [] with
  upper := fun s => String.ofList (s.toList.map Char.toUpper)
  nfkc := id
  digitValue := fun c => c.toNat - 48
  parseFloat := fun text =>
    if text = "nan" then some .nan else if text = "inf" then some (.infinite false)
    else text.toInt?.map fun value => .finite value
  fromisoformat := fun text => match stamps.lookup text with
    | none => .error ("Invalid isoformat string: '" ++ text ++ "'")
    | some stamp => .ok stamp
  strptimeDate := fun text => dates.lookup text
  zoneInfo := fun name => if name = "Asia/Kolkata" then some (fun _ => 19800000000) else none
  strCell := fun cell => match cell with
    | .str text => text
    | other => other.typeName
  reprCell := Cell.typeName
  reprRow := fun row => toString row.length
  validationError := fun model _ => model
  upper_ascii := fun _ _ => rfl
  nfkc_ascii := fun _ _ => rfl
  digitValue_ascii := fun _ _ => rfl
  strCell_str := fun _ => rfl}

-- app/errors.py, with what Python and the file libraries raise by themselves
inductive IngestError where
  | sourceDirectoryNotFound (path : String)
  | missingSourceFile (filename sourceDir : String)
  | checksumMismatch (filename expected actual : String)
  | sourceMetadataDrift (sourceId field manifestValue parsedValue : String)
  | documentParse (filename reason : String)
  | malformedWorkbook (reason : String)
  | invalidSnapshotTimestamp (raw reason : String)
  | stopIteration
  | library (message : String)
  | raised (error : PyError)
deriving DecidableEq,Repr

-- `str(exc)`
def IngestError.message [Host] : IngestError → String
  | .sourceDirectoryNotFound path => "source directory not found: " ++ path
  | .missingSourceFile filename sourceDir =>
      "expected source file missing: " ++ filename ++ " (in " ++ sourceDir ++ ")"
  | .checksumMismatch filename expected actual =>
      "checksum mismatch for " ++ filename ++ ": expected " ++ Py.truncate 12 expected ++
        "..., got " ++ Py.truncate 12 actual ++
        "... (source pack differs from the one Phase 0 analyzed)"
  | .sourceMetadataDrift sourceId field manifestValue parsedValue =>
      sourceId ++ ": manifest says " ++ field ++ "=" ++ manifestValue ++
        " but the document text parses to " ++ field ++ "=" ++ parsedValue
  | .documentParse filename reason => "failed to parse " ++ filename ++ ": " ++ reason
  | .malformedWorkbook reason => "malformed workbook: " ++ reason
  | .invalidSnapshotTimestamp raw reason =>
      "invalid snapshot timestamp " ++ Host.reprStr raw ++ ": " ++ reason
  | .stopIteration => ""
  | .library message => message
  | .raised error => error.message

abbrev Ingest := Except IngestError

namespace Py

-- `str.splitlines()`; "\r\n" is one break, and a last break ends no new line.
def isLineBreak (c : Char) : Bool :=
  c.toNat ∈ [10,11,12,13,28,29,30,133,8232,8233]

def linesFrom (afterReturn : Bool) (pending : List Char) : List Char → List (List Char)
  | [] => if pending.isEmpty then [] else [pending.reverse]
  | c :: rest =>
      if afterReturn && c = '\n' then linesFrom false pending rest
      else if isLineBreak c then pending.reverse :: linesFrom (c = '\r') [] rest
      else linesFrom false (c :: pending) rest

def splitlines (text : String) : List String := (linesFrom false [] text.toList).map String.ofList

section Text

variable [Host]

def lstrip (text : List Char) : List Char := text.dropWhile Host.isSpace

-- `text.strip()`
def stripped (text : List Char) : List Char := (lstrip (lstrip text).reverse).reverse

def strip (text : String) : String := String.ofList (stripped text.toList)

-- `[ln.strip() for ln in text.splitlines() if ln.strip()]`
def textLines (text : String) : List String := ((splitlines text).map strip).filter (· ≠ "")

-- `f"{value!r}"` of an optional text
def reprOptional : Option String → String
  | none => "None"
  | some text => Host.reprStr text

end Text

-- `text.split(separator)`; `skip` counts the characters of a separator still to
-- be passed.
def splitFrom (separator : List Char) : Nat → List Char → List Char → List (List Char)
  | _,pending,[] => [pending.reverse]
  | skip + 1,pending,_ :: rest => splitFrom separator skip pending rest
  | 0,pending,c :: rest =>
      if separator.isPrefixOf (c :: rest) then
        pending.reverse :: splitFrom separator (separator.length - 1) [] rest
      else splitFrom separator 0 (c :: pending) rest

def splitOn (separator text : String) : List String :=
  (splitFrom separator.toList 0 [] text.toList).map String.ofList

-- `text.removeprefix(wanted)`
def removePrefix (wanted text : String) : String :=
  if wanted.toList.isPrefixOf text.toList then String.ofList (text.toList.drop wanted.length) else text

-- `int(...)` of a run of decimal digits
def maxStrDigits : Nat := 4300

def int [Formats] (digits : List Char) : Ingest Int :=
  if maxStrDigits < digits.length then
    .error (.raised (.valueError ("Exceeds the limit (" ++ toString maxStrDigits ++
      " digits) for integer string conversion: value has " ++ toString digits.length ++
      " digits; use sys.set_int_max_str_digits() to increase the limit")))
  else .ok (digits.foldl (fun value c => 10 * value + Formats.digitValue c) 0 : Nat)

example : splitlines "a\r\nb\n\nc\n" = ["a","b","","c"] := by decide

example : splitOn " to " "1 May to 2 May to 3" = ["1 May","2 May","3"] := by decide

end Py

end ParcelPilot
