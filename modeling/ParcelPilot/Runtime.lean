import Mathlib.Data.String.Basic
import Mathlib.Data.List.Sort
import ParcelPilot.Floats
import ParcelPilot.Pattern

namespace ParcelPilot

-- What the interpreter and its libraries do beyond the program's own text:
-- Unicode classes, number formatting, the digest, the full-text index, the
-- prompt files. Every result below holds for all of them; the laws record what
-- is documented of ASCII.
class Host where
  isSpace : Char → Bool
  isWord : Char → Bool
  isDigit : Char → Bool
  sameLetter : Char → Char → Bool
  lower : String → String
  reprStr : String → String
  reprFloat : PyFloat → String
  fixed : Nat → Rat → String
  general : Rat → String
  percent : Rat → String
  round3 : Rat → Rat
  sha256Hex : String → String
  -- corpus of indexed texts, query, position in the corpus: snippet and bm25
  fts5 : List String → String → Nat → Option (String × Rat)
  loadPrompt : String → String
  isSpace_ascii : ∀ c : Char, c.toNat < 128 →
    isSpace c = (c = ' ' || (9 ≤ c.toNat && c.toNat ≤ 13) || (28 ≤ c.toNat && c.toNat ≤ 31))
  isWord_ascii : ∀ c : Char, c.toNat < 128 → isWord c = (c.isAlphanum || c = '_')
  isDigit_ascii : ∀ c : Char, c.toNat < 128 → isDigit c = c.isDigit
  sameLetter_ascii : ∀ c d : Char, c.toNat < 128 → d.toNat < 128 →
    sameLetter c d = (c.toLower = d.toLower)
  lower_ascii : ∀ s : String, (∀ c ∈ s.toList, c.toNat < 128) →
    lower s = String.ofList (s.toList.map Char.toLower)

-- Rounding half to even, as decimal formatting does.
def roundHalfEven (value : Rat) : Int :=
  let below := value.floor
  if 2 * (value - below) < 1 then below
  else if 1 < 2 * (value - below) then below + 1
  else if below % 2 = 0 then below else below + 1

def decimal (digits : Nat) (value : Rat) : String :=
  let scaled := (roundHalfEven (value * 10 ^ digits)).natAbs
  let fraction := toString (scaled % 10 ^ digits)
  (if value < 0 then "-" else "") ++ toString (scaled / 10 ^ digits) ++
    (if digits = 0 then ""
      else "." ++ String.ofList (List.replicate (digits - fraction.length) '0') ++ fraction)

-- The fewest digits, from `least` on, that lose nothing; at most 16.
def shortest (least : Nat) (value : Rat) : String :=
  decimal (((List.range 16).find? fun digits =>
    least ≤ digits && (value * 10 ^ digits).isInt).getD 16) value

-- `repr` of a float, of the size it has here
def floatText : PyFloat → String
  | .finite value => shortest 1 value
  | .infinite negative => if negative then "-inf" else "inf"
  | .nan => "nan"

-- A host for ASCII text of moderate size and an empty full-text index. The
-- digest and the prompts are looked up.
@[reducible] def asciiHost (digests prompts : List (String × String)) : Host where
  isSpace c := c = ' ' || (9 ≤ c.toNat && c.toNat ≤ 13) || (28 ≤ c.toNat && c.toNat ≤ 31)
  isWord c := c.isAlphanum || c = '_'
  isDigit := Char.isDigit
  sameLetter c d := c.toLower = d.toLower
  lower s := String.ofList (s.toList.map Char.toLower)
  reprStr s := "'" ++ s ++ "'"
  reprFloat := floatText
  fixed := decimal
  general := shortest 0
  percent value := decimal 0 (value * 100) ++ "%"
  round3 value := (roundHalfEven (value * 1000) : Rat) / 1000
  sha256Hex text := (digests.lookup text).getD ""
  fts5 _ _ _ := none
  loadPrompt version := (prompts.lookup version).getD ""
  isSpace_ascii _ _ := rfl
  isWord_ascii _ _ := rfl
  isDigit_ascii _ _ := rfl
  sameLetter_ascii _ _ _ _ := by simp
  lower_ascii _ _ := rfl

-- Python's built-in text and container operations, where Lean's differ.
namespace Py

variable [Host]

def join (separator : String) (parts : List String) : String := separator.intercalate parts

-- `str.split()`: runs of non-space characters
def words : List Char → List (List Char)
  | [] => []
  | c :: rest =>
      if Host.isSpace c then words rest
      else match rest,words rest with
        | [],_ => [[c]]
        | next :: _,found =>
            if Host.isSpace next then [c] :: found
            else match found with
              | [] => [[c]]
              | word :: others => (c :: word) :: others

def split (text : String) : List String := (words text.toList).map String.ofList

-- `text.split(separator)[0]`
def before (separator : Char) (text : String) : String :=
  String.ofList (text.toList.takeWhile (· != separator))

-- `not text.strip()`
def isBlank (text : String) : Bool := text.toList.all Host.isSpace

-- `needle in hay`
def occursIn (needle hay : String) : Bool :=
  hay.toList.tails.any (needle.toList.isPrefixOf ·)

def truncate (n : Nat) (text : String) : String := String.ofList (text.toList.take n)

-- `f"{xs}"` of a list of strings
def reprList (items : List String) : String :=
  "[" ++ join ", " (items.map Host.reprStr) ++ "]"

def bool : Bool → String
  | true => "True"
  | false => "False"

-- `json.dumps` of a string: everything outside printable ASCII is escaped, in
-- UTF-16 units.
def hexDigit (n : Nat) : Char := if n < 10 then Char.ofNat (48 + n) else Char.ofNat (87 + n)

def hex4 (n : Nat) : String := String.ofList
  [hexDigit (n / 4096 % 16),hexDigit (n / 256 % 16),hexDigit (n / 16 % 16),hexDigit (n % 16)]

def jsonChar (c : Char) : String :=
  let n := c.toNat
  if c = '"' then "\\\""
  else if c = '\\' then "\\\\"
  else if n = 10 then "\\n"
  else if n = 13 then "\\r"
  else if n = 9 then "\\t"
  else if n = 8 then "\\b"
  else if n = 12 then "\\f"
  else if 32 ≤ n ∧ n < 127 then String.singleton c
  else if n < 65536 then "\\u" ++ hex4 n
  else "\\u" ++ hex4 (55296 + (n - 65536) / 1024) ++ "\\u" ++ hex4 (56320 + (n - 65536) % 1024)

def jsonString (text : String) : String := "\"" ++ String.join (text.toList.map jsonChar) ++ "\""

-- `sorted(set(xs))`
def sortedSet (items : List String) : List String := items.dedup.insertionSort (· ≤ ·)

def sorted (items : List String) : List String := items.insertionSort (· ≤ ·)

-- A dict in insertion order: `d[key] = value`
def dictSet {κ ν : Type} [DecidableEq κ] : List (κ × ν) → κ → ν → List (κ × ν)
  | [],key,value => [(key,value)]
  | (k,v) :: rest,key,value =>
      if k = key then (k,value) :: rest else (k,v) :: dictSet rest key value

-- `d.setdefault(key, []).append(value)`
def dictAppend {κ ν : Type} [DecidableEq κ] : List (κ × List ν) → κ → ν → List (κ × List ν)
  | [],key,value => [(key,[value])]
  | (k,vs) :: rest,key,value =>
      if k = key then (k,vs ++ [value]) :: rest else (k,vs) :: dictAppend rest key value

def dictGet {κ ν : Type} [DecidableEq κ] (dict : List (κ × ν)) (key : κ) : Option ν :=
  (dict.find? (fun entry => entry.1 = key)).map (·.2)

-- Occurrences after the first are dropped, order kept, `seen` excluded.
def firstOccurrences {κ ν : Type} [DecidableEq κ] (key : ν → κ) : List κ → List ν → List ν
  | _,[] => []
  | seen,item :: rest =>
      if key item ∈ seen then firstOccurrences key seen rest
      else item :: firstOccurrences key (key item :: seen) rest

end Py

-- Values as they appear in dicts that are dumped or printed.
inductive PyValue where
  | none
  | bool (value : Bool)
  | int (value : Int)
  | float (value : PyFloat)
  | str (value : String)
  | dict (entries : List (String × PyValue))

-- `f"{value}"` of a dumped value
def PyValue.repr [Host] : PyValue → String
  | .none => "None"
  | .bool value => Py.bool value
  | .int value => toString value
  | .float value => Host.reprFloat value
  | .str value => Host.reprStr value
  | .dict entries => "\x7b" ++ Py.join ", " (pairs entries) ++ "\x7d"
where
  pairs : List (String × PyValue) → List String
    | [] => []
    | (key,value) :: rest => (Host.reprStr key ++ ": " ++ value.repr) :: pairs rest

-- Exceptions the program raises or lets through.
inductive PyError where
  | notAuthorized (reason : String)
  | unknownEntity (entityType entityId : String)
  | invalidFilter (reason : String)
  | valueError (message : String)
  | keyError (message : String)
  | typeError (message : String)
  | overflowError (message : String)
  | assertionError
  | integrityError (message : String)
  | operationalError (message : String)
  | importError (message : String)
  | httpException (statusCode : Nat) (detail : String)
deriving DecidableEq,Repr

-- `str(exc)`
def PyError.message : PyError → String
  | .notAuthorized reason => "not authorized: " ++ reason
  | .unknownEntity entityType entityId => "unknown " ++ entityType ++ ": " ++ entityId
  | .invalidFilter reason => "invalid filter: " ++ reason
  | .valueError message => message
  | .keyError message => message
  | .typeError message => message
  | .overflowError message => message
  | .assertionError => ""
  | .integrityError message => message
  | .operationalError message => message
  | .importError message => message
  | .httpException statusCode detail => toString statusCode ++ ": " ++ detail

end ParcelPilot
