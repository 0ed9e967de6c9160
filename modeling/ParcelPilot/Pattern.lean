import Mathlib.Data.List.Basic

namespace ParcelPilot

-- Backtracking patterns over a text that remembers what stands to the left.
-- Repetition is of one character class at a time; `most = none` is unbounded.
inductive Pattern where
  | empty
  | one (accepts : Char → Bool)
  | seq (first second : Pattern)
  | either (left right : Pattern)
  | maybe (body : Pattern)
  | many (accepts : Char → Bool) (least : Nat) (most : Option Nat)
  | boundary
  | notAfter (left : List (Char → Bool))

namespace Pattern

-- A place in a text: the characters before it, nearest first, and after it.
structure Cursor where
  before : List Char
  after : List Char
deriving DecidableEq,Repr

def Cursor.start (text : List Char) : Cursor := ⟨[],text⟩

def Cursor.advance : Nat → Cursor → Cursor
  | 0,cursor => cursor
  | _ + 1,⟨before,[]⟩ => ⟨before,[]⟩
  | n + 1,⟨before,c :: after⟩ => advance n ⟨c :: before,after⟩

-- How many characters of the class stand ahead, up to the bound.
def runLength (accepts : Char → Bool) : Option Nat → List Char → Nat
  | some 0,_ => 0
  | _,[] => 0
  | most,c :: rest => if accepts c then runLength accepts (most.map (· - 1)) rest + 1 else 0

-- Greedy: the longest run first, then one fewer, down to `least`.
def downFrom (longest least : Nat) : List Nat :=
  ((List.range (longest + 1)).filter (least ≤ ·)).reverse

def wordAt (isWord : Char → Bool) : List Char → Bool
  | [] => false
  | c :: _ => isWord c

-- Whether the nearest characters to the left are of these classes, nearest first.
def standsBefore : List (Char → Bool) → List Char → Bool
  | [],_ => true
  | _ :: _,[] => false
  | accepts :: classes,c :: rest => accepts c && standsBefore classes rest

-- Every way to match here, in the order a backtracking matcher tries them.
def ends (isWord : Char → Bool) : Pattern → Cursor → List Cursor
  | .empty,cursor => [cursor]
  | .one accepts,cursor =>
      match cursor.after with
      | [] => []
      | c :: rest => if accepts c then [⟨c :: cursor.before,rest⟩] else []
  | .seq first second,cursor => (ends isWord first cursor).flatMap (ends isWord second)
  | .either left right,cursor => ends isWord left cursor ++ ends isWord right cursor
  | .maybe body,cursor => ends isWord body cursor ++ [cursor]
  | .many accepts least most,cursor =>
      (downFrom (runLength accepts most cursor.after) least).map (cursor.advance ·)
  | .boundary,cursor =>
      if wordAt isWord cursor.before != wordAt isWord cursor.after then [cursor] else []
  | .notAfter left,cursor => if standsBefore left.reverse cursor.before then [] else [cursor]

def matchHere (isWord : Char → Bool) (pattern : Pattern) (cursor : Cursor) : Option Cursor :=
  (ends isWord pattern cursor).head?

-- `re.search(...) is not None`
def searchFrom (isWord : Char → Bool) (pattern : Pattern) : List Char → List Char → Bool
  | before,[] => (matchHere isWord pattern ⟨before,[]⟩).isSome
  | before,c :: rest =>
      (matchHere isWord pattern ⟨before,c :: rest⟩).isSome ||
        searchFrom isWord pattern (c :: before) rest

def search (isWord : Char → Bool) (pattern : Pattern) (text : String) : Bool :=
  searchFrom isWord pattern [] text.toList

-- `re.finditer`: leftmost matches, each starting no earlier than the last one
-- ended. A match is the cursor it starts at and its text. `skip` counts the
-- characters of the last match still to be passed.
def findFrom (isWord : Char → Bool) (pattern : Pattern) :
    Nat → List Char → List Char → List (Cursor × List Char)
  | _,_,[] => []
  | skip + 1,before,c :: rest => findFrom isWord pattern skip (c :: before) rest
  | 0,before,c :: rest =>
      match matchHere isWord pattern ⟨before,c :: rest⟩ with
      | none => findFrom isWord pattern 0 (c :: before) rest
      | some stop =>
          let length := (c :: rest).length - stop.after.length
          (⟨before,c :: rest⟩,(c :: rest).take length) ::
            findFrom isWord pattern (length - 1) (c :: before) rest

def findIter (isWord : Char → Bool) (pattern : Pattern) (text : String) :
    List (Cursor × List Char) := findFrom isWord pattern 0 [] text.toList

-- `re.findall` of a pattern without groups
def findAll (isWord : Char → Bool) (pattern : Pattern) (text : String) : List String :=
  (findIter isWord pattern text).map (fun found => String.ofList found.2)

def sequence : List Pattern → Pattern
  | [] => .empty
  | [last] => last
  | first :: rest => .seq first (sequence rest)

def oneOf : List Pattern → Pattern
  | [] => .one (fun _ => false)
  | [last] => last
  | first :: rest => .either first (oneOf rest)

-- A literal text, up to an equivalence of letters.
def literal (same : Char → Char → Bool) (text : String) : Pattern :=
  sequence (text.toList.map (fun c => .one (same c)))

example : findAll (fun c => c.isAlphanum) (.seq .boundary (.seq (.many Char.isAlpha 2 (some 8))
    (.seq (.one (· = '-')) (.many Char.isDigit 1 none)))) "see ORD-12, x-1 and tkt-7." =
    ["ORD-12","tkt-7"] := by decide

end Pattern

end ParcelPilot
