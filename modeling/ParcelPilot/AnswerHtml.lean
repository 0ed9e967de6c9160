import Mathlib.Data.List.Basic
import Mathlib.Tactic.Common

namespace ParcelPilot

namespace Page

-- As much of HTML as an answer is written in: text, its character references and
-- the tags of a strong element
inductive Piece where
  | text (c : Char)
  | opening
  | closing
deriving DecidableEq,Repr

def markup : List (List Char × Piece) := [(['<','s','t','r','o','n','g','>'],.opening),
  (['<','/','s','t','r','o','n','g','>'],.closing),(['&','a','m','p',';'],.text '&'),
  (['&','l','t',';'],.text '<'),(['&','g','t',';'],.text '>')]

def special (c : Char) : Bool := c = '<' || c = '>' || c = '&'

-- The piece that is written here, and what stands behind it
def readMarkup (html : List Char) : Option (Piece × List Char) :=
  markup.findSome? fun (written,piece) => (html.dropPrefix? written).map (piece,·)

-- Any other tag or reference is not read.
def readHtml : Nat → List Char → Option (List Piece)
  | _,[] => some []
  | 0,_ :: _ => none
  | fuel + 1,c :: rest =>
      match readMarkup (c :: rest) with
      | some (piece,after) => (readHtml fuel after).map (piece :: ·)
      | none => if special c then none else (readHtml fuel rest).map (.text c :: ·)

def Reads (html : List Char) (pieces : List Piece) : Prop :=
  ∀ fuel, html.length ≤ fuel → readHtml fuel html = some pieces

section Reading

variable {html : List Char} {pieces : List Piece} {c : Char}

theorem reads_nil : Reads [] [] := by
  intro fuel enough
  cases fuel <;> rfl

theorem reads_char (plain : special c = false) (rest : Reads html pieces) :
    Reads (c :: html) (.text c :: pieces) := by
  have unmarked : readMarkup (c :: html) = none := by
    simp only [special,Bool.or_eq_false_iff,decide_eq_false_iff_not] at plain
    obtain ⟨⟨less,_⟩,reference⟩ := plain
    simp [readMarkup,markup,List.dropPrefix?,less,reference]
  intro fuel enough
  cases fuel with
  | zero => simp at enough
  | succ fuel =>
      unfold readHtml
      rw [unmarked]
      dsimp only
      rw [if_neg (by simp [plain]),rest fuel (Nat.le_of_succ_le_succ enough)]
      rfl

theorem readMarkup_written {written : List Char} {piece : Piece} (listed : (written,piece) ∈ markup) :
    readMarkup (written ++ html) = some (piece,html) ∧ written ≠ [] := by
  simp only [markup,List.mem_cons,Prod.mk.injEq,List.not_mem_nil,or_false] at listed
  rcases listed with ⟨rfl,rfl⟩ | ⟨rfl,rfl⟩ | ⟨rfl,rfl⟩ | ⟨rfl,rfl⟩ | ⟨rfl,rfl⟩ <;>
    simp [readMarkup,markup,List.dropPrefix?]

theorem reads_markup {written : List Char} {piece : Piece} (listed : (written,piece) ∈ markup)
    (rest : Reads html pieces) : Reads (written ++ html) (piece :: pieces) := by
  obtain ⟨marked,some_⟩ := @readMarkup_written html written piece listed
  intro fuel enough
  cases written with
  | nil => exact absurd rfl some_
  | cons c written =>
      cases fuel with
      | zero => simp at enough
      | succ fuel =>
          have shorter : html.length ≤ fuel := by
            simp only [List.cons_append,List.length_cons,List.length_append] at enough
            omega
          rw [List.cons_append] at marked ⊢
          unfold readHtml
          rw [marked]
          dsimp only
          rw [rest fuel shorter]
          rfl

end Reading

-- src/app/api/static/app.js
-- `str.replace(/c/g, text)`
def replaceAll (c : Char) (text : List Char) (str : List Char) : List Char :=
  str.flatMap fun d => if d = c then text else [d]

def escapeHtml (str : List Char) : List Char :=
  replaceAll '>' ['&','g','t',';'] (replaceAll '<' ['&','l','t',';']
    (replaceAll '&' ['&','a','m','p',';'] str))

-- What `.` does not match
def lineTerminator (c : Char) : Bool :=
  c = '\n' || c = '\r' || c.toNat = 0x2028 || c.toNat = 0x2029

def asterisks : List Char → Option (List Char)
  | '*' :: '*' :: after => some after
  | _ => none

-- `(.+?)\*\*`: the fewest characters, one at least, that two asterisks follow
def shortest : List Char → Option (List Char × List Char)
  | [] => none
  | c :: rest =>
      if lineTerminator c then none
      else match asterisks rest with
        | some after => some ([c],after)
        | none => (shortest rest).map fun found => (c :: found.1,found.2)

-- A text as `/\*\*(.+?)\*\*/g` goes through it: the groups of the matches, and the
-- characters between them
inductive Span where
  | plain (c : Char)
  | bold (inner : List Char)
deriving DecidableEq,Repr

def boldHere (str : List Char) : Option (List Char × List Char) := (asterisks str).bind shortest

theorem asterisks_text {str after : List Char} (found : asterisks str = some after) :
    str = '*' :: '*' :: after := by
  unfold asterisks at found
  split at found
  · cases found
    rfl
  · cases found

theorem shortest_text {str inner after : List Char} (found : shortest str = some (inner,after)) :
    str = inner ++ '*' :: '*' :: after ∧ inner ≠ [] ∧ ∀ c ∈ inner, lineTerminator c = false := by
  induction str generalizing inner with
  | nil => cases found
  | cons c rest ih =>
      unfold shortest at found
      split at found
      · cases found
      · rename_i within
        have within : lineTerminator c = false := by simpa using within
        split at found
        · rename_i behind here
          cases found
          rw [asterisks_text here]
          simp [within]
        · obtain ⟨⟨more,behind⟩,later,same⟩ := Option.map_eq_some_iff.mp found
          cases same
          obtain ⟨text,_,each⟩ := ih later
          refine ⟨by rw [text]; rfl,by simp,?_⟩
          intro d member
          rcases List.mem_cons.mp member with rfl | other
          · exact within
          · exact each d other

theorem boldHere_text {str inner after : List Char} (found : boldHere str = some (inner,after)) :
    str = '*' :: '*' :: (inner ++ '*' :: '*' :: after) ∧ inner ≠ [] ∧
      ∀ c ∈ inner, lineTerminator c = false := by
  obtain ⟨rest,opens,closes⟩ := Option.bind_eq_some_iff.mp found
  obtain ⟨text,some_,each⟩ := shortest_text closes
  exact ⟨by rw [asterisks_text opens,text],some_,each⟩

def spans : List Char → List Span
  | [] => []
  | c :: rest =>
      match _found : boldHere (c :: rest) with
      | some (inner,after) => .bold inner :: spans after
      | none => .plain c :: spans rest
termination_by str => str.length
decreasing_by
  · rw [(boldHere_text _found).1]
    simp
    omega
  · simp

-- `"<strong>$1</strong>"`
def Span.html : Span → List Char
  | .plain c => [c]
  | .bold inner => ['<','s','t','r','o','n','g','>'] ++ inner ++ ['<','/','s','t','r','o','n','g','>']

def renderAnswerHtml (str : List Char) : List Char := (spans (escapeHtml str)).flatMap Span.html

def escapeChar (c : Char) : List Char :=
  if c = '&' then ['&','a','m','p',';'] else if c = '<' then ['&','l','t',';']
  else if c = '>' then ['&','g','t',';'] else [c]

def escape (str : List Char) : List Char := str.flatMap escapeChar

section Escaping

variable {c : Char} {str rest : List Char}

theorem escapeHtml_escape (str : List Char) : escapeHtml str = escape str := by
  unfold escapeHtml escape replaceAll
  rw [List.flatMap_assoc,List.flatMap_assoc]
  congr 1
  funext c
  unfold escapeChar
  by_cases amp : c = '&'
  · subst amp
    decide
  · by_cases less : c = '<'
    · subst less
      decide
    · by_cases greater : c = '>'
      · subst greater
        decide
      · simp [amp,less,greater]

def Solid (c : Char) : Prop := c ≠ '*' ∧ lineTerminator c = false

theorem escapeChar_cases (c : Char) : (special c = false ∧ escapeChar c = [c]) ∨
    (escapeChar c,.text c) ∈ markup ∧ Solid c ∧
      ∃ behind, escapeChar c = '&' :: behind ∧ ∀ d ∈ behind, Solid d := by
  unfold escapeChar
  by_cases amp : c = '&'
  · subst amp
    exact .inr ⟨by simp [markup],by simp [Solid,lineTerminator],_,rfl,by simp [Solid,lineTerminator]⟩
  · by_cases less : c = '<'
    · subst less
      exact .inr ⟨by simp [markup],by simp [Solid,lineTerminator],_,rfl,by simp [Solid,lineTerminator]⟩
    · by_cases greater : c = '>'
      · subst greater
        exact .inr ⟨by simp [markup],by simp [Solid,lineTerminator],_,rfl,by simp [Solid,lineTerminator]⟩
      · rw [if_neg amp,if_neg less,if_neg greater]
        exact .inl ⟨by simp [special,amp,less,greater],rfl⟩

theorem escapeChar_parts (c : Char) : ∃ first behind, escapeChar c = first :: behind ∧
    (∀ d ∈ behind, Solid d) ∧ (first = '*' ↔ c = '*') ∧ lineTerminator first = lineTerminator c := by
  rcases escapeChar_cases c with ⟨_,alone⟩ | ⟨_,⟨other,inside⟩,behind,written,solid⟩
  · exact ⟨c,[],alone,by simp,Iff.rfl,rfl⟩
  · have reference : lineTerminator '&' = false := by decide
    exact ⟨'&',behind,written,solid,iff_of_false (by decide) other,reference.trans inside.symm⟩

theorem escape_cons : escape (c :: str) = escapeChar c ++ escape str := List.flatMap_cons

theorem asterisks_none (other : c ≠ '*') : asterisks (c :: rest) = none := by
  unfold asterisks
  split
  · rename_i same
    exact absurd (List.cons.inj same).1 other
  · rfl

theorem asterisks_single (other : ∀ behind, rest ≠ '*' :: behind) : asterisks ('*' :: rest) = none := by
  unfold asterisks
  split
  · rename_i after same
    exact absurd (List.cons.inj same).2 (other after)
  · rfl

theorem asterisks_escape (str : List Char) : asterisks (escape str) = (asterisks str).map escape := by
  cases str with
  | nil => rfl
  | cons c rest =>
      by_cases star : c = '*'
      · subst star
        cases rest with
        | nil => rfl
        | cons d rest =>
            by_cases again : d = '*'
            · subst again
              rfl
            · obtain ⟨first,behind,written,_,other,_⟩ := escapeChar_parts d
              rw [asterisks_single (by simpa using again),escape_cons,escape_cons,written]
              refine asterisks_single fun after same => ?_
              exact again (other.mp (List.cons.inj same).1)
      · obtain ⟨first,behind,written,_,other,_⟩ := escapeChar_parts c
        rw [asterisks_none star,escape_cons,written]
        exact asterisks_none fun same => star (other.mp same)

-- A match may begin with any character that does not end the line, and solid ones.
theorem shortest_word {behind : List Char} (within : lineTerminator c = false)
    (solid : ∀ d ∈ behind, Solid d) : shortest (c :: (behind ++ rest)) = match asterisks rest with
      | some after => some (c :: behind,after)
      | none => (shortest rest).map fun found => (c :: (behind ++ found.1),found.2) := by
  induction behind generalizing c with
  | nil =>
      rw [List.nil_append,shortest,if_neg (by simp [within])]
      cases asterisks rest <;> rfl
  | cons d behind ih =>
      obtain ⟨other,inside⟩ := solid d List.mem_cons_self
      rw [List.cons_append,shortest,if_neg (by simp [within]),asterisks_none other]
      dsimp only
      rw [ih inside fun e member => solid e (List.mem_cons_of_mem d member)]
      cases asterisks rest with
      | some after => rfl
      | none => cases shortest rest <;> rfl

theorem shortest_escape (str : List Char) :
    shortest (escape str) = (shortest str).map fun found => (escape found.1,escape found.2) := by
  induction str with
  | nil => rfl
  | cons c rest ih =>
      obtain ⟨first,behind,written,solid,_,ends⟩ := escapeChar_parts c
      rw [escape_cons,written,List.cons_append]
      by_cases within : lineTerminator c = true
      · rw [shortest,shortest,if_pos (ends.trans within),if_pos within]
        rfl
      · have inside : lineTerminator first = false := by simpa [ends] using within
        rw [shortest_word inside solid,asterisks_escape,ih]
        conv_rhs => rw [shortest,if_neg within]
        cases asterisks rest with
        | some after =>
            dsimp only [Option.map_some]
            rw [escape_cons,written]
            simp [escape]
        | none =>
            dsimp only [Option.map_none]
            rw [Option.map_map,Option.map_map]
            congr 1
            funext found
            simp [escape_cons,written]

theorem boldHere_escape (str : List Char) :
    boldHere (escape str) = (boldHere str).map fun found => (escape found.1,escape found.2) := by
  unfold boldHere
  rw [asterisks_escape]
  cases asterisks str with
  | none => rfl
  | some after => exact shortest_escape after

theorem spans_plain (none_ : boldHere (c :: str) = none) : spans (c :: str) = .plain c :: spans str := by
  rw [spans]
  split
  · rename_i found
    rw [none_] at found
    cases found
  · rfl

theorem spans_bold {inner after : List Char} (found : boldHere str = some (inner,after)) :
    spans str = .bold inner :: spans after := by
  cases str with
  | nil => cases found
  | cons c str =>
      rw [spans]
      split
      · rename_i here
        cases Option.some.inj (found.symm.trans here)
        rfl
      · rename_i here
        rw [found] at here
        cases here

theorem spans_solid {behind : List Char} (solid : ∀ d ∈ behind, Solid d) :
    spans (behind ++ rest) = behind.map Span.plain ++ spans rest := by
  induction behind with
  | nil => rfl
  | cons d behind ih =>
      have plain : boldHere (d :: (behind ++ rest)) = none := by
        unfold boldHere
        rw [asterisks_none (solid d List.mem_cons_self).1]
        rfl
      rw [List.cons_append,spans_plain plain,ih fun e member => solid e (List.mem_cons_of_mem d member)]
      rfl

end Escaping

def Span.written : Span → List Char
  | .plain c => escapeChar c
  | .bold inner => ['<','s','t','r','o','n','g','>'] ++ escape inner ++
      ['<','/','s','t','r','o','n','g','>']

def Span.pieces : Span → List Piece
  | .plain c => [.text c]
  | .bold inner => .opening :: inner.map Piece.text ++ [.closing]

def Span.source : Span → List Char
  | .plain c => [c]
  | .bold inner => '*' :: '*' :: (inner ++ ['*','*'])

section Answers

variable {str html : List Char} {pieces : List Piece} {inner : List Char}

theorem rendered_spans (str : List Char) : renderAnswerHtml str = (spans str).flatMap Span.written := by
  unfold renderAnswerHtml
  rw [escapeHtml_escape]
  induction str using spans.induct with
  | case1 => simp [spans,escape]
  | case2 c rest inner after found ih =>
      have here : boldHere (escape (c :: rest)) = some (escape inner,escape after) := by
        rw [boldHere_escape,found]
        rfl
      rw [spans_bold here,spans_bold found,List.flatMap_cons,List.flatMap_cons,ih]
      rfl
  | case3 c rest found ih =>
      obtain ⟨first,behind,written,solid,_⟩ := escapeChar_parts c
      have plain : boldHere (first :: (behind ++ escape rest)) = none := by
        rw [← List.cons_append,← written,← escape_cons,boldHere_escape,found]
        rfl
      have same : (behind.map Span.plain).flatMap Span.html = behind := by
        simp [List.flatMap_map,Span.html]
      rw [escape_cons,written,List.cons_append,spans_plain plain,spans_solid solid,spans_plain found,
        List.flatMap_cons,List.flatMap_append,List.flatMap_cons,ih,same,Span.written,written]
      rfl

theorem spans_source (str : List Char) : (spans str).flatMap Span.source = str := by
  induction str using spans.induct with
  | case1 => simp [spans]
  | case2 c rest inner after found ih =>
      rw [spans_bold found,List.flatMap_cons,ih,(boldHere_text found).1]
      simp [Span.source]
  | case3 c rest found ih =>
      rw [spans_plain found,List.flatMap_cons,ih]
      rfl

theorem spans_inner (bold : .bold inner ∈ spans str) :
    inner ≠ [] ∧ ∀ c ∈ inner, lineTerminator c = false := by
  induction str using spans.induct with
  | case1 => simp [spans] at bold
  | case2 c rest first after found ih =>
      rw [spans_bold found] at bold
      rcases List.mem_cons.mp bold with same | later
      · cases same
        exact (boldHere_text found).2
      · exact ih later
  | case3 c rest found ih =>
      rw [spans_plain found] at bold
      rcases List.mem_cons.mp bold with same | later
      · cases same
      · exact ih later

theorem reads_escapeChar (c : Char) (rest : Reads html pieces) :
    Reads (escapeChar c ++ html) (.text c :: pieces) := by
  rcases escapeChar_cases c with ⟨plain,alone⟩ | ⟨listed,_⟩
  · rw [alone]
    exact reads_char plain rest
  · exact reads_markup listed rest

theorem reads_escape (inner : List Char) (rest : Reads html pieces) :
    Reads (escape inner ++ html) (inner.map Piece.text ++ pieces) := by
  induction inner with
  | nil => exact rest
  | cons c inner ih =>
      rw [escape_cons,List.append_assoc]
      exact reads_escapeChar c ih

theorem reads_written (span : Span) (rest : Reads html pieces) :
    Reads (span.written ++ html) (span.pieces ++ pieces) := by
  cases span with
  | plain c => exact reads_escapeChar c rest
  | bold inner =>
      have closes : Reads (['<','/','s','t','r','o','n','g','>'] ++ html) (.closing :: pieces) :=
        reads_markup (by simp [markup]) rest
      have opens : Reads (['<','s','t','r','o','n','g','>'] ++ (escape inner ++
          (['<','/','s','t','r','o','n','g','>'] ++ html)))
          (.opening :: (inner.map Piece.text ++ (.closing :: pieces))) :=
        reads_markup (by simp [markup]) (reads_escape inner closes)
      simpa [Span.written,Span.pieces] using opens

theorem reads_spans (each : List Span) : Reads (each.flatMap Span.written) (each.flatMap Span.pieces) := by
  induction each with
  | nil => exact reads_nil
  | cons span each ih =>
      rw [List.flatMap_cons,List.flatMap_cons]
      exact reads_written span ih

-- Whatever text a model wrote, the page shows that text: some runs between two pairs
-- of asterisks, within a line, are strong, and nothing of it is taken for markup.
theorem answer_shown (str : List Char) :
    readHtml (renderAnswerHtml str).length (renderAnswerHtml str) =
      some ((spans str).flatMap Span.pieces) ∧
    (spans str).flatMap Span.source = str ∧
    ∀ inner, .bold inner ∈ spans str → inner ≠ [] ∧ ∀ c ∈ inner, lineTerminator c = false := by
  refine ⟨?_,spans_source str,fun inner => spans_inner⟩
  rw [rendered_spans]
  exact reads_spans (spans str) _ (Nat.le_refl _)

end Answers

end Page

end ParcelPilot
