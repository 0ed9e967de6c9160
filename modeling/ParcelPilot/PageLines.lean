import ParcelPilot.Dictionaries
import ParcelPilot.Documents
import ParcelPilot.Lines
import ParcelPilot.Scanning

namespace ParcelPilot

section Lines

variable [Host]

-- A line of a page as it is passed on: stripped, and not empty.
structure Line (line : String) : Prop where
  filled : line ≠ ""
  bare : Py.strip line = line
  single : '\n' ∉ line.toList

-- The lines after the title, as far as they are fields, and what comes then.
def preambleLines (lines : List String) : List String :=
  (lines.dropWhile fun line => (keyValueOf line).isNone).takeWhile fun line => (keyValueOf line).isSome

def bodyLines (lines : List String) : List String :=
  (lines.dropWhile fun line => (keyValueOf line).isNone).dropWhile fun line => (keyValueOf line).isSome

-- A field and a heading as they stand in a line, up to the blanks between.
def FieldText (line : String) (field : String × String) : Prop :=
  ∃ blanks more, Py.AllBlank blanks ∧ Py.AllBlank more ∧
    line.toList = field.1.toList ++ blanks ++ ':' :: (more ++ field.2.toList)

def HeadingText (line number title : String) : Prop :=
  ∃ blanks, Py.AllBlank blanks ∧ line.toList = number.toList ++ '.' :: (blanks ++ title.toList)

-- The lines a section is made of.
inductive SectionText : List String → ParsedSection → Prop where
  | numbered (heading : HeadingText line number title) :
      SectionText (line :: body) ⟨some number,title,Py.join "\n" body⟩
  | unnumbered : SectionText (title :: body) ⟨none,title,Py.join "\n" body⟩

-- Title, fields and sections give back the lines in their order.
def KeepsLines (lines : List String) (page : ParsedPage) : Prop :=
  ∃ titleLines preamble groups, lines = titleLines ++ preamble ++ groups.flatten ∧
    page.title = Py.join " " titleLines ∧ List.Forall₂ FieldText preamble page.preambleFields ∧
    List.Forall₂ SectionText groups page.sections

-- No key twice, and nothing between the fields and the first heading.
structure Lossless (lines : List String) : Prop where
  distinct : (((preambleLines lines).filterMap keyValueOf).map (·.1)).Nodup
  opens : ∀ first rest, bodyLines lines = first :: rest →
    (headingOf first).isSome = true ∨ ∀ line ∈ first :: rest, headingOf line = none

variable {line : String} {lines : List String}

theorem Line.last (kept : Line line) {front : List Char} {c : Char}
    (whole : line.toList = front ++ [c]) : Host.isSpace c = false := by
  have same : Py.stripped line.toList = front ++ [c] := by
    rw [← whole]
    simpa [Py.strip] using congrArg String.toList kept.bare
  exact Py.stripped_last same

theorem blank_ascii {c : Char} (ascii : c.toNat < 128)
    (solid : (c = ' ' || (9 ≤ c.toNat && c.toNat ≤ 13) || (28 ≤ c.toNat && c.toNat ≤ 31)) = false) :
    Host.isSpace c = false := by rw [Host.isSpace_ascii c ascii,solid]

theorem matchesLine_iff {pattern : Pattern} : matchesLine pattern line = true ↔
    ∃ stop ∈ Pattern.ends Host.isWord pattern (.start line.toList), atEnd stop.after = true := by
  rw [matchesLine,List.any_eq_true]

theorem Line.atEnd (kept : Line line) {front rest : List Char} (whole : line.toList = front ++ rest)
    (ended : ParcelPilot.atEnd rest = true) : rest = [] := by
  simp only [ParcelPilot.atEnd,Bool.or_eq_true,decide_eq_true_eq] at ended
  rcases ended with none | newline
  · exact none
  · refine absurd ?_ kept.single
    rw [whole,newline]
    simp

theorem keyValue_parts (matched : matchesLine kvLine line = true) :
    ∃ c run tail, line.toList = c :: run ++ ':' :: tail ∧ c.isAlpha = true ∧ ':' ∉ c :: run ∧
      tail ≠ [] := by
  obtain ⟨stop,reached,ended⟩ := matchesLine_iff.mp matched
  simp only [kvLine,Pattern.sequence,Pattern.mem_ends_seq,Pattern.mem_ends_one,
    Pattern.mem_ends_many] at reached
  obtain ⟨_,⟨c,_,first,alpha,rfl⟩,_,⟨run,_,second,_,_,keys,rfl⟩,_,⟨colon,_,third,isColon,rfl⟩,_,
    ⟨blanks,_,fourth,_,_,_,rfl⟩,value,rest,fifth,some_,_,_,rfl⟩ := reached
  dsimp only [Pattern.Cursor.start] at first second third fourth fifth ended
  subst second third fourth fifth
  rw [decide_eq_true_eq] at isColon
  subst isColon
  refine ⟨c,run,blanks ++ (value ++ rest),by rw [first,List.cons_append],alpha,?_,?_⟩
  · intro member
    rcases List.mem_cons.mp member with rfl | inRun
    · exact absurd alpha (by decide)
    · exact absurd (keys _ inRun) (by decide)
  · intro nothing
    simp only [List.append_eq_nil_iff] at nothing
    simp [nothing.2.1] at some_

theorem keyValueOf_text (kept : Line line) {field : String × String}
    (read : keyValueOf line = some field) : FieldText line field := by
  unfold keyValueOf at read
  split at read
  · rename_i matched
    obtain ⟨c,run,tail,whole,alpha,plain,some_⟩ := keyValue_parts matched
    have key : line.toList.takeWhile (· != ':') = c :: run := by
      rw [whole,List.takeWhile_append_of_pos]
      · simp
      · intro d member
        have other : d ≠ ':' := fun same => plain (same ▸ member)
        simpa using other
    dsimp only at read
    rw [key] at read
    have rest : line.toList.drop ((c :: run).length + 1) = tail := by
      rw [whole,List.drop_append]
      simp
    rw [rest] at read
    cases read
    have letter : Host.isSpace c = false := by
      have codes := Pattern.alpha_codes.mp alpha
      refine blank_ascii (by omega) ?_
      have notBlank : c ≠ ' ' := by
        rintro rfl
        exact absurd alpha (by decide)
      simp only [notBlank,decide_false,Bool.false_or,Bool.or_eq_false_iff,Bool.and_eq_false_iff,
        decide_eq_false_iff_not]
      omega
    obtain ⟨right,behind,keyParts⟩ := @Py.stripped_behind _ c run letter
    rcases List.eq_nil_or_concat' tail with none | ⟨front,last,rfl⟩
    · exact absurd none some_
    · have ends_ : line.toList = (c :: run ++ ':' :: front) ++ [last] := by
        rw [whole]
        simp
      have solid := kept.last ends_
      obtain ⟨left,before,valueParts⟩ := @Py.stripped_before _ last front solid
      refine ⟨right,left,behind,before,?_⟩
      simp only [String.toList_ofList]
      rw [← keyParts,← valueParts,whole]
  · cases read

theorem headingOf_text (kept : Line line) {number title : String}
    (read : headingOf line = some (number,title)) : HeadingText line number title := by
  unfold headingOf at read
  split at read
  · rename_i matched
    obtain ⟨stop,reached,ended⟩ := matchesLine_iff.mp matched
    simp only [headingLine,Pattern.sequence,Pattern.mem_ends_seq,Pattern.mem_ends_one,
      Pattern.mem_ends_many] at reached
    obtain ⟨_,⟨digits,_,first,_,_,numeric,rfl⟩,_,⟨dot,_,second,isDot,rfl⟩,_,
      ⟨blanks,_,third,_,_,blank,rfl⟩,_,⟨c,_,fourth,solid,rfl⟩,more,rest,fifth,_,_,_,rfl⟩ := reached
    dsimp only [Pattern.Cursor.start] at first second third fourth fifth ended
    subst second third fourth fifth
    rw [decide_eq_true_eq] at isDot
    subst isDot
    have parts : line.toList = (digits ++ '.' :: (blanks ++ c :: more)) ++ rest := by
      rw [first]
      simp
    have none := kept.atEnd parts ended
    subst none
    rw [List.append_nil] at first
    have notDigit : Host.isDigit '.' = false := by
      rw [Host.isDigit_ascii _ (by decide)]
      decide
    have num : line.toList.takeWhile Host.isDigit = digits := by
      rw [first,List.takeWhile_append_of_pos numeric]
      simp [notDigit]
    dsimp only at read
    rw [num] at read
    have after : line.toList.drop (digits.length + 1) = blanks ++ c :: more := by
      rw [first,List.drop_append]
      simp
    have bare : Py.lstrip (blanks ++ c :: more) = c :: more := by
      rw [Py.lstrip_blanks blank,Py.lstrip_solid (by simpa using solid)]
    have single : (c :: more).takeWhile (· != '\n') = c :: more := by
      rw [List.takeWhile_eq_self_iff]
      intro d member
      have other : d ≠ '\n' := by
        rintro rfl
        refine kept.single ?_
        rw [first]
        exact List.mem_append_right _ (List.mem_cons_of_mem _ (List.mem_append_right _ member))
      simpa using other
    rw [after,bare,single] at read
    cases read
    exact ⟨blanks,blank,by simp [first]⟩
  · cases read

theorem numberedSections_groups (each : ∀ line ∈ lines, Line line) :
    ∃ groups, List.Forall₂ SectionText groups (numberedSections lines) ∧
      lines.dropWhile (fun line => (headingOf line).isNone) = groups.flatten := by
  induction lines with
  | nil => exact ⟨[],.nil,rfl⟩
  | cons line rest ih =>
      obtain ⟨groups,texts,later⟩ := ih fun other member => each other (List.mem_cons_of_mem _ member)
      unfold numberedSections
      rw [List.dropWhile_cons]
      cases read : headingOf line with
      | none =>
          exact ⟨groups,texts,later⟩
      | some heading =>
          obtain ⟨number,title⟩ := heading
          have text := headingOf_text (each line List.mem_cons_self) read
          refine ⟨(line :: rest.takeWhile fun next => (headingOf next).isNone) :: groups,
            .cons (.numbered text) texts,?_⟩
          rw [List.flatten_cons,List.cons_append,← later,List.takeWhile_append_dropWhile]
          rfl

-- What is skipped stands before the first heading, of lines that have one.
theorem splitSections_groups (each : ∀ line ∈ lines, Line line) :
    ∃ skipped groups, lines = skipped ++ groups.flatten ∧
      List.Forall₂ SectionText groups (splitSections lines) ∧
      (skipped = [] ↔ ∀ first rest, lines = first :: rest →
        (headingOf first).isSome = true ∨ ∀ line ∈ first :: rest, headingOf line = none) := by
  cases lines with
  | nil => exact ⟨[],[],rfl,.nil,by simp⟩
  | cons first rest =>
      rw [splitSections]
      by_cases unnumbered : ((first :: rest).all fun line => (headingOf line).isNone) = true
      · rw [if_pos unnumbered]
        refine ⟨[],[first :: rest],by simp,.cons SectionText.unnumbered .nil,iff_of_true rfl ?_⟩
        intro _ _ same
        rw [← same]
        refine .inr fun line member => ?_
        simpa using List.all_eq_true.mp unnumbered line member
      · rw [if_neg unnumbered]
        obtain ⟨groups,texts,later⟩ := numberedSections_groups each
        refine ⟨(first :: rest).takeWhile fun line => (headingOf line).isNone,groups,?_,texts,?_⟩
        · rw [← later,List.takeWhile_append_dropWhile]
        · cases read : headingOf first with
          | some heading => simp [read]
          | none =>
              simp only [List.takeWhile_cons,read,Option.isNone_none,if_true,reduceCtorEq,false_iff]
              intro opened
              rcases opened first rest rfl with heading | unread
              · rw [read] at heading
                cases heading
              · refine unnumbered (List.all_eq_true.mpr fun line member => ?_)
                rw [unread line member]
                rfl

theorem sectionText_length {one two : List String} {section_ : ParsedSection}
    (first : SectionText one section_) (second : SectionText two section_)
    (each : ∀ line ∈ one, Line line) (every : ∀ line ∈ two, Line line) : one.length = two.length := by
  have filled {head : String} {body : List String} (all : ∀ line ∈ head :: body, Line line) :
      ∀ line ∈ body, line ≠ "" ∧ '\n' ∉ line.toList := fun line member =>
    have kept := all line (List.mem_cons_of_mem _ member)
    ⟨kept.filled,kept.single⟩
  have same {body other : List String} (clean : ∀ line ∈ body, line ≠ "" ∧ '\n' ∉ line.toList)
      (otherClean : ∀ line ∈ other, line ≠ "" ∧ '\n' ∉ line.toList)
      (joined : Py.join "\n" body = Py.join "\n" other) : body.length = other.length := by
    rw [Py.join_lines_inj (show "\n".toList = ['\n'] from rfl) clean otherClean joined]
  generalize taken : section_ = shown at second
  cases first with
  | numbered heading =>
      cases second with
      | numbered other =>
          injection taken with _ _ bodies
          simp only [List.length_cons,same (filled each) (filled every) bodies]
      | unnumbered => cases taken
  | unnumbered =>
      cases second with
      | numbered other => cases taken
      | unnumbered =>
          injection taken with _ _ bodies
          simp only [List.length_cons,same (filled each) (filled every) bodies]

theorem sectionTexts_length {one two : List (List String)} {sections : List ParsedSection}
    (first : List.Forall₂ SectionText one sections) (second : List.Forall₂ SectionText two sections)
    (each : ∀ line ∈ one.flatten, Line line) (every : ∀ line ∈ two.flatten, Line line) :
    one.flatten.length = two.flatten.length := by
  induction first generalizing two with
  | nil =>
      cases second
      rfl
  | @cons group section_ groups sections text _ ih =>
      cases second with
      | @cons other _ others _ otherText texts =>
          rw [List.flatten_cons] at each every
          rw [List.flatten_cons,List.flatten_cons,List.length_append,List.length_append]
          rw [sectionText_length text otherText (fun line member => each line (by simp [member]))
              (fun line member => every line (by simp [member])),
            ih texts (fun line member => each line (List.mem_append_right _ member))
              (fun line member => every line (List.mem_append_right _ member))]

theorem preamble_within (member : line ∈ preambleLines lines) : line ∈ lines :=
  (List.dropWhile_sublist _).subset ((List.takeWhile_sublist _).subset member)

theorem body_within (member : line ∈ bodyLines lines) : line ∈ lines :=
  (List.dropWhile_sublist _).subset ((List.dropWhile_sublist _).subset member)

-- A page's lines in the three scans that cut them.
structure Scanned (lines : List String) (page : ParsedPage) : Prop where
  whole : lines = (lines.takeWhile fun line => (keyValueOf line).isNone) ++ preambleLines lines ++
    bodyLines lines
  title : page.title = Py.join " " (lines.takeWhile fun line => (keyValueOf line).isNone)
  fields : page.preambleFields = Py.dictOf ((preambleLines lines).filterMap keyValueOf)
  sections : page.sections = splitSections (bodyLines lines)

theorem parsePage_scanned {pageNumber : Nat} {filename : String} {page : ParsedPage}
    (parsed : parsePage pageNumber lines filename = .ok page) :
    page.pageNumber = pageNumber ∧ Scanned lines page := by
  unfold parsePage at parsed
  dsimp only at parsed
  split at parsed
  · cases parsed
  · cases parsed
    refine ⟨rfl,?_⟩
    simp only [Py.drop_takeWhile]
    refine ⟨?_,rfl,rfl,rfl⟩
    rw [preambleLines,bodyLines,List.append_assoc,List.takeWhile_append_dropWhile,
      List.takeWhile_append_dropWhile]

theorem preamble_fields (each : ∀ line ∈ preambleLines lines, Line line) :
    List.Forall₂ FieldText (preambleLines lines) ((preambleLines lines).filterMap keyValueOf) := by
  have read : ∀ line ∈ preambleLines lines, (keyValueOf line).isSome = true := by
    intro line member
    exact @List.mem_takeWhile_imp _ (fun line => (keyValueOf line).isSome) _ _ member
  generalize preambleLines lines = preamble at each read
  induction preamble with
  | nil => exact .nil
  | cons line rest ih =>
      obtain ⟨field,here⟩ := Option.isSome_iff_exists.mp (read line List.mem_cons_self)
      rw [List.filterMap_cons_some here]
      exact .cons (keyValueOf_text (each line List.mem_cons_self) here)
        (ih (fun other member => each other (List.mem_cons_of_mem _ member))
          fun other member => read other (List.mem_cons_of_mem _ member))

omit [Host] in
theorem titleLines_unique {one two : List String} (filled : ∀ line ∈ lines, line ≠ "")
    (first : one <+: lines) (second : two <+: lines) (same : Py.join " " one = Py.join " " two) :
    one = two := by
  rcases List.prefix_or_prefix_of_prefix first second with ⟨more,longer⟩ | ⟨more,longer⟩
  · subst longer
    have nothing := Py.join_prefix (fun line member => filled line
      (second.subset (List.mem_append_right _ member))) same
    rw [nothing,List.append_nil]
  · subst longer
    have nothing := Py.join_prefix (fun line member => filled line
      (first.subset (List.mem_append_right _ member))) same.symm
    rw [nothing,List.append_nil]

variable {pageNumber : Nat} {filename : String} {page : ParsedPage}

-- By counting there is no other way to put the page together: no field may be
-- missing, and no line before the first heading.
theorem kept_lossless (each : ∀ line ∈ lines, Line line)
    (parsed : parsePage pageNumber lines filename = .ok page) (kept : KeepsLines lines page) :
    Lossless lines := by
  have scanned := (parsePage_scanned parsed).2
  have whole := scanned.whole
  have inBody : ∀ line ∈ bodyLines lines, Line line := fun line member => each line (body_within member)
  have fields : List.Forall₂ FieldText (preambleLines lines) _ :=
    preamble_fields fun line member => each line (preamble_within member)
  obtain ⟨skipped,groups,body,texts,opened⟩ := splitSections_groups inBody
  obtain ⟨titleLines,preamble,others,parts,title,named,shown⟩ := kept
  have sameTitle : titleLines = lines.takeWhile fun line => (keyValueOf line).isNone := by
    rw [scanned.title] at title
    refine titleLines_unique (fun line member => (each line member).filled) ?_ ?_ title.symm
    · exact ⟨preamble ++ others.flatten,by rw [parts,List.append_assoc]⟩
    · exact List.takeWhile_prefix _
  have sameBody : others.flatten.length = groups.flatten.length := by
    rw [scanned.sections] at shown
    apply sectionTexts_length shown texts
    · intro line member
      exact each line (by rw [parts]; exact List.mem_append_right _ member)
    · intro line member
      exact inBody line (by rw [body]; exact List.mem_append_right _ member)
  have listed := named.length_eq
  rw [scanned.fields] at listed
  have within := Py.dictOf_length_le ((preambleLines lines).filterMap keyValueOf)
  rw [← fields.length_eq] at within
  have counted : titleLines.length + (preambleLines lines).length +
        (skipped.length + groups.flatten.length) =
      titleLines.length + preamble.length + others.flatten.length := by
    have one := congrArg List.length whole
    have two := congrArg List.length parts
    rw [body,← sameTitle] at one
    simp only [List.length_append] at one two
    omega
  constructor
  · apply Py.dictOf_full
    rw [← fields.length_eq]
    omega
  · apply opened.mp
    rw [← List.length_eq_zero_iff]
    omega

theorem lossless_kept (each : ∀ line ∈ lines, Line line)
    (parsed : parsePage pageNumber lines filename = .ok page) (lossless : Lossless lines) :
    KeepsLines lines page := by
  have scanned := (parsePage_scanned parsed).2
  have whole := scanned.whole
  have fields : List.Forall₂ FieldText (preambleLines lines) _ :=
    preamble_fields fun line member => each line (preamble_within member)
  obtain ⟨skipped,groups,body,texts,opened⟩ := splitSections_groups fun line member =>
    each line (body_within member)
  have none := opened.mpr lossless.opens
  subst none
  refine ⟨_,preambleLines lines,groups,?_,scanned.title,?_,?_⟩
  · rw [← List.nil_append groups.flatten,← body]
    exact whole
  · rw [scanned.fields,Py.dictOf_distinct lossless.distinct]
    exact fields
  · rw [scanned.sections]
    exact texts

-- A page keeps its lines unless a key comes twice or text stands between the
-- fields and the first heading.
theorem page_kept_iff (each : ∀ line ∈ lines, Line line)
    (parsed : parsePage pageNumber lines filename = .ok page) :
    KeepsLines lines page ↔ Lossless lines :=
  ⟨kept_lossless each parsed,lossless_kept each parsed⟩

end Lines

def numberedLines : List String := ["Support Policy v3","Status: CURRENT","Effective: 1 May 2026",
  "1. Scope","Applies to all plans.","2. Precedence"]

def numberedPage : ParsedPage := ⟨1,"Support Policy v3",
  [("Status","CURRENT"),("Effective","1 May 2026")],
  [⟨some "1","Scope","Applies to all plans."⟩,⟨some "2","Precedence",""⟩]⟩

theorem numbered_kept : let _ := asciiHost [] []
    KeepsLines numberedLines numberedPage := by
  intro _
  have each : ∀ line ∈ numberedLines, Line line := by
    intro line member
    simp only [numberedLines,List.mem_cons,List.not_mem_nil,or_false] at member
    rcases member with rfl | rfl | rfl | rfl | rfl | rfl <;>
      exact ⟨by decide,by decide +kernel,by decide⟩
  have parsed : parsePage 1 numberedLines "policy.pdf" = .ok numberedPage := by decide +kernel
  have body : bodyLines numberedLines = ["1. Scope","Applies to all plans.","2. Precedence"] := by
    decide +kernel
  have heading : (headingOf "1. Scope").isSome = true := by decide +kernel
  refine (page_kept_iff each parsed).mpr ⟨by decide +kernel,?_⟩
  intro first rest opened
  rw [body] at opened
  cases opened
  exact .inl heading

-- A note between the fields and the first heading is in no part of the page.
def notedLines : List String := ["Support Policy v3","Status: CURRENT","For internal use only.",
  "1. Scope","Applies to all plans."]

def notedPage : ParsedPage := ⟨1,"Support Policy v3",[("Status","CURRENT")],
  [⟨some "1","Scope","Applies to all plans."⟩]⟩

theorem note_lost : let _ := asciiHost [] []
    (∀ line ∈ notedLines, Line line) ∧ parsePage 1 notedLines "policy.pdf" = .ok notedPage ∧
      ¬ KeepsLines notedLines notedPage := by
  intro _
  have each : ∀ line ∈ notedLines, Line line := by
    intro line member
    simp only [notedLines,List.mem_cons,List.not_mem_nil,or_false] at member
    rcases member with rfl | rfl | rfl | rfl | rfl <;>
      exact ⟨by decide,by decide +kernel,by decide⟩
  have parsed : parsePage 1 notedLines "policy.pdf" = .ok notedPage := by decide +kernel
  have body : bodyLines notedLines =
      ["For internal use only.","1. Scope","Applies to all plans."] := by decide +kernel
  have note : (headingOf "For internal use only.").isSome = false := by decide +kernel
  have heading : headingOf "1. Scope" ≠ none := by decide +kernel
  refine ⟨each,parsed,fun kept => ?_⟩
  rcases (kept_lossless each parsed kept).opens _ _ body with first | unnumbered
  · rw [note] at first
    cases first
  · exact heading (unnumbered "1. Scope" (by simp))

end ParcelPilot
