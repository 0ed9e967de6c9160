import ParcelPilot.PageLines
import ParcelPilot.Texts

namespace ParcelPilot

section Chunks

variable [Formats] {source : SourceDocument} {lines : List String} {page : ParsedPage}

def headingNumbers (lines : List String) : List String :=
  ((bodyLines lines).filterMap headingOf).map (·.1)

-- A page as it is to be parsed: its number, its lines and its file's name.
structure PageText where
  pageNumber : Nat
  lines : List String
  filename : String
deriving DecidableEq,Repr

def parsePages (texts : List PageText) : Ingest (List ParsedPage) :=
  texts.mapM fun text => parsePage text.pageNumber text.lines text.filename

-- What names a section within its page.
def sectionIds (sections : List ParsedSection) : List String :=
  sections.zipIdx.map fun (section_,index) => section_.number.getD (toString (index + 1))

def chunkIdOf (source : SourceDocument) (page : ParsedPage) (sectionId : String) : String :=
  source.sourceId ++ ":p" ++ toString page.pageNumber ++ ":" ++ sectionId

theorem chunkIds_pages (pages : List ParsedPage) : (buildChunks source pages).map (·.chunkId) =
    pages.flatMap fun page => (sectionIds page.sections).map (chunkIdOf source page) := by
  unfold buildChunks sectionIds
  rw [List.map_flatMap]
  simp only [List.map_map]
  rfl

-- The page stands between two colons, and a page's number holds none.
omit [Formats] in
theorem chunkIdOf_inj {one two : ParsedPage} {first second : String} :
    chunkIdOf source one first = chunkIdOf source two second ↔
      one.pageNumber = two.pageNumber ∧ first = second := by
  have plain (n : Nat) : ':' ∉ (toString n).toList := fun member =>
    absurd (Texts.nat_digits member) (by decide)
  have parts (page : ParsedPage) (id : String) : chunkIdOf source page id =
      (source.sourceId ++ ":p") ++ (toString page.pageNumber ++ ":" ++ id) := by
    simp only [chunkIdOf,String.append_assoc]
  rw [parts,parts,String.append_right_inj,Texts.cut (show ":".toList = [':'] from rfl) (plain _) (plain _),
    Texts.nat_text_inj]

omit [Formats] in
theorem numberedSections_ids [Host] (lines : List String) (index : Nat) :
    ((numberedSections lines).zipIdx index).map (fun (section_,index) =>
      section_.number.getD (toString (index + 1))) = (lines.filterMap headingOf).map (·.1) := by
  induction lines generalizing index with
  | nil => rfl
  | cons line rest ih =>
      unfold numberedSections
      cases read : headingOf line with
      | none => simpa [List.filterMap_cons,read] using ih index
      | some heading => simpa [List.filterMap_cons,read] using ih (index + 1)

omit [Formats] in
theorem splitSections_distinct [Host] (lines : List String) :
    (sectionIds (splitSections lines)).Nodup ↔ ((lines.filterMap headingOf).map (·.1)).Nodup := by
  cases lines with
  | nil => exact iff_of_true List.nodup_nil List.nodup_nil
  | cons first rest =>
      rw [splitSections]
      by_cases unnumbered : ((first :: rest).all fun line => (headingOf line).isNone) = true
      · rw [if_pos unnumbered]
        have none : (first :: rest).filterMap headingOf = [] := by
          rw [List.filterMap_eq_nil_iff]
          intro line member
          simpa using List.all_eq_true.mp unnumbered line member
        rw [none]
        exact iff_of_true (List.nodup_singleton _) List.nodup_nil
      · rw [if_neg unnumbered]
        unfold sectionIds
        rw [numberedSections_ids]

theorem page_distinct {text : PageText}
    (parsed : parsePage text.pageNumber text.lines text.filename = .ok page) :
    ((sectionIds page.sections).map (chunkIdOf source page)).Nodup ↔
      (headingNumbers text.lines).Nodup := by
  rw [List.nodup_map_iff fun _ _ same => (chunkIdOf_inj.mp same).2,
    (parsePage_scanned parsed).2.sections]
  exact splitSections_distinct _

theorem pages_numbers {texts : List PageText} {pages : List ParsedPage}
    (parsed : parsePages texts = .ok pages) :
    pages.map (·.pageNumber) = texts.map (·.pageNumber) := by
  have each := mapM_ok parsed
  clear parsed
  induction each with
  | nil => rfl
  | cons first _ ih => rw [List.map_cons,List.map_cons,(parsePage_scanned first).1,ih]

-- Two pages share no id, so that what counts is each page for itself.
theorem chunk_ids_unique_iff (source : SourceDocument) {texts : List PageText}
    {pages : List ParsedPage} (numbered : (texts.map (·.pageNumber)).Nodup)
    (parsed : parsePages texts = .ok pages) :
    ((buildChunks source pages).map (·.chunkId)).Nodup ↔
      ∀ text ∈ texts, (headingNumbers text.lines).Nodup := by
  have apart : pages.Pairwise (Function.onFun List.Disjoint fun page =>
      (sectionIds page.sections).map (chunkIdOf source page)) := by
    rw [← pages_numbers parsed] at numbered
    refine (List.pairwise_map.mp numbered).imp ?_
    intro one two other id first second
    obtain ⟨_,_,rfl⟩ := List.mem_map.mp first
    obtain ⟨_,_,same⟩ := List.mem_map.mp second
    exact other (chunkIdOf_inj.mp same.symm).1
  rw [chunkIds_pages,List.nodup_flatMap,and_iff_left apart]
  constructor
  · intro distinct text member
    obtain ⟨page,listed,made⟩ := mapM_item parsed member
    exact (page_distinct made).mp (distinct page listed)
  · intro distinct page member
    obtain ⟨text,listed,made⟩ := mapM_result parsed member
    exact (page_distinct made).mpr (distinct text listed)

end Chunks

def pagedSource : SourceDocument where
  sourceId := "SRC-03"
  filename := "sop.pdf"
  sourceType := .sop
  status := .current
  version := none
  effectiveDate := 739616
  expiryDate := none
  supersedes := none
  supersededBy := none
  scope := ⟨.global,none⟩
  authorityClass := .policyCurrent
  checksum := ""
  bytes := 0
  provenance := ""

def pagedTexts : List PageText := [
  ⟨1,["Cancellation SOP","Status: CURRENT","1. Scope","Applies to all plans."],"sop.pdf"⟩,
  ⟨2,["Cancellation SOP","Status: CURRENT","1. Fees"],"sop.pdf"⟩]

theorem chunk_ids_unique_pages : let _ := asciiFormats [] []
    ∃ pages, parsePages pagedTexts = .ok pages ∧ pages.length = 2 ∧
      ((buildChunks pagedSource pages).map (·.chunkId)).Nodup := by
  intro _
  have parsed : parsePages pagedTexts = .ok [
      ⟨1,"Cancellation SOP",[("Status","CURRENT")],[⟨some "1","Scope","Applies to all plans."⟩]⟩,
      ⟨2,"Cancellation SOP",[("Status","CURRENT")],[⟨some "1","Fees",""⟩]⟩] := by decide +kernel
  have distinct : ∀ text ∈ pagedTexts, (headingNumbers text.lines).Nodup := by decide +kernel
  exact ⟨_,parsed,rfl,(chunk_ids_unique_iff pagedSource (by decide) parsed).mpr distinct⟩

-- A list of steps inside the first section starts again at one.
def stepsText : PageText := ⟨1,["Cancellation SOP","Status: CURRENT","1. Scope","1. Call the carrier."],
  "sop.pdf"⟩

def stepsPage : ParsedPage := ⟨1,"Cancellation SOP",[("Status","CURRENT")],
  [⟨some "1","Scope",""⟩,⟨some "1","Call the carrier.",""⟩]⟩

theorem steps_repeat : let _ := asciiFormats [] []
    parsePages [stepsText] = .ok [stepsPage] ∧
      (buildChunks pagedSource [stepsPage]).map (·.chunkId) = ["SRC-03:p1:1","SRC-03:p1:1"] ∧
      ¬ ((buildChunks pagedSource [stepsPage]).map (·.chunkId)).Nodup := by
  intro _
  have parsed : parsePages [stepsText] = .ok [stepsPage] := by decide +kernel
  have ids : (buildChunks pagedSource [stepsPage]).map (·.chunkId) = ["SRC-03:p1:1","SRC-03:p1:1"] := by
    decide +kernel
  refine ⟨parsed,ids,?_⟩
  rw [ids]
  decide

end ParcelPilot
