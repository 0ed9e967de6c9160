import ParcelPilot.Formats

namespace ParcelPilot

-- app/documents/pdf_parser.py
structure ParsedSection where
  number : Option String
  title : String
  body : String
deriving DecidableEq,Repr

-- The fields are a dict in insertion order.
structure ParsedPage where
  pageNumber : Nat
  title : String
  preambleFields : List (String × String)
  sections : List ParsedSection
deriving DecidableEq,Repr

def ParsedPage.field (page : ParsedPage) (name : String) : Option String :=
  Py.dictGet page.preambleFields name

section Pages

variable [Host]

open Pattern

-- `^(?P<num>\d+)\.\s+(?P<title>\S.*)$`
def headingLine : Pattern := sequence [.many Host.isDigit 1 none,.one (· = '.'),
  .many Host.isSpace 1 none,.one (fun c => !Host.isSpace c),.many (· != '\n') 0 none]

def keyChar (c : Char) : Bool := c.isAlpha || c = ' '

-- `^(?P<key>[A-Za-z][A-Za-z ]{1,30}):\s*(?P<value>.+)$`
def kvLine : Pattern := sequence [.one Char.isAlpha,.many keyChar 1 (some 30),.one (· = ':'),
  .many Host.isSpace 0 none,.many (· != '\n') 1 none]

-- `$`: at the end, or before a last newline
def atEnd (rest : List Char) : Bool := rest = [] || rest = ['\n']

-- `pattern.match(line)` of a pattern that ends in `$`
def matchesLine (pattern : Pattern) (line : String) : Bool :=
  (ends Host.isWord pattern (.start line.toList)).any (atEnd ·.after)

-- `match["num"]`, `match["title"]`: neither a dot nor a blank is a digit.
def headingOf (line : String) : Option (String × String) :=
  if matchesLine headingLine line then
    let num := line.toList.takeWhile Host.isDigit
    let title := Py.lstrip (line.toList.drop (num.length + 1))
    some (String.ofList num,String.ofList (title.takeWhile (· != '\n')))
  else none

-- `match["key"].strip()`, `match["value"].strip()`: a key has no colon.
def keyValueOf (line : String) : Option (String × String) :=
  if matchesLine kvLine line then
    let key := line.toList.takeWhile (· != ':')
    some (String.ofList (Py.stripped key),
      String.ofList (Py.stripped (line.toList.drop (key.length + 1))))
  else none

-- Every heading with the lines up to the next; what stands before the first
-- heading is not looked at.
def numberedSections : List String → List ParsedSection
  | [] => []
  | line :: rest =>
      match headingOf line with
      | none => numberedSections rest
      | some (number,title) =>
          ⟨some number,title,Py.join "\n" (rest.takeWhile fun next => (headingOf next).isNone)⟩ ::
            numberedSections rest

def splitSections : List String → List ParsedSection
  | [] => []
  | first :: rest =>
      if (first :: rest).all fun line => (headingOf line).isNone then
        [⟨none,first,Py.join "\n" rest⟩]
      else numberedSections (first :: rest)

def parsePage (pageNumber : Nat) (lines : List String) (filename : String) : Ingest ParsedPage :=
  let titleLines := lines.takeWhile fun line => (keyValueOf line).isNone
  let rest := lines.drop titleLines.length
  if rest.isEmpty then
    .error (.documentParse filename ("page " ++ toString pageNumber ++ " has no metadata block"))
  else
    let preamble := rest.takeWhile fun line => (keyValueOf line).isSome
    .ok ⟨pageNumber,Py.join " " titleLines,
      (preamble.filterMap keyValueOf).foldl (fun fields pair => Py.dictSet fields pair.1 pair.2) [],
      splitSections (rest.drop preamble.length)⟩

-- The pages are what the library extracts from the file, or why it cannot.
def parsePdf (filename : String) (pages : Except String (List String)) : Ingest (List ParsedPage) :=
  match pages with
  | .error message => .error (.library message)
  | .ok [] => .error (.documentParse filename "PDF has zero pages")
  | .ok texts => (texts.zipIdx 1).mapM fun (raw,i) =>
      let lines := Py.textLines raw
      if lines.isEmpty then
        .error (.documentParse filename ("page " ++ toString i ++ " has no extractable text"))
      else parsePage i lines filename

end Pages

-- app/documents/text_normalize.py
def zeroWidthSpace : Char := '\u200b'
def bulletChars : List Char := ['\u25cf','\u2022','\u25aa']

-- `[ \t]+` to one blank
def collapseBlanks (inRun : Bool) : List Char → List Char
  | [] => []
  | c :: rest =>
      if c = ' ' || c = '\t' then
        if inRun then collapseBlanks true rest else ' ' :: collapseBlanks true rest
      else c :: collapseBlanks false rest

section Normalize

variable [Formats]

-- `^[...]\s*` to "- "
def plainBullet : List Char → List Char
  | [] => []
  | c :: rest => if c ∈ bulletChars then '-' :: ' ' :: Py.lstrip rest else c :: rest

def normalizeLine (line : String) : String :=
  let visible := line.toList.filter (· != zeroWidthSpace)
  String.ofList (Py.stripped (collapseBlanks false (plainBullet (Py.stripped visible))))

def normalize (text : String) : String :=
  Formats.nfkc (Py.join "\n" (((Py.splitlines text).map normalizeLine).filter (· ≠ "")))

-- app/documents/chunker.py: an unnumbered section takes its position.
def sectionChunk (source : SourceDocument) (page : ParsedPage) (section_ : ParsedSection)
    (index : Nat) : DocumentChunk :=
  let sectionId := section_.number.getD (toString (index + 1))
  let rawText := Py.strip (section_.title ++ "\n" ++ section_.body)
  { chunkId := source.sourceId ++ ":p" ++ toString page.pageNumber ++ ":" ++ sectionId
    sourceId := source.sourceId
    filename := source.filename
    page := page.pageNumber
    section_ := some sectionId
    text := rawText
    normalizedText := normalize rawText
    status := source.status
    sourceType := source.sourceType
    accountScope := source.scope.accountId
    effectiveDate := source.effectiveDate
    authorityClass := source.authorityClass }

def buildChunks (source : SourceDocument) (pages : List ParsedPage) : List DocumentChunk :=
  pages.flatMap fun page => page.sections.zipIdx.map fun (section_,index) =>
    sectionChunk source page section_ index

end Normalize

end ParcelPilot
