import ParcelPilot.Documents

namespace ParcelPilot

def SourceStatus.value : SourceStatus → String
  | .current => "CURRENT"
  | .deprecated => "DEPRECATED"
  | .active => "ACTIVE"

def sourceStatuses : List SourceStatus := [.current,.deprecated,.active]

-- An entry of data/source_manifest.json, as far as ingestion reads it.
structure ManifestEntry where
  sourceId : String
  filename : String
  sourceType : SourceType
  status : String
  effectiveDate : String
  expiryDate : Option String := none
  supersedes : Option String := none
  supersededBy : Option String := none
  scopeKind : ScopeKind := .global
  accountIds : Option (List String) := none
  authorityClass : AuthorityClass
  checksum : String
  provenance : String
deriving DecidableEq,Repr

def ManifestEntry.sha256 (entry : ManifestEntry) : String := Py.removePrefix "sha256:" entry.checksum

-- app/documents/source_metadata.py
section Metadata

variable [Formats]

open Pattern

def parseDate (raw sourceId : String) : Ingest Date :=
  match Formats.strptimeDate (Py.strip raw) with
  | none => .error (.documentParse sourceId ("unparseable date " ++ Host.reprStr raw))
  | some date => .ok date

def parseStatus (raw sourceId : String) : Ingest SourceStatus :=
  let head := Formats.upper (Py.strip ((Py.splitOn " - " raw).headD ""))
  match sourceStatuses.find? (·.value = head) with
  | none => .error (.documentParse sourceId ("unrecognized status " ++ Host.reprStr raw))
  | some status => .ok status

-- `\bv(\d+)\b`, re.I
def versionMark : Pattern := sequence [boundary,.one (Host.sameLetter 'v'),
  .many Host.isDigit 1 none,boundary]

-- `f"v{match[1]}"`
def parseVersion (title : String) : Option String :=
  (findIter Host.isWord versionMark title).head?.map fun (_,found) =>
    String.ofList ('v' :: found.drop 1)

def termStart (term : Option String) : Option String :=
  term.map fun text => Py.strip ((Py.splitOn " to " text).headD "")

def termEnd (term : Option String) : Option String :=
  term.bind fun text => (Py.splitOn " to " text)[1]?.map Py.strip

-- `one or other` of texts that may be missing
def orText (one other : Option String) : Option String :=
  match one with
  | none => other
  | some text => if text = "" then other else some text

def effectiveText (page : ParsedPage) : Option String :=
  orText (orText (page.field "Effective") (page.field "Updated")) (termStart (page.field "Term"))

def drift (sourceId field : String) (manifestValue parsedValue : Option String) : IngestError :=
  .sourceMetadataDrift sourceId field (Py.reprOptional manifestValue) (Py.reprOptional parsedValue)

-- The account an agreement is for, checked against the manifest.
def scopeOf (sourceId : String) (page : ParsedPage) (entry : ManifestEntry) : Ingest SourceScope :=
  match entry.scopeKind with
  | .global => .ok ⟨.global,none⟩
  | .account =>
      match orText (page.field "Account") none with
      | none => .error (.documentParse sourceId "account-scoped source has no 'Account:' field")
      | some accountId =>
          let listed := entry.accountIds.getD []
          if !listed.isEmpty && accountId ∉ listed then
            .error (.sourceMetadataDrift sourceId "scope.account_id" (Py.reprList listed)
              (Host.reprStr accountId))
          else .ok ⟨.account,some accountId⟩

def buildSourceDocument (sourceId filename : String) (page : ParsedPage) (checksum : String)
    (sizeBytes : Nat) (entry : ManifestEntry) : Ingest SourceDocument := do
  match page.field "Status" with
  | none => throw (.documentParse sourceId "no 'Status:' field in preamble")
  | some rawStatus =>
      let status ← parseStatus rawStatus sourceId
      match effectiveText page with
      | none => throw (.documentParse sourceId
          "no 'Effective:'/'Updated:'/'Term:' field in preamble")
      | some effectiveRaw =>
          let effectiveDate ← parseDate effectiveRaw sourceId
          let expiryDate ← (orText (termEnd (page.field "Term")) none).mapM (parseDate · sourceId)
          if entry.status ≠ status.value then
            throw (drift sourceId "status" (some entry.status) (some status.value))
          let parsedEffective := isoDate effectiveDate
          if entry.effectiveDate ≠ parsedEffective then
            throw (drift sourceId "effective_date" (some entry.effectiveDate) (some parsedEffective))
          let parsedExpiry := expiryDate.map isoDate
          if entry.expiryDate ≠ parsedExpiry then
            throw (drift sourceId "expiry_date" entry.expiryDate parsedExpiry)
          let scope ← scopeOf sourceId page entry
          if entry.sha256 ≠ checksum then
            throw (.checksumMismatch filename entry.sha256 checksum)
          pure {
            sourceId := sourceId, filename := filename, sourceType := entry.sourceType
            status := status, version := parseVersion page.title, effectiveDate := effectiveDate
            expiryDate := expiryDate, supersedes := none, supersededBy := none, scope := scope
            authorityClass := entry.authorityClass, checksum := checksum, bytes := sizeBytes
            provenance := entry.provenance }

-- `{doc.version: sid for ... if doc.version}`: a later source takes the version.
def versionToId (sources : List (String × SourceDocument)) : List (String × String) :=
  sources.foldl (fun versions (sourceId,doc) =>
    match orText doc.version none with
    | none => versions
    | some version => Py.dictSet versions version sourceId) []

def resolveReference (raw : Option String) (versions : List (String × String)) (sourceId : String) :
    Ingest (Option String) :=
  match raw with
  | none => .ok none
  | some text =>
      match parseVersion text with
      | none => .error (.documentParse sourceId
          ("cannot resolve version reference in " ++ Host.reprStr text))
      | some version =>
          match Py.dictGet versions version with
          | none => .error (.documentParse sourceId ("reference " ++ Host.reprStr text ++
              " does not match any parsed source version"))
          | some target => .ok (some target)

-- `mapping[key]`
def subscript (mapping : List (String × α)) (key : String) : Ingest α :=
  match Py.dictGet mapping key with
  | none => .error (.raised (.keyError (Host.reprStr key)))
  | some value => .ok value

-- One source's links, as its first page names them and the manifest has them.
def resolveLinks (versions : List (String × String)) (sourceId : String) (doc : SourceDocument)
    (page : ParsedPage) (manifestById : List (String × ManifestEntry)) : Ingest SourceDocument := do
  let supersedes ← resolveReference (page.field "Supersedes") versions sourceId
  let supersededBy ← resolveReference (page.field "Superseded by") versions sourceId
  let entry ← subscript manifestById sourceId
  if entry.supersedes ≠ supersedes then
    throw (drift sourceId "supersedes" entry.supersedes supersedes)
  if entry.supersededBy ≠ supersededBy then
    throw (drift sourceId "superseded_by" entry.supersededBy supersededBy)
  pure {doc with supersedes := supersedes, supersededBy := supersededBy}

def resolveSupersession (sources : List (String × SourceDocument))
    (pages : List (String × ParsedPage)) (manifestById : List (String × ManifestEntry)) :
    Ingest (List (String × SourceDocument)) :=
  sources.mapM fun (sourceId,doc) => do
    let page ← subscript pages sourceId
    let resolved ← resolveLinks (versionToId sources) sourceId doc page manifestById
    pure (sourceId,resolved)

end Metadata

end ParcelPilot
