import ParcelPilot.AlertsEscalate
import ParcelPilot.StoredWorkbook
import ParcelPilot.Supersession

namespace ParcelPilot

open Interleaving

-- What a manifest entry says of the source that is stored for it.
structure Describes (entry : ManifestEntry) (source : SourceDocument) : Prop where
  sourceId : source.sourceId = entry.sourceId
  filename : source.filename = entry.filename
  sourceType : source.sourceType = entry.sourceType
  authorityClass : source.authorityClass = entry.authorityClass
  provenance : source.provenance = entry.provenance
  status : source.status.value = entry.status
  effectiveDate : isoDate source.effectiveDate = entry.effectiveDate
  expiryDate : source.expiryDate.map isoDate = entry.expiryDate
  scope : source.scope.kind = entry.scopeKind
  account : source.scope.kind = .account ↔ source.scope.accountId.isSome = true
  listed : ∀ accountId ∈ source.scope.accountId, entry.accountIds.getD [] ≠ [] →
    accountId ∈ entry.accountIds.getD []
  checksum : source.checksum = entry.sha256

-- The file of a manifest entry, with the checksum the entry has
def Supplies (pack : SourcePack) (entry : ManifestEntry) (file : SourceFile) : Prop :=
  pack.files entry.filename = some file ∧ file.sha256 = .ok entry.sha256

def Declared (pack : SourcePack) (manifest : List ManifestEntry) (source : SourceDocument) : Prop :=
  ∃ entry ∈ manifest, Describes entry source ∧ ∃ file, Supplies pack entry file

-- The columns of a chunk that repeat its source
structure Copies (source : SourceDocument) (chunk : DocumentChunk) : Prop where
  sourceId : chunk.sourceId = source.sourceId
  filename : chunk.filename = source.filename
  status : chunk.status = source.status
  sourceType : chunk.sourceType = source.sourceType
  accountScope : chunk.accountScope = source.scope.accountId
  effectiveDate : chunk.effectiveDate = source.effectiveDate
  authorityClass : chunk.authorityClass = source.authorityClass

-- A target is held by its source; one of an account, by an agreement with it.
structure Holds (source : SourceDocument) (target : SlaTarget) : Prop where
  sourceId : target.sourceId = source.sourceId
  account : ∀ accountId ∈ target.accountId, source.scope = ⟨.account,some accountId⟩

section Parsing

variable [Formats] {source : SourceDocument} {page : ParsedPage} {entry : ManifestEntry}
  {sourceId filename body : String} {targets : List SlaTarget}

theorem scopeOf_described {scope : SourceScope} (found : scopeOf sourceId page entry = .ok scope) :
    scope.kind = entry.scopeKind ∧ (scope.kind = .account ↔ scope.accountId.isSome = true) ∧
      ∀ accountId ∈ scope.accountId, entry.accountIds.getD [] ≠ [] → accountId ∈ entry.accountIds.getD [] := by
  unfold scopeOf at found
  split at found
  · rename_i global
    cases found
    simp [global]
  · rename_i account
    split at found
    · cases found
    · dsimp only at found
      split at found
      · cases found
      · rename_i accountId _ unlisted
        cases found
        refine ⟨account.symm,by simp,?_⟩
        intro held same some_
        cases same
        by_contra absent
        simp_all

theorem buildSourceDocument_described {checksum : String} {bytes : Nat}
    (built : buildSourceDocument sourceId filename page checksum bytes entry = .ok source)
    (here : sourceId = entry.sourceId) (file : filename = entry.filename) :
    Describes entry source ∧ source.checksum = checksum := by
  unfold buildSourceDocument at built
  split at built
  · cases built
  · obtain ⟨status,_,built⟩ := except_bind_ok.mp built
    split at built
    · cases built
    · obtain ⟨effectiveDate,_,built⟩ := except_bind_ok.mp built
      obtain ⟨expiryDate,_,built⟩ := except_bind_ok.mp built
      dsimp only at built
      split at built
      · cases built
      · rename_i statuses
        split at built
        · cases built
        · rename_i effective
          split at built
          · cases built
          · rename_i expiry
            obtain ⟨scope,found,built⟩ := except_bind_ok.mp built
            split at built
            · cases built
            · rename_i sums
              cases built
              obtain ⟨kind,account,listed⟩ := scopeOf_described found
              exact ⟨⟨here,file,rfl,rfl,rfl,(not_not.mp statuses).symm,(not_not.mp effective).symm,
                (not_not.mp expiry).symm,kind,account,listed,(not_not.mp sums).symm⟩,rfl⟩

theorem slaTarget_holds {severity targetText : String} {plan accountId : Option String} {target : SlaTarget}
    (made : slaTarget sourceId plan accountId severity targetText = .ok target) :
    target.sourceId = sourceId ∧ target.accountId = accountId := by
  obtain ⟨reading,_,made⟩ := except_bind_ok.mp made
  cases made
  exact ⟨rfl,rfl⟩

theorem planRows_held {lines plans : List String} {cursor : Nat}
    (accepted : planRows sourceId lines plans cursor = .ok targets) :
    ∀ target ∈ targets, target.sourceId = sourceId ∧ target.accountId = none := by
  induction plans generalizing cursor targets with
  | nil =>
      cases accepted
      simp
  | cons plan plans ih =>
      unfold planRows at accepted
      dsimp only at accepted
      split at accepted
      · cases accepted
      · obtain ⟨row,made,accepted⟩ := except_bind_ok.mp accepted
        obtain ⟨rest,others,accepted⟩ := except_bind_ok.mp accepted
        cases accepted
        intro target member
        rcases List.mem_append.mp member with first | later
        · obtain ⟨cell,_,made⟩ := mapM_result made first
          exact slaTarget_holds made
        · exact ih others target later

theorem parseGridTable_held (parsed : parseGridTable body sourceId = .ok targets) :
    ∀ target ∈ targets, target.sourceId = sourceId ∧ target.accountId = none := by
  unfold parseGridTable at parsed
  dsimp only at parsed
  split at parsed
  · cases parsed
  · split at parsed
    · cases parsed
    · exact planRows_held parsed

theorem parseBulletTargets_held {accountId : String}
    (parsed : parseBulletTargets body sourceId accountId = .ok targets) :
    ∀ target ∈ targets, target.sourceId = sourceId ∧ target.accountId = some accountId := by
  obtain ⟨made,each,parsed⟩ := except_bind_ok.mp parsed
  dsimp only at parsed
  split at parsed
  · cases parsed
  · cases parsed
    intro target member
    obtain ⟨bullet,_,made⟩ := mapM_result each member
    exact slaTarget_holds made

theorem sectionTargets_held {section_ : ParsedSection} (found : sectionTargets source section_ = .ok targets) :
    ∀ target ∈ targets, Holds source target ∧ ∃ rows, AcceptedText rows ∧ target ∈ rows := by
  unfold sectionTargets at found
  intro target member
  split at found
  · obtain ⟨here,plan⟩ := parseGridTable_held found target member
    exact ⟨⟨here,by simp [plan]⟩,targets,.grid found,member⟩
  · split at found
    · rename_i terms
      split at found
      · cases found
      · rename_i accountId account
        obtain ⟨here,own⟩ := parseBulletTargets_held found target member
        refine ⟨⟨here,?_⟩,targets,.bullets found,member⟩
        intro wanted same
        rw [own] at same
        cases same
        cases kept : source.scope with
        | mk kind held =>
            rw [kept] at terms account
            cases terms.2
            cases account
            rfl
    · cases found
      cases member

theorem sectionChunk_copies (source : SourceDocument) (page : ParsedPage) (section_ : ParsedSection)
    (index : Nat) : Copies source (sectionChunk source page section_ index) :=
  ⟨rfl,rfl,rfl,rfl,rfl,rfl,rfl⟩

theorem buildChunks_copies {pages : List ParsedPage} {chunk : DocumentChunk}
    (built : chunk ∈ buildChunks source pages) : Copies source chunk := by
  obtain ⟨page,_,built⟩ := List.mem_flatMap.mp built
  obtain ⟨⟨section_,index⟩,_,rfl⟩ := List.mem_map.mp built
  exact sectionChunk_copies source page section_ index

end Parsing

-- The pages of a source are those of the file it is declared with.
def ReadFrom [Formats] (pack : SourcePack) (manifest : List ManifestEntry) (source : SourceDocument)
    (pages : List ParsedPage) : Prop :=
  ∃ entry ∈ manifest, entry.endsWith ".pdf" = true ∧ Describes entry source ∧
    ∃ file, Supplies pack entry file ∧ parsePdf (baseName entry.filename) file.pages = .ok pages

-- What is stored of a source: its sections, and the targets that they give
def Stores [Formats] (pack : SourcePack) (manifest : List ManifestEntry) (source : SourceDocument)
    (part : List DocumentChunk × List SlaTarget) : Prop :=
  ∃ pages, ReadFrom pack manifest source pages ∧ part.1 = buildChunks source pages ∧
    extractSlaTargets source pages = .ok part.2

-- The workbook is the manifest's first.
def LoadedFrom [Formats] (pack : SourcePack) (manifest : List ManifestEntry) (workbook : WorkbookData) :
    Prop :=
  ∃ entry file book, manifest.find? (·.endsWith ".xlsx") = some entry ∧ Supplies pack entry file ∧
    file.workbook = .ok book ∧ loadWorkbook book = .ok workbook

-- What is ready to be written is what the pack and its manifest say.
structure Prepared.Sound [Formats] (pack : SourcePack) (manifest : List ManifestEntry) (prepared : Prepared) :
    Prop where
  complete : ∀ entry ∈ manifest, entry.endsWith ".pdf" = true →
    ∃ source ∈ prepared.sources, source.2.sourceId = entry.sourceId
  documents : ∃ parts, List.Forall₂ (fun source => Stores pack manifest source.2) prepared.sources parts ∧
    prepared.chunks = parts.flatMap (·.1) ∧ prepared.slaTargets = parts.flatMap (·.2)
  links : ∀ source ∈ prepared.sources, ∀ other,
    source.2.supersedes = some other ∨ source.2.supersededBy = some other →
      ∃ target ∈ prepared.sources, target.2.sourceId = other
  workbook : LoadedFrom pack manifest prepared.workbook

section Preparing

theorem foldlM_last {ι κ ν σ : Type} [DecidableEq κ] {key : ι → κ} {get : σ → κ → Option ν}
    {gives : ι → ν → Prop} {step : σ → ι → Ingest σ} {items : List ι} {first last : σ}
    (each : ∀ item ∈ items, ∀ seen after, step seen item = .ok after → ∃ value, gives item value ∧
      ∀ wanted, get after wanted = if key item = wanted then some value else get seen wanted)
    (ran : items.foldlM step first = .ok last) (wanted : κ) :
    (∃ item value, items.reverse.find? (key · = wanted) = some item ∧ gives item value ∧
        get last wanted = some value) ∨
      (items.reverse.find? (key · = wanted) = none ∧ get last wanted = get first wanted) := by
  induction items using List.reverseRecOn generalizing last with
  | nil =>
      cases ran
      exact .inr ⟨rfl,rfl⟩
  | append_singleton front item ih =>
      rw [List.foldlM_append] at ran
      obtain ⟨middle,began,ran⟩ := except_bind_ok.mp ran
      rw [List.foldlM_cons] at ran
      obtain ⟨after,stepped,ran⟩ := except_bind_ok.mp ran
      cases ran
      obtain ⟨value,gave,reads⟩ := each item (by simp) middle last stepped
      rw [List.reverse_append,List.reverse_singleton,List.singleton_append]
      by_cases same : key item = wanted
      · exact .inl ⟨item,value,List.find?_cons_of_pos (by simp [same]),gave,by rw [reads,if_pos same]⟩
      · rw [List.find?_cons_of_neg (by simp [same]),reads,if_neg same]
        exact ih (fun other listed => each other (List.mem_append_left _ listed)) began

variable [Formats] {pack : SourcePack} {manifest : List ManifestEntry}
  {pdfs : List (ManifestEntry × SourceFile)}

omit [Formats] in
theorem verifyChecksum_ok {entry : ManifestEntry} {file : SourceFile} {checksum : String}
    (verified : verifyChecksum entry file = .ok checksum) :
    file.sha256 = .ok entry.sha256 ∧ checksum = entry.sha256 := by
  unfold verifyChecksum at verified
  split at verified
  · cases verified
  · rename_i actual read
    split at verified
    · cases verified
    · rename_i same
      cases verified
      obtain rfl := not_not.mp same
      exact ⟨read,rfl⟩

def PagesOf (pdf : ManifestEntry × SourceFile) (pages : List ParsedPage) : Prop :=
  pdf.2.sha256 = .ok pdf.1.sha256 ∧ parsePdf (baseName pdf.1.filename) pdf.2.pages = .ok pages

def lastPdf (pdfs : List (ManifestEntry × SourceFile)) (sourceId : String) :
    Option (ManifestEntry × SourceFile) := pdfs.reverse.find? (·.1.sourceId = sourceId)

theorem parseSources_last {pages : List (String × List ParsedPage)} {checksums : List (String × String)}
    (parsed : parseSources pdfs = .ok (pages,checksums)) {sourceId : String} {found : List ParsedPage}
    (held : Py.dictGet pages sourceId = some found) :
    ∃ pdf, lastPdf pdfs sourceId = some pdf ∧ PagesOf pdf found := by
  have last : (∃ pdf value, lastPdf pdfs sourceId = some pdf ∧ PagesOf pdf value ∧
      Py.dictGet (pages,checksums).1 sourceId = some value) ∨
      (lastPdf pdfs sourceId = none ∧ Py.dictGet (pages,checksums).1 sourceId = none) := by
    refine @foldlM_last _ _ _ _ _ (fun pdf => pdf.1.sourceId) (fun seen => Py.dictGet seen.1) PagesOf _ _ _ _
      (fun pdf _ seen after step => ?_) parsed sourceId
    obtain ⟨checksum,verified,step⟩ := except_bind_ok.mp step
    obtain ⟨value,read,step⟩ := except_bind_ok.mp step
    cases step
    exact ⟨value,⟨(verifyChecksum_ok verified).1,read⟩,fun wanted => Py.dictGet_set _ _ _ _⟩
  rcases last with ⟨pdf,value,last,gave,same⟩ | ⟨_,nothing⟩
  · rw [held] at same
    cases same
    exact ⟨pdf,last,gave⟩
  · rw [held] at nothing
    cases nothing

theorem buildSources_last {pages : List (String × List ParsedPage)} {checksums : List (String × String)}
    {built : List (String × SourceDocument)} (ran : buildSources pages checksums pdfs = .ok built)
    (sourceId : String) :
    (∃ pdf source, lastPdf pdfs sourceId = some pdf ∧ Describes pdf.1 source ∧
        Py.dictGet built sourceId = some source) ∨
      (lastPdf pdfs sourceId = none ∧ Py.dictGet built sourceId = none) := by
  refine foldlM_last (fun pdf _ seen after step => ?_) ran sourceId
  obtain ⟨pages_,_,step⟩ := except_bind_ok.mp step
  obtain ⟨page,_,step⟩ := except_bind_ok.mp step
  obtain ⟨checksum,_,step⟩ := except_bind_ok.mp step
  obtain ⟨made,describes,step⟩ := except_bind_ok.mp step
  cases step
  exact ⟨made,(buildSourceDocument_described describes rfl rfl).1,fun wanted => Py.dictGet_set _ _ _ _⟩

theorem buildSources_keys {pages : List (String × List ParsedPage)} {checksums : List (String × String)}
    {built : List (String × SourceDocument)} (ran : buildSources pages checksums pdfs = .ok built) :
    (built.map (·.1)).Nodup := by
  unfold buildSources at ran
  refine @foldlM_keeps _ _ _ _ _ (fun sources => (sources.map (·.1)).Nodup) _ _ List.nodup_nil ?_ ran
  intro pdf listed sources after distinct step
  obtain ⟨pages_,_,step⟩ := except_bind_ok.mp step
  obtain ⟨page,_,step⟩ := except_bind_ok.mp step
  obtain ⟨checksum,_,step⟩ := except_bind_ok.mp step
  obtain ⟨made,_,step⟩ := except_bind_ok.mp step
  cases step
  exact Py.dictSet_nodup distinct _ _

omit [Formats] in
theorem lastPdf_listed {sourceId : String} {pdf : ManifestEntry × SourceFile}
    (last : lastPdf pdfs sourceId = some pdf) : pdf ∈ pdfs ∧ pdf.1.sourceId = sourceId :=
  ⟨List.mem_reverse.mp (List.mem_of_find?_eq_some last),by simpa using List.find?_some last⟩

theorem built_described {pages : List (String × List ParsedPage)} {checksums : List (String × String)}
    {built : List (String × SourceDocument)} (ran : buildSources pages checksums pdfs = .ok built)
    {source : String × SourceDocument} (listed : source ∈ built) :
    ∃ pdf, lastPdf pdfs source.1 = some pdf ∧ Describes pdf.1 source.2 ∧
      source.2.sourceId = source.1 := by
  have held := (Py.dictGet_some (buildSources_keys ran)).mpr listed
  rcases buildSources_last ran source.1 with ⟨pdf,made,last,describes,same⟩ | ⟨_,nothing⟩
  · rw [held] at same
    cases same
    exact ⟨pdf,last,describes,describes.sourceId.trans (lastPdf_listed last).2⟩
  · rw [held] at nothing
    cases nothing

omit [Formats] in
theorem validateFilesPresent_found {present : List (ManifestEntry × SourceFile)}
    (ran : validateFilesPresent pack manifest = .ok present) :
    present.map (·.1) = manifest ∧ ∀ pdf ∈ present, pack.files pdf.1.filename = some pdf.2 := by
  unfold validateFilesPresent at ran
  split at ran
  · cases ran
  · have each := mapM_ok ran
    clear ran
    induction each with
    | nil => exact ⟨rfl,by simp⟩
    | @cons entry pdf rest others found _ ih =>
        split at found
        · cases found
        · rename_i file here
          cases found
          obtain ⟨entries,files⟩ := ih
          refine ⟨by rw [List.map_cons,entries],?_⟩
          intro other member
          rcases List.mem_cons.mp member with rfl | later
          · exact here
          · exact files other later

omit [Formats] in
theorem describes_relinked {entry : ManifestEntry} {manifestById : List (String × ManifestEntry)}
    {source : String × SourceDocument} (describes : Describes entry source.2) :
    Describes entry (relinked manifestById source).2 := by
  unfold relinked
  split
  · exact describes
  · obtain ⟨sourceId,filename,sourceType,authorityClass,provenance,status,effectiveDate,expiryDate,
      scope,account,listed,checksum⟩ := describes
    exact ⟨sourceId,filename,sourceType,authorityClass,provenance,status,effectiveDate,expiryDate,
      scope,account,listed,checksum⟩

omit [Formats] in
theorem relinked_key (manifestById : List (String × ManifestEntry)) (source : String × SourceDocument) :
    (relinked manifestById source).2.sourceId = source.2.sourceId := by
  unfold relinked
  split <;> rfl

theorem resolved_link {pages : List (String × ParsedPage)} {manifestById : List (String × ManifestEntry)}
    {built resolved : List (String × SourceDocument)}
    (ran : resolveSupersession built pages manifestById = .ok resolved)
    (keyed : ∀ source ∈ built, source.2.sourceId = source.1) :
    ∀ source ∈ resolved, ∀ other, source.2.supersedes = some other ∨ source.2.supersededBy = some other →
      ∃ target ∈ resolved, target.2.sourceId = other := by
  obtain ⟨settled,rfl⟩ := resolveSupersession_ok.mp ran
  have carried {raw link : Option String} {other : String} (linked : Linked (lastCarrier built) raw link)
      (named : link = some other) :
      ∃ target ∈ built.map (relinked manifestById), target.2.sourceId = other := by
    rcases linked with ⟨_,nothing⟩ | ⟨version,target,_,held,link_⟩
    · rw [named] at nothing
      cases nothing
    · obtain ⟨carrier,carries,rfl⟩ := List.mem_map.mp (lastCarrier_mem held (List.Perm.refl built))
      have listed := (List.mem_filter.mp carries).1
      refine ⟨_,List.mem_map_of_mem listed,?_⟩
      rw [relinked_key,keyed carrier listed]
      exact Option.some.inj (link_.symm.trans named)
  intro source member other named
  obtain ⟨before,listed,rfl⟩ := List.mem_map.mp member
  obtain ⟨page,entry,_,here,older,newer⟩ := settled before listed
  rw [relinked,here] at named
  rcases named with supersedes | supersededBy
  · exact carried older supersedes
  · exact carried newer supersededBy

theorem extractSlaTargets_from {source : SourceDocument} {pages : List ParsedPage} {targets : List SlaTarget}
    (ran : extractSlaTargets source pages = .ok targets) :
    ∀ target ∈ targets, ∃ section_ ∈ pages.flatMap (·.sections), ∃ rows,
      sectionTargets source section_ = .ok rows ∧ target ∈ rows := by
  obtain ⟨found,each,ran⟩ := except_bind_ok.mp ran
  cases ran
  intro target member
  obtain ⟨rows,listed,member⟩ := List.mem_flatten.mp member
  obtain ⟨section_,here,parsed⟩ := mapM_result each listed
  exact ⟨section_,here,rows,parsed,member⟩

omit [Formats] in
theorem firstOf_ok {items : List ρ} {item : ρ} (ran : firstOf items = .ok item) : items.head? = some item := by
  cases items with
  | nil => cases ran
  | cons first rest =>
      cases ran
      rfl

theorem openWorkbook_loaded {entry : ManifestEntry} {file : SourceFile} {workbook : WorkbookData}
    (opened : openWorkbook entry file = .ok workbook) :
    file.sha256 = .ok entry.sha256 ∧
      ∃ book, file.workbook = .ok book ∧ loadWorkbook book = .ok workbook := by
  obtain ⟨checksum,verified,opened⟩ := except_bind_ok.mp opened
  split at opened
  · cases opened
  · rename_i book read
    exact ⟨(verifyChecksum_ok verified).1,book,read,opened⟩

theorem extracted_stores {present : List (ManifestEntry × SourceFile)}
    {pagesById : List (String × List ParsedPage)} {checksums : List (String × String)}
    {built : List (String × SourceDocument)} {manifestById : List (String × ManifestEntry)}
    {source : String × SourceDocument} {part : List DocumentChunk × List SlaTarget}
    (found : validateFilesPresent pack manifest = .ok present)
    (parsed : parseSources (present.filter (·.1.endsWith ".pdf")) = .ok (pagesById,checksums))
    (made : buildSources pagesById checksums (present.filter (·.1.endsWith ".pdf")) = .ok built)
    (listed : source ∈ built)
    (extracts : (do
      let pages ← subscript pagesById (relinked manifestById source).1
      let targets ← extractSlaTargets (relinked manifestById source).2 pages
      pure (buildChunks (relinked manifestById source).2 pages,targets)) = .ok part) :
    Stores pack manifest (relinked manifestById source).2 part := by
  obtain ⟨pages,looked,extracts⟩ := except_bind_ok.mp extracts
  obtain ⟨targets,read,extracts⟩ := except_bind_ok.mp extracts
  cases extracts
  have id_ : (relinked manifestById source).1 = source.1 := by
    unfold relinked
    split <;> rfl
  rw [id_] at looked
  obtain ⟨pdf,last,describes,_⟩ := built_described made listed
  obtain ⟨other,again,verified,pages_⟩ := parseSources_last parsed (subscript_ok.mp looked)
  cases Option.some.inj (last.symm.trans again)
  obtain ⟨entries,files⟩ := validateFilesPresent_found found
  obtain ⟨here,ends_⟩ := List.mem_filter.mp (lastPdf_listed last).1
  refine ⟨pages,⟨pdf.1,?_,ends_,describes_relinked describes,pdf.2,⟨files pdf here,verified⟩,pages_⟩,rfl,read⟩
  rw [← entries]
  exact List.mem_map_of_mem here

theorem prepared_sound {prepared : Prepared} (ran : prepareSources pack manifest = .ok prepared) :
    prepared.Sound pack manifest := by
  unfold prepareSources at ran
  dsimp only at ran
  obtain ⟨_,_,ran⟩ := except_bind_ok.mp ran
  obtain ⟨present,found,ran⟩ := except_bind_ok.mp ran
  obtain ⟨⟨pagesById,checksums⟩,parsed,ran⟩ := except_bind_ok.mp ran
  obtain ⟨built,made,ran⟩ := except_bind_ok.mp ran
  obtain ⟨firstPages,_,ran⟩ := except_bind_ok.mp ran
  obtain ⟨sources,resolved,ran⟩ := except_bind_ok.mp ran
  obtain ⟨extracted,each,ran⟩ := except_bind_ok.mp ran
  obtain ⟨xlsx,first,ran⟩ := except_bind_ok.mp ran
  obtain ⟨workbook,opened,ran⟩ := except_bind_ok.mp ran
  cases ran
  obtain ⟨entries,files⟩ := validateFilesPresent_found found
  have keyed : ∀ source ∈ built, source.2.sourceId = source.1 := by
    intro source listed
    obtain ⟨_,_,_,same⟩ := built_described made listed
    exact same
  have links := resolved_link resolved keyed
  obtain ⟨_,rfl⟩ := resolveSupersession_ok.mp resolved
  refine ⟨?_,⟨extracted,?_,rfl,rfl⟩,links,?_⟩
  · intro entry listed ends_
    rw [← entries] at listed
    obtain ⟨pdf,here,rfl⟩ := List.mem_map.mp listed
    rcases buildSources_last made pdf.1.sourceId with ⟨last,source,_,_,held⟩ | ⟨nothing,_⟩
    · have member := (Py.dictGet_some (buildSources_keys made)).mp held
      refine ⟨_,List.mem_map_of_mem member,?_⟩
      rw [relinked_key]
      exact keyed _ member
    · have skipped := List.find?_eq_none.mp nothing pdf
        (List.mem_reverse.mpr (List.mem_filter.mpr ⟨here,ends_⟩))
      simp at skipped
  · have parts := mapM_ok each
    rw [List.forall₂_map_left_iff] at parts ⊢
    refine List.Forall₂.imp ?_ ((List.forall₂_and_left _ _).mpr ⟨fun _ listed => listed,parts⟩)
    intro source part held
    obtain ⟨listed,extracts⟩ := held
    exact extracted_stores found parsed made listed extracts
  · obtain ⟨verified,book,read,loaded⟩ := openWorkbook_loaded opened
    have head := firstOf_ok first
    have member := List.mem_of_head? head
    refine ⟨xlsx.1,xlsx.2,book,?_,⟨files xlsx (List.mem_filter.mp member).1,verified⟩,read,loaded⟩
    rw [← entries,List.find?_map,← List.head?_filter]
    exact congrArg (Option.map Prod.fst) head

end Preparing

-- What an INSERT that was accepted has found and has done
inductive Stored.Accepts (stored : Stored) : Row → Stored → Prop where
  | source {source : SourceDocument} {sources : Table SourceDocument.sourceId}
      (inserted : stored.db.sources.insert source = some sources) :
      Stored.Accepts stored (.source source) {stored with db := {stored.db with sources := sources}}
  | chunk {chunk : DocumentChunk} (fresh : chunk.chunkId ∉ stored.db.documentChunks.map (·.chunkId)) :
      Stored.Accepts stored (.chunk chunk)
        {stored with db := {stored.db with documentChunks := stored.db.documentChunks ++ [chunk]}}
  | slaTarget {target : SlaTarget} (fresh : target.identity ∉ stored.db.slaTargets.map (·.identity)) :
      Stored.Accepts stored (.slaTarget target)
        {stored with db := {stored.db with slaTargets := stored.db.slaTargets ++ [target]}}
  | account {account : Account} {accounts : Table Account.accountId}
      (inserted : stored.db.accounts.insert account = some accounts) :
      Stored.Accepts stored (.account account) {stored with db := {stored.db with accounts := accounts}}
  | order {order : Order} {holder : Account} {orders : Table OrderRow.orderId}
      (inserted : stored.db.orders.insert order.toRow = some orders)
      (held : stored.db.accounts.row order.accountId = some holder) :
      Stored.Accepts stored (.order order) {stored with db := {stored.db with orders := orders}}
  | ticket {ticket : Ticket} {holder : Account} {tickets : Table TicketRow.ticketId}
      (inserted : stored.db.tickets.insert ticket.toRow = some tickets)
      (held : stored.db.accounts.row ticket.accountId = some holder) :
      Stored.Accepts stored (.ticket ticket) {stored with db := {stored.db with tickets := tickets}}
  | entry {key value : String} {metaRows : Table (Prod.fst : String × String → String)}
      (inserted : stored.metaRows.insert (key,value) = some metaRows) :
      Stored.Accepts stored (.entry key value) {stored with metaRows := metaRows}

section Writing

variable {κ ρ : Type} [DecidableEq κ] {key : ρ → κ} {table after : Table key}

theorem keyedInsert_ok {columns : String} {row : ρ} (ran : keyedInsert columns table row = .ok after) :
    table.insert row = some after := by
  unfold keyedInsert at ran
  split at ran
  · cases ran
  · rename_i grown inserted
    cases ran
    exact inserted

theorem references_ok {parent : Option ρ} (ran : references parent = .ok ()) : ∃ row, parent = some row := by
  unfold references at ran
  split at ran
  · cases ran
  · exact ⟨_,rfl⟩

theorem row_kept {fresh row : ρ} {wanted : κ} (inserted : table.insert fresh = some after)
    (found : table.row wanted = some row) : after.row wanted = some row := by
  rw [Table.insert_row inserted]
  split
  · rename_i same
    rw [← same,Table.insert_fresh inserted] at found
    cases found
  · exact found

variable {stored written : Stored} {row : Row}

theorem insertRow_accepts (ran : insertRow row stored = .ok written) : Stored.Accepts stored row written := by
  unfold insertRow at ran
  cases row with
  | source source =>
      obtain ⟨_,_,ran⟩ := except_bind_ok.mp ran
      obtain ⟨sources,inserted,ran⟩ := except_bind_ok.mp ran
      cases ran
      exact .source (keyedInsert_ok inserted)
  | chunk chunk =>
      obtain ⟨_,_,ran⟩ := except_bind_ok.mp ran
      dsimp only at ran
      split at ran
      · cases ran
      · rename_i fresh
        obtain ⟨_,_,ran⟩ := except_bind_ok.mp ran
        cases ran
        exact .chunk fresh
  | slaTarget target =>
      obtain ⟨_,_,ran⟩ := except_bind_ok.mp ran
      dsimp only at ran
      split at ran
      · cases ran
      · rename_i fresh
        obtain ⟨_,_,ran⟩ := except_bind_ok.mp ran
        cases ran
        exact .slaTarget fresh
  | account account =>
      obtain ⟨accounts,inserted,ran⟩ := except_bind_ok.mp ran
      cases ran
      exact .account (keyedInsert_ok inserted)
  | order order =>
      obtain ⟨_,_,ran⟩ := except_bind_ok.mp ran
      obtain ⟨orders,inserted,ran⟩ := except_bind_ok.mp ran
      obtain ⟨_,refers,ran⟩ := except_bind_ok.mp ran
      obtain ⟨holder,held⟩ := references_ok refers
      cases ran
      exact .order (keyedInsert_ok inserted) held
  | ticket ticket =>
      obtain ⟨tickets,inserted,ran⟩ := except_bind_ok.mp ran
      obtain ⟨_,refers,ran⟩ := except_bind_ok.mp ran
      obtain ⟨holder,held⟩ := references_ok refers
      cases ran
      exact .ticket (keyedInsert_ok inserted) held
  | entry key value =>
      obtain ⟨metaRows,inserted,ran⟩ := except_bind_ok.mp ran
      cases ran
      exact .entry (keyedInsert_ok inserted)

-- The constraints of the schema that stay true from one INSERT to the next
structure Db.Constrained (db : Db) : Prop where
  chunkIds : (db.documentChunks.map (·.chunkId)).Nodup
  targetIds : (db.slaTargets.map (·.identity)).Nodup
  orders : ∀ order ∈ db.orders.rows, ∃ holder, db.accounts.row order.accountId = some holder
  tickets : ∀ ticket ∈ db.tickets.rows, ∃ holder, db.accounts.row ticket.accountId = some holder

theorem nodup_added {ι : Type} {items : List ρ} {item : ρ} {name : ρ → ι} (distinct : (items.map name).Nodup)
    (fresh : name item ∉ items.map name) : ((items ++ [item]).map name).Nodup := by
  rw [List.map_append,List.nodup_append]
  refine ⟨distinct,List.nodup_singleton _,?_⟩
  intro one first two second same
  cases List.mem_singleton.mp second
  exact fresh (same ▸ first)

theorem accepts_constrained (accepts : Stored.Accepts stored row written) (constrained : stored.db.Constrained) :
    written.db.Constrained := by
  obtain ⟨chunkIds,targetIds,orders,tickets⟩ := constrained
  cases accepts with
  | source inserted => exact ⟨chunkIds,targetIds,orders,tickets⟩
  | chunk fresh => exact ⟨nodup_added chunkIds fresh,targetIds,orders,tickets⟩
  | slaTarget fresh => exact ⟨chunkIds,nodup_added targetIds fresh,orders,tickets⟩
  | account inserted =>
      refine ⟨chunkIds,targetIds,?_,?_⟩
      · intro order listed
        obtain ⟨holder,held⟩ := orders order listed
        exact ⟨holder,row_kept inserted held⟩
      · intro ticket listed
        obtain ⟨holder,held⟩ := tickets ticket listed
        exact ⟨holder,row_kept inserted held⟩
  | order inserted held =>
      refine ⟨chunkIds,targetIds,?_,tickets⟩
      intro order listed
      rw [Table.insert_rows inserted] at listed
      rcases List.mem_append.mp listed with old | new
      · exact orders order old
      · cases List.mem_singleton.mp new
        exact ⟨_,held⟩
  | ticket inserted held =>
      refine ⟨chunkIds,targetIds,orders,?_⟩
      intro ticket listed
      rw [Table.insert_rows inserted] at listed
      rcases List.mem_append.mp listed with old | new
      · exact tickets ticket old
      · cases List.mem_singleton.mp new
        exact ⟨_,held⟩
  | entry inserted => exact ⟨chunkIds,targetIds,orders,tickets⟩

def Row.sources : Row → List SourceDocument
  | .source listed => [listed]
  | _ => []

def Row.chunks : Row → List DocumentChunk
  | .chunk part => [part]
  | _ => []

def Row.slaTargets : Row → List SlaTarget
  | .slaTarget promise => [promise]
  | _ => []

theorem accepts_documents (accepts : Stored.Accepts stored row written) :
    written.db.sources.rows = stored.db.sources.rows ++ row.sources ∧
      written.db.documentChunks = stored.db.documentChunks ++ row.chunks ∧
      written.db.slaTargets = stored.db.slaTargets ++ row.slaTargets := by
  cases accepts with
  | source inserted => simp [Row.sources,Row.chunks,Row.slaTargets,Table.insert_rows inserted]
  | _ => simp [Row.sources,Row.chunks,Row.slaTargets]

variable {prepared : Prepared} {ingestedAt : String}

theorem written_documents
    (ran : sqlite.addAll (rowsToWrite prepared ingestedAt) Stored.empty = .ok written) :
    written.db.sources.rows = prepared.sources.map (·.2) ∧
      written.db.documentChunks = prepared.chunks ∧ written.db.slaTargets = prepared.slaTargets := by
  have each := fun row seen after (inserted : sqlite.add row seen = .ok after) =>
    accepts_documents (insertRow_accepts inserted)
  refine ⟨?_,?_,?_⟩
  · rw [sqlite.addAll_appends (fun stored => stored.db.sources.rows) Row.sources
      (fun row seen after inserted => (each row seen after inserted).1) ran,List.map_eq_flatMap]
    simp [rowsToWrite,Row.sources,Stored.empty,Db.empty,Table.empty,List.flatMap_map,none_added]
  · rw [sqlite.addAll_appends (fun stored => stored.db.documentChunks) Row.chunks
      (fun row seen after inserted => (each row seen after inserted).2.1) ran]
    simp [rowsToWrite,Row.chunks,Stored.empty,Db.empty,List.flatMap_map,none_added]
  · rw [sqlite.addAll_appends (fun stored => stored.db.slaTargets) Row.slaTargets
      (fun row seen after inserted => (each row seen after inserted).2.2) ran]
    simp [rowsToWrite,Row.slaTargets,Stored.empty,Db.empty,List.flatMap_map,none_added]

theorem written_constrained
    (ran : sqlite.addAll (rowsToWrite prepared ingestedAt) Stored.empty = .ok written) :
    written.db.Constrained := by
  have empty : Stored.empty.db.Constrained :=
    ⟨List.nodup_nil,List.nodup_nil,fun _ listed => absurd listed List.not_mem_nil,
      fun _ listed => absurd listed List.not_mem_nil⟩
  apply @Engine.addAll_keeps _ _ _ sqlite (fun stored => stored.db.Constrained) _ _ _ empty _ ran
  exact fun row seen after constrained inserted => accepts_constrained (insertRow_accepts inserted) constrained

end Writing

-- A database that holds what the pack and its manifest say and nothing else, with
-- every reference met
structure Coherent [Formats] (pack : SourcePack) (manifest : List ManifestEntry) (db : Db) : Prop where
  complete : ∀ entry ∈ manifest, entry.endsWith ".pdf" = true →
    ∃ source, db.sources.row entry.sourceId = some source
  documents : ∃ parts, List.Forall₂ (Stores pack manifest) db.sources.rows parts ∧
    db.documentChunks = parts.flatMap (·.1) ∧ db.slaTargets = parts.flatMap (·.2)
  links : ∀ source ∈ db.sources.rows, ∀ other,
    source.supersedes = some other ∨ source.supersededBy = some other →
      ∃ target, db.sources.row other = some target
  workbook : ∃ workbook, LoadedFrom pack manifest workbook ∧ db.accounts.rows = workbook.accounts ∧
    db.orders.rows = workbook.orders.map Order.toRow ∧
    db.tickets.rows = workbook.tickets.map Ticket.toRow
  constrained : db.Constrained

structure DocumentSearchResult.Tells (result : DocumentSearchResult) (source : SourceDocument) : Prop where
  filename : result.filename = source.filename
  status : result.status = source.status
  sourceType : result.sourceType = source.sourceType
  authorityClass : result.authorityClass = source.authorityClass
  effectiveDate : result.effectiveDate = source.effectiveDate
  accountScope : result.accountScope = source.scope.accountId

section Serving

variable [Formats] {pack : SourcePack} {manifest : List ManifestEntry} {dbPath ingestedAt : String}
  {file : Option Stored} {summary : IngestSummary} {stored : Stored} {db : Db}

theorem ingested_written (ran : runIngest pack manifest dbPath ingestedAt file = (.ok summary,some stored)) :
    ∃ prepared, prepareSources pack manifest = .ok prepared ∧
      sqlite.addAll (rowsToWrite prepared ingestedAt) Stored.empty = .ok stored := by
  rw [runIngest_cases] at ran
  cases prepares : prepareSources pack manifest with
  | error error =>
      rw [prepares] at ran
      cases ran
  | ok prepared =>
      rw [prepares] at ran
      dsimp only at ran
      cases added : sqlite.addAll (rowsToWrite prepared ingestedAt) Stored.empty with
      | error error =>
          rw [added] at ran
          cases ran
      | ok written =>
          rw [added] at ran
          cases ran
          exact ⟨prepared,rfl,added⟩

theorem ingested_coherent (ran : runIngest pack manifest dbPath ingestedAt file = (.ok summary,some stored)) :
    Coherent pack manifest stored.db := by
  obtain ⟨prepared,prepares,added⟩ := ingested_written ran
  obtain ⟨complete,⟨parts,stores,chunks,targets⟩,links,workbook⟩ := prepared_sound prepares
  obtain ⟨sources,allChunks,allTargets⟩ := written_documents added
  have held {source : String × SourceDocument} (listed : source ∈ prepared.sources) :
      stored.db.sources.row source.2.sourceId = some source.2 := by
    rw [Table.row_eq_some,sources]
    exact ⟨List.mem_map_of_mem listed,rfl⟩
  refine ⟨?_,⟨parts,?_,allChunks.trans chunks,allTargets.trans targets⟩,?_,
    ⟨prepared.workbook,workbook,written_accounts added,written_orders added,written_tickets added⟩,
    written_constrained added⟩
  · intro entry listed ends_
    obtain ⟨source,here,same⟩ := complete entry listed ends_
    rw [← same]
    exact ⟨source.2,held here⟩
  · rw [sources,List.forall₂_map_left_iff]
    exact stores
  · intro source member other named
    rw [sources] at member
    obtain ⟨listed,here,rfl⟩ := List.mem_map.mp member
    obtain ⟨target,there,rfl⟩ := links listed here other named
    exact ⟨target.2,held there⟩

theorem coherent_elsewhere {later : Db} (same : OnlyActionsChange db later)
    (coherent : Coherent pack manifest db) : Coherent pack manifest later := by
  have equal : {later with actions := db.actions} = db := same
  obtain ⟨complete,documents,links,workbook,⟨chunkIds,targetIds,orders,tickets⟩⟩ := coherent
  rw [← equal] at complete documents links workbook chunkIds targetIds orders tickets
  exact ⟨complete,documents,links,workbook,⟨chunkIds,targetIds,orders,tickets⟩⟩

theorem stored_part {parts : List (List DocumentChunk × List SlaTarget)}
    {part : List DocumentChunk × List SlaTarget}
    (stores : List.Forall₂ (Stores pack manifest) db.sources.rows parts) (listed : part ∈ parts) :
    ∃ source, db.sources.row source.sourceId = some source ∧ Stores pack manifest source part := by
  obtain ⟨source,member,held⟩ := paired_right stores listed
  exact ⟨source,Table.row_eq_some.mpr ⟨member,rfl⟩,held⟩

theorem Coherent.declared (coherent : Coherent pack manifest db) {source : SourceDocument}
    (listed : source ∈ db.sources.rows) : Declared pack manifest source := by
  obtain ⟨parts,stores,_⟩ := coherent.documents
  obtain ⟨part,_,pages,⟨entry,declared,_,describes,file,supplies,_⟩,_⟩ := paired_left stores listed
  exact ⟨entry,declared,describes,file,supplies⟩

theorem Coherent.chunk (coherent : Coherent pack manifest db) {chunk : DocumentChunk}
    (listed : chunk ∈ db.documentChunks) : ∃ source pages,
    db.sources.row chunk.sourceId = some source ∧ ReadFrom pack manifest source pages ∧
      chunk ∈ buildChunks source pages := by
  obtain ⟨parts,stores,chunks,_⟩ := coherent.documents
  rw [chunks] at listed
  obtain ⟨part,member,within⟩ := List.mem_flatMap.mp listed
  obtain ⟨source,held,pages,read,built,_⟩ := stored_part stores member
  rw [built] at within
  rw [(buildChunks_copies within).sourceId]
  exact ⟨source,pages,held,read,within⟩

def FromSection (pack : SourcePack) (manifest : List ManifestEntry) (db : Db) (target : SlaTarget) : Prop :=
  ∃ source pages, db.sources.row target.sourceId = some source ∧ ReadFrom pack manifest source pages ∧
    Holds source target ∧ ∃ section_ ∈ pages.flatMap (·.sections), ∃ rows,
      sectionTargets source section_ = .ok rows ∧ target ∈ rows

theorem Coherent.target (coherent : Coherent pack manifest db) {target : SlaTarget}
    (listed : target ∈ db.slaTargets) : FromSection pack manifest db target := by
  obtain ⟨parts,stores,_,targets⟩ := coherent.documents
  rw [targets] at listed
  obtain ⟨part,member,within⟩ := List.mem_flatMap.mp listed
  obtain ⟨source,held,pages,read,_,extracted⟩ := stored_part stores member
  obtain ⟨section_,here,rows,given,among⟩ := extractSlaTargets_from extracted target within
  have holds := (sectionTargets_held given target among).1
  refine ⟨source,pages,?_,read,holds,section_,here,rows,given,among⟩
  rw [holds.sourceId]
  exact held

theorem matches_told {chunks : List DocumentChunk} {ftsQuery : String} {result : DocumentSearchResult}
    (found : result ∈ Db.matches_ chunks ftsQuery) :
    ∃ chunk ∈ chunks, chunk.sourceId = result.sourceId ∧
      ∀ source, Copies source chunk → result.Tells source := by
  unfold Db.matches_ at found
  obtain ⟨⟨chunk,position⟩,listed,made⟩ := List.mem_filterMap.mp found
  obtain ⟨⟨snippet,score⟩,_,rfl⟩ := Option.map_eq_some_iff.mp made
  refine ⟨chunk,List.fst_mem_of_mem_zipIdx listed,rfl,fun source copies => ?_⟩
  exact ⟨copies.filename,copies.status,copies.sourceType,copies.authorityClass,copies.effectiveDate,
    copies.accountScope⟩

theorem search_told {query : String} {filters : DocumentSearchFilter} {topK : Nat}
    {results : List DocumentSearchResult} (coherent : Coherent pack manifest db)
    (ran : (searchDocuments query filters topK).on db = .ok results) :
    ∀ result ∈ results, ∃ source, db.sources.row result.sourceId = some source ∧
      Declared pack manifest source ∧ result.Tells source := by
  unfold searchDocuments at ran
  dsimp only at ran
  split at ran
  · cases ran
  · obtain ⟨ftsQuery,_,ran⟩ := on_bind_ok.mp ran
    cases show Except.ok (db.answer (.search ftsQuery filters topK)) = .ok results from ran
    intro result member
    have sorted : result ∈ ((Db.matches_ db.documentChunks ftsQuery).filter
        (Db.resultChosen filters)).insertionSort Db.resultBefore := List.mem_of_mem_take member
    have found := (List.mem_filter.mp ((List.mem_insertionSort _).mp sorted)).1
    obtain ⟨chunk,listed,here,tells⟩ := matches_told found
    obtain ⟨source,pages,held,_,built⟩ := coherent.chunk listed
    rw [here] at held
    exact ⟨source,held,coherent.declared (Table.row_eq_some.mp held).1,
      tells source (buildChunks_copies built)⟩

variable {service : Deployment} {config : Config Stmt Stmt.Answer Db Request HttpResponse}

-- From what an ingest has written requests lead to nothing else: the database stays
-- what the pack and the manifest say, and so is every search that anybody makes.
theorem ingest_served (ran : runIngest pack manifest dbPath ingestedAt file = (.ok summary,some stored))
    (path : Reached (serviceSystem service) stored.db config) :
    Coherent pack manifest config.store ∧
    (∀ target ∈ config.store.slaTargets, FromSection pack manifest config.store target) ∧
    ∀ query filters topK results, (searchDocuments query filters topK).on config.store = .ok results →
      ∀ result ∈ results, ∃ source, config.store.sources.row result.sourceId = some source ∧
        Declared pack manifest source ∧ result.Tells source := by
  have coherent := coherent_elsewhere (isolated_response path).1 (ingested_coherent ran)
  exact ⟨coherent,fun target => coherent.target,
    fun query filters topK results searched => search_told coherent searched⟩

end Serving

-- An agreement with its targets, and a workbook with an order that was picked up and
-- an open ticket
def northstarEntry : ManifestEntry where
  sourceId := "SRC-05"
  filename := "northstar.pdf"
  sourceType := .agreement
  status := "ACTIVE"
  effectiveDate := "2026-05-01"
  scopeKind := .account
  accountIds := some ["ACCT-001"]
  authorityClass := .agreement
  checksum := "sha256:cd"
  provenance := ""

def northstarPage : String :=
  "Northstar\nStatus: ACTIVE\nEffective: 1 May 2026\nAccount: ACCT-001\n" ++
  "1. Support terms\nP1: 1 hour\nP2: 2 hours\nP3: 4 hours"

def ticketHeader : List Cell := [.str "ticket_id",.str "account_id",.str "created_at",.str "status",
  .str "subject",.str "description",.str "channel",.str "assigned_to",.str "last_customer_message_at"]

def ticketCells : List Cell := [.str "TKT-104",.str "ACCT-001",.str "2026-08-16T09:00",.str "open",
  .str "Booking down",.str "Complete outage since this morning.",.str "email",.str "queue",
  .str "2026-08-16T09:00"]

def northstarBook : Workbook := ⟨[
  ("README",[[.str "Dataset snapshot",.str "2026-08-16 10:00 Asia/Kolkata"]]),
  ("accounts",[accountHeader,accountCells]),
  ("orders",[orderHeader,(orderCells (.bool true) (.bool false)).set 7 (.str "t")]),
  ("tickets",[ticketHeader,ticketCells])]⟩

def northstarPack : SourcePack where
  path := "pack"
  isDir := true
  files := fun filename =>
    if filename = "northstar.pdf" then
      some ⟨.ok "cd",100,.ok [northstarPage],.error "not a workbook"⟩
    else if filename = "data.xlsx" then some ⟨.ok "ab",0,.error "not a PDF",.ok northstarBook⟩
    else none

def northstarManifest : List ManifestEntry := [northstarEntry,workbookEntry]

@[reducible] def packFormats : Formats :=
  asciiFormats (("2026-08-16T09:00",morning) :: bookStamps) [("1 May 2026",739736)]

def opsService : Deployment := {outageService with demoUsers := [("ops_admin",opsUser)]}

def everyRule : Request :=
  {outageRequest (.runRadar ⟨none,30,false,default_window⟩) with xDemoUser := none}

-- What is counted, and whether the radar then lists the open ticket as overdue
def ingestTold [Formats] (ran : Ingest IngestSummary × Option Stored) : Option (Nat × Nat × Nat × Bool) :=
  match ran with
  | (.ok summary,some stored) => some (summary.chunks,summary.slaTargets,summary.tickets,
      (everyRule.alone opsService stored.db).1.lists "TKT-104" .slaBreach)
  | _ => none

theorem ingestTold_some [Formats] {ran : Ingest IngestSummary × Option Stored}
    {chunks slaTargets tickets : Nat} {lists : Bool}
    (told : ingestTold ran = some (chunks,slaTargets,tickets,lists)) :
    ∃ summary stored, ran = (.ok summary,some stored) ∧
      (summary.chunks,summary.slaTargets,summary.tickets) = (chunks,slaTargets,tickets) ∧
      (everyRule.alone opsService stored.db).1.lists "TKT-104" .slaBreach = lists := by
  rcases ran with ⟨_ | summary,_ | stored⟩
  · cases told
  · cases told
  · cases told
  · obtain ⟨rfl,rfl,rfl,rfl⟩ := by
      simpa only [ingestTold,Option.some.injEq,Prod.mk.injEq] using told
    exact ⟨summary,stored,rfl,rfl,rfl⟩

theorem northstar_ingested : let _ := packFormats
    ∃ summary stored,
      runIngest northstarPack northstarManifest "db" "now" none = (.ok summary,some stored) ∧
      (summary.chunks,summary.slaTargets,summary.tickets) = (1,3,1) ∧
      (everyRule.alone opsService stored.db).1.lists "TKT-104" .slaBreach = true := by
  intro _
  have told : ingestTold (runIngest northstarPack northstarManifest "db" "now" none) =
      some (1,3,1,true) := by decide +kernel
  exact ingestTold_some told

theorem northstar_served : let _ := packFormats
    ∃ summary stored config,
      runIngest northstarPack northstarManifest "db" "now" none = (.ok summary,some stored) ∧
      (summary.chunks,summary.slaTargets,summary.tickets) = (1,3,1) ∧
      Reached (serviceSystem opsService) stored.db config ∧ config.threads.length = 1 ∧
      Coherent northstarPack northstarManifest config.store ∧
      ∀ target ∈ config.store.slaTargets, FromSection northstarPack northstarManifest config.store target := by
  intro _
  obtain ⟨summary,stored,ran,counted,_⟩ := northstar_ingested
  obtain ⟨log,path⟩ := @reached_alone Stmt Stmt.Answer Db Request _ (serviceSystem opsService)
    stored.db ⟨stored.db,[],[]⟩ outageChat .initial trivial
  obtain ⟨coherent,targets,_⟩ := ingest_served ran path
  exact ⟨summary,stored,_,ran,counted,path,rfl,coherent,targets⟩

end ParcelPilot
