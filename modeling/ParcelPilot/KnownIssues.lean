import Mathlib.Data.List.Find
import Mathlib.Data.List.Infix
import ParcelPilot.Texts
import ParcelPilot.Detection

namespace ParcelPilot

namespace Pattern

theorem findFrom_start {isWord : Char → Bool} {pattern : Pattern} {start : Cursor} {found : List Char}
    {skip : Nat} {before after : List Char}
    (member : (start,found) ∈ findFrom isWord pattern skip before after) :
    start.after <:+ after ∧ (matchHere isWord pattern start).isSome = true := by
  induction after generalizing skip before with
  | nil => cases skip <;> simp [findFrom] at member
  | cons c rest ih =>
      cases skip with
      | succ skip =>
          obtain ⟨inside,matched⟩ := ih member
          exact ⟨inside.trans (List.suffix_cons c rest),matched⟩
      | zero =>
          unfold findFrom at member
          split at member
          · obtain ⟨inside,matched⟩ := ih member
            exact ⟨inside.trans (List.suffix_cons c rest),matched⟩
          · rename_i stop here
            rcases List.mem_cons.mp member with same | later
            · cases same
              exact ⟨List.suffix_refl _,by rw [here]; rfl⟩
            · obtain ⟨inside,matched⟩ := ih later
              exact ⟨inside.trans (List.suffix_cons c rest),matched⟩

end Pattern

section KnownIssues

variable [Host] {db : Db} {auth : AuthContext} {clock : SnapshotClock}
  {minOccurrences windowDays : Int} {cutoff : DateTime} {chunk : DocumentChunk} {issue : KnownIssue}

def chunkIssues (chunk : DocumentChunk) : List KnownIssue :=
  (segments (Pattern.findIter Host.isWord kiId chunk.text)).map fun (mention,segment) =>
    { kiId := mention, sourceId := chunk.sourceId, section_ := chunk.section_
      resolved := Py.occursIn "resolved" (Host.lower segment)
      tokens := significantTokens segment }

def knownIssues (db : Db) : List KnownIssue :=
  (db.documentChunks.filter Db.mentionsKnownIssue).flatMap chunkIssues

theorem parseKnownIssues_on : parseKnownIssues.on db = .ok (knownIssues db) := rfl

theorem kiId_literal {cursor : Pattern.Cursor}
    (matched : (Pattern.matchHere Host.isWord kiId cursor).isSome = true) :
    ∃ rest, cursor.after = 'K' :: 'I' :: '-' :: rest := by
  obtain ⟨before,after⟩ := cursor
  have literal : (Pattern.ends Host.isWord (Pattern.literal (· = ·) "KI-") ⟨before,after⟩) ≠ [] := by
    intro none
    simp [Pattern.matchHere,kiId,Pattern.sequence,Pattern.ends,none] at matched
  rcases after with _ | ⟨k,_ | ⟨i,_ | ⟨dash,rest⟩⟩⟩ <;>
    simp [Pattern.sequence,Pattern.literal,Pattern.ends] at literal
  obtain ⟨rfl,rfl,rfl⟩ := literal
  exact ⟨rest,rfl⟩

-- The LIKE filter of the query lets every mention through.
theorem mention_selected (current : chunk.sourceType = .productDoc ∧ chunk.status = .current)
    (mentioned : issue ∈ chunkIssues chunk) : Db.mentionsKnownIssue chunk = true := by
  have some_match : Pattern.findIter Host.isWord kiId chunk.text ≠ [] := by
    intro none
    simp [chunkIssues,none,segments] at mentioned
  obtain ⟨⟨start,found⟩,member⟩ := List.exists_mem_of_ne_nil _ some_match
  obtain ⟨inside,matched⟩ := Pattern.findFrom_start member
  obtain ⟨rest,here⟩ := kiId_literal matched
  simp only [Db.mentionsKnownIssue,current,decide_true,Bool.true_and,List.any_eq_true,List.mem_tails]
  refine ⟨start.after,inside,?_⟩
  rw [here]
  rfl

theorem mem_knownIssues : issue ∈ knownIssues db ↔ ∃ chunk ∈ db.documentChunks,
    (chunk.sourceType = .productDoc ∧ chunk.status = .current) ∧ issue ∈ chunkIssues chunk := by
  simp only [knownIssues,List.mem_flatMap,List.mem_filter]
  constructor
  · rintro ⟨chunk,⟨stored,selected⟩,mentioned⟩
    simp only [Db.mentionsKnownIssue,Bool.and_eq_true,decide_eq_true_eq] at selected
    exact ⟨chunk,stored,selected.1,mentioned⟩
  · rintro ⟨chunk,stored,current,mentioned⟩
    exact ⟨chunk,⟨stored,mention_selected current mentioned⟩,mentioned⟩

theorem chunkIssues_place (mentioned : issue ∈ chunkIssues chunk) :
    issue.sourceId = chunk.sourceId ∧ issue.section_ = chunk.section_ := by
  obtain ⟨_,_,rfl⟩ := List.mem_map.mp mentioned
  exact ⟨rfl,rfl⟩

def recentTickets (db : Db) (auth : AuthContext) (clock : SnapshotClock) (cutoff : DateTime) :
    List Ticket :=
  ((db.tickets.listing (Db.ticketChosen auth.accountScope none none)).map
    (·.toTicket clock.tz)).filter (cutoff ≤ ·.createdAt)

def matchingTickets (tickets : List Ticket) (issue : KnownIssue) : List Ticket :=
  tickets.filter fun ticket => minSharedTokens ≤ sharedTokens
    (significantTokens (ticket.subject ++ " " ++ ticket.description)) issue.tokens

def reported (minOccurrences : Int) (tickets : List Ticket) (issue : KnownIssue) : Bool :=
  !issue.resolved && decide (minOccurrences ≤ (matchingTickets tickets issue).length)

def issueAlert (db : Db) (minOccurrences windowDays : Int) (tickets : List Ticket)
    (issue : KnownIssue) : AlertCandidate :=
  knownIssueAlert minOccurrences windowDays issue (matchingTickets tickets issue)
    {documentRef db issue.sourceId issue.section_ with note := some issue.kiId}

theorem reported_iff {tickets : List Ticket} : reported minOccurrences tickets issue = true ↔
    issue.resolved = false ∧ minOccurrences ≤ (matchingTickets tickets issue).length := by
  simp [reported]

theorem issue_on (tickets : List Ticket) (issue : KnownIssue) :
    Query.on (if ((matchingTickets tickets issue).length : Int) < minOccurrences then pure none
      else do
        let documented ← citeDocument issue.sourceId issue.section_ (some issue.kiId)
        pure (some (knownIssueAlert minOccurrences windowDays issue (matchingTickets tickets issue)
          documented))) db =
      .ok (if minOccurrences ≤ (matchingTickets tickets issue).length then
        some (issueAlert db minOccurrences windowDays tickets issue) else none) := by
  by_cases few : ((matchingTickets tickets issue).length : Int) < minOccurrences
  · rw [if_pos few,if_neg (by omega)]
    rfl
  · rw [if_neg few,if_pos (by omega)]
    rfl

theorem detectKnownIssuePatterns_on (within : clock.now.minusDays windowDays = .ok cutoff) :
    (detectKnownIssuePatterns auth clock minOccurrences windowDays).on db =
      .ok (((knownIssues db).filter (reported minOccurrences (recentTickets db auth clock cutoff))).map
        (issueAlert db minOccurrences windowDays (recentTickets db auth clock cutoff))) := by
  have selected : ((knownIssues db).filter (!·.resolved)).filterMap (fun issue =>
      if minOccurrences ≤ (matchingTickets (recentTickets db auth clock cutoff) issue).length then
        some (issueAlert db minOccurrences windowDays (recentTickets db auth clock cutoff) issue)
      else none) = ((knownIssues db).filter (reported minOccurrences
        (recentTickets db auth clock cutoff))).map
          (issueAlert db minOccurrences windowDays (recentTickets db auth clock cutoff)) := by
    rw [← List.filterMap_eq_map,List.filterMap_filter,List.filterMap_filter]
    congr 1
    funext issue
    cases marked : issue.resolved <;> simp [reported,marked]
  unfold detectKnownIssuePatterns
  rw [on_bind,on_orRaise,within]
  simp only [Except.bind]
  rw [on_bind,parseKnownIssues_on]
  simp only [Except.bind]
  split
  · rename_i none
    rw [List.isEmpty_iff] at none
    rw [← selected,none]
    rfl
  · refine on_bind_ok.mpr ⟨_,rfl,on_collect.mpr ⟨fun issue _ => ⟨_,issue_on _ issue⟩,?_⟩⟩
    rw [← selected]
    congr 1
    funext issue
    exact (congrArg (fun ran => ran.toOption.join) (issue_on _ issue)).symm

theorem detectKnownIssuePatterns_ok :
    (detectKnownIssuePatterns auth clock minOccurrences windowDays).on db = .ok alerts ↔
      ∃ cutoff, clock.now.minusDays windowDays = .ok cutoff ∧
        alerts = ((knownIssues db).filter (reported minOccurrences
          (recentTickets db auth clock cutoff))).map
            (issueAlert db minOccurrences windowDays (recentTickets db auth clock cutoff)) := by
  constructor
  · intro ran
    obtain ⟨cutoff,within,_⟩ := on_bind_ok.mp ran
    rw [on_orRaise] at within
    rw [detectKnownIssuePatterns_on within] at ran
    exact ⟨cutoff,within,(Except.ok.inj ran).symm⟩
  · rintro ⟨cutoff,within,rfl⟩
    exact detectKnownIssuePatterns_on within

-- `f"p{page}:{section}"`
def clauseLocator (page : Nat) (section_ : Option String) : String :=
  "p" ++ toString page ++ ":" ++ section_.getD "None"

-- A citation names the chunks of its source that stand under its section.
def EvidenceRef.Names (ref : EvidenceRef) (chunk : DocumentChunk) : Prop :=
  ref.kind = .document ∧ ref.sourceId = chunk.sourceId ∧
    ∃ page : Nat, ref.locator = some (clauseLocator page chunk.section_)

omit [Host] in
theorem clauseLocator_inj {page other : Nat} {one two : Option String} :
    clauseLocator page one = clauseLocator other two ↔
      page = other ∧ one.getD "None" = two.getD "None" := by
  have plain (n : Nat) : ':' ∉ ("p" ++ toString n).toList := by
    rw [String.toList_append,List.mem_append,not_or]
    exact ⟨by decide,fun member => absurd (Texts.nat_digits member) (by decide)⟩
  unfold clauseLocator
  rw [Texts.cut (show ":".toList = [':'] from rfl) (plain page) (plain other),String.append_right_inj,
    Texts.nat_text_inj]

def AlertCandidate.knownIssues (alert : AlertCandidate) : List String :=
  match alert.alertType with
  | .knownIssuePattern => (alert.evidence.filter (·.kind = .document)).filterMap (·.note)
  | _ => []

omit [Host] in
theorem structured_notes (table : String) (ids : List String) :
    (ids.map (citeStructured table ·)).filter (·.kind = .document) = [] := by
  simp [citeStructured]

theorem issueAlert_documents (tickets : List Ticket) (issue : KnownIssue) :
    (issueAlert db minOccurrences windowDays tickets issue).evidence.filter (·.kind = .document) =
      [{documentRef db issue.sourceId issue.section_ with note := some issue.kiId}] := by
  simp only [issueAlert,knownIssueAlert,List.filter_cons,structured_notes]
  rfl

theorem issueAlert_knownIssues (tickets : List Ticket) (issue : KnownIssue) :
    (issueAlert db minOccurrences windowDays tickets issue).knownIssues = [issue.kiId] := by
  change ((issueAlert db minOccurrences windowDays tickets issue).evidence.filter
    (·.kind = .document)).filterMap (·.note) = [issue.kiId]
  rw [issueAlert_documents]
  rfl

theorem mem_alerts {tickets : List Ticket} {alert : AlertCandidate} :
    alert ∈ ((knownIssues db).filter (reported minOccurrences tickets)).map
        (issueAlert db minOccurrences windowDays tickets) ↔
      ∃ issue ∈ knownIssues db, reported minOccurrences tickets issue = true ∧
        issueAlert db minOccurrences windowDays tickets issue = alert := by
  simp only [List.mem_map,List.mem_filter,and_assoc]

section Resolved

def saysResolved (text : String) : Bool := Py.occursIn "resolved" (Host.lower text)

-- The text of a chunk opens with the title of its section.
def heading (chunk : DocumentChunk) : String := Py.before '\n' chunk.text

def DocumentedResolved (db : Db) (kiId : String) : Prop :=
  ∃ chunk ∈ db.documentChunks, (chunk.sourceType = .productDoc ∧ chunk.status = .current) ∧
    ∃ issue ∈ chunkIssues chunk, issue.kiId = kiId ∧
      (issue.resolved = true ∨ saysResolved (heading chunk) = true)

-- The status of an issue is read off each mention alone: a resolved issue stays
-- silent exactly when no other mention of it finds its tickets.
theorem resolved_silent_iff :
    (∀ kiId, DocumentedResolved db kiId → ∀ alerts,
      (detectKnownIssuePatterns auth clock minOccurrences windowDays).on db = .ok alerts →
        ∀ alert ∈ alerts, kiId ∉ alert.knownIssues) ↔
      ∀ cutoff, clock.now.minusDays windowDays = .ok cutoff →
        ∀ issue ∈ knownIssues db, DocumentedResolved db issue.kiId → issue.resolved = false →
          ((matchingTickets (recentTickets db auth clock cutoff) issue).length : Int) <
            minOccurrences := by
  constructor
  · intro silent cutoff within issue member documented unmarked
    by_contra enough
    have reports := reported_iff.mpr ⟨unmarked,Int.not_lt.mp enough⟩
    refine silent issue.kiId documented _ (detectKnownIssuePatterns_on within)
      (issueAlert db minOccurrences windowDays (recentTickets db auth clock cutoff) issue)
      (mem_alerts.mpr ⟨issue,member,reports,rfl⟩) ?_
    rw [issueAlert_knownIssues]
    exact List.mem_singleton_self _
  · intro few kiId documented alerts ran alert member named
    obtain ⟨cutoff,within,rfl⟩ := detectKnownIssuePatterns_ok.mp ran
    obtain ⟨issue,parsed,reports,rfl⟩ := mem_alerts.mp member
    rw [issueAlert_knownIssues,List.mem_singleton] at named
    subst named
    obtain ⟨unmarked,enough⟩ := reported_iff.mp reports
    exact absurd enough (Int.not_le.mpr (few cutoff within issue parsed documented unmarked))

end Resolved

end KnownIssues

def guideChunk (section_ text : String) (accountScope : Option String) : DocumentChunk :=
  ⟨"SRC-04:p1:" ++ section_,"SRC-04","guide.pdf",1,some section_,text,text,.current,.productDoc,
    accountScope,719162,.productDoc⟩

def labelTicket : TicketRow :=
  ⟨"TKT-900","ACCT-001",.epoch,.open_,"Label printing","","chat","",.epoch,none⟩

def monthBefore : DateTime := ⟨719132 * microsPerDay,0,by decide⟩

-- The section's title says what the entry under it does not repeat.
def resolvedGuide : Db := {Db.empty with
  documentChunks := [guideChunk "3" "Resolved issue\nKI-176 label printing" none]
  tickets := ⟨[labelTicket],by decide⟩}

def resolvedEntry : KnownIssue := ⟨"KI-176","SRC-04",some "3",false,["label","printing"]⟩

theorem resolved_heading_alerts : let _ := asciiHost [] []
    DocumentedResolved resolvedGuide "KI-176" ∧
      ∃ alerts, (detectKnownIssuePatterns ⟨.operationsAdmin,none⟩ ⟨.epoch⟩ 1 30).on resolvedGuide =
          .ok alerts ∧ ∃ alert ∈ alerts, "KI-176" ∈ alert.knownIssues := by
  intro _
  have mentioned : resolvedEntry ∈
      chunkIssues (guideChunk "3" "Resolved issue\nKI-176 label printing" none) := by decide +kernel
  have parsed : resolvedEntry ∈ knownIssues resolvedGuide :=
    mem_knownIssues.mpr ⟨_,List.mem_singleton_self _,⟨rfl,rfl⟩,mentioned⟩
  have reports : reported 1 (recentTickets resolvedGuide ⟨.operationsAdmin,none⟩ ⟨.epoch⟩ monthBefore)
      resolvedEntry = true := by decide +kernel
  refine ⟨⟨_,List.mem_singleton_self _,⟨rfl,rfl⟩,_,mentioned,rfl,.inr ?_⟩,_,
    detectKnownIssuePatterns_on (show DateTime.minusDays _ _ = .ok monthBefore from rfl),_,
    mem_alerts.mpr ⟨_,parsed,reports,rfl⟩,?_⟩
  · decide +kernel
  · rw [issueAlert_knownIssues]
    exact List.mem_singleton_self _

section Scope

variable [Host] {db one two : Db} {auth : AuthContext} {clock : SnapshotClock}
  {minOccurrences windowDays : Int} {cutoff : DateTime} {chunk : DocumentChunk} {issue : KnownIssue}
  {scope : Option (List String)}

def Db.withinScope (scope : Option (List String)) (db : Db) : Db := {db with
  documentChunks := db.documentChunks.filter fun chunk => Db.inScope scope chunk.accountScope}

def CitedWithinScope (db : Db) (scope : Option (List String)) (alerts : List AlertCandidate) : Prop :=
  ∀ alert ∈ alerts, ∀ ref ∈ alert.evidence, ∀ chunk ∈ db.documentChunks, ref.Names chunk →
    Db.inScope scope chunk.accountScope = true

-- What the rule would have to check of the chunks: an entry that reports stands
-- in a section no chunk of which is scoped to another account.
def ReportsWithinScope (db : Db) (auth : AuthContext) (clock : SnapshotClock)
    (minOccurrences windowDays : Int) : Prop :=
  ∀ cutoff, clock.now.minusDays windowDays = .ok cutoff → ∀ issue ∈ knownIssues db,
    reported minOccurrences (recentTickets db auth clock cutoff) issue = true →
      ∀ chunk ∈ db.documentChunks, chunk.sourceId = issue.sourceId →
        chunk.section_.getD "None" = issue.section_.getD "None" →
          Db.inScope auth.accountScope chunk.accountScope = true

theorem issueAlert_names {tickets : List Ticket} {ref : EvidenceRef}
    (cited : ref ∈ (issueAlert db minOccurrences windowDays tickets issue).evidence) :
    ref.Names chunk → chunk.sourceId = issue.sourceId ∧
      chunk.section_.getD "None" = issue.section_.getD "None" := by
  rintro ⟨document,source,page,located⟩
  have only : ref ∈ (issueAlert db minOccurrences windowDays tickets issue).evidence.filter
      (·.kind = .document) := List.mem_filter.mpr ⟨cited,by simpa using document⟩
  rw [issueAlert_documents,List.mem_singleton] at only
  subst only
  exact ⟨source.symm,(clauseLocator_inj.mp (Option.some.inj located)).2.symm⟩

theorem issueAlert_cites (tickets : List Ticket) (source : chunk.sourceId = issue.sourceId)
    (place : chunk.section_.getD "None" = issue.section_.getD "None") :
    ∃ ref ∈ (issueAlert db minOccurrences windowDays tickets issue).evidence, ref.Names chunk := by
  refine ⟨_,List.mem_cons_self,rfl,source.symm,_,congrArg some (?_ : _ = clauseLocator
    ((db.answer (.chunkPage issue.sourceId issue.section_)).getD 1) chunk.section_)⟩
  rw [clauseLocator,place]

theorem cited_within_iff :
    (∀ alerts, (detectKnownIssuePatterns auth clock minOccurrences windowDays).on db = .ok alerts →
      CitedWithinScope db auth.accountScope alerts) ↔
      ReportsWithinScope db auth clock minOccurrences windowDays := by
  constructor
  · intro cited cutoff within issue parsed reports chunk stored source place
    obtain ⟨ref,there,names⟩ := issueAlert_cites (recentTickets db auth clock cutoff) source place
    exact cited _ (detectKnownIssuePatterns_on within) _ (mem_alerts.mpr ⟨issue,parsed,reports,rfl⟩)
      ref there chunk stored names
  · intro inside alerts ran alert member ref there chunk stored names
    obtain ⟨cutoff,within,rfl⟩ := detectKnownIssuePatterns_ok.mp ran
    obtain ⟨issue,parsed,reports,rfl⟩ := mem_alerts.mp member
    obtain ⟨source,place⟩ := issueAlert_names there names
    exact inside cutoff within issue parsed reports chunk stored source place

omit [Host] in
theorem flatMap_filter_and {p q : α → Bool} {yields : α → List β} {items : List α}
    (nothing : ∀ item ∈ items, p item = true → q item = false → yields item = []) :
    (items.filter fun item => p item && q item).flatMap yields = (items.filter p).flatMap yields := by
  induction items with
  | nil => rfl
  | cons item rest ih =>
      rw [List.forall_mem_cons] at nothing
      cases chosen : p item with
      | false => simp [chosen,ih nothing.2]
      | true =>
          cases kept : q item with
          | false => simp [chosen,kept,nothing.1 chosen kept,ih nothing.2]
          | true => simp [chosen,kept,ih nothing.2]

theorem reports_visible (inside : ReportsWithinScope db auth clock minOccurrences windowDays)
    (within : clock.now.minusDays windowDays = .ok cutoff) :
    (knownIssues (db.withinScope auth.accountScope)).filter
        (reported minOccurrences (recentTickets db auth clock cutoff)) =
      (knownIssues db).filter (reported minOccurrences (recentTickets db auth clock cutoff)) := by
  unfold knownIssues Db.withinScope
  rw [List.filter_flatMap,List.filter_flatMap,List.filter_filter]
  apply flatMap_filter_and
  intro chunk stored selected outside
  rw [List.filter_eq_nil_iff]
  intro issue mentioned reports
  have parsed : issue ∈ knownIssues db :=
    List.mem_flatMap.mpr ⟨chunk,List.mem_filter.mpr ⟨stored,selected⟩,mentioned⟩
  obtain ⟨source,place⟩ := chunkIssues_place mentioned
  have seen := inside cutoff within issue parsed reports chunk stored source.symm (by rw [place])
  rw [outside] at seen
  cases seen

theorem documentRef_visible {sourceId : String} {section_ : Option String}
    (seen : ∀ chunk ∈ db.documentChunks, chunk.sourceId = sourceId →
      chunk.section_.getD "None" = section_.getD "None" → Db.inScope scope chunk.accountScope = true) :
    documentRef (db.withinScope scope) sourceId section_ = documentRef db sourceId section_ := by
  have same : (db.withinScope scope).answer (.chunkPage sourceId section_) =
      db.answer (.chunkPage sourceId section_) := by
    simp only [Db.answer,Db.withinScope,List.find?_filter]
    refine congrArg (Option.map _) (List.find?_congr fun chunk stored => ?_)
    by_cases cited : chunk.sourceId = sourceId ∧ section_.isSome = true ∧ chunk.section_ = section_
    · obtain ⟨source,_,place⟩ := cited
      simp [seen chunk stored source (by rw [place])]
    · have missed : (decide (chunk.sourceId = sourceId) && section_.isSome &&
          decide (chunk.section_ = section_)) = false := by
        simpa [and_assoc] using cited
      rw [missed]
      simp
  simp only [documentRef,same]

theorem detect_visible (inside : ReportsWithinScope db auth clock minOccurrences windowDays) :
    (detectKnownIssuePatterns auth clock minOccurrences windowDays).on
        (db.withinScope auth.accountScope) =
      (detectKnownIssuePatterns auth clock minOccurrences windowDays).on db := by
  cases reached : clock.now.minusDays windowDays with
  | error error => simp only [detectKnownIssuePatterns,on_bind,on_orRaise,reached,Except.bind]
  | ok cutoff =>
      rw [detectKnownIssuePatterns_on reached,detectKnownIssuePatterns_on reached]
      change Except.ok (List.map _ ((knownIssues (db.withinScope auth.accountScope)).filter
        (reported minOccurrences (recentTickets db auth clock cutoff)))) = _
      rw [reports_visible inside reached]
      refine congrArg Except.ok (List.map_congr_left fun issue member => ?_)
      obtain ⟨parsed,reports⟩ := List.mem_filter.mp member
      simp only [issueAlert,documentRef_visible (inside cutoff reached issue parsed reports)]
      rfl

-- The rule takes its entries from every current product chunk, whoever it is
-- scoped to: callers see alerts of their own documents only exactly when no
-- entry that reports stands in a section of another account's.
theorem issue_scope_iff (same : one.withinScope auth.accountScope = two.withinScope auth.accountScope) :
    ((∀ alerts, (detectKnownIssuePatterns auth clock minOccurrences windowDays).on one = .ok alerts →
        CitedWithinScope one auth.accountScope alerts) ∧
      (∀ alerts, (detectKnownIssuePatterns auth clock minOccurrences windowDays).on two = .ok alerts →
        CitedWithinScope two auth.accountScope alerts) ∧
      (detectKnownIssuePatterns auth clock minOccurrences windowDays).on one =
        (detectKnownIssuePatterns auth clock minOccurrences windowDays).on two) ↔
      ReportsWithinScope one auth clock minOccurrences windowDays ∧
        ReportsWithinScope two auth clock minOccurrences windowDays := by
  rw [cited_within_iff,cited_within_iff]
  constructor
  · rintro ⟨first,second,_⟩
    exact ⟨first,second⟩
  · rintro ⟨first,second⟩
    refine ⟨first,second,?_⟩
    rw [← detect_visible first,same,detect_visible second]

end Scope

-- A guide written for one customer, read on behalf of another.
def customerGuide : Db := {Db.empty with
  documentChunks := [guideChunk "2" "KI-208 label printing" (some "ACCT-009")]
  tickets := ⟨[labelTicket],by decide⟩}

def noGuide : Db := {customerGuide with documentChunks := []}

def oneAccount : AuthContext := ⟨.supportAgent,some ["ACCT-001"]⟩

def customerEntry : KnownIssue := ⟨"KI-208","SRC-04",some "2",false,["label","printing"]⟩

theorem foreign_guide_alerts : let _ := asciiHost [] []
    customerGuide.withinScope oneAccount.accountScope = noGuide.withinScope oneAccount.accountScope ∧
      (∃ alerts, (detectKnownIssuePatterns oneAccount ⟨.epoch⟩ 1 30).on
          customerGuide = .ok alerts ∧
        ¬ CitedWithinScope customerGuide oneAccount.accountScope alerts) ∧
      (detectKnownIssuePatterns oneAccount ⟨.epoch⟩ 1 30).on customerGuide ≠
        (detectKnownIssuePatterns oneAccount ⟨.epoch⟩ 1 30).on noGuide := by
  intro _
  have mentioned : customerEntry ∈
      chunkIssues (guideChunk "2" "KI-208 label printing" (some "ACCT-009")) := by decide +kernel
  have parsed : customerEntry ∈ knownIssues customerGuide :=
    mem_knownIssues.mpr ⟨_,List.mem_singleton_self _,⟨rfl,rfl⟩,mentioned⟩
  have reports : reported 1 (recentTickets customerGuide oneAccount ⟨.epoch⟩ monthBefore)
      customerEntry = true := by decide +kernel
  have within : DateTime.minusDays (SnapshotClock.now ⟨.epoch⟩) 30 = .ok monthBefore := rfl
  have listed : issueAlert customerGuide 1 30 (recentTickets customerGuide oneAccount ⟨.epoch⟩ monthBefore)
      customerEntry ∈ _ := mem_alerts.mpr ⟨customerEntry,parsed,reports,rfl⟩
  refine ⟨rfl,⟨_,detectKnownIssuePatterns_on within,fun inside => ?_⟩,fun same => ?_⟩
  · obtain ⟨ref,there,names⟩ := @issueAlert_cites _ customerGuide 1 30
      (guideChunk "2" "KI-208 label printing" (some "ACCT-009")) customerEntry
      (recentTickets customerGuide oneAccount ⟨.epoch⟩ monthBefore) rfl rfl
    have seen := inside _ listed ref there _ (List.mem_singleton_self _) names
    cases seen
  · rw [detectKnownIssuePatterns_on within,detectKnownIssuePatterns_on within] at same
    rw [Except.ok.inj same] at listed
    cases listed

theorem issue_scope_guide : let _ := asciiHost [] []
    ((∀ alerts, (detectKnownIssuePatterns oneAccount ⟨.epoch⟩ 1 30).on
        customerGuide = .ok alerts → CitedWithinScope customerGuide oneAccount.accountScope alerts) ∧
      (∀ alerts, (detectKnownIssuePatterns oneAccount ⟨.epoch⟩ 1 30).on
        noGuide = .ok alerts → CitedWithinScope noGuide oneAccount.accountScope alerts) ∧
      (detectKnownIssuePatterns oneAccount ⟨.epoch⟩ 1 30).on customerGuide =
        (detectKnownIssuePatterns oneAccount ⟨.epoch⟩ 1 30).on noGuide) ↔
      ReportsWithinScope customerGuide oneAccount ⟨.epoch⟩ 1 30 ∧
        ReportsWithinScope noGuide oneAccount ⟨.epoch⟩ 1 30 := by
  intro _
  exact issue_scope_iff rfl

end ParcelPilot
