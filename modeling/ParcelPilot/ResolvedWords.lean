import ParcelPilot.Lines
import ParcelPilot.RadarRecords

namespace ParcelPilot

namespace Texts

variable {isWord : Char → Bool} {word text : List Char}

-- Whether the word stands somewhere with no word character next to it.
def standsAlone (isWord : Char → Bool) (word text : List Char) : Bool :=
  (List.range (text.length + 1)).any fun n => word.isPrefixOf (text.drop n) &&
    !Pattern.wordAt isWord (text.take n).reverse && !Pattern.wordAt isWord (text.drop (n + word.length))

theorem standsAlone_iff : standsAlone isWord word text = true ↔
    ∃ before after, text = before ++ word ++ after ∧ Pattern.wordAt isWord before.reverse = false ∧
      Pattern.wordAt isWord after = false := by
  simp only [standsAlone,List.any_eq_true,List.mem_range,Bool.and_eq_true,Bool.not_eq_true',
    List.isPrefixOf_iff_prefix]
  constructor
  · intro alone
    rcases alone with ⟨n,inside,⟨⟨after,here⟩,left⟩,right⟩
    refine ⟨text.take n,after,?_,left,?_⟩
    · rw [List.append_assoc,here,List.take_append_drop]
    · rw [← List.drop_drop,← here,List.drop_left] at right
      exact right
  · intro alone
    rcases alone with ⟨before,after,rfl,left,right⟩
    refine ⟨before.length,?_,⟨?_,?_⟩,?_⟩
    · simp only [List.length_append]
      omega
    · rw [List.append_assoc,List.drop_left]
      exact List.prefix_append _ _
    · rwa [List.append_assoc,List.take_left]
    · rwa [← List.length_append,List.drop_left]

end Texts

section Words

variable [Host] {db : Db} {auth : AuthContext} {clock : SnapshotClock}
  {minOccurrences windowDays : Int} {cutoff : DateTime} {chunk : DocumentChunk} {issue : KnownIssue}

-- The mentions of a chunk, each with its segment.
def entries (chunk : DocumentChunk) : List (String × String) :=
  segments (Pattern.findIter Host.isWord kiId chunk.text)

def entryIssue (chunk : DocumentChunk) (entry : String × String) : KnownIssue where
  kiId := entry.1
  sourceId := chunk.sourceId
  section_ := chunk.section_
  resolved := Py.occursIn "resolved" (Host.lower entry.2)
  tokens := significantTokens entry.2

-- "resolved" as a word of its own, in any case of letters.
def markedResolved (segment : String) : Bool :=
  Texts.standsAlone Host.isWord "resolved".toList (Host.lower segment).toList

theorem marked_occurs {segment : String} (marked : markedResolved segment = true) :
    Py.occursIn "resolved" (Host.lower segment) = true := by
  obtain ⟨before,after,whole,_⟩ := Texts.standsAlone_iff.mp marked
  exact Py.occursIn_iff.mpr ⟨before,after,whole.symm⟩

-- The tickets of the caller's accounts in the window, as points in time.
def windowTickets (db : Db) (auth : AuthContext) (clock : SnapshotClock) (windowDays : Int) :
    List Ticket :=
  ((db.tickets.listing (Db.ticketChosen auth.accountScope none none)).map
    (·.toTicket clock.tz)).filter (clock.covers windowDays)

omit [Host] in
theorem windowTickets_recent (within : clock.now.minusDays windowDays = .ok cutoff) :
    windowTickets db auth clock windowDays = recentTickets db auth clock cutoff := by
  refine List.filter_congr fun ticket _ => Bool.eq_iff_iff.mpr ?_
  rw [covers_iff within,decide_eq_true_eq]

-- Among the active issues that the rule goes through.
def KeptActive (db : Db) (issue : KnownIssue) : Prop :=
  ∃ issues, parseKnownIssues.on db = .ok issues ∧ issue ∈ issues.filter (!·.resolved)

def AlertedFor (db : Db) (auth : AuthContext) (clock : SnapshotClock)
    (minOccurrences windowDays : Int) (issue : KnownIssue) : Prop :=
  ∃ alerts, (detectKnownIssuePatterns auth clock minOccurrences windowDays).on db = .ok alerts ∧
    issueAlert db minOccurrences windowDays (windowTickets db auth clock windowDays) issue ∈ alerts

def EnoughMatch (db : Db) (auth : AuthContext) (clock : SnapshotClock)
    (minOccurrences windowDays : Int) (issue : KnownIssue) : Prop :=
  minOccurrences ≤ (matchingTickets (windowTickets db auth clock windowDays) issue).length

-- A current entry that does not say resolved is active, and alerted for once
-- enough tickets match it.
def ActiveAlerted (db : Db) (auth : AuthContext) (clock : SnapshotClock)
    (minOccurrences windowDays : Int) : Prop :=
  ∀ chunk ∈ db.documentChunks, chunk.sourceType = .productDoc ∧ chunk.status = .current →
    ∀ entry ∈ entries chunk, markedResolved entry.2 = false →
      KeptActive db (entryIssue chunk entry) ∧
      (EnoughMatch db auth clock minOccurrences windowDays (entryIssue chunk entry) →
        AlertedFor db auth clock minOccurrences windowDays (entryIssue chunk entry))

theorem entry_parsed {entry : String × String} (stored : chunk ∈ db.documentChunks)
    (current : chunk.sourceType = .productDoc ∧ chunk.status = .current)
    (mentioned : entry ∈ entries chunk) : entryIssue chunk entry ∈ knownIssues db :=
  mem_knownIssues.mpr ⟨chunk,stored,current,List.mem_map_of_mem mentioned⟩

theorem kept_iff (parsed : issue ∈ knownIssues db) : KeptActive db issue ↔ issue.resolved = false := by
  constructor
  · intro listed
    rcases listed with ⟨issues,ran,kept⟩
    simpa using (List.mem_filter.mp kept).2
  · intro active
    exact ⟨_,parseKnownIssues_on,List.mem_filter.mpr ⟨parsed,by simp [active]⟩⟩

theorem alerted_iff (parsed : issue ∈ knownIssues db) (active : issue.resolved = false)
    (enough : EnoughMatch db auth clock minOccurrences windowDays issue) :
    AlertedFor db auth clock minOccurrences windowDays issue ↔
      ∃ cutoff, clock.now.minusDays windowDays = .ok cutoff := by
  constructor
  · intro alerted
    rcases alerted with ⟨alerts,ran,_⟩
    obtain ⟨cutoff,within,_⟩ := detectKnownIssuePatterns_ok.mp ran
    exact ⟨cutoff,within⟩
  · intro returns
    rcases returns with ⟨cutoff,within⟩
    rw [EnoughMatch,windowTickets_recent within] at enough
    refine ⟨_,detectKnownIssuePatterns_on within,?_⟩
    rw [windowTickets_recent within]
    exact mem_alerts.mpr ⟨issue,parsed,reported_iff.mpr ⟨active,enough⟩,rfl⟩

-- The marker is looked for as part of any word, so that an entry is suppressed
-- where the letters stand inside a longer one.
theorem active_alerted_iff (db : Db) (auth : AuthContext) (clock : SnapshotClock)
    (minOccurrences windowDays : Int) :
    ActiveAlerted db auth clock minOccurrences windowDays ↔
      ∀ chunk ∈ db.documentChunks, chunk.sourceType = .productDoc ∧ chunk.status = .current →
        ∀ entry ∈ entries chunk,
          (Py.occursIn "resolved" (Host.lower entry.2) = true ↔ markedResolved entry.2 = true) ∧
          (markedResolved entry.2 = false →
            EnoughMatch db auth clock minOccurrences windowDays (entryIssue chunk entry) →
              ∃ cutoff, clock.now.minusDays windowDays = .ok cutoff) := by
  refine forall₅_congr fun chunk stored current entry mentioned => ?_
  have parsed := entry_parsed stored current mentioned
  constructor
  · intro alerted
    constructor
    · refine ⟨fun occurs => ?_,marked_occurs⟩
      by_contra unmarked
      have active := (kept_iff parsed).mp (alerted (Bool.eq_false_iff.mpr unmarked)).1
      exact absurd (occurs.symm.trans active) (by decide)
    · intro unmarked enough
      obtain ⟨kept,alerts⟩ := alerted unmarked
      exact (alerted_iff parsed ((kept_iff parsed).mp kept) enough).mp (alerts enough)
  · intro condition unmarked
    rcases condition with ⟨whole,returns⟩
    have active : (entryIssue chunk entry).resolved = false := by
      apply Bool.eq_false_iff.mpr
      intro occurs
      rw [whole.mp occurs] at unmarked
      cases unmarked
    refine ⟨(kept_iff parsed).mpr active,fun enough => ?_⟩
    exact (alerted_iff parsed active enough).mpr (returns unmarked enough)

end Words

-- An open issue whose status line says so in one word.
def unresolvedGuide : Db := {resolvedGuide with
  documentChunks := [guideChunk "3" "KI-208 label printing\nStatus: Unresolved for some carriers" none]}

theorem unresolved_suppressed : ¬ @ActiveAlerted (asciiHost [] []) unresolvedGuide
    ⟨.operationsAdmin,none⟩ ⟨.epoch⟩ 1 30 := by
  let _ := asciiHost [] []
  intro alerted
  obtain ⟨entry,unmarked,occurs⟩ :
      ("KI-208","KI-208 label printing\nStatus: Unresolved for some carriers") ∈
        entries (guideChunk "3" "KI-208 label printing\nStatus: Unresolved for some carriers" none) ∧
      markedResolved "KI-208 label printing\nStatus: Unresolved for some carriers" = false ∧
      Py.occursIn "resolved" (Host.lower "KI-208 label printing\nStatus: Unresolved for some carriers") =
        true := by
    decide +kernel
  have kept := (alerted _ (List.mem_singleton_self _) ⟨rfl,rfl⟩ _ entry unmarked).1
  have parsed := @entry_parsed _ unresolvedGuide _ _ (List.mem_singleton_self _) ⟨rfl,rfl⟩ entry
  have active := (kept_iff parsed).mp kept
  exact absurd (occurs.symm.trans active) (by decide)

end ParcelPilot
