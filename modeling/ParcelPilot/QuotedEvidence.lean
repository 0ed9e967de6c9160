import ParcelPilot.Dictionaries
import ParcelPilot.RelevanceFloor
import ParcelPilot.Texts

namespace ParcelPilot

-- A marker as the text shows it.
def Bracketed (text marker : List Char) : Prop :=
  ∃ before after, text = before ++ '[' :: (marker ++ ']' :: after) ∧ marker ≠ [] ∧
    ∀ c ∈ marker, markerChar c = true

theorem markerChar_bracket {c : Char} (accepted : markerChar c = true) : c ≠ '[' ∧ c ≠ ']' := by
  refine ⟨?_,?_⟩ <;> rintro rfl <;> exact absurd accepted (by decide)

section Markers

variable {isWord : Char → Bool} {before text marker one two : List Char} {stop : Pattern.Cursor}

theorem mem_ends_citationMarker :
    stop ∈ Pattern.ends isWord citationMarker ⟨before,text⟩ ↔ ∃ run rest,
      text = '[' :: (run ++ ']' :: rest) ∧ run ≠ [] ∧ (∀ c ∈ run, markerChar c = true) ∧
        stop = ⟨']' :: (run.reverse ++ '[' :: before),rest⟩ := by
  simp only [citationMarker,Pattern.sequence,Pattern.mem_ends_seq,Pattern.mem_ends_one,
    Pattern.mem_ends_many,decide_eq_true_eq]
  constructor
  · intro passed
    obtain ⟨_,⟨_,tail,opens,rfl,rfl⟩,_,⟨run,more,ahead,enough,_,all,rfl⟩,_,rest,closes,rfl,rfl⟩ := passed
    dsimp only at opens ahead closes
    subst ahead
    subst closes
    exact ⟨run,rest,opens,List.ne_nil_of_length_pos enough,all,rfl⟩
  · intro passed
    obtain ⟨run,rest,rfl,some_,all,rfl⟩ := passed
    exact ⟨_,⟨_,_,rfl,rfl,rfl⟩,_,⟨run,_,rfl,List.length_pos_of_ne_nil some_,by simp,all,rfl⟩,
      _,_,rfl,rfl,rfl⟩

-- Neither bracket is a marker character: there is one way to read a marker.
theorem citationMarker_here :
    Pattern.matchHere isWord citationMarker ⟨before,text⟩ = some stop ↔
      stop ∈ Pattern.ends isWord citationMarker ⟨before,text⟩ := by
  apply Pattern.matchHere_unique
  intro one first two second
  obtain ⟨run,rest,same,_,all,rfl⟩ := mem_ends_citationMarker.mp first
  obtain ⟨other,tail,also,_,each,rfl⟩ := mem_ends_citationMarker.mp second
  have closes : ']' ∉ run := fun member => (markerChar_bracket (all _ member)).2 rfl
  have ends_ : ']' ∉ other := fun member => (markerChar_bracket (each _ member)).2 rfl
  obtain ⟨rfl,rfl⟩ := (Texts.cut_list closes ends_).mp (List.cons.inj (same.symm.trans also)).2
  rfl

theorem marker_group (run rest : List Char) :
    ((('[' :: (run ++ ']' :: rest)).take (('[' :: (run ++ ']' :: rest)).length - rest.length)).drop
      1).dropLast = run := by
  have length : ('[' :: (run ++ ']' :: rest)).length - rest.length = run.length + 2 := by
    simp only [List.length_cons,List.length_append]
    omega
  rw [length]
  simp [List.take_append,List.take_of_length_le]

theorem mem_citationMarkers [Host] {text marker : String} :
    marker ∈ extractCitationMarkers text ↔ Bracketed text.toList marker.toList := by
  simp only [extractCitationMarkers,Pattern.findAll,Pattern.findIter,List.map_map,List.mem_map,
    Function.comp_apply,String.toList_ofList]
  constructor
  · intro listed
    obtain ⟨⟨start,found⟩,reported,rfl⟩ := listed
    obtain ⟨left,split_,_,stop,matched,rfl⟩ := Pattern.findFrom_sound reported
    obtain ⟨run,rest,ahead,some_,all,rfl⟩ :=
      mem_ends_citationMarker.mp (citationMarker_here.mp matched)
    dsimp only at ahead ⊢
    rw [ahead,marker_group,String.toList_ofList]
    exact ⟨left,rest,by rw [split_,ahead],some_,all⟩
  · intro shown
    obtain ⟨left,rest,split_,some_,all⟩ := shown
    have matched : Pattern.matchHere Host.isWord citationMarker
        ⟨left.reverse ++ [],'[' :: (marker.toList ++ ']' :: rest)⟩ = some
          ⟨']' :: (marker.toList.reverse ++ '[' :: (left.reverse ++ [])),rest⟩ :=
      citationMarker_here.mpr (mem_ends_citationMarker.mpr ⟨_,_,rfl,some_,all,rfl⟩)
    refine ⟨_,Pattern.findFrom_complete split_ (by simp) (Nat.zero_le _) matched ?_,?_⟩
    · intro one two earlier parts nonempty found
      -- a marker that reached this far would have a bracket inside
      obtain ⟨run,tail,ahead,_,each,rfl⟩ := mem_ends_citationMarker.mp (citationMarker_here.mp found)
      obtain ⟨c,two,rfl⟩ := List.exists_cons_of_ne_nil nonempty
      have inside := (List.cons.inj ahead).2
      rcases List.append_eq_append_iff.mp inside with ⟨more,rfl,opens⟩ | ⟨more,rfl,opens⟩
      · rcases List.cons_eq_append_iff.mp opens with ⟨rfl,closes⟩ | ⟨deep,rfl,_⟩
        · simp at closes
        · exact absurd rfl (markerChar_bracket (each '[' (by simp))).1
      · rcases List.cons_eq_append_iff.mp opens with ⟨rfl,closes⟩ | ⟨deep,rfl,reach⟩
        · simp at closes
        · rw [reach]
          simp
    · dsimp only
      rw [marker_group,String.ofList_toList]

-- What is no part of a marker keeps the markers on its two sides apart.
theorem bracketed_apart {c : Char} (other : markerChar c = false) (left : c ≠ '[') (right : c ≠ ']') :
    Bracketed (one ++ c :: two) marker ↔ Bracketed one marker ∨ Bracketed two marker := by
  constructor
  · intro shown
    obtain ⟨before,after,split_,some_,all⟩ := shown
    have outside : c ∉ '[' :: (marker ++ [']']) := by
      intro member
      rcases List.mem_cons.mp member with same | member
      · exact left same
      · rcases List.mem_append.mp member with inside | last
        · rw [all c inside] at other
          cases other
        · exact right (List.mem_singleton.mp last)
    have whole : one ++ c :: two = (before ++ '[' :: (marker ++ [']'])) ++ after := by
      rw [split_]
      simp
    rcases List.append_eq_append_iff.mp whole with ⟨more,span,tail⟩ | ⟨more,here,tail⟩
    · rcases List.cons_eq_append_iff.mp tail with ⟨rfl,_⟩ | ⟨rest,rfl,tail⟩
      · rw [List.append_nil] at span
        exact .inl ⟨before,[],by rw [← span],some_,all⟩
      · rcases List.append_eq_append_iff.mp span with ⟨gap,_,inner⟩ | ⟨gap,_,inner⟩
        · exact absurd (by rw [inner]; simp) outside
        · rcases List.cons_eq_append_iff.mp inner with ⟨rfl,same⟩ | ⟨gap,rfl,same⟩
          · exact absurd (List.cons.inj same).1.symm left
          · exact .inr ⟨gap,after,by rw [(List.cons.inj tail).2,same]; simp,some_,all⟩
    · exact .inl ⟨before,more,by rw [here]; simp,some_,all⟩
  · intro shown
    rcases shown with ⟨before,after,rfl,some_,all⟩ | ⟨before,after,rfl,some_,all⟩
    · exact ⟨before,after ++ c :: two,by simp,some_,all⟩
    · exact ⟨one ++ c :: before,after,by simp,some_,all⟩

end Markers

section Quotes

variable {refs : List EvidenceRef} {ref : EvidenceRef} {marker : List Char}

theorem bracketed_within {text : List Char} (shown : Bracketed text marker) : '[' ∈ text := by
  obtain ⟨before,after,rfl,_⟩ := shown
  simp

theorem bracketed_line : Bracketed (citationLine ref).toList marker ↔
    Bracketed ('[' :: (citationKey ref).toList ++ [']']) marker ∨
      Bracketed (ref.note.getD "").toList marker := by
  have dash : ¬ Bracketed ['-'] marker := fun shown => by simpa using bracketed_within shown
  have nothing : ¬ Bracketed [] marker := fun shown => by simpa using bracketed_within shown
  have label (rest : List Char) : Bracketed ('-' :: ' ' :: rest) marker ↔ Bracketed rest marker := by
    have apart := @bracketed_apart marker ['-'] rest ' ' (by decide) (by decide) (by decide)
    simpa [dash] using apart
  have noted (note : List Char) : Bracketed ('[' :: (citationKey ref).toList ++ [']'] ++ ' ' :: note)
      marker ↔ _ := bracketed_apart (by decide) (by decide) (by decide)
  unfold citationLine
  cases written : ref.note with
  | none =>
      simpa [nothing] using label ('[' :: (citationKey ref).toList ++ [']'])
  | some note =>
      by_cases blank : note = ""
      · subst blank
        simpa [nothing] using label ('[' :: (citationKey ref).toList ++ [']'])
      · have both := (label _).trans (noted note.toList)
        simpa [blank] using both

theorem bracketed_lines {lines : List String} : Bracketed (Py.join "\n" lines).toList marker ↔
    ∃ line ∈ lines, Bracketed line.toList marker := by
  unfold Py.join
  induction lines with
  | nil =>
      have nothing : ¬ Bracketed [] marker := fun shown => by simpa using bracketed_within shown
      simpa using nothing
  | cons first rest ih =>
      cases rest with
      | nil => simp
      | cons second rest =>
          have apart := @bracketed_apart marker first.toList
            ("\n".intercalate (second :: rest)).toList '\n' (by decide) (by decide) (by decide)
          rw [ih] at apart
          rw [String.intercalate_cons_cons]
          simpa using apart

-- What the tool results cite, before any of it is dropped.
def citedBy (toolResults : List ToolResult) : List EvidenceRef :=
  (toolResults.filterMap (·.usable)).flatMap (·.cited)

def EvidenceRef.place (ref : EvidenceRef) : String × Option String := (ref.sourceId,ref.locator)

theorem citationKey_place {one two : EvidenceRef} (same : one.place = two.place) :
    citationKey one = citationKey two := by
  unfold EvidenceRef.place at same
  rw [Prod.mk.injEq] at same
  unfold citationKey
  rw [same.1,same.2]

theorem accepts_firstOccurrences (marker : String) :
    acceptsMarker (Py.firstOccurrences EvidenceRef.place [] refs) marker = acceptsMarker refs marker := by
  have kept {value : EvidenceRef → String} (placed : ∀ one two : EvidenceRef, one.place = two.place →
      value one = value two) (wanted : String) :
      wanted ∈ (Py.firstOccurrences EvidenceRef.place [] refs).map value ↔ wanted ∈ refs.map value := by
    simp only [List.mem_map]
    constructor
    · intro found
      obtain ⟨ref,member,rfl⟩ := found
      exact ⟨ref,Py.firstOccurrences_mem member,rfl⟩
    · intro found
      obtain ⟨ref,member,rfl⟩ := found
      obtain ⟨first,present,same⟩ := Py.firstOccurrences_covers EvidenceRef.place
        List.not_mem_nil member
      exact ⟨first,present,placed _ _ same⟩
  unfold acceptsMarker
  simp only [kept (fun _ _ => citationKey_place),
    @kept EvidenceRef.sourceId (fun _ _ same => (Prod.mk.inj same).1)]

variable [Host]

-- Every answer made of the pack's citation lines is accepted.
def QuotesAccepted (pack : EvidencePack) : Prop :=
  ∀ quoted : List EvidenceRef, (∀ ref ∈ quoted, ref ∈ pack.citations) →
    (validateCitations (Py.join "\n" (quoted.map citationLine)) pack).valid = true

-- Every marker that the bracketed key or the note of a reference shows, the
-- first of its place, is accepted for the references.
def Quotable (refs : List EvidenceRef) : Prop :=
  ∀ before ref after, refs = before ++ ref :: after → (∀ earlier ∈ before, earlier.place ≠ ref.place) →
    ∀ marker : String, Bracketed ('[' :: (citationKey ref).toList ++ [']']) marker.toList ∨
      Bracketed (ref.note.getD "").toList marker.toList → acceptsMarker refs marker = true

section Packs

variable {question : String} {intent : Intent} {entities : EntityResolution}
  {toolResults : List ToolResult} {snapshotTime : DateTime} {accountScope : Option (List String)}

theorem pack_accepts {text : String} : (validateCitations text (buildEvidencePack question intent
      entities toolResults snapshotTime accountScope)).valid = true ↔
    ∀ marker : String, Bracketed text.toList marker.toList →
      acceptsMarker (citedBy toolResults) marker = true := by
  have cited : (buildEvidencePack question intent entities toolResults snapshotTime
      accountScope).citations = Py.firstOccurrences EvidenceRef.place [] (citedBy toolResults) := rfl
  simp only [validateCitations_valid,cited,accepts_firstOccurrences,mem_citationMarkers]

theorem accepted_quotable (accepted : QuotesAccepted (buildEvidencePack question intent entities
    toolResults snapshotTime accountScope)) : Quotable (citedBy toolResults) := by
  intro before ref after split_ apart marker shown
  have kept : ref ∈ Py.firstOccurrences EvidenceRef.place [] (citedBy toolResults) :=
    Py.mem_firstOccurrences.mpr ⟨List.not_mem_nil,before,after,split_,apart⟩
  have alone := accepted [ref] fun other member => by
    cases List.mem_singleton.mp member
    exact kept
  exact pack_accepts.mp alone marker
    (bracketed_lines.mpr ⟨citationLine ref,List.mem_singleton_self _,bracketed_line.mpr shown⟩)

theorem quotable_accepted (quotable : Quotable (citedBy toolResults)) :
    QuotesAccepted (buildEvidencePack question intent entities toolResults snapshotTime
      accountScope) := by
  intro quoted within
  refine pack_accepts.mpr fun marker shown => ?_
  obtain ⟨_,listed,shown⟩ := bracketed_lines.mp shown
  obtain ⟨ref,member,rfl⟩ := List.mem_map.mp listed
  obtain ⟨_,before,after,split_,apart⟩ := Py.mem_firstOccurrences.mp (within ref member)
  exact quotable before ref after split_ apart marker (bracketed_line.mp shown)

end Packs

-- Citation lines can be quoted exactly when no key and no note shows a marker
-- of its own.
theorem quotes_accepted_iff (question : String) (intent : Intent) (entities : EntityResolution)
    (toolResults : List ToolResult) (snapshotTime : DateTime) (accountScope : Option (List String)) :
    QuotesAccepted (buildEvidencePack question intent entities toolResults snapshotTime accountScope) ↔
      Quotable (citedBy toolResults) :=
  ⟨accepted_quotable,quotable_accepted⟩

end Quotes

def handlingResult : DocumentSearchResult where
  chunkId := "SRC-02:p1:1"
  sourceId := "SRC-02"
  filename := "02_Support_Policy_v2_DEPRECATED.pdf"
  page := 1
  section_ := some "1"
  snippet := "[parcel] [handling] [rules]"
  score := -(3 * wordWeight)
  status := .deprecated
  sourceType := .supportPolicy
  authorityClass := .deprecated
  effectiveDate := 739251
  accountScope := none

theorem highlight_rejected : let _ := matchingHost
    ∃ results, (searchDocuments "parcel handling rules" ⟨none,none,none,none⟩ 5).on withdrawnDb =
        .ok results ∧
      ¬ QuotesAccepted (buildEvidencePack "parcel handling rules" .informational {}
        [.ok .searchDocuments (.searchDocuments ⟨"parcel handling rules",results,0⟩) 0 1]
        .epoch none) := by
  intro _
  have query : normalizeQuery "parcel handling rules" =
      .ok "\"parcel\" OR \"handling\" OR \"rules\"" := by decide +kernel
  have found : (((Db.matches_ withdrawnDb.documentChunks
      "\"parcel\" OR \"handling\" OR \"rules\"").filter
        (Db.resultChosen ⟨none,none,none,none⟩)).insertionSort Db.resultBefore).take 5 =
      [handlingResult] := by decide +kernel
  refine ⟨[handlingResult],?_,?_⟩
  · exact (searchDocuments_ran _ (by decide) query).trans (congrArg Except.ok found)
  · intro accepted
    have refused := accepted_quotable accepted [] (citeResult handlingResult) [] rfl (by simp) "handling"
      (.inr ⟨"[parcel] ".toList," [rules]".toList,by decide,by decide,List.all_eq_true.mp rfl⟩)
    exact absurd refused (by decide)

end ParcelPilot
