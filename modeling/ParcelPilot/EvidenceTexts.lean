import ParcelPilot.QuotedEvidence

namespace ParcelPilot

section Texts

variable [Host] {toolResults : List ToolResult}

-- The chunks that the successful searches returned.
def retrievedBy (toolResults : List ToolResult) : List DocumentSearchResult :=
  (toolResults.filterMap (·.usable)).flatMap (·.documents)

-- Nothing is lost between the tool results and the evidence of the prompt: the
-- places are kept once each, in order, and every chunk with its text.
structure TextKept (toolResults : List ToolResult) (pack : EvidencePack) : Prop where
  distinct : (pack.citations.map EvidenceRef.place).Nodup
  covered : pack.citations.map EvidenceRef.place =
    ((citedBy toolResults).map EvidenceRef.place).eraseDups
  texts : ∀ result ∈ retrievedBy toolResults, ∃ ref ∈ pack.citations,
    ref.place = (citeResult result).place ∧ ref.note = some result.snippet ∧
      citationLine (citeResult result) ∈ renderEvidenceBlocks pack

theorem citationLine_rendered {pack : EvidencePack} {ref : EvidenceRef}
    (cited : ref ∈ pack.citations) : citationLine ref ∈ renderEvidenceBlocks pack := by
  have some_ : (pack.citations.map citationLine).isEmpty = false := by
    cases listed : pack.citations with
    | nil => simp [listed] at cited
    | cons first rest => rfl
  simp only [renderEvidenceBlocks,evidenceBlock,some_,List.append_assoc]
  apply List.mem_append_left
  have listed : citationLine ref ∈ pack.citations.map citationLine := List.mem_map_of_mem cited
  exact List.mem_cons_of_mem _ (List.mem_append_left _ listed)

omit [Host] in
theorem citationLine_congr {one two : EvidenceRef} (same : one.place = two.place)
    (noted : one.note = two.note) : citationLine one = citationLine two := by
  unfold citationLine
  rw [citationKey_place same,noted]

theorem text_kept_iff (question : String) (intent : Intent) (entities : EntityResolution)
    (toolResults : List ToolResult) (snapshotTime : DateTime) (accountScope : Option (List String)) :
    TextKept toolResults
        (buildEvidencePack question intent entities toolResults snapshotTime accountScope) ↔
      ∀ result ∈ retrievedBy toolResults, ∀ before ref after,
        citedBy toolResults = before ++ ref :: after → ref.place = (citeResult result).place →
        (∀ earlier ∈ before, earlier.place ≠ ref.place) → ref.note = some result.snippet := by
  let pack := buildEvidencePack question intent entities toolResults snapshotTime accountScope
  have cited : pack.citations = Py.firstOccurrences EvidenceRef.place [] (citedBy toolResults) := rfl
  have distinct : (pack.citations.map EvidenceRef.place).Nodup := by
    rw [cited]
    exact Py.firstOccurrences_nodup EvidenceRef.place [] _
  constructor
  · intro kept result retrieved before ref after split_ placed apart
    obtain ⟨first,member,same,noted,_⟩ := kept.texts result retrieved
    have also : ref ∈ pack.citations := by
      rw [cited]
      exact Py.mem_firstOccurrences.mpr ⟨List.not_mem_nil,before,after,split_,apart⟩
    rw [← List.inj_on_of_nodup_map distinct member also (same.trans placed.symm)]
    exact noted
  · intro first
    refine ⟨distinct,?_,?_⟩
    · rw [cited,Py.firstOccurrences_keys]
      simp
    · intro result retrieved
      have listed : citeResult result ∈ citedBy toolResults := by
        obtain ⟨output,usable,member⟩ := List.mem_flatMap.mp retrieved
        refine List.mem_flatMap.mpr ⟨output,usable,?_⟩
        cases output with
        | searchDocuments response => exact List.mem_map_of_mem member
        | lookupStructuredData response => cases member
        | calculateSupportOutcome response => cases member
        | detectIssues response => cases member
      obtain ⟨ref,kept,same⟩ := Py.firstOccurrences_covers EvidenceRef.place
        List.not_mem_nil listed
      obtain ⟨_,before,after,split_,apart⟩ := Py.mem_firstOccurrences.mp kept
      have noted := first result retrieved before ref after split_ same apart
      refine ⟨ref,kept,same,noted,?_⟩
      rw [← citationLine_congr same noted]
      exact citationLine_rendered kept

end Texts

-- The clause that a calculation cites before the search finds it
def settledCalculation : CalculateSupportOutcomeResponse :=
  let _ := asciiHost [] []
  .fromDecision .cancellation CancellationOutcome.dump
    (byStatus ((deliveredOrder "AB-1").toOrder 0) ("SRC-02","1") .cannotCancel none
      "Order status is DELIVERED; the SOP says delivered orders cannot be cancelled."
      [citeStructured "orders" "AB-1",documentRef withdrawnDb "SRC-02" (some "1")]) 0

def calculatedThenSearched : List ToolResult := [
  .ok .calculateSupportOutcome (.calculateSupportOutcome settledCalculation) 0 1,
  .ok .searchDocuments (.searchDocuments ⟨"parcel handling rules",[handlingResult],0⟩) 0 1]

theorem calculated_text_lost : let _ := asciiHost [] []
    ¬ TextKept calculatedThenSearched (buildEvidencePack
      "Do the parcel handling rules let me cancel AB-1?" .cancellation {orderIds := ["AB-1"]}
      calculatedThenSearched .epoch none) := by
  intro _ kept
  obtain ⟨ref,cited,_,noted,_⟩ := kept.texts handlingResult (List.mem_singleton_self _)
  have unnoted : ∀ ref ∈ (buildEvidencePack "Do the parcel handling rules let me cancel AB-1?"
      .cancellation {orderIds := ["AB-1"]} calculatedThenSearched .epoch none).citations,
      ref.note = none := by decide
  rw [unnoted ref cited] at noted
  cases noted

end ParcelPilot
