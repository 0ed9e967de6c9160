import ParcelPilot.Ranking
import ParcelPilot.Scanning
import ParcelPilot.DeprecatedEvidence

namespace ParcelPilot

section Ranked

theorem resultBefore_total : Std.Total Db.resultBefore := by
  refine ⟨?_⟩
  intro one two
  unfold Db.resultBefore
  rcases lt_trichotomy one.score two.score with less | same | more
  · exact .inl (.inl less)
  · rcases le_total one.chunkId two.chunkId with first | first
    · exact .inl (.inr ⟨same,first⟩)
    · exact .inr (.inr ⟨same.symm,first⟩)
  · exact .inr (.inl more)

theorem resultBefore_trans : IsTrans DocumentSearchResult Db.resultBefore := by
  refine ⟨?_⟩
  intro one two three first second
  unfold Db.resultBefore at first second ⊢
  rcases first with less | ⟨same,first⟩
  · rcases second with also | ⟨equal,_⟩
    · exact .inl (lt_trans less also)
    · exact .inl (lt_of_lt_of_eq less equal)
  · rcases second with less | ⟨equal,second⟩
    · exact .inl (lt_of_eq_of_lt same less)
    · exact .inr ⟨same.trans equal,le_trans first second⟩

-- The floor follows the ranking: what is ranked earlier scores no worse.
theorem floor_aligned {one two : DocumentSearchResult} (before : Db.resultBefore one two)
    (passes : decide (two.score ≤ minRelevanceScore) = true) :
    decide (one.score ≤ minRelevanceScore) = true := by
  rw [decide_eq_true_eq] at passes ⊢
  rcases before with less | ⟨same,_⟩
  · exact le_trans (le_of_lt less) passes
  · exact same.trans_le passes

end Ranked

section Floor

variable [Host] {db : Db} {surroundings : Surroundings} {progress : Progress}
  {request : SearchDocumentsRequest} {auth : AuthContext}

theorem findFrom_queryToken {before text : List Char}
    (none_ : Pattern.findFrom Host.isWord queryToken 0 before text = []) :
    ∀ c ∈ text, c.isAlphanum = false := by
  induction text generalizing before with
  | nil => simp
  | cons c rest ih =>
      unfold Pattern.findFrom at none_
      cases here : Pattern.matchHere Host.isWord queryToken ⟨before,c :: rest⟩ with
      | some stop => simp [here] at none_
      | none =>
          simp only [here] at none_
          intro d member
          rcases List.mem_cons.mp member with rfl | later
          · by_contra accepted
            have passes : ⟨d :: before,rest⟩ ∈ Pattern.ends Host.isWord queryToken ⟨before,d :: rest⟩ :=
              Pattern.mem_ends_many.mpr ⟨[d],rest,rfl,by simp,by simp,by simpa using accepted,rfl⟩
            rw [Pattern.matchHere,List.head?_eq_none_iff] at here
            rw [here] at passes
            cases passes
          · exact ih none_ d later

theorem normalizeQuery_ran {query : String}
    (searchable : ∃ c ∈ (Host.lower query).toList, c.isAlphanum = true) :
    ∃ ftsQuery, normalizeQuery query = .ok ftsQuery := by
  unfold normalizeQuery
  split
  · rename_i nothing
    obtain ⟨c,member,accepted⟩ := searchable
    have tokens : Pattern.findAll Host.isWord queryToken (Host.lower query) = [] := by
      cases found : Pattern.findAll Host.isWord queryToken (Host.lower query) with
      | nil => rfl
      | cons token others => simp [found,Py.firstOccurrences] at nothing
    have silent := findFrom_queryToken (List.map_eq_nil_iff.mp tokens) c member
    rw [silent] at accepted
    cases accepted
  · exact ⟨_,rfl⟩

theorem searchDocuments_ran {query ftsQuery : String} (filters : DocumentSearchFilter) {topK : Nat}
    (inRange : 1 ≤ topK ∧ topK ≤ maxTopK) (normalized : normalizeQuery query = .ok ftsQuery) :
    (searchDocuments query filters topK).on db = .ok (db.answer (.search ftsQuery filters topK)) := by
  unfold searchDocuments
  rw [if_neg (not_not_intro inRange),normalized]
  rfl

def relevant (request : SearchDocumentsRequest) (auth : AuthContext) (result : DocumentSearchResult) :
    Bool :=
  Db.admitsListed request.sourceTypes result.sourceType &&
    Db.admitsListed request.authorityClasses result.authorityClass &&
    Db.admitsListed request.statuses result.status && result.accountScope.all auth.allowsAccount &&
    result.score ≤ minRelevanceScore

def relevantResults (db : Db) (ftsQuery : String) (request : SearchDocumentsRequest)
    (auth : AuthContext) : List DocumentSearchResult :=
  (((Db.matches_ db.documentChunks ftsQuery).filter (relevant request auth)).insertionSort
    Db.resultBefore).take request.topK

omit [Host] in
theorem relevant_chosen (result : DocumentSearchResult) : relevant request auth result =
    (decide (result.score ≤ minRelevanceScore) && Db.resultChosen ⟨request.sourceTypes,
      request.authorityClasses,request.statuses,auth.accountScope⟩ result) := by
  have readable : result.accountScope.all auth.allowsAccount =
      Db.inScope auth.accountScope result.accountScope := by
    unfold Db.inScope
    cases result.accountScope with
    | none => rfl
    | some accountId =>
        dsimp only
        rw [admitsAny_scope]
        rfl
  rw [relevant,Db.resultChosen,readable,Bool.and_comm]

theorem floored_search (ftsQuery : String) :
    ((db.answer (.search ftsQuery ⟨request.sourceTypes,request.authorityClasses,request.statuses,
      auth.accountScope⟩ request.topK)).filter fun result : DocumentSearchResult =>
        result.score ≤ minRelevanceScore) = relevantResults db ftsQuery request auth := by
  have total := resultBefore_total
  have transitive := resultBefore_trans
  have chosen : relevant request auth = fun result => (decide (result.score ≤ minRelevanceScore) &&
      Db.resultChosen ⟨request.sourceTypes,request.authorityClasses,request.statuses,
        auth.accountScope⟩ result) := funext relevant_chosen
  rw [relevantResults,chosen,← List.filter_filter,← Ranking.filter_insertionSort]
  exact Ranking.filter_take (List.pairwise_insertionSort Db.resultBefore _)
    (fun _ _ => floor_aligned) _

theorem measured_ran {query : Query α} {value : α} (found : query.on db = .ok value) :
    ∃ latencyMs after, (measured (querying query)).under db surroundings progress =
      (.ok (value,latencyMs),after) := by
  let started : Progress := {progress with taken := progress.taken + 1}
  have asked : (querying query).under db surroundings started = (.ok value,started) := by
    rw [under_querying,found]
  exact ⟨_,_,under_bind_ok.mpr ⟨_,started,under_perfCounter,under_bind_ok.mpr ⟨value,started,asked,
    under_bind_ok.mpr ⟨_,_,under_perfCounter,rfl⟩⟩⟩⟩

-- The tool returns the first of the relevant matches: cutting the list before
-- the floor is applied loses none of them.
theorem search_floor (db : Db) (surroundings : Surroundings) (progress : Progress)
    (request : SearchDocumentsRequest) (auth : AuthContext)
    (searchable : ∃ c ∈ (Host.lower request.query).toList, c.isAlphanum = true) :
    ∃ ftsQuery response after, normalizeQuery request.query = .ok ftsQuery ∧
      (searchDocumentsTool request auth).under db surroundings progress = (.ok response,after) ∧
      response.results = relevantResults db ftsQuery request auth := by
  obtain ⟨ftsQuery,normalized⟩ := normalizeQuery_ran searchable
  have found := @searchDocuments_ran _ db _ _ ⟨request.sourceTypes,request.authorityClasses,
    request.statuses,auth.accountScope⟩ _ request.topKInRange normalized
  obtain ⟨latencyMs,after,ran⟩ := @measured_ran _ db surroundings progress _ _ _ found
  exact ⟨ftsQuery,_,after,normalized,under_bind_ok.mpr ⟨_,after,ran,rfl⟩,floored_search ftsQuery⟩

omit [Host] in
theorem search_floor_handling : let _ := matchingHost
    ∃ ftsQuery response after, normalizeQuery "parcel handling" = .ok ftsQuery ∧
      (searchDocumentsTool {query := "parcel handling"} adminRequest.auth).under withdrawnDb slowSurroundings
        {} = (.ok response,after) ∧
      response.results =
        relevantResults withdrawnDb ftsQuery {query := "parcel handling"} adminRequest.auth := by
  intro _
  exact search_floor withdrawnDb slowSurroundings {} {query := "parcel handling"} adminRequest.auth
    ⟨'p',by decide,by decide⟩

end Floor

end ParcelPilot
