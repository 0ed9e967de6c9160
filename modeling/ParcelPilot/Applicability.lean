import ParcelPilot.Repository

namespace ParcelPilot

-- app/policy/applicability.py
inductive ClauseTopic where
  | cancellationFee | serviceCreditThresholdAndAmount | serviceCreditAggregateCap | slaFirstResponse
deriving DecidableEq,Repr

namespace ClauseTopic

def value : ClauseTopic → String
  | .cancellationFee => "cancellation_fee"
  | .serviceCreditThresholdAndAmount => "service_credit_threshold_and_amount"
  | .serviceCreditAggregateCap => "service_credit_aggregate_cap"
  | .slaFirstResponse => "sla_first_response"

def name : ClauseTopic → String
  | .cancellationFee => "CANCELLATION_FEE"
  | .serviceCreditThresholdAndAmount => "SERVICE_CREDIT_THRESHOLD_AND_AMOUNT"
  | .serviceCreditAggregateCap => "SERVICE_CREDIT_AGGREGATE_CAP"
  | .slaFirstResponse => "SLA_FIRST_RESPONSE"

end ClauseTopic

structure AgreementOverride where
  accountId : String
  sourceId : String
  section_ : String
  topic : ClauseTopic
  note : String
deriving DecidableEq,Repr

-- `dict[ClauseTopic, tuple[str, str] | None]`: a topic may be missing, or have
-- no default.
abbrev Defaults := ClauseTopic → Option (Option (String × String))

def agreementOverrides : List AgreementOverride := [
  ⟨"ACCT-001","SRC-05","2",.cancellationFee,
    "Northstar may cancel any BOOKED shipment before pickup with no fee, " ++
    "regardless of how long ago it was booked (SRC-05 s2)."⟩,
  ⟨"ACCT-001","SRC-05","3",.serviceCreditAggregateCap,
    "Northstar's monthly aggregate service credits are capped at INR 5,000; " ++
    "the per-credit threshold and amount are unchanged (SRC-05 s3)."⟩,
  ⟨"ACCT-001","SRC-05","1",.slaFirstResponse,
    "Northstar's agreement replaces the standard first-response targets (SRC-05 s1)."⟩,
  ⟨"ACCT-002","SRC-06","3",.serviceCreditThresholdAndAmount,
    "LumenWorks' agreement replaces both the default failed-pickup delay " ++
    "threshold and credit amount (SRC-06 s3)."⟩,
  ⟨"ACCT-002","SRC-06","1",.slaFirstResponse,
    "LumenWorks' agreement replaces the standard first-response targets; " ++
    "no weekend or after-hours coverage (SRC-06 s1)."⟩]

def defaultSource : Defaults
  | .cancellationFee => some (some ("SRC-03","1"))
  | .serviceCreditThresholdAndAmount => some (some ("SRC-03","2"))
  | .serviceCreditAggregateCap => some none
  | .slaFirstResponse => some (some ("SRC-01","3"))

-- The registry every calculation takes.
structure Registry where
  overrides : List AgreementOverride := agreementOverrides
  defaults : Defaults := defaultSource

structure ApplicabilityResult where
  topic : ClauseTopic
  accountId : String
  winningSourceId : String
  winningSection : String
  overriddenSourceId : Option String
  overriddenSection : Option String
  reason : String
  needsHumanReview : Bool
deriving DecidableEq,Repr

-- `defaults[topic]`
def Registry.default (registry : Registry) (topic : ClauseTopic) :
    Query (Option (String × String)) :=
  match registry.defaults topic with
  | none => throw (.keyError ("<ClauseTopic." ++ topic.name ++ ": '" ++ topic.value ++ "'>"))
  | some entry => pure entry

def AgreementOverride.addresses (override : AgreementOverride) (topic : ClauseTopic)
    (accountId : String) : Bool := override.accountId = accountId && override.topic = topic

-- The first entry of the registry for the account and topic decides; a later
-- one is never looked at.
def Registry.override (registry : Registry) (topic : ClauseTopic) (accountId : String) :
    Option AgreementOverride := registry.overrides.find? (·.addresses topic accountId)

def byDefault (topic : ClauseTopic) (accountId : String) (source : String × String)
    (reason : String) (needsHumanReview : Bool) : ApplicabilityResult :=
  ⟨topic,accountId,source.1,source.2,none,none,reason,needsHumanReview⟩

def AgreementOverride.governs (override : AgreementOverride) (topic : ClauseTopic)
    (accountId : String) (fallback : Option (String × String)) : ApplicabilityResult :=
  ⟨topic,accountId,override.sourceId,override.section_,fallback.map (·.1),fallback.map (·.2),
    override.note,false⟩

def resolveApplicability (topic : ClauseTopic) (accountId : String) (at_ : Date)
    (registry : Registry) : Query ApplicabilityResult := do
  let fallback ← registry.default topic
  match registry.override topic accountId with
  | none =>
      match fallback with
      | none => throw (.valueError
          (topic.value ++ " has no default and no agreement covers " ++ accountId))
      | some source => pure (byDefault topic accountId source
          ("No agreement for " ++ accountId ++ " addresses " ++ topic.value ++
            "; default policy applies.") false)
  | some override =>
      let agreement ← getSource override.sourceId
      if agreement.isActiveAt at_ then pure (override.governs topic accountId fallback)
      else
        match fallback with
        | none => throw (.valueError (override.sourceId ++ " is inactive at " ++ isoDate at_ ++
            " and " ++ topic.value ++ " has no default to fall back to"))
        | some source => pure (byDefault topic accountId source
            (override.sourceId ++ " is not active at " ++ isoDate at_ ++ " (" ++
              isoDate agreement.effectiveDate ++ ".." ++
              (agreement.expiryDate.map isoDate).getD "None" ++
              "); falling back to default policy. This account has an agreement whose term does " ++
              "not currently cover the request - verify before relying on it.") true)

def Db.activeAt (db : Db) (sourceId : String) (at_ : Date) : Prop :=
  ∃ source, db.sources.row sourceId = some source ∧ source.isActiveAt at_ = true

section Resolution

variable [Host] {db : Db} {registry : Registry} {topic : ClauseTopic} {accountId : String}
  {at_ : Date}

-- Everything a resolution can be, once.
inductive Resolved (db : Db) (registry : Registry) (topic : ClauseTopic) (accountId : String)
    (at_ : Date) : ApplicabilityResult → Prop where
  | uncontested (known : registry.defaults topic = some (some source))
      (silent : registry.override topic accountId = none) :
      Resolved db registry topic accountId at_ (byDefault topic accountId source
        ("No agreement for " ++ accountId ++ " addresses " ++ topic.value ++
          "; default policy applies.") false)
  | agreed (known : registry.defaults topic = some fallback)
      (first : registry.override topic accountId = some override)
      (active : db.activeAt override.sourceId at_) :
      Resolved db registry topic accountId at_ (override.governs topic accountId fallback)
  | lapsed (known : registry.defaults topic = some (some source))
      (first : registry.override topic accountId = some override)
      (inactive : ¬ db.activeAt override.sourceId at_) (reason : String) :
      Resolved db registry topic accountId at_ (byDefault topic accountId source reason true)

theorem resolve_cases
    (resolved : (resolveApplicability topic accountId at_ registry).on db = .ok result) :
    Resolved db registry topic accountId at_ result := by
  simp only [resolveApplicability,Registry.default,on_bind] at resolved
  cases known : registry.defaults topic with
  | none => simp [known,Except.bind] at resolved
  | some fallback =>
      simp only [known,on_pure,Except.bind] at resolved
      cases first : registry.override topic accountId with
      | none =>
          cases fallback with
          | none => simp [first] at resolved
          | some source =>
              simp only [first,on_pure,Except.ok.injEq] at resolved
              subst resolved
              exact .uncontested known first
      | some override =>
          simp only [first,on_bind,getSource_on] at resolved
          cases found : db.sources.row override.sourceId with
          | none => simp [found,Except.bind] at resolved
          | some agreement =>
              simp only [found,Except.bind] at resolved
              by_cases active : agreement.isActiveAt at_ = true
              · simp only [active,if_true,on_pure,Except.ok.injEq] at resolved
                subst resolved
                exact .agreed known first ⟨agreement,found,active⟩
              · have inactive : ¬ db.activeAt override.sourceId at_ := by
                  rintro ⟨other,same,now⟩
                  cases Option.some.inj (found.symm.trans same)
                  exact active now
                cases fallback with
                | none => simp [active] at resolved
                | some source =>
                    simp only [active,Bool.false_eq_true,if_false,on_pure,Except.ok.injEq] at resolved
                    subst resolved
                    exact .lapsed known first inactive _

variable (db) in
theorem resolve_agreed (known : registry.defaults topic = some fallback)
    (first : registry.override topic accountId = some override)
    (active : db.activeAt override.sourceId at_) :
    (resolveApplicability topic accountId at_ registry).on db =
      .ok (override.governs topic accountId fallback) := by
  obtain ⟨agreement,found,now⟩ := active
  simp [resolveApplicability,Registry.default,known,first,getSource_on,found,now,Except.bind]

-- The source whose clause decides, read off the registry and the stored terms.
def governingSource (db : Db) (registry : Registry) (topic : ClauseTopic) (accountId : String)
    (at_ : Date) : Option String :=
  (registry.defaults topic).bind fun fallback =>
    match registry.override topic accountId with
    | none => fallback.map (·.1)
    | some override => (db.sources.row override.sourceId).bind fun agreement =>
        if agreement.isActiveAt at_ then some override.sourceId else fallback.map (·.1)

theorem resolve_governing : governingSource db registry topic accountId at_ =
    ((resolveApplicability topic accountId at_ registry).on db).toOption.map (·.winningSourceId) := by
  simp only [governingSource,resolveApplicability,Registry.default,on_bind]
  cases registry.defaults topic with
  | none => rfl
  | some fallback =>
      simp only [on_pure,Except.bind,Option.bind_some]
      cases registry.override topic accountId with
      | none => cases fallback <;> rfl
      | some override =>
          simp only [on_bind,getSource_on]
          cases db.sources.row override.sourceId with
          | none => rfl
          | some agreement =>
              simp only [Except.bind,Option.bind_some]
              split
              · rfl
              · cases fallback <;> rfl

omit [Host] in
theorem override_addresses (first : registry.override topic accountId = some override) :
    override ∈ registry.overrides ∧ override.addresses topic accountId = true :=
  ⟨List.mem_of_find?_eq_some first,by simpa using List.find?_some first⟩

-- Who governs: an agreement in force for the account and topic, if there is one.
def AgreementGoverns (db : Db) (registry : Registry) (topic : ClauseTopic) (accountId : String)
    (at_ : Date) : Prop :=
  (∃ override ∈ registry.overrides, override.addresses topic accountId = true ∧
    db.activeAt override.sourceId at_) →
  ∃ override ∈ registry.overrides, override.addresses topic accountId = true ∧
    db.activeAt override.sourceId at_ ∧
    ∃ result, (resolveApplicability topic accountId at_ registry).on db = .ok result ∧
      result.winningSourceId = override.sourceId ∧ result.winningSection = override.section_ ∧
      result.reason = override.note ∧ result.needsHumanReview = false

-- An agreement in force governs exactly when the first one registered for the account
-- and topic is in force and the defaults have an entry, even an empty one, for the topic.
theorem agreement_governs_iff (db : Db) (registry : Registry) (topic : ClauseTopic)
    (accountId : String) (at_ : Date) :
    AgreementGoverns db registry topic accountId at_ ↔
      ((∃ override ∈ registry.overrides, override.addresses topic accountId = true ∧
          db.activeAt override.sourceId at_) →
        registry.defaults topic ≠ none ∧ ∃ first, registry.override topic accountId = some first ∧
          db.activeAt first.sourceId at_) := by
  constructor
  · intro law inForce
    obtain ⟨override,listed,addresses,active,result,resolved,_,_,_,settled⟩ := law inForce
    cases resolve_cases resolved with
    | uncontested known silent =>
        have skipped := List.find?_eq_none.mp silent override listed
        exact absurd addresses (by simpa using skipped)
    | agreed known first now => exact ⟨by simp [known],_,first,now⟩
    | lapsed known first inactive reason => simp [byDefault] at settled
  · rintro condition inForce
    obtain ⟨known,first,chosen,active⟩ := condition inForce
    obtain ⟨fallback,present⟩ := Option.ne_none_iff_exists'.mp known
    obtain ⟨listed,addresses⟩ := override_addresses chosen
    refine ⟨first,listed,addresses,active,_,resolve_agreed db present chosen active,?_⟩
    simp [AgreementOverride.governs]

def agreementSource (sourceId accountId : String) (status : SourceStatus) (effectiveDate : Date)
    (expiryDate : Option Date) : SourceDocument where
  sourceId := sourceId
  filename := sourceId ++ ".pdf"
  sourceType := .agreement
  status := status
  version := none
  effectiveDate := effectiveDate
  expiryDate := expiryDate
  supersedes := none
  supersededBy := none
  scope := ⟨.account,some accountId⟩
  authorityClass := .agreement
  checksum := ""
  bytes := 0
  provenance := "source_pack"

-- 2025 and its renewal for 2026, asked for on 2026-08-16
def renewedDb : Db := {Db.empty with
  sources := ⟨[agreementSource "SRC-05" "ACCT-001" .active 739251 (some 739615),
    agreementSource "SRC-15" "ACCT-001" .active 739616 (some 739980)],by decide⟩}

def renewedRegistry : Registry where
  overrides := [⟨"ACCT-001","SRC-05","2",.cancellationFee,"the 2025 agreement"⟩,
    ⟨"ACCT-001","SRC-15","2",.cancellationFee,"the 2026 agreement"⟩]

omit [Host] in
theorem renewal_passed_over : ¬ @AgreementGoverns (asciiHost [] []) renewedDb renewedRegistry
    .cancellationFee "ACCT-001" 739843 := by
  intro law
  have renewed : ∃ override ∈ renewedRegistry.overrides,
      override.addresses .cancellationFee "ACCT-001" = true ∧
        renewedDb.activeAt override.sourceId 739843 :=
    ⟨⟨"ACCT-001","SRC-15","2",.cancellationFee,"the 2026 agreement"⟩,by decide,rfl,_,rfl,rfl⟩
  obtain ⟨_,_,_,_,result,resolved,_,_,_,settled⟩ := law renewed
  let _ := asciiHost [] []
  cases resolve_cases resolved with
  | uncontested known silent => exact absurd silent (by decide)
  | agreed known first active =>
      obtain ⟨source,found,now⟩ := active
      cases Option.some.inj first
      cases Option.some.inj found
      exact absurd now (by decide)
  | lapsed known first inactive reason => simp [byDefault] at settled

variable (db) in
theorem resolve_uncontested (known : registry.defaults topic = some (some source))
    (silent : registry.override topic accountId = none) :
    (resolveApplicability topic accountId at_ registry).on db = .ok (byDefault topic accountId source
      ("No agreement for " ++ accountId ++ " addresses " ++ topic.value ++
        "; default policy applies.") false) := by
  simp [resolveApplicability,Registry.default,known,silent]

-- What the resolver reads of a source: the term, neither status nor scope.
def SourceDocument.term (source : SourceDocument) : Date × Option Date :=
  (source.effectiveDate,source.expiryDate)

omit [Host] in
theorem activeAt_of_terms {other : Db} {sourceId : String}
    (same : (other.sources.row sourceId).map SourceDocument.term =
      (db.sources.row sourceId).map SourceDocument.term)
    (active : db.activeAt sourceId at_) : other.activeAt sourceId at_ := by
  obtain ⟨source,found,now⟩ := active
  rw [found] at same
  obtain ⟨twin,present,terms⟩ := Option.map_eq_some_iff.mp same
  simp only [SourceDocument.term,Prod.mk.injEq] at terms
  refine ⟨twin,present,?_⟩
  unfold SourceDocument.isActiveAt at now ⊢
  rwa [terms.1,terms.2]

theorem settled_winner (resolved : (resolveApplicability topic accountId at_ registry).on db = .ok result)
    (settled : result.needsHumanReview = false) :
    ((∃ override, registry.override topic accountId = some override ∧
        result.winningSourceId = override.sourceId ∧ result.winningSection = override.section_ ∧
        db.activeAt override.sourceId at_) ∨
      (registry.override topic accountId = none ∧ ∃ source,
        registry.defaults topic = some (some source) ∧
        result.winningSourceId = source.1 ∧ result.winningSection = source.2)) ∧
    (∀ other : Db, (∀ sourceId, (other.sources.row sourceId).map SourceDocument.term =
        (db.sources.row sourceId).map SourceDocument.term) →
      (resolveApplicability topic accountId at_ registry).on other = .ok result) ∧
    (registry.override topic accountId = none → ∀ other : Db,
      (resolveApplicability topic accountId at_ registry).on other = .ok result) := by
  cases resolve_cases resolved with
  | @uncontested source known silent =>
      have anywhere : ∀ other : Db, (resolveApplicability topic accountId at_ registry).on other = _ :=
        fun other => resolve_uncontested other known silent
      exact ⟨.inr ⟨silent,source,known,rfl,rfl⟩,fun other _ => anywhere other,fun _ => anywhere⟩
  | @agreed fallback override known first active =>
      refine ⟨.inl ⟨override,first,rfl,rfl,active⟩,?_,fun silent => ?_⟩
      · intro other same
        exact resolve_agreed other known first (activeAt_of_terms (same override.sourceId) active)
      · simp [silent] at first
  | lapsed known first inactive reason => simp [byDefault] at settled

def Db.applicable (db : Db) (sourceId accountId : String) (at_ : Date) : Prop :=
  ∃ source, db.sources.row sourceId = some source ∧ source.status ≠ .deprecated ∧
    source.isActiveAt at_ = true ∧ source.scope.covers (some accountId) = true

def WinnerApplicable (db : Db) (registry : Registry) (topic : ClauseTopic) (accountId : String)
    (at_ : Date) : Prop :=
  ∀ result, (resolveApplicability topic accountId at_ registry).on db = .ok result →
    result.needsHumanReview = false → db.applicable result.winningSourceId accountId at_

-- The resolver asks an agreement for its term and a default for nothing, so the
-- rest has to be so already.
theorem winner_applicable_iff (db : Db) (registry : Registry) (topic : ClauseTopic)
    (accountId : String) (at_ : Date) :
    WinnerApplicable db registry topic accountId at_ ↔
      (∀ source, registry.defaults topic = some (some source) →
        registry.override topic accountId = none → db.applicable source.1 accountId at_) ∧
      ∀ override source, registry.defaults topic ≠ none →
        registry.override topic accountId = some override →
        db.sources.row override.sourceId = some source → source.isActiveAt at_ = true →
        source.status ≠ .deprecated ∧ source.scope.covers (some accountId) = true := by
  constructor
  · intro law
    refine ⟨?_,?_⟩
    · intro source known silent
      exact law _ (resolve_uncontested db known silent) rfl
    · intro override source present first found now
      obtain ⟨fallback,known⟩ := Option.ne_none_iff_exists'.mp present
      obtain ⟨other,same,current,_,covers⟩ :=
        law _ (resolve_agreed db known first ⟨source,found,now⟩) rfl
      cases Option.some.inj (found.symm.trans same)
      exact ⟨current,covers⟩
  · rintro ⟨unopposed,agreed⟩ result resolved settled
    cases resolve_cases resolved with
    | @uncontested source known silent => exact unopposed source known silent
    | @agreed fallback override known first active =>
        obtain ⟨source,found,now⟩ := active
        obtain ⟨current,covers⟩ := agreed override source (by simp [known]) first found now
        exact ⟨source,found,current,now,covers⟩
    | lapsed known first inactive reason => simp [byDefault] at settled

def onlySource (source : SourceDocument) : Db := {Db.empty with sources := ⟨[source],by simp⟩}

def agreedRegistry : Registry where
  overrides := [⟨"ACCT-001","SRC-05","2",.cancellationFee,"the agreement"⟩]

-- A deprecated agreement, another account's, and a default that is out of its term
-- or not there
omit [Host] in
theorem winner_not_applicable :
    let _ := asciiHost [] []
    ¬ WinnerApplicable (onlySource (agreementSource "SRC-05" "ACCT-001" .deprecated 739616 none))
        agreedRegistry .cancellationFee "ACCT-001" 739843 ∧
    ¬ WinnerApplicable (onlySource (agreementSource "SRC-05" "ACCT-002" .active 739616 none))
        agreedRegistry .cancellationFee "ACCT-001" 739843 ∧
    ¬ WinnerApplicable (onlySource (agreementSource "SRC-03" "ACCT-001" .active 739251 (some 739615)))
        {overrides := []} .cancellationFee "ACCT-001" 739843 ∧
    ¬ WinnerApplicable Db.empty {overrides := []} .cancellationFee "ACCT-001" 739843 := by
  intro _
  refine ⟨?_,?_,?_,?_⟩
  · intro law
    obtain ⟨source,found,current,_⟩ := law _ (resolve_agreed _ rfl rfl ⟨_,rfl,by decide⟩) rfl
    cases found
    exact current rfl
  · intro law
    obtain ⟨source,found,_,_,covers⟩ := law _ (resolve_agreed _ rfl rfl ⟨_,rfl,by decide⟩) rfl
    cases found
    exact absurd covers (by decide)
  · intro law
    obtain ⟨source,found,_,active,_⟩ := law _ (resolve_uncontested _ rfl rfl) rfl
    cases found
    exact absurd active (by decide)
  · intro law
    obtain ⟨source,found,_⟩ := law _ (resolve_uncontested _ rfl rfl) rfl
    cases found

end Resolution

end ParcelPilot
