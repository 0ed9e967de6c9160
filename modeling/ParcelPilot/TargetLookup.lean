import ParcelPilot.BulletTargets
import ParcelPilot.GridTables
import ParcelPilot.TargetTexts

namespace ParcelPilot

section Lookup

variable [Formats] {targets : List SlaTarget} {sourceId severity plan accountId : String}
  {one two : Option SlaTarget}

structure SlaTarget.OfAccount (sourceId severity accountId : String) (target : SlaTarget) : Prop where
  source : target.sourceId = sourceId
  severity : target.severity = severity
  account : target.accountId = some accountId

structure SlaTarget.OfPlan (sourceId severity plan : String) (target : SlaTarget) : Prop where
  source : target.sourceId = sourceId
  severity : target.severity = severity
  plan : target.plan = some plan

-- The account's own row, else the row of its plan, else none.
inductive Chosen (targets : List SlaTarget) (sourceId severity plan accountId : String) :
    Option SlaTarget → Prop where
  | own {target : SlaTarget} (listed : target ∈ targets) (own : target.OfAccount sourceId severity accountId) :
      Chosen targets sourceId severity plan accountId (some target)
  | plan {target : SlaTarget} (other : ∀ row ∈ targets, ¬ row.OfAccount sourceId severity accountId)
      (listed : target ∈ targets) (held : target.OfPlan sourceId severity plan) :
      Chosen targets sourceId severity plan accountId (some target)
  | nothing (other : ∀ row ∈ targets, ¬ row.OfAccount sourceId severity accountId)
      (absent : ∀ row ∈ targets, ¬ row.OfPlan sourceId severity plan) :
      Chosen targets sourceId severity plan accountId none

-- Of plan and account a row has exactly one.
def SlaTarget.Scoped (target : SlaTarget) : Prop :=
  ((∃ plan ∈ slaPlans, target.plan = some plan) ∧ target.accountId = none) ∨
    (target.plan = none ∧ ∃ accountId, target.accountId = some accountId)

omit [Formats] in
theorem SlaTarget.Scoped.unplanned {target : SlaTarget} (known : target.Scoped)
    (account : target.accountId = some accountId) : target.plan = none := by
  rcases known with ⟨_,none⟩ | ⟨unplanned,_⟩
  · rw [account] at none
    cases none
  · exact unplanned

omit [Formats] in
theorem SlaTarget.Scoped.unowned {target : SlaTarget} (known : target.Scoped)
    (planned : target.plan = some plan) : target.accountId = none := by
  rcases known with ⟨_,none⟩ | ⟨unplanned,_⟩
  · exact none
  · rw [planned] at unplanned
    cases unplanned

theorem accepted_scoped (accepted : AcceptedText targets) : ∀ target ∈ targets, target.Scoped := by
  intro target member
  cases accepted with
  | grid parsed =>
      obtain ⟨_,cells,_,_,_,_,same⟩ := grid_flattened parsed
      have place := List.mem_map_of_mem (f := SlaTarget.place) member
      rw [same.places] at place
      obtain ⟨plan,listed,inRow⟩ := List.mem_flatMap.mp place
      obtain ⟨severity,_,stands⟩ := List.mem_map.mp inRow
      simp only [SlaTarget.place,Prod.mk.injEq] at stands
      exact .inl ⟨⟨plan,listed,stands.2.1.symm⟩,stands.2.2.1.symm⟩
  | bullets parsed =>
      obtain ⟨bullet,_,made⟩ := mapM_result (bullets_accepted parsed) member
      obtain ⟨_,_,unplanned,account⟩ := bulletTarget_made made
      exact .inr ⟨unplanned,_,account⟩

theorem stored_scoped (accepted : FromAcceptedTexts targets) : ∀ target ∈ targets, target.Scoped := by
  intro target member
  obtain ⟨rows,text,listed⟩ := accepted target member
  exact accepted_scoped text target listed

omit [Formats] in
theorem slaTargetRow_chosen (known : ∀ target ∈ targets, target.Scoped) :
    Chosen targets sourceId severity plan accountId
      (Db.slaTargetRow targets sourceId severity plan accountId) := by
  unfold Db.slaTargetRow
  dsimp only
  have found {target : SlaTarget} : target ∈ targets.filter (fun target =>
      target.sourceId = sourceId && target.severity = severity &&
        (target.plan = some plan || target.accountId = some accountId)) ↔
      target ∈ targets ∧ (target.sourceId = sourceId ∧ target.severity = severity) ∧
        (target.plan = some plan ∨ target.accountId = some accountId) := by
    simp [List.mem_filter]
  generalize targets.filter (fun target => target.sourceId = sourceId && target.severity = severity &&
    (target.plan = some plan || target.accountId = some accountId)) = rows at found
  cases owned : rows.filter (·.accountId.isSome) with
  | cons target others =>
      have member : target ∈ rows.filter (·.accountId.isSome) := by simp [owned]
      obtain ⟨listed,held⟩ := List.mem_filter.mp member
      obtain ⟨stored,⟨source,named⟩,matched⟩ := found.mp listed
      refine .own stored ⟨source,named,matched.resolve_left fun plan_ => ?_⟩
      simp [(known target stored).unowned plan_] at held
  | nil =>
      have other : ∀ row ∈ targets, ¬ row.OfAccount sourceId severity accountId := by
        intro row stored own
        have member : row ∈ rows.filter (·.accountId.isSome) :=
          List.mem_filter.mpr ⟨found.mpr ⟨stored,⟨own.source,own.severity⟩,.inr own.account⟩,
            by rw [own.account]; rfl⟩
        rw [owned] at member
        cases member
      rw [List.nil_append]
      cases planned : rows.filter (·.accountId.isNone) with
      | cons target others =>
          have member : target ∈ rows.filter (·.accountId.isNone) := by simp [planned]
          obtain ⟨listed,unowned⟩ := List.mem_filter.mp member
          obtain ⟨stored,⟨source,named⟩,matched⟩ := found.mp listed
          refine .plan other stored ⟨source,named,matched.resolve_right fun account => ?_⟩
          rw [account] at unowned
          cases unowned
      | nil =>
          refine .nothing other fun row stored held => ?_
          have member : row ∈ rows.filter (·.accountId.isNone) :=
            List.mem_filter.mpr ⟨found.mpr ⟨stored,⟨held.source,held.severity⟩,.inl held.plan⟩,
              by rw [(known row stored).unowned held.plan]; rfl⟩
          rw [planned] at member
          cases member

omit [Formats] in
theorem ofAccount_unique {first second : SlaTarget} (known : ∀ target ∈ targets, target.Scoped)
    (distinct : (targets.map (·.identity)).Nodup) (one : first ∈ targets) (two : second ∈ targets)
    (own : first.OfAccount sourceId severity accountId)
    (again : second.OfAccount sourceId severity accountId) : first = second := by
  apply List.inj_on_of_nodup_map distinct one two
  simp only [SlaTarget.identity,own.source,own.severity,own.account,again.source,again.severity,
    again.account,(known first one).unplanned own.account,(known second two).unplanned again.account]

omit [Formats] in
theorem ofPlan_unique {first second : SlaTarget} (known : ∀ target ∈ targets, target.Scoped)
    (distinct : (targets.map (·.identity)).Nodup) (one : first ∈ targets) (two : second ∈ targets)
    (held : first.OfPlan sourceId severity plan) (again : second.OfPlan sourceId severity plan) :
    first = second := by
  apply List.inj_on_of_nodup_map distinct one two
  simp only [SlaTarget.identity,held.source,held.severity,held.plan,again.source,again.severity,
    again.plan,(known first one).unowned held.plan,(known second two).unowned again.plan]

omit [Formats] in
theorem chosen_unique (known : ∀ target ∈ targets, target.Scoped)
    (distinct : (targets.map (·.identity)).Nodup)
    (first : Chosen targets sourceId severity plan accountId one)
    (second : Chosen targets sourceId severity plan accountId two) : one = two := by
  cases first with
  | own listed own =>
      cases second with
      | own again same => rw [ofAccount_unique known distinct listed again own same]
      | plan other _ _ => exact absurd own (other _ listed)
      | nothing other _ => exact absurd own (other _ listed)
  | plan other listed held =>
      cases second with
      | own again same => exact absurd same (other _ again)
      | plan _ again same => rw [ofPlan_unique known distinct listed again held same]
      | nothing _ absent => exact absurd held (absent _ listed)
  | nothing other absent =>
      cases second with
      | own again same => exact absurd same (other _ again)
      | plan _ again same => exact absurd same (absent _ again)
      | nothing _ _ => rfl

omit [Formats] in
theorem chosen_perm {others : List SlaTarget} (permuted : others.Perm targets)
    (found : Chosen others sourceId severity plan accountId one) :
    Chosen targets sourceId severity plan accountId one := by
  cases found with
  | own listed own => exact .own (permuted.mem_iff.mp listed) own
  | plan other listed held =>
      exact .plan (fun row stored => other row (permuted.mem_iff.mpr stored))
        (permuted.mem_iff.mp listed) held
  | nothing other absent =>
      exact .nothing (fun row stored => other row (permuted.mem_iff.mpr stored))
        fun row stored => absent row (permuted.mem_iff.mpr stored)

-- A row of the account, of its plan, or none: whatever the order of the rows.
theorem lookup_precise {db : Db} (accepted : FromAcceptedTexts db.slaTargets)
    (distinct : (db.slaTargets.map (·.identity)).Nodup) (sourceId : String) (account : Account)
    (severity : Severity) :
    ∃ found, (lookupSlaTarget sourceId account severity).on db = .ok found ∧
      (∀ answer, Chosen db.slaTargets sourceId severity.value account.plan account.accountId answer ↔
        answer = found) ∧
      (∀ target, found = some target →
        target.accountId = none ∨ target.accountId = some account.accountId) ∧
      ∀ later : Db, later.slaTargets.Perm db.slaTargets →
        (lookupSlaTarget sourceId account severity).on later = .ok found := by
  have known := stored_scoped accepted
  have chosen := @slaTargetRow_chosen _ sourceId severity.value account.plan account.accountId known
  refine ⟨_,lookupSlaTarget_on sourceId account severity,?_,?_,?_⟩
  · intro answer
    constructor
    · intro another
      exact chosen_unique known distinct another chosen
    · rintro rfl
      exact chosen
  · intro target found
    rw [found] at chosen
    cases chosen with
    | own _ own => exact .inr own.account
    | plan _ listed held => exact .inl ((known target listed).unowned held.plan)
  · intro later permuted
    have scoped_ : ∀ target ∈ later.slaTargets, target.Scoped :=
      fun target stored => known target (permuted.mem_iff.mp stored)
    have again := chosen_perm permuted (@slaTargetRow_chosen _ sourceId severity.value account.plan
      account.accountId scoped_)
    rw [lookupSlaTarget_on,chosen_unique known distinct again chosen]

end Lookup

-- The table of a policy and of an agreement that is stored with it.
def mixedTargets : List SlaTarget :=
  (slaPlans.flatMap fun plan => slaSeverities.map fun severity =>
    ⟨"SRC-01",some plan,none,severity,"2 hours",some 120,false,false⟩) ++ dayTargets

theorem mixedTargets_accepted : let _ := asciiFormats [] []
    FromAcceptedTexts {dayDb with slaTargets := mixedTargets}.slaTargets := by
  intro _ target member
  have grid : parseGridTable (Py.join "\n" (gridLines fun _ _ => "2 hours")) "SRC-01" =
      .ok (slaPlans.flatMap fun plan => slaSeverities.map fun severity =>
        ⟨"SRC-01",some plan,none,severity,"2 hours",some 120,false,false⟩) := by decide +kernel
  rcases List.mem_append.mp member with policy | agreement
  · exact ⟨_,.grid grid,policy⟩
  · exact dayTargets_accepted target agreement

theorem lookup_precise_mixed : let _ := asciiFormats [] []
    ∃ found, (lookupSlaTarget "SRC-05" basicAccount .p2).on {dayDb with slaTargets := mixedTargets} =
      .ok found ∧ ∀ later : Db, later.slaTargets.Perm mixedTargets →
        (lookupSlaTarget "SRC-05" basicAccount .p2).on later = .ok found := by
  intro _
  obtain ⟨found,read,_,_,anyOrder⟩ :=
    lookup_precise mixedTargets_accepted (by decide) "SRC-05" basicAccount .p2
  exact ⟨found,read,anyOrder⟩

end ParcelPilot
