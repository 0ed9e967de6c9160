import Mathlib.Data.List.Perm.Subperm
import ParcelPilot.Durations
import ParcelPilot.Ingest
import ParcelPilot.Raising

namespace ParcelPilot

section Bullets

variable [Formats] {body sourceId accountId line : String} {targets : List SlaTarget}

def bulletsOf (body : String) : List (String × String) := (Py.splitlines body).filterMap bulletOf

-- One target of the account for each severity: rows that the index on the table
-- takes.
structure OneEach (sourceId accountId : String) (targets : List SlaTarget) : Prop where
  severities : (targets.map (·.severity)).Perm slaSeverities
  own : ∀ target ∈ targets, target.sourceId = sourceId ∧ target.plan = none ∧
    target.accountId = some accountId
  apart : (targets.map (·.identity)).Nodup

-- A section is refused as a document, or its targets are complete.
def CompleteOrRefused (sourceId accountId : String) (result : Ingest (List SlaTarget)) : Prop :=
  (∃ reason, result = .error (.documentParse sourceId reason)) ∨
    ∃ targets, result = .ok targets ∧ OneEach sourceId accountId targets

-- Every text of a bullet can be read, and three bullets are of three severities.
def BulletsApart (body : String) : Prop :=
  (∀ bullet ∈ bulletsOf body, Readable bullet.2) ∧
    ((bulletsOf body).length = slaSeverities.length → ((bulletsOf body).map (·.1)).Nodup)

theorem bulletOf_severity {bullet : String × String} (read : bulletOf line = some bullet) :
    bullet.1 ∈ slaSeverities := by
  unfold bulletOf Pattern.findIter at read
  obtain ⟨⟨start,found⟩,first,rfl⟩ := Option.map_eq_some_iff.mp read
  obtain ⟨left,_,_,stop,here,rfl⟩ := Pattern.findFrom_sound (List.mem_of_head? first)
  have passed := List.mem_of_head? here
  simp only [bulletTarget,Pattern.sequence,Pattern.mem_ends_seq,Pattern.mem_ends_one,
    Pattern.mem_ends_many,decide_eq_true_eq,Bool.or_eq_true] at passed
  obtain ⟨_,⟨p,afterP,ahead,rfl,rfl⟩,_,⟨digit,afterDigit,next,listed,rfl⟩,_,
    ⟨colon,afterColon,last,rfl,rfl⟩,_,⟨blanks,_,rest,_,_,_,rfl⟩,text,right,remaining,_,_,_,rfl⟩ := passed
  dsimp only at next last rest remaining ⊢
  have whole : start.after = ['P',digit,':'] ++ (blanks ++ text) ++ right := by
    rw [ahead,next,last,rest,remaining]
    simp
  have taken : start.after.take (start.after.length - right.length) =
      ['P',digit,':'] ++ (blanks ++ text) := by
    rw [whole,List.length_append,Nat.add_sub_cancel,List.take_left]
  have three : slaSeverities = ["P1","P2","P3"] := rfl
  rw [taken,three]
  rcases listed with (rfl | rfl) | rfl
  · exact List.mem_cons_self
  · exact List.mem_cons_of_mem _ List.mem_cons_self
  · exact List.mem_cons_of_mem _ (List.mem_cons_of_mem _ List.mem_cons_self)

theorem bulletTarget_made {bullet : String × String} {target : SlaTarget}
    (made : slaTarget sourceId none (some accountId) bullet.1 bullet.2 = .ok target) :
    target.severity = bullet.1 ∧ target.sourceId = sourceId ∧ target.plan = none ∧
      target.accountId = some accountId := by
  have place := slaTarget_place made
  simp only [SlaTarget.place,Prod.mk.injEq] at place
  exact ⟨place.2.2.2.1,place.1,place.2.1,place.2.2.1⟩

theorem rows_severities {bullets : List (String × String)}
    (rows : List.Forall₂ (fun bullet target =>
      slaTarget sourceId none (some accountId) bullet.1 bullet.2 = .ok target) bullets targets) :
    targets.map (·.severity) = bullets.map (·.1) := by
  induction rows with
  | nil => rfl
  | cons first _ ih => rw [List.map_cons,List.map_cons,ih,(bulletTarget_made first).1]

omit [Formats] in
theorem severities_perm {severities : List String} (three : severities.length = slaSeverities.length)
    (known : ∀ severity ∈ severities, severity ∈ slaSeverities) :
    severities.Perm slaSeverities ↔ severities.Nodup := by
  constructor
  · intro same
    exact same.nodup_iff.mpr (by decide)
  · intro apart
    exact (List.subperm_of_subset apart known).perm_of_length_le three.ge

omit [Formats] in
theorem identities_apart {targets : List SlaTarget} (apart : (targets.map (·.severity)).Nodup) :
    (targets.map (·.identity)).Nodup := by
  rw [List.nodup_map_iff_inj_on (List.Nodup.of_map _ apart)]
  intro one first two second same
  have severity : one.severity = two.severity := congrArg (·.2.1) same
  exact List.inj_on_of_nodup_map apart first second severity

-- The section is refused for the number of its bullets only, and after their texts.
theorem parseBulletTargets_checked
    (made : (bulletsOf body).mapM (fun bullet =>
      slaTarget sourceId none (some accountId) bullet.1 bullet.2) = .ok targets) :
    parseBulletTargets body sourceId accountId =
      if targets.length = slaSeverities.length then .ok targets
      else .error (.documentParse sourceId ("expected " ++ toString slaSeverities.length ++
        " bullet SLA targets, found " ++ toString targets.length)) := by
  unfold parseBulletTargets
  rw [show ((Py.splitlines body).filterMap bulletOf).mapM _ = _ from made]
  by_cases three : targets.length = slaSeverities.length
  · rw [if_pos three,except_bind_ok]
    exact ⟨targets,rfl,by rw [if_neg (not_not.mpr three)]; rfl⟩
  · change (if targets.length ≠ slaSeverities.length then _ else _) = _
    rw [if_neg three,if_pos three]
    rfl

theorem bullets_accepted (parsed : parseBulletTargets body sourceId accountId = .ok targets) :
    (bulletsOf body).mapM (fun bullet =>
      slaTarget sourceId none (some accountId) bullet.1 bullet.2) = .ok targets := by
  obtain ⟨all,made,checked⟩ := except_bind_ok.mp parsed
  dsimp only at checked
  split at checked
  · cases checked
  · cases checked
    exact made

theorem bullets_made (readable : ∀ bullet ∈ bulletsOf body, Readable bullet.2) :
    ∃ targets, (bulletsOf body).mapM (fun bullet =>
      slaTarget sourceId none (some accountId) bullet.1 bullet.2) = .ok targets := by
  apply mapM_returns
  intro bullet listed
  exact slaTarget_returns.mpr (readable bullet listed)

theorem bullets_unread {bullet : String × String} (listed : bullet ∈ bulletsOf body)
    (long : ¬ Readable bullet.2) :
    ∃ message, parseBulletTargets body sourceId accountId = .error (.raised (.valueError message)) := by
  have kinds : Raises (fun error => ∃ message, error = .raised (.valueError message))
      ((bulletsOf body).mapM fun bullet => slaTarget sourceId none (some accountId) bullet.1 bullet.2) := by
    apply raises_mapM_of
    intro other _
    by_cases readable : Readable other.2
    · obtain ⟨reading,parsed⟩ := parseDuration_readable readable
      rw [slaTarget,parsed]
      exact raises_ok
    · obtain ⟨message,raised⟩ := parseDuration_unreadable readable
      rw [slaTarget,raised]
      exact raises_error.mpr ⟨message,rfl⟩
  cases ran : (bulletsOf body).mapM (fun bullet =>
      slaTarget sourceId none (some accountId) bullet.1 bullet.2) with
  | ok targets =>
      obtain ⟨target,_,made⟩ := mapM_item ran listed
      exact absurd (slaTarget_returns.mp ⟨target,made⟩) long
  | error error =>
      obtain ⟨message,rfl⟩ := kinds error ran
      refine ⟨message,?_⟩
      unfold parseBulletTargets
      rw [show ((Py.splitlines body).filterMap bulletOf).mapM _ = _ from ran]
      rfl

-- The targets are complete or refused when every text can be read and no severity
-- makes up for another.
theorem bullets_complete_iff (body sourceId accountId : String) :
    CompleteOrRefused sourceId accountId (parseBulletTargets body sourceId accountId) ↔
      BulletsApart body := by
  by_cases readable : ∀ bullet ∈ bulletsOf body, Readable bullet.2
  · obtain ⟨targets,made⟩ := @bullets_made _ body sourceId accountId readable
    have rows := mapM_ok made
    have severities := rows_severities rows
    have count : targets.length = (bulletsOf body).length := rows.length_eq.symm
    have ran := parseBulletTargets_checked made
    by_cases three : targets.length = slaSeverities.length
    · rw [if_pos three] at ran
      have known : ∀ severity ∈ targets.map (·.severity), severity ∈ slaSeverities := by
        intro severity member
        rw [severities] at member
        obtain ⟨bullet,listed,rfl⟩ := List.mem_map.mp member
        obtain ⟨line,_,read⟩ := List.mem_filterMap.mp listed
        exact bulletOf_severity read
      have perm := severities_perm (by rw [List.length_map,three]) known
      constructor
      · rintro (⟨reason,refused⟩ | ⟨returned,parsed,complete⟩)
        · rw [ran] at refused
          cases refused
        · rw [ran] at parsed
          cases parsed
          refine ⟨readable,fun _ => ?_⟩
          rw [← severities]
          exact perm.mp complete.severities
      · rintro ⟨_,apart⟩
        have distinct : (targets.map (·.severity)).Nodup := by
          rw [severities]
          exact apart (count ▸ three)
        refine .inr ⟨targets,ran,perm.mpr distinct,?_,identities_apart distinct⟩
        intro target member
        obtain ⟨bullet,_,one⟩ := mapM_result made member
        exact (bulletTarget_made one).2
    · rw [if_neg three] at ran
      exact iff_of_true (.inl ⟨_,ran⟩) ⟨readable,fun same => absurd (count.trans same) three⟩
  · refine iff_of_false ?_ fun apart => readable apart.1
    push Not at readable
    obtain ⟨bullet,listed,long⟩ := readable
    obtain ⟨message,raised⟩ := @bullets_unread _ body sourceId accountId bullet listed long
    rintro (⟨reason,refused⟩ | ⟨targets,parsed,_⟩)
    · rw [raised] at refused
      cases refused
    · rw [raised] at parsed
      cases parsed

end Bullets

-- P1 comes twice, P3 not at all, and the count is right.
theorem severity_repeated : let _ := asciiFormats [] []
    ¬ CompleteOrRefused "SRC-05" "ACCT-001"
      (parseBulletTargets "P1: 15 minutes, 24x7\nP1: 30 minutes\nP2: 2 hours" "SRC-05" "ACCT-001") := by
  intro _
  have ran : parseBulletTargets "P1: 15 minutes, 24x7\nP1: 30 minutes\nP2: 2 hours" "SRC-05" "ACCT-001" =
      .ok [⟨"SRC-05",none,some "ACCT-001","P1","15 minutes, 24x7",some 15,true,false⟩,
        ⟨"SRC-05",none,some "ACCT-001","P1","30 minutes",some 30,false,false⟩,
        ⟨"SRC-05",none,some "ACCT-001","P2","2 hours",some 120,false,false⟩] := by decide +kernel
  rw [ran]
  rintro (⟨reason,refused⟩ | ⟨targets,parsed,complete⟩)
  · cases refused
  · cases parsed
    exact absurd complete.severities (by decide)

end ParcelPilot
