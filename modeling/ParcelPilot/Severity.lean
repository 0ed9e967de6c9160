import ParcelPilot.Repository

namespace ParcelPilot

-- app/domain/severity.py: definition phrases of Support Policy v3 s2
def p1Outage : String :=
  "complete production outage preventing all shipment creation for a customer"
def p1NoWorkaround : String := "immediate material business risk with no workaround"
def p1Security : String := "confirmed security incident or suspected credential exposure"
def p2Degraded : String := "major feature unavailable or materially degraded for a customer"
def p2Workaround : String :=
  "major feature unavailable or materially degraded ... or a workaround exists"
def p2StillWorks : String := "core operations remain possible or a workaround exists"
def p3Howto : String := "how-to question"
def p3Config : String := "configuration request"
def p3Minor : String := "minor defect ... limited operational impact"

structure SeverityOutcome where
  severity : Option Severity
  matchedSignalCount : List (String × Nat)
  matchedDefinition : Option String
deriving DecidableEq,Repr

section Classifier

variable [Host]

open Pattern

-- All patterns are compiled with re.I.
def text (literal : String) : Pattern := Pattern.literal Host.sameLetter literal

-- `\b...\b`
def phrase (literal : String) : Pattern := sequence [boundary,text literal,boundary]

-- `[^.]{0,n}`
def upTo (n : Nat) : Pattern := .many (· != '.') 0 (some n)

def plural (literal : String) : Pattern := .seq (text literal) (.maybe (text "s"))

def signals : Severity → List (Pattern × String)
  | .p1 => [
      (phrase "every user",p1Outage),
      (sequence [phrase "all",upTo 40,phrase "shipment creation",upTo 20,boundary,text "fail"],
        p1Outage),
      (.seq boundary (text "cannot create any shipment"),p1Outage),
      (phrase "complete outage",p1Outage),
      (phrase "no workaround",p1NoWorkaround),
      (phrase "api key",p1Security),
      (phrase "credential",p1Security),
      (phrase "security incident",p1Security),
      (sequence [boundary,oneOf [text "leaked",text "exposed",text "posted"],boundary,upTo 40,
        boundary,oneOf [text "key",text "token",text "secret",text "password"],boundary],p1Security)]
  | .p2 => [
      (sequence [.notAfter ("no ".toList.map Host.sameLetter),text "workaround",boundary],
        p2Workaround),
      (phrase "still works",p2StillWorks),
      (sequence [boundary,oneOf [text "some",text "many"],.many Host.isSpace 1 none,
        oneOf [plural "user",plural "customer"],boundary],p2Degraded),
      (sequence [boundary,text "intermittent",.maybe (text "ly"),boundary],p2Degraded),
      (sequence [boundary,text "fail",.maybe (text "s"),text " for",boundary,upTo 30,boundary,
        oneOf [plural "row",plural "record",plural "file"],boundary],p2Degraded),
      (sequence [boundary,text "partial",.maybe (text "ly"),boundary],p2Degraded)]
  | .p3 => [
      (sequence [boundary,text "how do ",oneOf [text "we",text "i"],boundary],p3Howto),
      (phrase "how to",p3Howto),
      (sequence [boundary,text "billing",.one (fun c => c = '-' || c = ' '),text "contact",boundary],
        p3Config),
      (phrase "configuration",p3Config),
      (phrase "still shows",p3Minor),
      (sequence [boundary,oneOf [text "cosmetic",text "typo",text "minor"],boundary],p3Minor)]

def hits (ticketText : String) (severity : Severity) : List String :=
  ((signals severity).filter (fun signal => search Host.isWord signal.1 ticketText)).map (·.2)

-- `sorted(hits.items(), key=lambda kv: len(kv[1]), reverse=True)` keeps ties in order.
def ranked (found : List (Severity × List String)) : List (Severity × List String) :=
  found.insertionSort (fun one two => two.2.length ≤ one.2.length)

def undetermined (counts : List (String × Nat)) (reason : String) (evidence : List EvidenceRef) :
    DecisionResult SeverityOutcome where
  result := some ⟨none,counts,none⟩
  trustState := .uncertain
  reason := reason
  evidence := evidence
  needsHumanReview := true

-- `classify_severity` with its evidence given: none without a connection.
def severityOf (ticket : Ticket) (evidence : List EvidenceRef) : DecisionResult SeverityOutcome :=
  let ticketText := ticket.subject ++ " " ++ ticket.description
  let found := [Severity.p1,.p2,.p3].map fun severity => (severity,hits ticketText severity)
  let counts := found.map fun entry => (entry.1.value,entry.2.length)
  let noSignal := undetermined counts
    ("No definition signal from Support Policy v3 s2 matched the ticket " ++
      "description confidently enough to assign a severity.") evidence
  match ranked found with
  | (top,definition :: others) :: (second,rest) :: _ =>
      if (definition :: others).length ≤ rest.length then
        undetermined counts ("Signals for " ++ top.value ++ " and " ++ second.value ++ " tied (" ++
          toString (definition :: others).length ++
          " each); classification is ambiguous without human judgment.") evidence
      else {
        result := some ⟨some top,counts,some definition⟩
        trustState := .confident
        reason := "Matched \"" ++ definition ++ "\" (Support Policy v3 s2) -> " ++ top.value ++ "."
        evidence := evidence
        calculationInputs := [("matched_signal_count",
          .dict (counts.map fun entry => (entry.1,.int entry.2)))] }
  | _ => noSignal

def classifySeverity (ticket : Ticket) : Query (DecisionResult SeverityOutcome) := do
  let definition ← citeDocument "SRC-01" (some "2")
  pure (severityOf ticket [definition])

variable {db : Db} {ticket : Ticket} {evidence : List EvidenceRef}

theorem classifySeverity_ref : (classifySeverity ticket).on db =
    .ok (severityOf ticket [documentRef db "SRC-01" (some "2")]) := rfl

theorem severityOf_evidence (evidence : List EvidenceRef) :
    (severityOf ticket evidence).result = (severityOf ticket []).result := by
  unfold severityOf
  dsimp only
  split
  · split <;> rfl
  · rfl

theorem severityOf_confident {outcome : SeverityOutcome} {severity : Severity}
    (assigned : (severityOf ticket evidence).result = some outcome)
    (named : outcome.severity = some severity) :
    (severityOf ticket evidence).trustState = .confident := by
  unfold severityOf at assigned ⊢
  dsimp only at assigned ⊢
  split at assigned
  · split at assigned
    · cases assigned
      cases named
    · rename_i untied
      rw [if_neg untied]
  · cases assigned
    cases named

end Classifier

end ParcelPilot
