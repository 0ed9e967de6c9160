import ParcelPilot.Formats

namespace ParcelPilot

-- app/documents/sla_table.py
def slaPlans : List String := ["Enterprise","Growth","Standard"]

def slaSeverities : List String := ["P1","P2","P3"]

section Durations

variable [Formats]

open Pattern

def exactly (wording : String) : Pattern := literal (· = ·) wording

-- `(?P<num>\d+)\s*(?P<unit>hour|hours|minute|minutes)\b`
def duration : Pattern := sequence [.many Host.isDigit 1 none,.many Host.isSpace 0 none,
  oneOf [exactly "hour",exactly "hours",exactly "minute",exactly "minutes"],boundary]

-- `_DURATION.search(lower)`: the text of the first match
def durationIn (lower : String) : Option (List Char) :=
  (findIter Host.isWord duration lower).head?.map (·.2)

-- `match["num"]` and `match["unit"]`: a unit starts with a letter, so the digits
-- and the blanks give nothing back.
def durationNum (found : List Char) : List Char := found.takeWhile Host.isDigit

def durationUnit (found : List Char) : List Char :=
  (found.dropWhile Host.isDigit).dropWhile Host.isSpace

def parseDuration (text : String) : Ingest (Option Int × Bool × Bool) :=
  let lower := Host.lower text
  let is24x7 := Py.occursIn "24x7" lower
  if Py.occursIn "business" lower then .ok (none,is24x7,true)
  else match durationIn lower with
    | none => .ok (none,is24x7,false)
    | some found => do
        let n ← Py.int (durationNum found)
        pure (some (if "hour".toList.isPrefixOf (durationUnit found) then n * 60 else n),is24x7,false)

def slaTarget (sourceId : String) (plan accountId : Option String) (severity targetText : String) :
    Ingest SlaTarget := do
  let (minutes,is24x7,requiresBusinessCalendar) ← parseDuration targetText
  pure ⟨sourceId,plan,accountId,severity,targetText,minutes,is24x7,requiresBusinessCalendar⟩

-- The rows of the grid from a line on, one plan after the other.
def planRows (sourceId : String) (lines : List String) :
    List String → Nat → Ingest (List SlaTarget)
  | [],_ => .ok []
  | plan :: plans,cursor => do
      let group := (lines.drop cursor).take 4
      if group.length < 4 ∨ group.head? ≠ some plan then
        throw (.documentParse sourceId ("expected plan row " ++ Host.reprStr plan ++ " at line " ++
          toString cursor ++ ", got " ++ Py.reprList group))
      let row ← (slaSeverities.zip group.tail).mapM fun cell =>
        slaTarget sourceId (some plan) none cell.1 cell.2
      let rest ← planRows sourceId lines plans (cursor + 4)
      pure (row ++ rest)

def parseGridTable (body sourceId : String) : Ingest (List SlaTarget) :=
  let lines := Py.textLines body
  match lines.idxOf? "Plan" with
  | none => .error (.documentParse sourceId "SLA grid header 'Plan' not found")
  | some header =>
      if (lines.drop header).take 4 ≠ "Plan" :: slaSeverities then
        .error (.documentParse sourceId "SLA grid header is not 'Plan/P1/P2/P3'")
      else planRows sourceId lines slaPlans (header + 4)

-- `P(?P<sev>[123]):\s*(?P<text>.+)`
def bulletTarget : Pattern := sequence [.one (· = 'P'),.one (fun c => c = '1' || c = '2' || c = '3'),
  .one (· = ':'),.many Host.isSpace 0 none,.many (· != '\n') 1 none]

-- The severity and the stripped text of a bullet line.
def bulletOf (line : String) : Option (String × String) :=
  (findIter Host.isWord bulletTarget line).head?.map fun (_,found) =>
    (String.ofList ('P' :: (found.drop 1).take 1),String.ofList (Py.stripped (found.drop 3)))

def parseBulletTargets (body sourceId accountId : String) : Ingest (List SlaTarget) := do
  let targets ← ((Py.splitlines body).filterMap bulletOf).mapM fun bullet =>
    slaTarget sourceId none (some accountId) bullet.1 bullet.2
  if targets.length ≠ slaSeverities.length then
    throw (.documentParse sourceId ("expected " ++ toString slaSeverities.length ++
      " bullet SLA targets, found " ++ toString targets.length))
  pure targets

-- What a row says of its text is what the text was parsed to.
def SlaTarget.Parsed (target : SlaTarget) : Prop := parseDuration target.targetText =
  .ok (target.targetMinutes,target.is24x7,target.requiresBusinessCalendar)

theorem slaTarget_parsed {sourceId severity targetText : String} {plan accountId : Option String}
    {target : SlaTarget}
    (made : slaTarget sourceId plan accountId severity targetText = .ok target) : target.Parsed := by
  obtain ⟨reading,parsed,made⟩ := except_bind_ok.mp made
  cases made
  exact parsed

theorem planRows_parsed {sourceId : String} {lines plans : List String} {cursor : Nat}
    {targets : List SlaTarget} (accepted : planRows sourceId lines plans cursor = .ok targets) :
    ∀ target ∈ targets, target.Parsed := by
  induction plans generalizing cursor targets with
  | nil =>
      cases accepted
      simp
  | cons plan plans ih =>
      unfold planRows at accepted
      dsimp only at accepted
      split at accepted
      · cases accepted
      · obtain ⟨row,cells,accepted⟩ := except_bind_ok.mp accepted
        obtain ⟨rest,others,accepted⟩ := except_bind_ok.mp accepted
        cases accepted
        intro target member
        rcases List.mem_append.mp member with here | later
        · obtain ⟨cell,_,made⟩ := mapM_result cells here
          exact slaTarget_parsed made
        · exact ih others target later

-- A section text that one of the two parsers accepts, with its rows.
inductive AcceptedText : List SlaTarget → Prop where
  | grid (accepted : parseGridTable body sourceId = .ok targets) : AcceptedText targets
  | bullets (accepted : parseBulletTargets body sourceId accountId = .ok targets) : AcceptedText targets

theorem accepted_parsed {targets : List SlaTarget} (accepted : AcceptedText targets) :
    ∀ target ∈ targets, target.Parsed := by
  cases accepted with
  | grid accepted =>
      unfold parseGridTable at accepted
      dsimp only at accepted
      split at accepted
      · cases accepted
      · split at accepted
        · cases accepted
        · exact planRows_parsed accepted
  | bullets accepted =>
      obtain ⟨all,bullets,accepted⟩ := except_bind_ok.mp accepted
      dsimp only at accepted
      split at accepted
      · cases accepted
      · cases accepted
        intro target member
        obtain ⟨bullet,_,made⟩ := mapM_result bullets member
        exact slaTarget_parsed made

end Durations

end ParcelPilot
