import ParcelPilot.Durations
import ParcelPilot.Raising

namespace ParcelPilot

section Grids

variable [Formats] {cells : String → String → String} {plans lines before after : List String}
  {plan body sourceId : String} {targets : List SlaTarget} {cursor : Nat}

-- A cell as it comes out of the extraction: one line, stripped, and not empty.
structure CellText (text : String) : Prop where
  filled : text ≠ ""
  bare : Py.strip text = text
  single : Py.SingleLine text

-- The rows of a grid with a cell for each plan and severity, one line a cell.
def planLines (cells : String → String → String) (plans : List String) : List String :=
  plans.flatMap fun plan => plan :: slaSeverities.map (cells plan)

def gridLines (cells : String → String → String) : List String :=
  "Plan" :: slaSeverities ++ planLines cells slaPlans

def planPlaces (sourceId : String) (cells : String → String → String) (plans : List String) :
    List (String × Option String × Option String × String × String) :=
  plans.flatMap fun plan => slaSeverities.map fun severity =>
    (sourceId,some plan,none,severity,cells plan severity)

-- The targets of a grid: each cell under its plan and its severity, in order.
structure GridOf (sourceId : String) (cells : String → String → String) (targets : List SlaTarget) :
    Prop where
  places : targets.map (·.place) = planPlaces sourceId cells slaPlans
  parsed : ∀ target ∈ targets, target.Parsed

-- A text with a grid in it: nothing before it is a line "Plan", and blank lines
-- may stand between its lines.
def HoldsGrid (cells : String → String → String) (body : String) : Prop :=
  ∃ before rows after : List String, body = Py.join "\n" (before ++ rows ++ after) ∧
    "Plan" ∉ before.flatMap Py.textLines ∧ (∀ row ∈ rows, Py.SingleLine row) ∧
    rows.filter (fun row => Py.strip row ≠ "") = gridLines cells

def EachCell (holds : String → Prop) (cells : String → String → String) (plans : List String) : Prop :=
  ∀ plan ∈ plans, ∀ severity ∈ slaSeverities, holds (cells plan severity)

omit [Formats] in
theorem idxOf?_iff {word : String} {place : Nat} : lines.idxOf? word = some place ↔
    ∃ before rest, lines = before ++ word :: rest ∧ before.length = place ∧ word ∉ before := by
  induction lines generalizing place with
  | nil => simp
  | cons line lines ih =>
      rw [List.idxOf?_cons]
      by_cases same : line = word
      · rw [if_pos (beq_iff_eq.mpr same)]
        constructor
        · rintro ⟨⟩
          exact ⟨[],lines,by rw [same,List.nil_append],rfl,by simp⟩
        · rintro ⟨before,rest,whole,rfl,fresh⟩
          cases before with
          | nil => rfl
          | cons first others =>
              rw [List.cons_append] at whole
              exact absurd (by simp [← (List.cons.inj whole).1,same]) fresh
      · rw [if_neg (by simpa using same),Option.map_eq_some_iff]
        constructor
        · rintro ⟨earlier,found,rfl⟩
          obtain ⟨before,rest,rfl,rfl,fresh⟩ := ih.mp found
          exact ⟨line :: before,rest,rfl,rfl,by simp [fresh,Ne.symm same]⟩
        · rintro ⟨before,rest,whole,rfl,fresh⟩
          cases before with
          | nil => exact absurd (List.cons.inj whole).1 same
          | cons first others =>
              obtain ⟨rfl,tail⟩ := List.cons.inj whole
              exact ⟨others.length,ih.mpr ⟨others,rest,tail,rfl,fun later => fresh (List.mem_cons_of_mem _ later)⟩,rfl⟩

omit [Formats] in
theorem planLines_ahead (ahead : lines.drop cursor = planLines cells (plan :: plans) ++ after) :
    lines.drop (cursor + 4) = planLines cells plans ++ after := by
  rw [← List.drop_drop,ahead]
  rfl

theorem planRows_step (ahead : lines.drop cursor = planLines cells (plan :: plans) ++ after) :
    planRows sourceId lines (plan :: plans) cursor = (do
      let row ← slaSeverities.mapM fun severity =>
        slaTarget sourceId (some plan) none severity (cells plan severity)
      let rest ← planRows sourceId lines plans (cursor + 4)
      pure (row ++ rest)) := by
  have group : (lines.drop cursor).take 4 = plan :: slaSeverities.map (cells plan) := by
    rw [ahead]
    rfl
  rw [planRows,group]
  simp [slaSeverities]

theorem row_places {severities : List String} {row : List SlaTarget}
    (made : severities.mapM (fun severity =>
      slaTarget sourceId (some plan) none severity (cells plan severity)) = .ok row) :
    row.map (·.place) = severities.map fun severity => (sourceId,some plan,none,severity,cells plan severity) := by
  have all := mapM_ok made
  clear made
  induction all with
  | nil => rfl
  | cons first _ ih => rw [List.map_cons,List.map_cons,ih,slaTarget_place first]

theorem planRows_returns (ahead : lines.drop cursor = planLines cells plans ++ after)
    (readable : EachCell Readable cells plans) :
    ∃ targets, planRows sourceId lines plans cursor = .ok targets ∧
      targets.map (·.place) = planPlaces sourceId cells plans := by
  induction plans generalizing cursor with
  | nil => exact ⟨[],rfl,rfl⟩
  | cons plan plans ih =>
      obtain ⟨rest,later,places⟩ := ih (planLines_ahead ahead) fun other listed => readable other (List.mem_cons_of_mem _ listed)
      have here : ∃ row, slaSeverities.mapM (fun severity =>
          slaTarget sourceId (some plan) none severity (cells plan severity)) = .ok row :=
        mapM_returns fun severity listed =>
          slaTarget_returns.mpr (readable plan List.mem_cons_self severity listed)
      obtain ⟨row,made⟩ := here
      refine ⟨row ++ rest,?_,?_⟩
      · rw [planRows_step ahead,made,later]
        rfl
      · rw [List.map_append,row_places made,places]
        rfl

theorem planRows_readable (ahead : lines.drop cursor = planLines cells plans ++ after)
    (ran : planRows sourceId lines plans cursor = .ok targets) : EachCell Readable cells plans := by
  induction plans generalizing cursor targets with
  | nil => nofun
  | cons plan plans ih =>
      rw [planRows_step ahead] at ran
      obtain ⟨row,made,ran⟩ := except_bind_ok.mp ran
      obtain ⟨rest,later,_⟩ := except_bind_ok.mp ran
      refine List.forall_mem_cons.mpr ⟨?_,ih (planLines_ahead ahead) later⟩
      intro severity listed
      obtain ⟨target,_,read⟩ := mapM_item made listed
      exact slaTarget_returns.mp ⟨target,read⟩

omit [Formats] in
theorem group_cells (full : ¬ ((lines.take 4).length < 4 ∨ (lines.take 4).head? ≠ some plan)) :
    ∃ p1 p2 p3, lines = plan :: p1 :: p2 :: p3 :: lines.drop 4 := by
  push Not at full
  obtain ⟨long,head⟩ := full
  rcases lines with _ | ⟨first,_ | ⟨p1,_ | ⟨p2,_ | ⟨p3,rest⟩⟩⟩⟩
  · simp at long
  · simp at long
  · simp at long
  · simp at long
  · cases Option.some.inj head
    exact ⟨p1,p2,p3,rfl⟩

theorem planRows_lines (distinct : plans.Nodup)
    (ran : planRows sourceId lines plans cursor = .ok targets) :
    ∃ cells after, lines.drop cursor = planLines cells plans ++ after := by
  induction plans generalizing cursor targets with
  | nil => exact ⟨fun _ _ => "",lines.drop cursor,rfl⟩
  | cons plan plans ih =>
      obtain ⟨fresh,distinct⟩ := List.nodup_cons.mp distinct
      rw [planRows] at ran
      dsimp only at ran
      split at ran
      · cases ran
      · rename_i full
        obtain ⟨p1,p2,p3,group⟩ := group_cells full
        rw [List.drop_drop] at group
        obtain ⟨row,_,ran⟩ := except_bind_ok.mp ran
        obtain ⟨rest,later,_⟩ := except_bind_ok.mp ran
        obtain ⟨cells,after,further⟩ := ih distinct later
        refine ⟨fun other severity => if other = plan then
            (if severity = "P1" then p1 else if severity = "P2" then p2 else p3)
          else cells other severity,after,?_⟩
        have same : planLines (fun other severity => if other = plan then
            (if severity = "P1" then p1 else if severity = "P2" then p2 else p3)
            else cells other severity) plans = planLines cells plans := by
          apply List.flatMap_congr
          intro other listed
          have apart : other ≠ plan := fun equal => fresh (equal ▸ listed)
          simp only [if_neg apart]
        rw [group,further,← same]
        simp [planLines,slaSeverities]

theorem parseGridTable_rows (whole : Py.textLines body = before ++ gridLines cells ++ after)
    (fresh : "Plan" ∉ before) :
    parseGridTable body sourceId = planRows sourceId (Py.textLines body) slaPlans (before.length + 4) ∧
      (Py.textLines body).drop (before.length + 4) = planLines cells slaPlans ++ after := by
  have found : (Py.textLines body).idxOf? "Plan" = some before.length := by
    rw [idxOf?_iff]
    exact ⟨before,_,by rw [whole,List.append_assoc]; rfl,rfl,fresh⟩
  have behind : (Py.textLines body).drop before.length = gridLines cells ++ after := by
    rw [whole,List.append_assoc,List.drop_left]
  constructor
  · unfold parseGridTable
    dsimp only
    rw [found]
    dsimp only
    rw [behind,if_neg]
    exact not_not.mpr rfl
  · rw [← List.drop_drop,behind]
    rfl

-- A first "Plan" without the severities behind it is refused.
theorem parseGridTable_header {rest : List String} (lines : Py.textLines body = "Plan" :: rest)
    (other : rest.take 3 ≠ slaSeverities) : parseGridTable body sourceId =
      .error (.documentParse sourceId "SLA grid header is not 'Plan/P1/P2/P3'") := by
  have found : ("Plan" :: rest).idxOf? "Plan" = some 0 := rfl
  unfold parseGridTable
  dsimp only
  rw [lines,found]
  dsimp only
  rw [if_pos]
  intro same
  exact other (List.cons.inj same).2

theorem grid_parsed (whole : Py.textLines body = before ++ gridLines cells ++ after)
    (fresh : "Plan" ∉ before) (readable : EachCell Readable cells slaPlans) :
    ∃ targets, parseGridTable body sourceId = .ok targets ∧ GridOf sourceId cells targets := by
  obtain ⟨rows,behind⟩ := @parseGridTable_rows _ cells _ _ body sourceId whole fresh
  obtain ⟨targets,made,places⟩ := @planRows_returns _ _ _ _ _ sourceId _ behind readable
  have parsed := rows.trans made
  exact ⟨targets,parsed,places,accepted_parsed (.grid parsed)⟩

theorem grid_flattened (parsed : parseGridTable body sourceId = .ok targets) :
    ∃ before cells after, Py.textLines body = before ++ gridLines cells ++ after ∧ "Plan" ∉ before ∧
      EachCell Readable cells slaPlans ∧ GridOf sourceId cells targets := by
  have ran := parsed
  unfold parseGridTable at ran
  dsimp only at ran
  split at ran
  · cases ran
  · rename_i place found
    obtain ⟨before,rest,whole,rfl,fresh⟩ := idxOf?_iff.mp found
    split at ran
    · cases ran
    · rename_i header
      obtain ⟨cells,after,behind⟩ := planRows_lines (by decide) ran
      have top : (Py.textLines body).drop before.length = "Plan" :: slaSeverities ++
          (Py.textLines body).drop (before.length + 4) := by
        rw [← not_not.mp header,← List.drop_drop,List.take_append_drop]
      have grid : Py.textLines body = before ++ gridLines cells ++ after := by
        have cut : (Py.textLines body).take before.length = before := by rw [whole,List.take_left]
        rw [← List.take_append_drop before.length (Py.textLines body),cut,top,behind,gridLines]
        simp
      have readable := planRows_readable behind ran
      obtain ⟨again,reparsed,same⟩ := @grid_parsed _ _ _ _ _ sourceId grid fresh readable
      cases reparsed.symm.trans parsed
      exact ⟨before,cells,after,grid,fresh,readable,same⟩

omit [Formats] in
theorem cell_listed {severity : String} (plan_ : plan ∈ slaPlans) (severity_ : severity ∈ slaSeverities) :
    cells plan severity ∈ gridLines cells :=
  List.mem_append_right _ (List.mem_flatMap.mpr ⟨plan,plan_,List.mem_cons_of_mem _ (List.mem_map_of_mem severity_)⟩)

theorem word_text {text : String} (filled : text ≠ "")
    (plain : text.toList.all (fun c => 32 < c.toNat && c.toNat < 128) = true) : CellText text := by
  have code {c : Char} (member : c ∈ text.toList) : 32 < c.toNat ∧ c.toNat < 128 := by
    simpa using List.all_eq_true.mp plain c member
  have solid {c : Char} (member : c ∈ text.toList) : Host.isSpace c = false := by
    obtain ⟨above,ascii⟩ := code member
    rw [Host.isSpace_ascii c ascii]
    have other : c ≠ ' ' := fun same => absurd above (by rw [same]; decide)
    simp only [other,decide_false,Bool.false_or,Bool.or_eq_false_iff,Bool.and_eq_false_iff,
      decide_eq_false_iff_not]
    omega
  refine ⟨filled,?_,?_⟩
  · unfold Py.strip
    rw [Py.stripped_bare (fun c first => solid (List.mem_of_head? first))
      (fun c last => solid (List.mem_of_getLast? last)),String.ofList_toList]
  · intro c member
    obtain ⟨above,ascii⟩ := code member
    simp only [Py.isLineBreak,List.mem_cons,List.not_mem_nil,or_false,decide_eq_false_iff_not]
    omega

theorem gridLines_texts (texts : EachCell CellText cells slaPlans) :
    ∀ line ∈ gridLines cells, CellText line := by
  intro line listed
  rcases List.mem_append.mp listed with header | row
  · simp only [slaSeverities,List.mem_cons,List.not_mem_nil,or_false] at header
    rcases header with rfl | rfl | rfl | rfl <;> exact word_text (by decide) (by decide)
  · obtain ⟨plan,holder,inRow⟩ := List.mem_flatMap.mp row
    rcases List.mem_cons.mp inRow with rfl | cell
    · simp only [slaPlans,List.mem_cons,List.not_mem_nil,or_false] at holder
      rcases holder with rfl | rfl | rfl <;> exact word_text (by decide) (by decide)
    · obtain ⟨severity,known,rfl⟩ := List.mem_map.mp cell
      exact texts plan holder severity known

omit [Formats] in
theorem rows_lines [Host] {rows : List String} (single : ∀ row ∈ rows, Py.SingleLine row) :
    rows.flatMap Py.textLines = (rows.filter fun row => Py.strip row ≠ "").map Py.strip := by
  induction rows with
  | nil => rfl
  | cons row rows ih =>
      obtain ⟨here,later⟩ := List.forall_mem_cons.mp single
      rw [List.flatMap_cons,Py.textLines_single here,ih later]
      by_cases blank : Py.strip row = "" <;> simp [blank]

theorem gridLines_textLines (texts : EachCell CellText cells slaPlans) :
    (gridLines cells).flatMap Py.textLines = gridLines cells := by
  have lines := gridLines_texts texts
  have filled : ((gridLines cells).filter fun line => Py.strip line ≠ "") = gridLines cells := by
    rw [List.filter_eq_self]
    intro line listed
    rw [(lines line listed).bare]
    simpa using (lines line listed).filled
  rw [rows_lines fun line listed => (lines line listed).single,filled]
  exact (List.map_congr_left fun line listed => (lines line listed).bare).trans (List.map_id _)

theorem holdsGrid_lines (texts : EachCell CellText cells slaPlans) (holds : HoldsGrid cells body) :
    ∃ before after, Py.textLines body = before ++ gridLines cells ++ after ∧ "Plan" ∉ before := by
  obtain ⟨before,rows,after,rfl,fresh,single,grid⟩ := holds
  refine ⟨before.flatMap Py.textLines,after.flatMap Py.textLines,?_,fresh⟩
  have bare : (gridLines cells).map Py.strip = gridLines cells :=
    (List.map_congr_left fun line listed => (gridLines_texts texts line listed).bare).trans (List.map_id _)
  rw [Py.join,Py.textLines_join,List.flatMap_append,List.flatMap_append,rows_lines single,grid,bare]

-- Flattened cells come back under their plan and severity, and what comes back has
-- been flattened.
theorem grid_inverts (sourceId : String) :
    (∀ cells body, EachCell CellText cells slaPlans → EachCell Readable cells slaPlans →
      HoldsGrid cells body →
        ∃ targets, parseGridTable body sourceId = .ok targets ∧ GridOf sourceId cells targets) ∧
    ∀ body targets, parseGridTable body sourceId = .ok targets →
      ∃ before cells after, Py.textLines body = before ++ gridLines cells ++ after ∧ "Plan" ∉ before ∧
        EachCell CellText cells slaPlans ∧ GridOf sourceId cells targets := by
  constructor
  · intro cells body texts readable holds
    obtain ⟨before,after,whole,fresh⟩ := holdsGrid_lines texts holds
    exact grid_parsed whole fresh readable
  · intro body targets parsed
    obtain ⟨before,cells,after,whole,fresh,_,same⟩ := grid_flattened parsed
    refine ⟨before,cells,after,whole,fresh,?_,same⟩
    intro plan plan_ severity severity_
    have listed : cells plan severity ∈ Py.textLines body := by
      rw [whole]
      exact List.mem_append_left _ (List.mem_append_right _ (cell_listed plan_ severity_))
    obtain ⟨filled,bare,single⟩ := Py.mem_textLines listed
    exact ⟨filled,bare,single⟩

theorem long_unreadable {text unit : String} {digits : List Char}
    (whole : (Host.lower text).toList = digits ++ ' ' :: unit.toList) (listed : unit ∈ durationUnits)
    (numeric : ∀ c ∈ digits, Host.isDigit c = true) (long : Py.maxStrDigits < digits.length)
    (plain : Py.occursIn "business" (Host.lower text) = false) : ¬ Readable text := by
  have blank : Host.isSpace ' ' = true := (Host.isSpace_ascii ' ' (by decide)).trans (by decide)
  have between : Host.isDigit ' ' = false := (Host.isDigit_ascii ' ' (by decide)).trans (by decide)
  obtain ⟨c,others,rfl⟩ := List.exists_cons_of_ne_nil (List.ne_nil_of_length_pos (Nat.zero_lt_of_lt long))
  have here : Pattern.ends Host.isWord duration ⟨[],(Host.lower text).toList⟩ ≠ [] :=
    List.ne_nil_of_mem (mem_ends_duration.mpr ⟨c :: others,[' '],unit,listed,[],by rw [whole]; simp,
      by simp,numeric,by simpa [Py.AllBlank] using blank,rfl,rfl⟩)
  obtain ⟨stop,later,matched⟩ := List.exists_cons_of_ne_nil here
  have first : Pattern.matchHere Host.isWord duration ⟨[],(Host.lower text).toList⟩ = some stop := by
    rw [Pattern.matchHere,matched]
    rfl
  obtain ⟨num,blanks,other,known,right,parts,_,_,_,_,rfl⟩ :=
    mem_ends_duration.mp (show stop ∈ _ by rw [matched]; exact List.mem_cons_self)
  have cut : (Host.lower text).toList = (num ++ blanks ++ other.toList) ++ right := by
    rw [show (Host.lower text).toList = _ from parts]
    simp only [List.append_assoc]
  have found : durationIn (Host.lower text) = some (num ++ blanks ++ other.toList) := by
    have reported := Pattern.findFrom_head (by rw [whole]; simp) first
    rw [durationIn,Pattern.findIter,reported,Option.map_some]
    dsimp only
    rw [cut,List.length_append,Nat.add_sub_cancel,List.take_left]
  -- the unit starts with a letter, so the match goes beyond the digits
  obtain ⟨letter,_,spelt,notDigit,_⟩ := unit_head known
  have beyond : letter ∈ num ++ blanks ++ other.toList := by simp [spelt]
  have apart : letter ∉ c :: others := fun member => by
    rw [numeric letter member] at notDigit
    cases notDigit
  have taken : durationNum (num ++ blanks ++ other.toList) = c :: others := by
    rw [whole] at cut
    rcases List.append_eq_append_iff.mp cut with ⟨more,inside,behind⟩ | ⟨more,inside,behind⟩
    · cases more with
      | nil => exact absurd (by simpa [inside] using beyond) apart
      | cons d more =>
          cases (List.cons.inj behind).1
          rw [inside,durationNum,List.takeWhile_append_of_pos numeric]
          simp [between]
    · rw [inside] at apart
      exact absurd (List.mem_append_left _ beyond) apart
  intro readable
  rcases readable with business | short
  · rw [plain] at business
    cases business
  · have within := short _ found
    rw [taken] at within
    omega

end Grids

-- The targets of the tests' policy, by severity only.
def levelCells (_plan severity : String) : String :=
  if severity = "P1" then "30 minutes, 24x7" else if severity = "P2" then "2 hours" else "1 business day"

theorem levelCells_texts : let _ := asciiFormats [] []
    EachCell CellText levelCells slaPlans ∧ EachCell Readable levelCells slaPlans := by
  intro _
  have each {holds : String → Prop} (p1 : holds "30 minutes, 24x7") (p2 : holds "2 hours")
      (p3 : holds "1 business day") : EachCell holds levelCells slaPlans := by
    intro plan _ severity _
    unfold levelCells
    split
    · exact p1
    · split
      · exact p2
      · exact p3
  have text {words : String} (filled : words ≠ "") (bare : Py.strip words = words)
      (single : words.toList.all (fun c => !Py.isLineBreak c) = true) : CellText words :=
    ⟨filled,bare,fun c member => by simpa using List.all_eq_true.mp single c member⟩
  refine ⟨each (text ?_ ?_ ?_) (text ?_ ?_ ?_) (text ?_ ?_ ?_),each ?_ ?_ ?_⟩
  any_goals decide +kernel
  · exact parseDuration_returns.mp ⟨(some 30,true,false),by decide +kernel⟩
  · exact parseDuration_returns.mp ⟨(some 120,false,false),by decide +kernel⟩
  · exact parseDuration_returns.mp ⟨(none,false,true),by decide +kernel⟩

theorem grid_inverts_levels : let _ := asciiFormats [] []
    ∃ targets, parseGridTable (Py.join "\n" (["Targets"] ++ ("" :: gridLines levelCells) ++ ["Notes"])) "SRC-01" =
        .ok targets ∧ GridOf "SRC-01" levelCells targets ∧
      ∃ before cells after,
        Py.textLines (Py.join "\n" (["Targets"] ++ ("" :: gridLines levelCells) ++ ["Notes"])) =
          before ++ gridLines cells ++ after ∧ "Plan" ∉ before ∧ EachCell CellText cells slaPlans ∧
          GridOf "SRC-01" cells targets := by
  intro _
  obtain ⟨texts,readable⟩ := levelCells_texts
  have holds : HoldsGrid levelCells (Py.join "\n" (["Targets"] ++ ("" :: gridLines levelCells) ++ ["Notes"])) :=
    ⟨["Targets"],"" :: gridLines levelCells,["Notes"],rfl,by decide +kernel,
      List.forall_mem_cons.mpr ⟨nofun,fun line listed => (gridLines_texts texts line listed).single⟩,
      by decide +kernel⟩
  obtain ⟨targets,parsed,same⟩ := (grid_inverts "SRC-01").1 levelCells _ texts readable holds
  exact ⟨targets,parsed,same,(grid_inverts "SRC-01").2 _ targets parsed⟩

-- A cell with a number of so many digits.
def onesCell (count : Nat) : String := String.ofList (List.replicate count '1' ++ " hours".toList)

theorem onesCell_text (count : Nat) : let _ := asciiFormats [] []
    CellText (onesCell (count + 1)) := by
  intro _
  have chars : (onesCell (count + 1)).toList = '1' :: List.replicate count '1' ++ " hours".toList :=
    String.toList_ofList
  refine ⟨?_,?_,?_⟩
  · intro none
    rw [none] at chars
    cases chars
  · unfold Py.strip
    rw [Py.stripped_bare,String.ofList_toList]
    · rw [chars]
      rintro c ⟨⟩
      decide
    · rw [chars,List.getLast?_append]
      rintro c ⟨⟩
      decide
  · intro c member
    rw [chars,← List.replicate_succ] at member
    rcases List.mem_append.mp member with digit | unit
    · rw [List.eq_of_mem_replicate digit]
      decide
    · have plain : " hours".toList.all (fun c => !Py.isLineBreak c) = true := rfl
      simpa using List.all_eq_true.mp plain c unit

theorem onesCell_unreadable {count : Nat} (long : Py.maxStrDigits < count) : let _ := asciiFormats [] []
    ¬ Readable (onesCell count) := by
  intro _
  have lower : (Host.lower (onesCell count)).toList = List.replicate count '1' ++ ' ' :: "hours".toList := by
    have mapped : Host.lower (onesCell count) = String.ofList ((onesCell count).toList.map Char.toLower) := rfl
    rw [mapped,String.toList_ofList,onesCell,String.toList_ofList,List.map_append,List.map_replicate]
    rfl
  apply long_unreadable lower (by decide)
  · intro c member
    rw [List.eq_of_mem_replicate member]
    decide
  · rwa [List.length_replicate]
  · apply Bool.eq_false_iff.mpr
    intro business
    have inside := (Py.occursIn_iff.mp business).subset (show 'b' ∈ "business".toList by decide)
    rw [lower] at inside
    rcases List.mem_append.mp inside with digit | unit
    · exact absurd (List.eq_of_mem_replicate digit) (by decide)
    · exact absurd unit (by decide)

-- A cell that cannot be read, and a line "Plan" with a blank before it.
theorem grid_refused : let _ := asciiFormats [] []
    let cells := fun _ _ : String => onesCell (Py.maxStrDigits + 1)
    (EachCell CellText cells slaPlans ∧ HoldsGrid cells (Py.join "\n" (gridLines cells)) ∧
      ∀ targets, parseGridTable (Py.join "\n" (gridLines cells)) "SRC-01" ≠ .ok targets) ∧
    "Plan" ∉ Py.splitlines " Plan" ∧
      ∀ targets, parseGridTable (Py.join "\n" (" Plan" :: gridLines levelCells)) "SRC-01" ≠ .ok targets := by
  intro _ cells
  have texts : EachCell CellText cells slaPlans := fun _ _ _ _ => onesCell_text Py.maxStrDigits
  have lines := gridLines_texts texts
  have holds : HoldsGrid cells (Py.join "\n" (gridLines cells)) := by
    refine ⟨[],gridLines cells,[],by simp,by simp,fun line listed => (lines line listed).single,?_⟩
    rw [List.filter_eq_self]
    intro line listed
    rw [(lines line listed).bare]
    simpa using (lines line listed).filled
  refine ⟨⟨texts,holds,?_⟩,by decide,?_⟩
  · intro targets parsed
    obtain ⟨before,after,whole,fresh⟩ := holdsGrid_lines texts holds
    obtain ⟨rows,behind⟩ := @parseGridTable_rows _ cells _ _ _ "SRC-01" whole fresh
    have readable := planRows_readable behind (rows.symm.trans parsed)
    exact onesCell_unreadable (Nat.lt_succ_self _) (readable "Enterprise" (by decide) "P1" (by decide))
  · intro targets parsed
    have headed : Py.textLines (Py.join "\n" (" Plan" :: gridLines levelCells)) =
        "Plan" :: gridLines levelCells := by
      rw [Py.join,Py.textLines_join,List.flatMap_cons,gridLines_textLines levelCells_texts.1]
      rfl
    cases (parseGridTable_header headed (by decide)).symm.trans parsed

end ParcelPilot
