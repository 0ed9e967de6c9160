import ParcelPilot.Raising
import ParcelPilot.FaultCells

namespace ParcelPilot

-- A subclass of ParcelPilotError.
def PyError.isParcelPilotError : PyError → Bool
  | .notAuthorized _ => true
  | .unknownEntity .. => true
  | .invalidFilter _ => true
  | _ => false

def IngestError.Typed : IngestError → Prop
  | .stopIteration => False
  | .library _ => False
  | .raised error => error.isParcelPilotError = true
  | _ => True

-- As the builders see it: both of the errors they catch become one of these.
def RowError.Typed : RowError → Prop
  | .keyError _ => True
  | .validation .. => True
  | .escaped error => error.Typed

-- `iter_rows` gives every row the width of the sheet.
def Workbook.Rectangular (book : Workbook) : Prop :=
  ∀ name header rows, book.sheet name = some (header :: rows) →
    ∀ row ∈ rows, row.length = header.length

section Reading

variable [Formats]

def Cell.ReadsAsFloat : Cell → Prop
  | .bool _ => True
  | .int value => (value.natAbs : Int) < largestFloat
  | .float _ => True
  | .str text => (Formats.parseFloat text).isSome = true
  | _ => False

-- An order row as far as the cell of its fee.
def beforeFee (zone : Int → Int) (row : SheetRow) : Except RowError Cell := do
  let _ ← column row "order_id"
  let _ ← column row "account_id"
  let _ ← column row "carrier"
  let _ ← column row "status"
  let _ ← parseDt (← column row "booked_at") zone "booked_at"
  let _ ← parseDt (← column row "pickup_window_start") zone "pickup_window_start"
  let _ ← parseDt (← column row "pickup_window_end") zone "pickup_window_end"
  let _ ← parseDtOptional ((row.get "pickup_actual_at").getD .blank) zone "pickup_actual_at"
  column row "shipment_fee_inr"

-- A workbook as far as the rows of its orders, with the zone of the snapshot.
def beforeOrders (book : Workbook) : Ingest ((Int → Int) × List SheetRow) := do
  let (snapshotRaw,_) ← readReadme book
  let (_,zone) ← parseSnapshot snapshotRaw
  let accountSheet ← requireSheet book "accounts"
  let orderSheet ← requireSheet book "orders"
  let _ ← requireSheet book "tickets"
  let _ ← (← sheetRows "accounts" accountSheet).mapM buildAccount
  let rows ← sheetRows "orders" orderSheet
  pure (zone,rows)

def FeesRead (book : Workbook) : Prop :=
  ∀ zone rows, beforeOrders book = .ok (zone,rows) →
    ∀ earlier row later, rows = earlier ++ row :: later →
      (∃ orders, earlier.mapM (buildOrder zone) = .ok orders) →
      ∀ cell, beforeFee zone row = .ok cell → cell.ReadsAsFloat

theorem floatOf_reads {cell : Cell} (reads : cell.ReadsAsFloat) :
    ∃ value, floatOf cell = .ok value := by
  cases cell with
  | blank => cases reads
  | bool value => exact ⟨_,rfl⟩
  | int value =>
      have fits : (value.natAbs : Int) < largestFloat := reads
      unfold floatOf
      dsimp only
      rw [if_neg (Int.not_le.mpr fits)]
      exact ⟨_,rfl⟩
  | float value => exact ⟨_,rfl⟩
  | str text =>
      obtain ⟨value,parsed⟩ := Option.isSome_iff_exists.mp reads
      unfold floatOf
      dsimp only
      rw [parsed]
      exact ⟨value,rfl⟩
  | datetime wall inRange => cases reads
  | date day inRange => cases reads
  | time micros => cases reads
  | timedelta micros => cases reads

theorem floatOf_refuses {cell : Cell} (refused : ¬ cell.ReadsAsFloat) :
    ∃ error, floatOf cell = .error (.raised error) ∧ error.isParcelPilotError = false := by
  cases cell with
  | blank => exact ⟨_,rfl,rfl⟩
  | bool value => exact absurd trivial refused
  | int value =>
      have huge : ¬ (value.natAbs : Int) < largestFloat := refused
      unfold floatOf
      dsimp only
      rw [if_pos (Int.not_lt.mp huge)]
      exact ⟨_,rfl,rfl⟩
  | float value => exact absurd trivial refused
  | str text =>
      have unparsed : Formats.parseFloat text = none := by
        rw [← Option.not_isSome_iff_eq_none]
        exact refused
      unfold floatOf
      dsimp only
      rw [unparsed]
      exact ⟨_,rfl,rfl⟩
  | datetime wall inRange => exact ⟨_,rfl,rfl⟩
  | date day inRange => exact ⟨_,rfl,rfl⟩
  | time micros => exact ⟨_,rfl,rfl⟩
  | timedelta micros => exact ⟨_,rfl,rfl⟩

theorem floatOf_typed {cell : Cell} :
    Raises RowError.Typed (escaping (floatOf cell)) ↔ cell.ReadsAsFloat := by
  constructor
  · intro typed
    by_contra refused
    obtain ⟨error,raised,foreign⟩ := floatOf_refuses refused
    rw [raised] at typed
    have kind : error.isParcelPilotError = true := typed _ rfl
    rw [foreign] at kind
    cases kind
  · intro reads
    obtain ⟨value,read⟩ := floatOf_reads reads
    rw [read]
    exact raises_ok

omit [Formats] in
theorem column_typed (row : SheetRow) (name : String) :
    Raises RowError.Typed (column row name) := by
  unfold column
  cases row.get name <;> simp [RowError.Typed]

theorem parseDtOptional_typed (value : Cell) (zone : Int → Int) (field : String) :
    Raises RowError.Typed (parseDtOptional value zone field) := by
  unfold parseDtOptional
  split
  · exact raises_ok
  · exact raises_ok
  · split
    · exact raises_ok
    · split
      · exact raises_error.mpr trivial
      · exact raises_ok

theorem parseDt_typed (value : Cell) (zone : Int → Int) (field : String) :
    Raises RowError.Typed (parseDt value zone field) := by
  unfold parseDt
  rw [raises_bind_of (parseDtOptional_typed value zone field)]
  intro parsed _
  cases parsed with
  | none => exact raises_error.mpr trivial
  | some parsed => exact raises_ok

omit [Formats] in
theorem validated_typed (model : String) (fields : List (String × Cell)) (built : Option β) :
    Raises RowError.Typed (validated model fields built) := by
  cases built with
  | none => exact raises_error.mpr trivial
  | some value => exact raises_ok

theorem orMalformed_typed {sheet : String} {row : SheetRow} {built : Except RowError β} :
    Raises IngestError.Typed (orMalformed sheet row built) ↔ Raises RowError.Typed built := by
  rcases built with (_ | _ | _) | _ <;> simp [orMalformed,RowError.Typed,IngestError.Typed]

theorem buildAccount_typed (row : SheetRow) : Raises IngestError.Typed (buildAccount row) := by
  unfold buildAccount
  rw [orMalformed_typed]
  simp only [raises_bind_of (column_typed _ _)]
  intros
  exact validated_typed _ _ _

theorem buildTicket_typed (zone : Int → Int) (row : SheetRow) :
    Raises IngestError.Typed (buildTicket zone row) := by
  unfold buildTicket
  rw [orMalformed_typed]
  simp only [raises_bind_of (column_typed _ _),raises_bind_of (parseDt_typed _ _ _)]
  intros
  exact validated_typed _ _ _

theorem buildOrder_typed {zone : Int → Int} {row : SheetRow} :
    Raises IngestError.Typed (buildOrder zone row) ↔
      ∀ cell, beforeFee zone row = .ok cell → cell.ReadsAsFloat := by
  unfold buildOrder beforeFee
  rw [orMalformed_typed]
  simp only [raises_bind,column_typed,parseDt_typed,parseDtOptional_typed,validated_typed,
    floatOf_typed,except_bind_ok,implies_true,and_true,true_and,forall_exists_index,and_imp]
  constructor
  · intro each cell
    intros
    apply each
    all_goals assumption
  · intro each
    intros
    apply each
    all_goals assumption

theorem readReadme_typed (book : Workbook) : Raises IngestError.Typed (readReadme book) := by
  unfold readReadme
  split
  · exact raises_error.mpr trivial
  · dsimp only
    split
    · exact raises_error.mpr trivial
    · exact raises_ok

theorem parseSnapshot_typed (raw : String) : Raises IngestError.Typed (parseSnapshot raw) := by
  unfold parseSnapshot
  split
  · exact raises_error.mpr trivial
  · split
    · exact raises_error.mpr trivial
    · split
      · exact raises_error.mpr trivial
      · exact raises_ok

theorem requireSheet_typed (book : Workbook) (name : String) :
    Raises IngestError.Typed (requireSheet book name) := by
  unfold requireSheet
  split
  · exact raises_error.mpr trivial
  · exact raises_ok

theorem sheetRows_typed {book : Workbook} {name : String} {rows : List (List Cell)}
    (rectangular : book.Rectangular) (required : requireSheet book name = .ok rows) :
    Raises IngestError.Typed (sheetRows name rows) := by
  unfold requireSheet at required
  split at required
  · cases required
  · rename_i there
    cases required
    unfold sheetRows
    split
    · exact raises_error.mpr trivial
    · rename_i header rest
      split
      · exact raises_error.mpr trivial
      · apply raises_mapM_of
        intro row member
        have wide := rectangular name header rest there row (List.mem_of_mem_filter member)
        unfold zipStrict
        rw [if_neg (by omega),if_neg (by omega)]
        exact raises_ok

omit [Formats] in
theorem requireKnown_typed (entity : String) (records : List (String × String))
    (accountIds : List String) :
    Raises IngestError.Typed (requireKnown entity records accountIds) := by
  unfold requireKnown
  split
  · exact raises_ok
  · exact raises_error.mpr trivial

-- The README, the accounts and the tickets raise nothing else; an order does,
-- exactly where its fee is come to and is no number.
theorem workbook_errors_typed_iff {book : Workbook} (rectangular : book.Rectangular) :
    Raises IngestError.Typed (loadWorkbook book) ↔ FeesRead book := by
  unfold loadWorkbook FeesRead beforeOrders
  simp only [raises_bind,readReadme_typed,parseSnapshot_typed,requireSheet_typed,
    requireKnown_typed,raises_mapM_of fun _ _ => buildAccount_typed _,
    raises_mapM_of fun _ _ => buildTicket_typed _ _,except_bind_ok,true_and,forall_exists_index,
    and_imp]
  constructor
  · intro each zone rows readme told snapshot parsed accountSheet accountsThere orderSheet
      ordersThere ticketSheet ticketsThere accountRows accountsRead accounts built read
      ordersRead same earlier row later split orders made
    cases same
    have typed := ((each readme told snapshot parsed accountSheet accountsThere orderSheet
      ordersThere ticketSheet ticketsThere).2 accountRows accountsRead accounts built).2 rows ordersRead
    exact buildOrder_typed.mp (raises_mapM.mp typed.1 earlier row later split ⟨orders,made⟩)
  · intro fees readme told snapshot parsed accountSheet accountsThere orderSheet ordersThere
      ticketSheet ticketsThere
    refine ⟨sheetRows_typed rectangular accountsThere,?_⟩
    intro accountRows accountsRead accounts built
    refine ⟨sheetRows_typed rectangular ordersThere,?_⟩
    intro rows ordersRead
    refine ⟨raises_mapM.mpr ?_,?_⟩
    · intro earlier row later split passed
      obtain ⟨orders,made⟩ := passed
      rw [buildOrder_typed]
      exact fees snapshot.2 rows readme told snapshot parsed accountSheet accountsThere
        orderSheet ordersThere ticketSheet ticketsThere accountRows accountsRead accounts built rows
        ordersRead rfl earlier row later split orders made
    · intro orders _
      refine ⟨sheetRows_typed rectangular ticketsThere,?_⟩
      intros
      exact raises_ok

end Reading

-- One order, whose fee was left blank.
def blankFeeCells : List Cell := [.str "ORD-1",.str "ACCT-001",.str "Acme",.str "BOOKED",.str "t",
  .str "t",.str "t",.blank,.blank,.bool false,.bool false,.blank,.blank]

def blankFeeBook : Workbook := bookOf [blankFeeCells]

theorem bookOf_rectangular {orders : List (List Cell)}
    (wide : ∀ row ∈ orders, row.length = orderHeader.length) : (bookOf orders).Rectangular := by
  intro name header rows there
  obtain ⟨entry,found,same⟩ := Option.map_eq_some_iff.mp there
  have member := List.mem_of_find?_eq_some found
  simp only [bookOf,List.mem_cons,List.not_mem_nil,or_false] at member
  rcases member with readme | accounts | listed | tickets
  · cases readme
    cases same
    simp
  · cases accounts
    cases same
    simp [accountHeader,accountCells]
  · cases listed
    cases same
    exact wide
  · cases tickets
    cases same
    simp

theorem blank_fee_escapes : let _ := asciiFormats bookStamps []
    loadWorkbook blankFeeBook = .error (.raised (.typeError
      "float() argument must be a string or a real number, not 'NoneType'")) ∧
      ¬ Raises IngestError.Typed (loadWorkbook blankFeeBook) := by
  intro _
  have raised : loadWorkbook blankFeeBook = .error (.raised (.typeError
      "float() argument must be a string or a real number, not 'NoneType'")) := by
    apply raised_of_map
    decide +kernel
  refine ⟨raised,?_⟩
  intro typed
  have kind : false = true := typed _ raised
  cases kind

theorem blank_fee_unread : let _ := asciiFormats bookStamps []
    blankFeeBook.Rectangular ∧
      (Raises IngestError.Typed (loadWorkbook blankFeeBook) ↔ FeesRead blankFeeBook) := by
  intro _
  have rectangular : blankFeeBook.Rectangular := by
    apply bookOf_rectangular
    intro row member
    rw [List.mem_singleton.mp member]
    rfl
  exact ⟨rectangular,workbook_errors_typed_iff rectangular⟩

end ParcelPilot
