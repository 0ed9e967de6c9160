import Mathlib.Tactic.Linarith
import ParcelPilot.Ingest
import ParcelPilot.OrderDecisions

namespace ParcelPilot

def trueWords : List String := ["true","yes","y","1"]

def falseWords : List String := ["false","no","n","0"]

-- `row.get(name)`
def SheetRow.cell (row : SheetRow) (name : String) : Cell := (row.get name).getD .blank

section Reading

variable [Formats]

-- What a cell says in a yes-or-no column; a blank or any other value says nothing.
def Cell.states : Cell → Option Bool
  | .bool value => some value
  | .int value => if value = 1 then some true else if value = 0 then some false else none
  | .float value => if value = 1 then some true else if value = 0 then some false else none
  | .str text =>
      let word := Host.lower (Py.strip text)
      if word ∈ trueWords then some true else if word ∈ falseWords then some false else none
  | _ => none

-- `_sheet_rows(wb["orders"])`
def orderRows (book : Workbook) : Ingest (List SheetRow) := do
  sheetRows "orders" (← requireSheet book "orders")

-- A row that is accepted has its columns, and its faults are read off the cells.
structure ReadOff (row : SheetRow) (order : Order) : Prop where
  named : row.get "order_id" = some (.str order.orderId)
  carrier : order.carrierFault = (row.cell "carrier_fault").truthy
  customer : order.customerFault = (row.cell "customer_fault").truthy

omit [Formats] in
theorem column_ok {row : SheetRow} {name : String} {cell : Cell} :
    column row name = .ok cell ↔ row.get name = some cell := by
  unfold column
  cases row.get name <;> simp

theorem orMalformed_ok {sheet : String} {row : SheetRow} {built : Except RowError β} {value : β} :
    orMalformed sheet row built = .ok value ↔ built = .ok value := by
  rcases built with (_ | _ | _) | _ <;> simp [orMalformed]

omit [Formats] in
theorem validated_ok {model : String} {fields : List (String × Cell)} {built : Option β} {value : β} :
    validated model fields built = .ok value ↔ built = some value := by
  cases built <;> simp [validated]

omit [Formats] in
theorem textOf_some {cell : Cell} {text : String} : textOf cell = some text ↔ cell = .str text := by
  cases cell <;> simp [textOf]

theorem buildOrder_reads {zone : Int → Int} {row : SheetRow} {order : Order}
    (built : buildOrder zone row = .ok order) : ReadOff row order := by
  unfold buildOrder at built
  rw [orMalformed_ok] at built
  obtain ⟨orderId,hasId,built⟩ := except_bind_ok.mp built
  obtain ⟨accountId,_,built⟩ := except_bind_ok.mp built
  obtain ⟨carrier,_,built⟩ := except_bind_ok.mp built
  obtain ⟨status,_,built⟩ := except_bind_ok.mp built
  obtain ⟨bookedCell,_,built⟩ := except_bind_ok.mp built
  obtain ⟨bookedAt,_,built⟩ := except_bind_ok.mp built
  obtain ⟨startCell,_,built⟩ := except_bind_ok.mp built
  obtain ⟨pickupWindowStart,_,built⟩ := except_bind_ok.mp built
  obtain ⟨endCell,_,built⟩ := except_bind_ok.mp built
  obtain ⟨pickupWindowEnd,_,built⟩ := except_bind_ok.mp built
  obtain ⟨pickupActualAt,_,built⟩ := except_bind_ok.mp built
  obtain ⟨feeCell,_,built⟩ := except_bind_ok.mp built
  obtain ⟨fee,_,built⟩ := except_bind_ok.mp built
  obtain ⟨carrierFault,carrierRead,built⟩ := except_bind_ok.mp built
  obtain ⟨customerFault,customerRead,built⟩ := except_bind_ok.mp built
  obtain ⟨requestedAt,_,built⟩ := except_bind_ok.mp built
  rw [validated_ok] at built
  rw [column_ok] at hasId carrierRead customerRead
  simp only [Option.bind_eq_bind,Option.bind_eq_some_iff,Option.pure_def] at built
  obtain ⟨id,isText,_,_,_,_,_,_,_,_,made⟩ := built
  cases made
  rw [textOf_some] at isText
  constructor
  · rw [hasId,isText]
  · simp only [SheetRow.cell,carrierRead,Option.getD_some]
  · simp only [SheetRow.cell,customerRead,Option.getD_some]

theorem loadWorkbook_order {book : Workbook} {data : WorkbookData} {rows : List SheetRow} {row : SheetRow}
    (loaded : loadWorkbook book = .ok data) (sheet : orderRows book = .ok rows) (listed : row ∈ rows) :
    ∃ order ∈ data.orders, ReadOff row order := by
  obtain ⟨orderSheet,required,sheet⟩ := except_bind_ok.mp sheet
  obtain ⟨⟨snapshotRaw,currency⟩,_,loaded⟩ := except_bind_ok.mp loaded
  obtain ⟨⟨snapshot,zone⟩,_,loaded⟩ := except_bind_ok.mp loaded
  obtain ⟨accountSheet,_,loaded⟩ := except_bind_ok.mp loaded
  obtain ⟨again,requiredAgain,loaded⟩ := except_bind_ok.mp loaded
  cases required.symm.trans requiredAgain
  obtain ⟨ticketSheet,_,loaded⟩ := except_bind_ok.mp loaded
  obtain ⟨accountRows,_,loaded⟩ := except_bind_ok.mp loaded
  obtain ⟨accounts,_,loaded⟩ := except_bind_ok.mp loaded
  obtain ⟨sheetAgain,rowsAgain,loaded⟩ := except_bind_ok.mp loaded
  cases sheet.symm.trans rowsAgain
  obtain ⟨orders,built,loaded⟩ := except_bind_ok.mp loaded
  obtain ⟨ticketRows,_,loaded⟩ := except_bind_ok.mp loaded
  obtain ⟨tickets,_,loaded⟩ := except_bind_ok.mp loaded
  obtain ⟨_,_,loaded⟩ := except_bind_ok.mp loaded
  obtain ⟨_,_,loaded⟩ := except_bind_ok.mp loaded
  cases loaded
  obtain ⟨order,member,made⟩ := mapM_item built listed
  exact ⟨order,member,buildOrder_reads made⟩

end Reading

section Credits

variable [Host] {db : Db} {orderId : String} {auth : AuthContext} {clock : SnapshotClock}
  {creditRules : CreditRules} {registry : Registry} {order : Order}

def Promises (db : Db) (orderId : String) : Prop :=
  ∃ auth clock creditRules registry decision outcome,
    (evaluateServiceCredit orderId auth clock creditRules registry).on db = .ok decision ∧
    decision.result = some outcome ∧ outcome.eligible = true

theorem promise_faults (stored : db.orders.row orderId = some order.toRow)
    (promised : Promises db orderId) : order.carrierFault = true ∧ order.customerFault = false := by
  obtain ⟨auth,clock,creditRules,registry,decision,outcome,ran,told,eligible⟩ := promised
  obtain ⟨seen,read,_⟩ := on_bind_ok.mp ran
  have same : seen = order := by
    rw [getOrder_on,stored] at read
    dsimp only at read
    split at read
    · cases read
      exact order_round_trip order clock.tz
    · cases read
  rw [same] at read
  cases credit_cases read ran with
  | denied known fault =>
      cases told
      cases eligible
  | decided known carrier customer resolved ruled applied => exact ⟨carrier,customer⟩

-- No agreement is in the way and the delay is over the threshold.
theorem credit_promised (stored : db.orders.row orderId = some order.toRow)
    (allowed : auth.allowsAccount order.accountId = true)
    (carrier : order.carrierFault = true) (customer : order.customerFault = false)
    (known : registry.defaults .serviceCreditThresholdAndAmount = some (some source))
    (silent : registry.override .serviceCreditThresholdAndAmount order.accountId = none)
    (ruled : creditRules source.1 = some rule)
    (applied : applyCreditRule rule (creditDelay order clock.now) order.shipmentFeeInr =
      .ok (true,credit,note)) : Promises db orderId := by
  have read : (getOrder orderId auth clock.tz).on db = .ok order := by
    rw [getOrder_on,stored]
    dsimp only
    rw [order_round_trip]
    exact if_pos allowed
  have asserted : (registry.assertDefault .serviceCreditThresholdAndAmount).on db = .ok source :=
    assertDefault_ok.mpr known
  obtain ⟨result,resolved,winner⟩ : ∃ result, (resolveApplicability .serviceCreditThresholdAndAmount
      order.accountId clock.now.date registry).on db = .ok result ∧ result.winningSourceId = source.1 :=
    ⟨_,resolve_uncontested db known silent,rfl⟩
  have rules : ruleOf creditRules result.winningSourceId = .ok rule := by
    simp only [ruleOf,winner,ruled]
  refine ⟨auth,clock,creditRules,registry,creditDecision order (creditDelay order clock.now) true credit
    note result (documentRef db result.winningSourceId (some result.winningSection)),_,?_,rfl,rfl⟩
  unfold creditDelay at applied ⊢
  simp only [evaluateServiceCredit,on_bind,read,asserted,Except.bind,carrier,customer,Bool.not_true,
    Bool.or_self,Bool.false_eq_true,if_false,resolved,on_orRaise,rules,applied,citeDocument_ref,on_pure]

-- The default sources alone, a fixed credit for less than the order's delay, and
-- a caller who sees every account
def unamended : Registry := {overrides := []}

def creditBelow (delayHours : Rat) : ServiceCreditRule where
  thresholdHours := delayHours - 1
  kind := .fixedAmount
  fixedAmountInr := some 1

def epochClock : SnapshotClock := ⟨DateTime.epoch⟩

def anyAccount : AuthContext := ⟨.operationsAdmin,none⟩

theorem creditBelow_pays (delayHours : Rat) (fee : PyFloat) :
    ∃ note, applyCreditRule (creditBelow delayHours) delayHours fee = .ok (true,some 1,note) := by
  have late : ¬ delayHours ≤ (creditBelow delayHours).thresholdHours := by
    simp only [creditBelow]
    linarith
  exact ⟨_,if_neg late⟩

theorem faults_promise (stored : db.orders.row orderId = some order.toRow)
    (carrier : order.carrierFault = true) (customer : order.customerFault = false) :
    Promises db orderId := by
  let creditRules : CreditRules := fun _ => some (creditBelow (creditDelay order epochClock.now))
  have allowed : anyAccount.allowsAccount order.accountId = true := rfl
  have known : unamended.defaults .serviceCreditThresholdAndAmount = some (some ("SRC-03","2")) := rfl
  have silent : unamended.override .serviceCreditThresholdAndAmount order.accountId = none := rfl
  have ruled : creditRules "SRC-03" = some (creditBelow (creditDelay order epochClock.now)) := rfl
  obtain ⟨note,applied⟩ := creditBelow_pays (creditDelay order epochClock.now) order.shipmentFeeInr
  exact credit_promised stored allowed carrier customer known silent ruled applied

theorem promised_iff (stored : db.orders.row orderId = some order.toRow) :
    Promises db orderId ↔ order.carrierFault = true ∧ order.customerFault = false :=
  ⟨promise_faults stored,fun faults => faults_promise stored faults.1 faults.2⟩

end Credits

section Sheet

variable [Formats] {book : Workbook} {prepared : Prepared} {ingestedAt : String} {stored : Stored}
  {rows : List SheetRow} {row : SheetRow} {orderId : String}

theorem written_row (loaded : loadWorkbook book = .ok prepared.workbook)
    (written : sqlite.addAll (rowsToWrite prepared ingestedAt) Stored.empty = .ok stored)
    (sheet : orderRows book = .ok rows) (listed : row ∈ rows)
    (named : row.get "order_id" = some (.str orderId)) :
    ∃ order, stored.db.orders.row orderId = some order.toRow ∧ ReadOff row order := by
  obtain ⟨order,member,read⟩ := loadWorkbook_order loaded sheet listed
  have same : order.orderId = orderId := by
    have ids := read.named.symm.trans named
    simpa using ids
  rw [← same]
  exact ⟨order,written_order written member,read⟩

-- No credit unless the sheet says that the carrier is at fault and the customer is not
def PromisedAsStated (db : Db) (orderId : String) (row : SheetRow) : Prop :=
  Promises db orderId → (row.cell "carrier_fault").states = some true ∧
    (row.cell "customer_fault").states = some false

theorem promised_as_stated_iff (loaded : loadWorkbook book = .ok prepared.workbook)
    (written : sqlite.addAll (rowsToWrite prepared ingestedAt) Stored.empty = .ok stored)
    (sheet : orderRows book = .ok rows) (listed : row ∈ rows)
    (named : row.get "order_id" = some (.str orderId)) :
    PromisedAsStated stored.db orderId row ↔
      (row.cell "carrier_fault").truthy = false ∨ (row.cell "customer_fault").truthy = true ∨
        ((row.cell "carrier_fault").states = some true ∧
          (row.cell "customer_fault").states = some false) := by
  obtain ⟨order,present,read⟩ := written_row loaded written sheet listed named
  unfold PromisedAsStated
  rw [promised_iff present,read.carrier,read.customer]
  constructor
  · intro law
    by_cases carrier : (row.cell "carrier_fault").truthy = true
    · by_cases customer : (row.cell "customer_fault").truthy = true
      · exact .inr (.inl customer)
      · rw [Bool.not_eq_true] at customer
        exact .inr (.inr (law ⟨carrier,customer⟩))
    · rw [Bool.not_eq_true] at carrier
      exact .inl carrier
  · intro cells faults
    rcases cells with carrier | customer | stated
    · rw [carrier] at faults
      cases faults.1
    · rw [customer] at faults
      cases faults.2
    · exact stated

end Sheet

-- The carrier's cell reads "False" and the customer's is blank.
def unstatedBook : Workbook := bookOf [orderCells (.str "False") .blank]

def unstatedRow : SheetRow := orderHeader.zip (orderCells (.str "False") .blank)

def kolkataEpoch : DateTime := ⟨Stamp.epoch.wall,19800000000,Stamp.epoch.inRange⟩

def fiveHoursOn : SnapshotClock := ⟨Stamp.epoch.wall + 18000000000,19800000000,by decide⟩

def unstatedOrder : Order where
  orderId := "ORD-1"
  accountId := "ACCT-001"
  carrier := "Acme"
  status := .booked
  bookedAt := kolkataEpoch
  pickupWindowStart := kolkataEpoch
  pickupWindowEnd := kolkataEpoch
  pickupActualAt := none
  shipmentFeeInr := 100
  carrierFault := true
  customerFault := false
  cancellationRequestedAt := none
  notes := ""

def unstatedData : Prepared := ⟨[],[],[],kolkataEpoch,"",
  [⟨"ACCT-001","One","Growth","active","C",none,false,""⟩],[unstatedOrder],[]⟩

theorem unstated_loaded : let _ := asciiFormats bookStamps []
    loadWorkbook unstatedBook = .ok unstatedData.workbook ∧ orderRows unstatedBook = .ok [unstatedRow] := by
  intro _
  constructor
  · decide +kernel
  · decide +kernel

theorem unstated_written : ∃ stored,
    sqlite.addAll (rowsToWrite unstatedData "now") Stored.empty = .ok stored :=
  returned_of_map (by decide +kernel)

-- The default rules pay for it at five hours' delay.
theorem unstated_promised {stored : Stored}
    (written : sqlite.addAll (rowsToWrite unstatedData "now") Stored.empty = .ok stored) :
    let _ := asciiFormats bookStamps []
    Promises stored.db "ORD-1" := by
  intro _
  have listed : unstatedOrder ∈ unstatedData.workbook.orders := by simp [unstatedData]
  have present : stored.db.orders.row "ORD-1" = some unstatedOrder.toRow := written_order written listed
  have known : ({} : Registry).defaults .serviceCreditThresholdAndAmount = some (some ("SRC-03","2")) := rfl
  have silent : ({} : Registry).override .serviceCreditThresholdAndAmount unstatedOrder.accountId = none := by
    decide
  have ruled : defaultCreditRules "SRC-03" = some _ := rfl
  have late : ¬ creditDelay unstatedOrder fiveHoursOn.now ≤ 2 := by decide +kernel
  have allowed : anyAccount.allowsAccount unstatedOrder.accountId = true := rfl
  exact credit_promised present allowed rfl rfl known silent ruled (if_neg late)

theorem unstated_faults_promise : let _ := asciiFormats bookStamps []
    ¬ ∀ (book : Workbook) (prepared : Prepared) (ingestedAt : String) (stored : Stored)
      (rows : List SheetRow) (row : SheetRow) (orderId : String),
      loadWorkbook book = .ok prepared.workbook →
      sqlite.addAll (rowsToWrite prepared ingestedAt) Stored.empty = .ok stored →
      orderRows book = .ok rows → row ∈ rows → row.get "order_id" = some (.str orderId) →
      PromisedAsStated stored.db orderId row := by
  intro _ law
  obtain ⟨loaded,sheet⟩ := unstated_loaded
  obtain ⟨stored,written⟩ := unstated_written
  have stated := law unstatedBook unstatedData "now" stored [unstatedRow] unstatedRow "ORD-1" loaded
    written sheet List.mem_cons_self (by decide) (unstated_promised written)
  exact absurd stated.2 (by decide)

theorem promised_as_stated_unstated : let _ := asciiFormats bookStamps []
    ∃ stored, sqlite.addAll (rowsToWrite unstatedData "now") Stored.empty = .ok stored ∧
      (PromisedAsStated stored.db "ORD-1" unstatedRow ↔
        (unstatedRow.cell "carrier_fault").truthy = false ∨
          (unstatedRow.cell "customer_fault").truthy = true ∨
          ((unstatedRow.cell "carrier_fault").states = some true ∧
            (unstatedRow.cell "customer_fault").states = some false)) := by
  intro _
  obtain ⟨loaded,sheet⟩ := unstated_loaded
  obtain ⟨stored,written⟩ := unstated_written
  have named : unstatedRow.get "order_id" = some (.str "ORD-1") := by decide
  exact ⟨stored,written,promised_as_stated_iff loaded written sheet List.mem_cons_self named⟩

end ParcelPilot
