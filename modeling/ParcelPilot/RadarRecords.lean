import ParcelPilot.RadarAlerts

namespace ParcelPilot

theorem shown_ok {result : Except ε α} {view : α → β} {shown : β}
    (told : result.map view = .ok shown) : ∃ value, result = .ok value ∧ view value = shown := by
  cases result with
  | error error => cases told
  | ok value => exact ⟨value,rfl,Except.ok.inj told⟩

section Records

variable [Host] {db : Db} {auth : AuthContext} {clock : SnapshotClock} {cutoff : DateTime}
  {windowDays : Int} {ticket : Ticket} {order : Order}

-- Created at or after snapshot minus window, as points in time.
def SnapshotClock.covers (clock : SnapshotClock) (windowDays : Int) (ticket : Ticket) : Bool :=
  decide (clock.now.instant - windowDays * microsPerDay ≤ ticket.createdAt.instant)

omit [Host] in
theorem covers_iff (within : clock.now.minusDays windowDays = .ok cutoff) :
    clock.covers windowDays ticket = true ↔ cutoff ≤ ticket.createdAt := by
  rw [SnapshotClock.covers,decide_eq_true_eq,← DateTime.minusDays_instant within]
  rfl

theorem ticket_listed {status : Option TicketStatus} :
    ticket ∈ (db.tickets.listing (Db.ticketChosen auth.accountScope none status)).map
        (·.toTicket clock.tz) ↔
      (getTicket ticket.ticketId auth clock.tz).on db = .ok ticket ∧
        Db.admits status ticket.status = true := by
  rw [getTicket_ok,List.mem_map]
  constructor
  · intro listing
    rcases listing with ⟨row,listed,rfl⟩
    obtain ⟨stored,chosen⟩ := Table.mem_listing.mp listed
    simp only [Db.ticketChosen,admitsAny_scope,Db.admits,Bool.and_true,Bool.and_eq_true] at chosen
    exact ⟨⟨row,Table.row_eq_some.mpr ⟨stored,rfl⟩,chosen.1,rfl⟩,chosen.2⟩
  · intro reads
    rcases reads with ⟨⟨row,found,allowed,rfl⟩,admitted⟩
    refine ⟨row,Table.mem_listing.mpr ⟨(Table.row_eq_some.mp found).1,?_⟩,rfl⟩
    simp only [Db.ticketChosen,admitsAny_scope,Bool.and_eq_true]
    exact ⟨⟨allowed,rfl⟩,admitted⟩

theorem order_listed {status : Option OrderStatus} :
    order ∈ (db.orders.listing (Db.orderChosen auth.accountScope none status none)).map
        (·.toOrder clock.tz) ↔
      (getOrder order.orderId auth clock.tz).on db = .ok order ∧
        Db.admits status order.status = true := by
  rw [getOrder_ok,List.mem_map]
  constructor
  · intro listing
    rcases listing with ⟨row,listed,rfl⟩
    obtain ⟨stored,chosen⟩ := Table.mem_listing.mp listed
    simp only [Db.orderChosen,admitsAny_scope,Db.admits,Bool.and_true,Bool.and_eq_true] at chosen
    exact ⟨⟨row,Table.row_eq_some.mpr ⟨stored,rfl⟩,chosen.1,rfl⟩,chosen.2⟩
  · intro reads
    rcases reads with ⟨⟨row,found,allowed,rfl⟩,admitted⟩
    refine ⟨row,Table.mem_listing.mpr ⟨(Table.row_eq_some.mp found).1,?_⟩,rfl⟩
    simp only [Db.orderChosen,admitsAny_scope,Bool.and_eq_true]
    exact ⟨⟨⟨allowed,rfl⟩,admitted⟩,rfl⟩

theorem mem_openTickets : ticket ∈ openTickets db auth clock ↔
    (getTicket ticket.ticketId auth clock.tz).on db = .ok ticket ∧ ticket.status = .open_ := by
  rw [openTickets,ticket_listed]
  simp [Db.admits]

theorem mem_recentTickets : ticket ∈ recentTickets db auth clock cutoff ↔
    (getTicket ticket.ticketId auth clock.tz).on db = .ok ticket ∧ cutoff ≤ ticket.createdAt := by
  rw [recentTickets,List.mem_filter,ticket_listed]
  simp [Db.admits]

theorem mem_bookedOrders : order ∈ bookedOrders db auth clock ↔
    (getOrder order.orderId auth clock.tz).on db = .ok order ∧ order.status = .booked := by
  rw [bookedOrders,order_listed]
  simp [Db.admits]

theorem mem_faultyOrders : order ∈ faultyOrders db auth clock cutoff ↔
    (getOrder order.orderId auth clock.tz).on db = .ok order ∧ order.carrierFault = true ∧
      cutoff ≤ order.bookedAt := by
  rw [faultyOrders,List.mem_filter,order_listed]
  simp only [Db.admits,and_true,Bool.and_eq_true,Bool.not_eq_true',decide_eq_false_iff_not]
  exact and_congr_right fun _ => and_congr_right fun _ => Int.not_lt

omit [Host] in
theorem tickets_distinct (chosen : TicketRow → Bool) :
    (((db.tickets.listing chosen).map (·.toTicket clock.tz)).map (·.ticketId)).Nodup := by
  rw [List.map_map]
  exact db.tickets.listing_keys_nodup chosen

omit [Host] in
theorem orders_distinct (chosen : OrderRow → Bool) :
    (((db.orders.listing chosen).map (·.toOrder clock.tz)).map (·.orderId)).Nodup := by
  rw [List.map_map]
  exact db.orders.listing_keys_nodup chosen

end Records

end ParcelPilot
