import ParcelPilot.RadarRecords

namespace ParcelPilot

-- What an overdue alert states of an order.
structure Overdue (order : Order) (snapshot : DateTime) : Prop where
  booked : order.status = .booked
  uncollected : order.pickupActualAt = none
  uncancelled : order.cancellationRequestedAt = none
  elapsed : order.pickupWindowEnd < snapshot

section Rule

variable [Host] {db : Db} {auth : AuthContext} {clock : SnapshotClock} {order : Order}

def OverdueAlerted (alerts : List AlertCandidate) (orderId : String) : Prop :=
  ∃ alert ∈ alerts, alert.alertType = .overduePickup ∧ alert.representativeRecords = [orderId]

def OverdueExact (db : Db) (auth : AuthContext) (clock : SnapshotClock) : Prop :=
  ∃ alerts, (detectOverduePickups auth clock).on db = .ok alerts ∧
    ∀ order, (getOrder order.orderId auth clock.tz).on db = .ok order →
      (OverdueAlerted alerts order.orderId ↔ Overdue order clock.now)

theorem overduePickupAlert_raises {snapshot : DateTime} :
    (∃ alert, overduePickupAlert snapshot order = some alert) ↔
      order.pickupActualAt = none ∧ order.pickupWindowEnd < snapshot := by
  unfold overduePickupAlert
  split
  · rename_i quiet
    refine iff_of_false (by simp) ?_
    intro overdue
    rcases overdue with ⟨uncollected,elapsed⟩
    rcases quiet with collected | waiting
    · simp [uncollected] at collected
    · exact absurd elapsed (Int.not_lt.mpr waiting)
  · rename_i overdue
    rw [not_or] at overdue
    exact iff_of_true ⟨_,rfl⟩ ⟨by simpa using overdue.1,Int.not_le.mp overdue.2⟩

theorem overdue_alerted (read : (getOrder order.orderId auth clock.tz).on db = .ok order) :
    OverdueAlerted ((bookedOrders db auth clock).filterMap (overduePickupAlert clock.now))
        order.orderId ↔
      order.status = .booked ∧ order.pickupActualAt = none ∧ order.pickupWindowEnd < clock.now := by
  rw [← overduePickupAlert_raises]
  constructor
  · intro alerted
    rcases alerted with ⟨alert,member,_,records⟩
    obtain ⟨other,listed,raises⟩ := List.mem_filterMap.mp member
    obtain ⟨again,booked⟩ := mem_bookedOrders.mp listed
    have same := (overduePickupAlert_facts raises).2.2.2
    rw [records,List.singleton_inj] at same
    rw [← same,read] at again
    cases Except.ok.inj again
    exact ⟨booked,alert,raises⟩
  · intro overdue
    rcases overdue with ⟨booked,alert,raises⟩
    obtain ⟨typed,_,_,records⟩ := overduePickupAlert_facts raises
    exact ⟨alert,List.mem_filterMap.mpr ⟨order,mem_bookedOrders.mpr ⟨read,booked⟩,raises⟩,typed,records⟩

-- The rule never asks for the cancellation that its alerts deny.
theorem overdue_exact_iff (db : Db) (auth : AuthContext) (clock : SnapshotClock) :
    OverdueExact db auth clock ↔
      ∀ order, (getOrder order.orderId auth clock.tz).on db = .ok order → order.status = .booked →
        order.pickupActualAt = none → order.pickupWindowEnd < clock.now →
          order.cancellationRequestedAt = none := by
  constructor
  · intro exact_ order read booked uncollected elapsed
    rcases exact_ with ⟨alerts,ran,law⟩
    cases Except.ok.inj (detectOverduePickups_on.symm.trans ran)
    have alerted := (overdue_alerted read).mpr ⟨booked,uncollected,elapsed⟩
    exact ((law order read).mp alerted).uncancelled
  · intro uncancelled
    refine ⟨_,detectOverduePickups_on,fun order read => ?_⟩
    rw [overdue_alerted read]
    constructor
    · intro alerted
      rcases alerted with ⟨booked,uncollected,elapsed⟩
      exact ⟨booked,uncollected,uncancelled order read booked uncollected elapsed,elapsed⟩
    · intro overdue
      rcases overdue with ⟨booked,uncollected,_,elapsed⟩
      exact ⟨booked,uncollected,elapsed⟩

end Rule

-- Booked and never collected; the customer has asked for its cancellation.
def withdrawnOrder : OrderRow where
  orderId := "ORD-900"
  accountId := "ACCT-001"
  carrier := "SwiftShip"
  status := .booked
  bookedAt := .epoch
  pickupWindowStart := .epoch
  pickupWindowEnd := .epoch
  pickupActualAt := none
  shipmentFeeInr := 1800
  carrierFault := false
  customerFault := false
  cancellationRequestedAt := some .epoch
  notes := ""

def withdrawnOrders : Db := {Db.empty with orders := ⟨[withdrawnOrder],by simp⟩}

-- 1970-01-02
def dayAfter : SnapshotClock := ⟨⟨719163 * microsPerDay,0,by decide⟩⟩

theorem withdrawn_alerted : let _ := asciiHost [] []
    ¬ OverdueExact withdrawnOrders ⟨.operationsAdmin,none⟩ dayAfter := by
  intro _ exact_
  have read : (getOrder "ORD-900" ⟨.operationsAdmin,none⟩ dayAfter.tz).on withdrawnOrders =
      .ok (withdrawnOrder.toOrder dayAfter.tz) := getOrder_ok.mpr ⟨_,rfl,rfl,rfl⟩
  obtain ⟨alerts,ran,law⟩ := exact_
  cases Except.ok.inj (detectOverduePickups_on.symm.trans ran)
  have elapsed : (withdrawnOrder.toOrder dayAfter.tz).pickupWindowEnd < dayAfter.now := by decide
  have stated := (law _ read).mp ((overdue_alerted read).mpr ⟨rfl,rfl,elapsed⟩)
  cases stated.uncancelled

end ParcelPilot
