import ParcelPilot.Visibility
import ParcelPilot.Planning

namespace ParcelPilot

open Fallible

-- Which of an id's rows a caller confined to `scope` can and cannot see.
section Rows

variable (db : Db) (scope : List String)

def HiddenOrder (orderId : String) : Prop :=
  ∃ row ∈ db.orders.rows, row.orderId = orderId ∧ row.accountId ∉ scope

def HiddenTicket (ticketId : String) : Prop :=
  ∃ row ∈ db.tickets.rows, row.ticketId = ticketId ∧ row.accountId ∉ scope

def VisibleAccount (accountId : String) : Prop :=
  accountId ∈ scope ∧ ∃ row ∈ db.accounts.rows, row.accountId = accountId

-- The id has a visible row, but a hidden one of the same id is found first.
def Shadowed (entityId : String) : Prop :=
  HiddenOrder db scope entityId ∧ (VisibleTicket db scope entityId ∨ VisibleAccount db scope entityId) ∨
    ¬ VisibleOrder db scope entityId ∧ HiddenTicket db scope entityId ∧
      VisibleAccount db scope entityId

instance (entityId : String) : Decidable (VisibleOrder db scope entityId) :=
  inferInstanceAs (Decidable (∃ row ∈ db.orders.rows, _ ∧ _))

instance (entityId : String) : Decidable (VisibleTicket db scope entityId) :=
  inferInstanceAs (Decidable (∃ row ∈ db.tickets.rows, _ ∧ _))

instance (entityId : String) : Decidable (HiddenOrder db scope entityId) :=
  inferInstanceAs (Decidable (∃ row ∈ db.orders.rows, _ ∧ _))

instance (entityId : String) : Decidable (HiddenTicket db scope entityId) :=
  inferInstanceAs (Decidable (∃ row ∈ db.tickets.rows, _ ∧ _))

instance (entityId : String) : Decidable (VisibleAccount db scope entityId) :=
  inferInstanceAs (Decidable (_ ∧ ∃ row ∈ db.accounts.rows, _))

instance (entityId : String) : Decidable (Shadowed db scope entityId) :=
  inferInstanceAs (Decidable (_ ∧ (_ ∨ _) ∨ ¬ _ ∧ _ ∧ _))

end Rows

-- What the three lookups make of an id, read off the stored rows.
def kindSeen (db : Db) (auth : AuthContext) (entityId : String) : Option EntityKind :=
  match db.orders.row entityId,db.tickets.row entityId,db.accounts.row entityId with
  | some order,_,_ => if auth.allowsAccount order.accountId then some .order else none
  | none,some ticket,_ => if auth.allowsAccount ticket.accountId then some .ticket else none
  | none,none,some _ => if auth.allowsAccount entityId then some .account else none
  | none,none,none => none

def namedAccounts [Host] (db : Db) (question : String) (auth : AuthContext) : List String :=
  ((db.accounts.rows.map fun row => (row.accountId,row.accountName)).filter
    (nameMatches question auth)).map (·.1)

-- What is resolved, from the kinds of the ids and the accounts named.
def entitiesOf (resolved : List (Option EntityKind × String)) (named : List String) :
    EntityResolution :=
  let entities : EntityResolution := {
    orderIds := bucket (some .order) resolved
    ticketIds := bucket (some .ticket) resolved
    accountIds := bucket (some .account) resolved
    unresolvedMentions := bucket none resolved }
  if entities.orderIds.isEmpty && entities.ticketIds.isEmpty && entities.accountIds.isEmpty then
    match named with
    | [] => entities
    | [accountId] => {entities with accountIds := [accountId]}
    | several => {entities with ambiguousAccountNames := several}
  else entities

section Lookups

variable [Host] {db : Db} {auth : AuthContext}

theorem tryCheckers_on (kind : EntityKind) (checker : Query Unit)
    (rest : List (EntityKind × Query Unit)) :
    (tryCheckers ((kind,checker) :: rest)).on db = match checker.on db with
      | .ok _ => .ok (some kind)
      | .error (.unknownEntity ..) => (tryCheckers rest).on db
      | .error (.notAuthorized _) => .ok none
      | .error exc => .error exc := by
  rw [tryCheckers,on_bind,on_attempt]
  rcases checker.on db with exc | _
  · cases exc <;> rfl
  · rfl

theorem resolveMention_on (tz : Int) (entityId : String) :
    (resolveMention auth tz entityId).on db = .ok (some (kindSeen db auth entityId,entityId)) := by
  have tried : (tryCheckers (checkers auth tz entityId)).on db = .ok (kindSeen db auth entityId) := by
    simp only [checkers,tryCheckers_on,on_bind,getOrder_on,getTicket_on,getAccount_on,kindSeen]
    cases db.orders.row entityId with
    | some order =>
        by_cases allowed : auth.allowsAccount order.accountId = true <;>
          simp only [allowed,if_true] <;> rfl
    | none =>
        cases db.tickets.row entityId with
        | some ticket =>
            by_cases allowed : auth.allowsAccount ticket.accountId = true <;>
              simp only [allowed,if_true] <;> rfl
        | none =>
            cases db.accounts.row entityId with
            | some account =>
                by_cases allowed : auth.allowsAccount entityId = true <;>
                  simp only [allowed,if_true] <;> rfl
            | none =>
                by_cases allowed : auth.allowsAccount entityId = true <;>
                  simp only [allowed,if_true] <;> rfl
  rw [resolveMention,on_bind,tried]
  rfl

theorem collect_on {choose : α → Query (Option β)} {chosen : α → β} (items : List α)
    (each : ∀ item, (choose item).on db = .ok (some (chosen item))) :
    Query.on (collect choose items) db = .ok (items.map chosen) := by
  refine on_collect.mpr ⟨fun item _ => ⟨_,each item⟩,?_⟩
  simp [each,Except.toOption]

theorem resolveEntities_on (question : String) (clock : SnapshotClock) :
    (resolveEntities question auth clock).on db = .ok (entitiesOf
      ((mentions question).map fun entityId => (kindSeen db auth entityId,entityId))
      (namedAccounts db question auth)) := by
  unfold resolveEntities
  rw [on_bind,collect_on (mentions question) (resolveMention_on clock.tz)]
  simp only [Except.bind,entitiesOf]
  split
  · rw [on_bind,matchAccountNames,on_bind,on_select]
    change Query.on (match namedAccounts db question auth with
      | [] => pure _
      | [accountId] => pure _
      | several => pure _) db = _
    split <;> rfl
  · rfl

end Lookups

-- A kind is only given to an id whose row the caller may access.
def Accessible (db : Db) (auth : AuthContext) : EntityKind → String → Prop
  | .order,orderId => ∃ row, db.orders.row orderId = some row ∧ auth.allowsAccount row.accountId = true
  | .ticket,ticketId =>
      ∃ row, db.tickets.row ticketId = some row ∧ auth.allowsAccount row.accountId = true
  | .account,accountId =>
      (∃ row, db.accounts.row accountId = some row) ∧ auth.allowsAccount accountId = true

theorem kindSeen_accessible {db : Db} {auth : AuthContext} {entityId : String} {kind : EntityKind}
    (seen : kindSeen db auth entityId = some kind) : Accessible db auth kind entityId := by
  unfold kindSeen at seen
  split at seen
  · rename_i order found
    split at seen
    · cases seen
      exact ⟨order,found,by assumption⟩
    · cases seen
  · rename_i ticket _ found
    split at seen
    · cases seen
      exact ⟨ticket,found,by assumption⟩
    · cases seen
  · rename_i account _ _ found
    split at seen
    · cases seen
      exact ⟨⟨account,found⟩,by assumption⟩
    · cases seen
  · cases seen

theorem mem_bucket {kind : Option EntityKind} {resolved : List (Option EntityKind × String)}
    {entityId : String} : entityId ∈ bucket kind resolved ↔ (kind,entityId) ∈ resolved := by
  simp [bucket]

theorem mem_kinds {seen : String → Option EntityKind} {ids : List String}
    {kind : Option EntityKind} {entityId : String} :
    entityId ∈ bucket kind (ids.map fun mention => (seen mention,mention)) ↔
      entityId ∈ ids ∧ seen entityId = kind := by
  rw [mem_bucket,List.mem_map]
  constructor
  · rintro ⟨_,mentioned,same⟩
    cases same
    exact ⟨mentioned,rfl⟩
  · rintro ⟨mentioned,rfl⟩
    exact ⟨entityId,mentioned,rfl⟩

section Entities

variable {resolved : List (Option EntityKind × String)} {named : List String}

@[simp] theorem entitiesOf_orderIds :
    (entitiesOf resolved named).orderIds = bucket (some .order) resolved := by
  unfold entitiesOf
  dsimp only
  repeat' split
  all_goals rfl

@[simp] theorem entitiesOf_ticketIds :
    (entitiesOf resolved named).ticketIds = bucket (some .ticket) resolved := by
  unfold entitiesOf
  dsimp only
  repeat' split
  all_goals rfl

@[simp] theorem entitiesOf_unresolved :
    (entitiesOf resolved named).unresolvedMentions = bucket none resolved := by
  unfold entitiesOf
  dsimp only
  repeat' split
  all_goals rfl

-- Names matter when no id was resolved at all.
def NoneResolved (resolved : List (Option EntityKind × String)) : Prop :=
  ∀ kind, bucket (some kind) resolved = []

theorem entitiesOf_some (found : ¬ NoneResolved resolved) :
    (entitiesOf resolved named).accountIds = bucket (some .account) resolved ∧
      (entitiesOf resolved named).ambiguousAccountNames = [] := by
  unfold entitiesOf
  dsimp only
  split
  · rename_i empty
    simp only [Bool.and_eq_true,List.isEmpty_iff] at empty
    refine absurd (fun kind => ?_) found
    cases kind with
    | order => exact empty.1.1
    | ticket => exact empty.1.2
    | account => exact empty.2
  · exact ⟨rfl,rfl⟩

theorem entitiesOf_none (missing : NoneResolved resolved) :
    (entitiesOf resolved named).accountIds = (if named.length = 1 then named else []) ∧
      (entitiesOf resolved named).ambiguousAccountNames =
        (if 1 < named.length then named else []) := by
  have orders := missing .order
  have tickets := missing .ticket
  have accounts := missing .account
  unfold entitiesOf
  simp only [orders,tickets,accounts,List.isEmpty_nil,Bool.and_self,if_true]
  rcases named with _ | ⟨first,_ | ⟨second,rest⟩⟩ <;> simp

theorem entitiesOf_named (missing : NoneResolved resolved) {other : List String} :
    entitiesOf resolved named = entitiesOf resolved other ↔ named = other := by
  refine ⟨fun same => ?_,fun same => by rw [same]⟩
  have one := @entitiesOf_none resolved named missing
  have two := @entitiesOf_none resolved other missing
  rw [same] at one
  rw [one.1,one.2] at two
  obtain ⟨single,several⟩ := two
  rcases named with _ | ⟨first,_ | ⟨second,rest⟩⟩ <;>
    rcases other with _ | ⟨other,_ | ⟨next,others⟩⟩ <;> simp_all

theorem noneResolved_iff {seen : String → Option EntityKind} {ids : List String} :
    NoneResolved (ids.map fun mention => (seen mention,mention)) ↔ ∀ entityId ∈ ids, seen entityId = none := by
  constructor
  · intro missing entityId mentioned
    cases found : seen entityId with
    | none => rfl
    | some kind =>
        have found := mem_kinds.mpr ⟨mentioned,found⟩
        rw [missing kind] at found
        cases found
  · intro missing kind
    refine List.eq_nil_iff_forall_not_mem.mpr fun entityId found => ?_
    obtain ⟨mentioned,seen⟩ := mem_kinds.mp found
    rw [missing entityId mentioned] at seen
    cases seen

theorem entitiesOf_iff {seen other : String → Option EntityKind} {ids listed : List String} :
    entitiesOf (ids.map fun mention => (seen mention,mention)) named =
        entitiesOf (ids.map fun mention => (other mention,mention)) listed ↔
      (∀ entityId ∈ ids, seen entityId = other entityId) ∧
        ((∃ entityId ∈ ids, seen entityId ≠ none) ∨ named = listed) := by
  constructor
  · intro same
    have kinds : ∀ entityId ∈ ids, seen entityId = other entityId := by
      intro entityId mentioned
      have agree (kind : Option EntityKind) (buckets :
          bucket kind (ids.map fun mention => (seen mention,mention)) =
            bucket kind (ids.map fun mention => (other mention,mention))) :
          seen entityId = kind ↔ other entityId = kind := by
        have both := congrArg (entityId ∈ ·) buckets
        simpa only [mem_kinds,mentioned,true_and,eq_iff_iff] using both
      have orders := agree (some .order) (by
        simpa only [entitiesOf_orderIds] using congrArg EntityResolution.orderIds same)
      have tickets := agree (some .ticket) (by
        simpa only [entitiesOf_ticketIds] using congrArg EntityResolution.ticketIds same)
      have unresolved := agree none (by
        simpa only [entitiesOf_unresolved] using congrArg EntityResolution.unresolvedMentions same)
      -- what is neither is an account
      rcases one : seen entityId with _ | _ | _ | _ <;>
        rcases two : other entityId with _ | _ | _ | _ <;> simp_all
    refine ⟨kinds,?_⟩
    by_cases missing : ∀ entityId ∈ ids, seen entityId = none
    · right
      have alike : (ids.map fun mention => (seen mention,mention)) =
          ids.map fun mention => (other mention,mention) :=
        List.map_congr_left fun mention mentioned => by rw [kinds mention mentioned]
      rw [← alike] at same
      exact (entitiesOf_named (noneResolved_iff.mpr missing)).mp same
    · left
      simpa using missing
  · rintro ⟨kinds,rest⟩
    have alike : (ids.map fun mention => (seen mention,mention)) =
        ids.map fun mention => (other mention,mention) :=
      List.map_congr_left fun mention mentioned => by rw [kinds mention mentioned]
    rw [← alike]
    rcases rest with ⟨entityId,mentioned,found⟩ | same
    · have some_ : ¬ NoneResolved (ids.map fun mention => (seen mention,mention)) := fun missing =>
        found (noneResolved_iff.mp missing entityId mentioned)
      have one := @entitiesOf_some _ named some_
      have two := @entitiesOf_some _ listed some_
      rw [EntityResolution.mk.injEq]
      simp only [entitiesOf_orderIds,entitiesOf_ticketIds,entitiesOf_unresolved,one,two,and_self]
    · rw [same]

end Entities

section Shadows

variable {db one two : Db} {scope : List String} {auth : AuthContext} {entityId : String}

-- What an id resolves to when no hidden row stands in its way.
def clearKind (db : Db) (scope : List String) (entityId : String) : Option EntityKind :=
  if VisibleOrder db scope entityId then some .order
  else if VisibleTicket db scope entityId then some .ticket
  else if VisibleAccount db scope entityId then some .account
  else none

theorem clearKind_alike (view : SameView scope one two) (entityId : String) :
    clearKind one scope entityId = clearKind two scope entityId := by
  have orders : VisibleOrder one scope entityId ↔ VisibleOrder two scope entityId := by
    constructor <;> rintro ⟨row,stored,named,inside⟩
    · exact ⟨row,(view.orders row inside).mp stored,named,inside⟩
    · exact ⟨row,(view.orders row inside).mpr stored,named,inside⟩
  have tickets : VisibleTicket one scope entityId ↔ VisibleTicket two scope entityId := by
    constructor <;> rintro ⟨row,stored,named,inside⟩
    · exact ⟨row,(view.tickets row inside).mp stored,named,inside⟩
    · exact ⟨row,(view.tickets row inside).mpr stored,named,inside⟩
  have accounts : VisibleAccount one scope entityId ↔ VisibleAccount two scope entityId := by
    constructor <;> rintro ⟨inside,row,stored,rfl⟩
    · exact ⟨inside,row,(view.accounts row inside).mp stored,rfl⟩
    · exact ⟨inside,row,(view.accounts row inside).mpr stored,rfl⟩
  unfold clearKind
  simp only [orders,tickets,accounts]

theorem visibleOrder_row {row : OrderRow} (found : db.orders.row entityId = some row) :
    (VisibleOrder db scope entityId ↔ row.accountId ∈ scope) ∧
      (HiddenOrder db scope entityId ↔ row.accountId ∉ scope) := by
  obtain ⟨stored,named⟩ := Table.row_eq_some.mp found
  constructor
  all_goals
    refine ⟨?_,fun inside => ⟨row,stored,named,inside⟩⟩
    rintro ⟨other,here,same,inside⟩
    rwa [db.orders.same_row stored here (named.trans same.symm)]

theorem visibleTicket_row {row : TicketRow} (found : db.tickets.row entityId = some row) :
    (VisibleTicket db scope entityId ↔ row.accountId ∈ scope) ∧
      (HiddenTicket db scope entityId ↔ row.accountId ∉ scope) := by
  obtain ⟨stored,named⟩ := Table.row_eq_some.mp found
  constructor
  all_goals
    refine ⟨?_,fun inside => ⟨row,stored,named,inside⟩⟩
    rintro ⟨other,here,same,inside⟩
    rwa [db.tickets.same_row stored here (named.trans same.symm)]

theorem no_order (missing : db.orders.row entityId = none) :
    ¬ VisibleOrder db scope entityId ∧ ¬ HiddenOrder db scope entityId := by
  have absent := Table.row_eq_none.mp missing
  constructor <;> rintro ⟨row,stored,named,_⟩ <;> exact absent row stored named

theorem no_ticket (missing : db.tickets.row entityId = none) :
    ¬ VisibleTicket db scope entityId ∧ ¬ HiddenTicket db scope entityId := by
  have absent := Table.row_eq_none.mp missing
  constructor <;> rintro ⟨row,stored,named,_⟩ <;> exact absent row stored named

theorem visibleAccount_row :
    VisibleAccount db scope entityId ↔ entityId ∈ scope ∧ (db.accounts.row entityId).isSome := by
  unfold VisibleAccount
  rw [Option.isSome_iff_exists]
  simp only [Table.row_eq_some]

theorem kindSeen_shadowed (confined : auth.accountScope = some scope) :
    kindSeen db auth entityId =
      if Shadowed db scope entityId then none else clearKind db scope entityId := by
  have allowed (accountId : String) := allows_iff confined accountId
  unfold kindSeen Shadowed clearKind
  cases found : db.orders.row entityId with
  | some order =>
      have rows := @visibleOrder_row db scope entityId order found
      by_cases inside : order.accountId ∈ scope
      · simp [rows,allowed,inside]
      · by_cases ticket : VisibleTicket db scope entityId <;>
          by_cases account : VisibleAccount db scope entityId <;>
            simp [rows,allowed,inside,ticket,account]
  | none =>
      have orders := @no_order db scope entityId found
      cases found : db.tickets.row entityId with
      | some ticket =>
          have rows := @visibleTicket_row db scope entityId ticket found
          by_cases inside : ticket.accountId ∈ scope
          · simp [orders,rows,allowed,inside]
          · by_cases account : VisibleAccount db scope entityId <;>
              simp [orders,rows,allowed,inside,account]
      | none =>
          have tickets := @no_ticket db scope entityId found
          simp only [orders,tickets,visibleAccount_row]
          cases db.accounts.row entityId <;>
            by_cases inside : entityId ∈ scope <;> simp [allowed,inside]

theorem shadowed_clear (shadowed : Shadowed db scope entityId) :
    clearKind db scope entityId ≠ none := by
  unfold clearKind
  rcases shadowed with ⟨_,ticket | account⟩ | ⟨_,_,account⟩
  · rw [if_pos ticket]
    split <;> simp
  · rw [if_pos account]
    repeat' split
    all_goals simp
  · rw [if_pos account]
    repeat' split
    all_goals simp

theorem kindSeen_iff (view : SameView scope one two) (confined : auth.accountScope = some scope) :
    kindSeen one auth entityId = kindSeen two auth entityId ↔
      (Shadowed one scope entityId ↔ Shadowed two scope entityId) := by
  rw [kindSeen_shadowed confined,kindSeen_shadowed confined,clearKind_alike view]
  by_cases here : Shadowed one scope entityId <;> by_cases there : Shadowed two scope entityId
  · simp [here,there]
  · have known := shadowed_clear here
    rw [clearKind_alike view] at known
    simpa [here,there] using known.symm
  · simpa [here,there] using shadowed_clear there
  · simp [here,there]

-- An id that resolves to something.
def Recognised (db : Db) (scope : List String) (entityId : String) : Prop :=
  ¬ Shadowed db scope entityId ∧ (VisibleOrder db scope entityId ∨
    VisibleTicket db scope entityId ∨ VisibleAccount db scope entityId)

instance (entityId : String) : Decidable (Recognised db scope entityId) :=
  inferInstanceAs (Decidable (¬ _ ∧ (_ ∨ _ ∨ _)))

theorem recognised_iff (confined : auth.accountScope = some scope) :
    Recognised db scope entityId ↔ kindSeen db auth entityId ≠ none := by
  rw [kindSeen_shadowed confined]
  unfold Recognised clearKind
  by_cases shadowed : Shadowed db scope entityId
  · simp [shadowed]
  · rw [if_neg shadowed]
    repeat' split
    all_goals simp_all

end Shadows

section Named

variable [Host] {db : Db} {auth : AuthContext} {question : String} {clock : SnapshotClock}
  {entities : EntityResolution}

theorem mem_namedAccounts {accountId : String} (named : accountId ∈ namedAccounts db question auth) :
    Accessible db auth .account accountId := by
  obtain ⟨pair,kept,rfl⟩ := List.mem_map.mp named
  obtain ⟨listed,chosen⟩ := List.mem_filter.mp kept
  obtain ⟨row,stored,rfl⟩ := List.mem_map.mp listed
  simp only [nameMatches,Bool.and_eq_true] at chosen
  exact ⟨⟨row,Table.row_eq_some.mpr ⟨stored,rfl⟩⟩,chosen.2⟩

-- The rows that decide what a question refers to: the same ids stand behind a
-- hidden row, and the accounts named come in one order wherever names count.
def SameMentions (one two : Db) (scope : List String) (question : String) (auth : AuthContext) : Prop :=
  (∀ entityId ∈ mentions question, (Shadowed one scope entityId ↔ Shadowed two scope entityId)) ∧
    ((∃ entityId ∈ mentions question, Recognised one scope entityId) ∨
      namedAccounts one question auth = namedAccounts two question auth)

theorem resolveEntities_iff {one two : Db} {scope : List String} (view : SameView scope one two)
    (confined : auth.accountScope = some scope) :
    (resolveEntities question auth clock).on one = (resolveEntities question auth clock).on two ↔
      SameMentions one two scope question auth := by
  rw [resolveEntities_on,resolveEntities_on,Except.ok.injEq,entitiesOf_iff]
  unfold SameMentions
  simp only [kindSeen_iff view confined,recognised_iff confined]

theorem resolved_orders (resolved : (resolveEntities question auth clock).on db = .ok entities) :
    ∀ orderId ∈ entities.orderIds, Accessible db auth .order orderId := by
  rw [resolveEntities_on] at resolved
  cases Except.ok.inj resolved
  intro orderId found
  rw [entitiesOf_orderIds,mem_kinds] at found
  exact kindSeen_accessible found.2

theorem resolved_tickets (resolved : (resolveEntities question auth clock).on db = .ok entities) :
    ∀ ticketId ∈ entities.ticketIds, Accessible db auth .ticket ticketId := by
  rw [resolveEntities_on] at resolved
  cases Except.ok.inj resolved
  intro ticketId found
  rw [entitiesOf_ticketIds,mem_kinds] at found
  exact kindSeen_accessible found.2

theorem resolved_accounts (resolved : (resolveEntities question auth clock).on db = .ok entities) :
    ∀ accountId ∈ entities.accountIds, Accessible db auth .account accountId := by
  rw [resolveEntities_on] at resolved
  cases Except.ok.inj resolved
  intro accountId found
  by_cases missing : NoneResolved
      ((mentions question).map fun entityId => (kindSeen db auth entityId,entityId))
  · rw [(entitiesOf_none missing).1] at found
    split at found
    · exact mem_namedAccounts found
    · cases found
  · rw [(entitiesOf_some missing).1,mem_kinds] at found
    exact kindSeen_accessible found.2

end Named

end ParcelPilot
