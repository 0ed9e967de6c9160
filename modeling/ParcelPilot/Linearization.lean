import ParcelPilot.Interleaving

namespace ParcelPilot.Interleaving

variable {Op : Type} {Ans : Op → Type} {σ Call α β γ : Type}

section Scripts

variable (onward : σ → σ → Prop) (step : ∀ op, σ → Ans op × σ) (agree : β → β → Prop)

-- A call that took effect and owes the answer `told`: the rest of it only reads.
def Determined (told : β) : Script Op Ans β → σ → Prop
  | .ret value,_ => agree value told
  | .exec op next,store => ∀ s, onward store s →
      (step op s).2 = s ∧ Determined told (next (step op s).1) s

-- A call that has only read so far. Each operation still to come reads again, or
-- is the one at which the whole call happens, as it would alone.
def Awaits (alone : σ → β × σ) : Script Op Ans β → σ → Prop
  | .ret _,_ => False
  | .exec op next,store => ∀ s, onward store s →
      ((step op s).2 = s ∧ Awaits alone (next (step op s).1) s) ∨
      ((step op s).2 = (alone s).2 ∧
        Determined onward step agree (alone s).1 (next (step op s).1) (alone s).2)

end Scripts

-- Calls whose every interleaving is worth some order of whole calls: those that
-- count happen at one of their operations, the others never write and are answered
-- by the store they begin with.
structure Atomic (S : System Op Ans σ Call β) (counts : Call → Prop) (onward : σ → σ → Prop)
    (agree : β → β → Prop) : Prop where
  refl : ∀ store, onward store store
  trans : ∀ {one two three}, onward one two → onward two three → onward one three
  closed : ∀ {store later}, S.outside store later → later = store
  moves : ∀ {call}, S.admits call → counts call → ∀ store,
    onward store ((S.script call).run S.step store).2
  awaits : ∀ {call}, S.admits call → counts call → ∀ store,
    Awaits onward S.step agree ((S.script call).run S.step) (S.script call) store
  reads : ∀ {call}, S.admits call → ¬ counts call → ∀ store,
    Determined onward S.step Eq ((S.script call).run S.step store).1 (S.script call) store

-- Whole calls in the order of these events, newest first; each runs on the store
-- that its event found.
inductive Serial (S : System Op Ans σ Call β) (start : σ) : List (Event Op σ Call) → σ → Prop where
  | nil : Serial S start [] start
  | cons {points : List (Event Op σ Call)} {point : Event Op σ Call}
      (earlier : Serial S start points point.before) :
      Serial S start (point :: points) ((S.script point.call).run S.step point.before).2

-- The points are operations of the calls themselves, in the order of the log, one
-- for each call that took effect, among them all that count and were answered.
structure Linearized (S : System Op Ans σ Call β) (counts : Call → Prop) (onward : σ → σ → Prop)
    (agree : β → β → Prop) (start : σ) (config : Config Op Ans σ Call β) (points : List (Event Op σ Call)) : Prop where
  serial : Serial S start points config.store
  logged : points.Sublist config.log
  once : (points.map (·.thread)).Nodup
  issued : ∀ point ∈ points, counts point.call ∧
    ∃ rest, config.threads[point.thread]? = some ⟨point.call,rest⟩
  answered : ∀ i call value, counts call → config.threads[i]? = some ⟨call,.ret value⟩ →
    ∃ point ∈ points, point.thread = i ∧ point.call = call ∧
      agree value ((S.script call).run S.step point.before).1
  aside : ∀ (i : Nat) call value, ¬ counts call → config.threads[i]? = some ⟨call,.ret value⟩ →
    ∃ seen, onward start seen ∧ value = ((S.script call).run S.step seen).1

section Rules

variable {onward : σ → σ → Prop} {step : ∀ op, σ → Ans op × σ} {agree : β → β → Prop}
  {alone : σ → β × σ} {told : β} {script : Script Op Ans β} {store later : σ}

theorem determined_later (trans : ∀ {one two three}, onward one two → onward two three → onward one three)
    (settled : Determined onward step agree told script store) (moved : onward store later) :
    Determined onward step agree told script later := by
  cases script with
  | ret value => exact settled
  | exec op next => exact fun s onwards => settled s (trans moved onwards)

theorem awaits_later (trans : ∀ {one two three}, onward one two → onward two three → onward one three)
    (awaits : Awaits onward step agree alone script store) (moved : onward store later) :
    Awaits onward step agree alone script later := by
  cases script with
  | ret value => exact awaits
  | exec op next => exact fun s onwards => awaits s (trans moved onwards)

theorem determined_reads {Op' : Type} {Ans' : Op' → Type} {into : Op' → Op}
    {back : ∀ op, Ans (into op) → Ans' op} {oracle : ∀ op, Ans' op} {allowed : Op' → Prop}
    (trans : ∀ {one two three}, onward one two → onward two three → onward one three)
    (reads : ∀ op s, allowed op → onward store s →
      (step (into op) s).2 = s ∧ back op (step (into op) s).1 = oracle op)
    {part : Script Op' Ans' α} (uses : part.Uses allowed) {rest : α → Script Op Ans β}
    (after : Determined onward step agree told (rest (part.answered oracle)) store)
    (moved : onward store later) :
    Determined onward step agree told (Script.embed into back part >>= rest) later := by
  induction part generalizing later with
  | ret value => exact determined_later trans after moved
  | exec op next ih =>
      intro s onwards
      obtain ⟨same,answer⟩ := reads op s uses.1 (trans moved onwards)
      have rest := ih (oracle op) (uses.2 _) after (trans moved onwards)
      rw [← answer] at rest
      exact ⟨same,rest⟩

theorem awaits_reads {Op' : Type} {Ans' : Op' → Type} {into : Op' → Op}
    {back : ∀ op, Ans (into op) → Ans' op} {oracle : ∀ op, Ans' op} {allowed : Op' → Prop}
    (trans : ∀ {one two three}, onward one two → onward two three → onward one three)
    (reads : ∀ op s, allowed op → onward store s →
      (step (into op) s).2 = s ∧ back op (step (into op) s).1 = oracle op)
    {part : Script Op' Ans' α} (uses : part.Uses allowed) {rest : α → Script Op Ans β}
    (after : Awaits onward step agree alone (rest (part.answered oracle)) store)
    (moved : onward store later) :
    Awaits onward step agree alone (Script.embed into back part >>= rest) later := by
  induction part generalizing later with
  | ret value => exact awaits_later trans after moved
  | exec op next ih =>
      intro s onwards
      obtain ⟨same,answer⟩ := reads op s uses.1 (trans moved onwards)
      have rest := ih (oracle op) (uses.2 _) after (trans moved onwards)
      rw [← answer] at rest
      exact .inl ⟨same,rest⟩

end Rules

section Runs

variable {S : System Op Ans σ Call β} {counts : Call → Prop} {onward : σ → σ → Prop}
  {agree : β → β → Prop} {start : σ} {config next : Config Op Ans σ Call β}
  {points : List (Event Op σ Call)} {i : Nat}

-- Where a thread stands: without a point of its own, before it, or past it with
-- its answer fixed.
inductive Stands (S : System Op Ans σ Call β) (counts : Call → Prop) (onward : σ → σ → Prop)
    (agree : β → β → Prop) (start : σ) (points : List (Event Op σ Call)) (store : σ) (i : Nat)
    (thread : Thread Op Ans Call β) : Prop where
  | aside {seen : σ} (uncounted : ¬ counts thread.call) (passed : onward start seen)
      (settled : Determined onward S.step Eq ((S.script thread.call).run S.step seen).1 thread.rest store)
  | before (counted : counts thread.call) (admitted : S.admits thread.call)
      (fresh : i ∉ points.map (·.thread))
      (awaits : Awaits onward S.step agree ((S.script thread.call).run S.step) thread.rest store)
  | after {point : Event Op σ Call} (member : point ∈ points) (here : point.thread = i)
      (same : point.call = thread.call)
      (settled : Determined onward S.step agree ((S.script thread.call).run S.step point.before).1
        thread.rest store)

structure Progressing (S : System Op Ans σ Call β) (counts : Call → Prop) (onward : σ → σ → Prop)
    (agree : β → β → Prop) (start : σ) (config : Config Op Ans σ Call β)
    (points : List (Event Op σ Call)) : Prop where
  passed : onward start config.store
  serial : Serial S start points config.store
  logged : points.Sublist config.log
  once : (points.map (·.thread)).Nodup
  issued : ∀ point ∈ points, counts point.call ∧
    ∃ rest, config.threads[point.thread]? = some ⟨point.call,rest⟩
  stands : ∀ i thread, config.threads[i]? = some thread →
    Stands S counts onward agree start points config.store i thread

theorem progressing_linearized (progressing : Progressing S counts onward agree start config points) :
    Linearized S counts onward agree start config points := by
  refine ⟨progressing.serial,progressing.logged,progressing.once,progressing.issued,?_,?_⟩
  · intro i call value counted finished
    cases progressing.stands i _ finished with
    | aside uncounted passed settled => exact absurd counted uncounted
    | before counted admitted fresh unfinished => exact unfinished.elim
    | after member here same settled => exact ⟨_,member,here,same,settled⟩
  · intro i call value uncounted finished
    cases progressing.stands i _ finished with
    | aside _ passed settled => exact ⟨_,passed,settled⟩
    | before counted admitted fresh unfinished => exact unfinished.elim
    | after member here same settled =>
        have counted := (progressing.issued _ member).1
        rw [same] at counted
        exact absurd counted uncounted

theorem progressing_initial (atomic : Atomic S counts onward agree) :
    Progressing S counts onward agree start ⟨start,[],[]⟩ [] :=
  ⟨atomic.refl start,.nil,.refl _,.nil,by simp,by simp⟩

theorem issued_set {thread : Thread Op Ans Call β} {rest : Script Op Ans β}
    (issued : ∀ point ∈ points, counts point.call ∧
      ∃ rest, config.threads[point.thread]? = some ⟨point.call,rest⟩)
    (running : config.threads[i]? = some thread) {point : Event Op σ Call} (member : point ∈ points) :
    counts point.call ∧
      ∃ later, (config.threads.set i ⟨thread.call,rest⟩)[point.thread]? = some ⟨point.call,later⟩ := by
  obtain ⟨counted,old,found⟩ := issued point member
  refine ⟨counted,?_⟩
  by_cases same : i = point.thread
  · subst same
    cases Option.some.inj (running.symm.trans found)
    exact ⟨rest,List.getElem?_set_self (List.getElem?_eq_some_iff.mp running).1⟩
  · exact ⟨old,by rw [List.getElem?_set_ne same,found]⟩

-- Threads other than the one that moves only see the store move onward.
theorem stands_later (atomic : Atomic S counts onward agree) {thread : Thread Op Ans Call β}
    {store later : σ} (stands : Stands S counts onward agree start points store i thread)
    (moved : onward store later) : Stands S counts onward agree start points later i thread := by
  cases stands with
  | aside uncounted passed settled =>
      exact .aside uncounted passed (determined_later atomic.trans settled moved)
  | before counted admitted fresh awaits =>
      exact .before counted admitted fresh (awaits_later atomic.trans awaits moved)
  | after member here same settled =>
      exact .after member here same (determined_later atomic.trans settled moved)

theorem stands_added {thread : Thread Op Ans Call β} {store : σ} {point : Event Op σ Call}
    (stands : Stands S counts onward agree start points store i thread) (other : point.thread ≠ i) :
    Stands S counts onward agree start (point :: points) store i thread := by
  cases stands with
  | aside uncounted passed settled => exact .aside uncounted passed settled
  | before counted admitted fresh awaits =>
      refine .before counted admitted ?_ awaits
      intro member
      rcases List.mem_cons.mp member with equal | old
      · exact other equal.symm
      · exact fresh old
  | after member here same settled => exact .after (.tail _ member) here same settled

theorem stands_issued (atomic : Atomic S counts onward agree) {call : Call} {store : σ}
    (passed : onward start store) (admitted : S.admits call)
    (fresh : i ∉ points.map (·.thread)) :
    Stands S counts onward agree start points store i ⟨call,S.script call⟩ := by
  by_cases counted : counts call
  · exact .before counted admitted fresh (atomic.awaits admitted counted store)
  · exact .aside counted passed (atomic.reads admitted counted store)

theorem progressing_issue (atomic : Atomic S counts onward agree)
    (progressing : Progressing S counts onward agree start config points) {call : Call}
    (admitted : S.admits call) :
    Progressing S counts onward agree start
      {config with threads := config.threads ++ [⟨call,S.script call⟩]} points := by
  have inside : ∀ point ∈ points, point.thread < config.threads.length := by
    intro point member
    obtain ⟨_,rest,found⟩ := progressing.issued point member
    exact (List.getElem?_eq_some_iff.mp found).1
  refine ⟨progressing.passed,progressing.serial,progressing.logged,progressing.once,?_,?_⟩
  · intro point member
    obtain ⟨counted,rest,found⟩ := progressing.issued point member
    refine ⟨counted,rest,?_⟩
    rw [List.getElem?_append_left (inside point member),found]
  · intro i thread found
    by_cases old : i < config.threads.length
    · rw [List.getElem?_append_left old] at found
      exact progressing.stands i thread found
    · rw [List.getElem?_append_right (by omega)] at found
      obtain ⟨rfl,rfl⟩ : i = config.threads.length ∧ thread = ⟨call,S.script call⟩ := by
        rcases position : i - config.threads.length with _ | k
        · rw [position,List.getElem?_cons_zero] at found
          exact ⟨by omega,(Option.some.inj found).symm⟩
        · simp [position] at found
      apply stands_issued atomic progressing.passed admitted
      intro member
      obtain ⟨point,present,same⟩ := List.mem_map.mp member
      have bound := inside point present
      omega

theorem progressing_read (progressing : Progressing S counts onward agree start config points)
    {call : Call} {op : Op} {rest : Ans op → Script Op Ans β}
    (running : config.threads[i]? = some ⟨call,.exec op rest⟩)
    (same : (S.step op config.store).2 = config.store)
    (stands : Stands S counts onward agree start points config.store i
      ⟨call,rest (S.step op config.store).1⟩) :
    Progressing S counts onward agree start {
      store := (S.step op config.store).2
      threads := config.threads.set i ⟨call,rest (S.step op config.store).1⟩
      log := ⟨i,call,op,config.store⟩ :: config.log } points := by
  rw [same]
  refine ⟨progressing.passed,progressing.serial,progressing.logged.cons _,progressing.once,?_,?_⟩
  · exact fun point member => issued_set progressing.issued running member
  · intro j thread found
    by_cases here : i = j
    · subst here
      rw [List.getElem?_set_self (List.getElem?_eq_some_iff.mp running).1] at found
      cases Option.some.inj found
      exact stands
    · rw [List.getElem?_set_ne here] at found
      exact progressing.stands j thread found

theorem progressing_point (atomic : Atomic S counts onward agree)
    (progressing : Progressing S counts onward agree start config points) {call : Call}
    {op : Op} {rest : Ans op → Script Op Ans β}
    (running : config.threads[i]? = some ⟨call,.exec op rest⟩) (counted : counts call)
    (admitted : S.admits call) (fresh : i ∉ points.map (·.thread))
    (whole : (S.step op config.store).2 = ((S.script call).run S.step config.store).2)
    (settled : Determined onward S.step agree ((S.script call).run S.step config.store).1
      (rest (S.step op config.store).1) ((S.script call).run S.step config.store).2) :
    Progressing S counts onward agree start {
      store := (S.step op config.store).2
      threads := config.threads.set i ⟨call,rest (S.step op config.store).1⟩
      log := ⟨i,call,op,config.store⟩ :: config.log } (⟨i,call,op,config.store⟩ :: points) := by
  have inside := (List.getElem?_eq_some_iff.mp running).1
  have moved := atomic.moves admitted counted config.store
  rw [whole]
  refine ⟨atomic.trans progressing.passed moved,.cons progressing.serial,
    progressing.logged.cons_cons _,?_,?_,?_⟩
  · exact List.nodup_cons.mpr ⟨fresh,progressing.once⟩
  · intro point member
    rcases List.mem_cons.mp member with rfl | old
    · exact ⟨counted,_,List.getElem?_set_self inside⟩
    · exact issued_set progressing.issued running old
  · intro j thread found
    by_cases here : i = j
    · subst here
      rw [List.getElem?_set_self inside] at found
      cases Option.some.inj found
      exact .after List.mem_cons_self rfl rfl settled
    · rw [List.getElem?_set_ne here] at found
      exact stands_added (stands_later atomic (progressing.stands j thread found) moved) here

theorem progressing_step (atomic : Atomic S counts onward agree)
    (progressing : Progressing S counts onward agree start config points) (step : Step S config next) :
    ∃ more, Progressing S counts onward agree start next (more ++ points) := by
  cases step with
  | issue admitted => exact ⟨[],progressing_issue atomic progressing admitted⟩
  | @operation i call op rest running =>
      cases progressing.stands i _ running with
      | aside uncounted passed settled =>
          obtain ⟨quiet,settled⟩ := settled config.store (atomic.refl _)
          exact ⟨[],progressing_read progressing running quiet (.aside uncounted passed settled)⟩
      | before counted admitted fresh awaits =>
          rcases awaits config.store (atomic.refl _) with ⟨same,awaits⟩ | ⟨whole,settled⟩
          · exact ⟨[],progressing_read progressing running same (.before counted admitted fresh awaits)⟩
          · exact ⟨[_],progressing_point atomic progressing running counted admitted fresh whole settled⟩
      | after member here same settled =>
          obtain ⟨quiet,settled⟩ := settled config.store (atomic.refl _)
          exact ⟨[],progressing_read progressing running quiet (.after member here same settled)⟩
  | @outside store changed =>
      cases atomic.closed changed
      exact ⟨[],progressing⟩

theorem progressing_steps (atomic : Atomic S counts onward agree)
    (progressing : Progressing S counts onward agree start config points)
    (steps : Relation.ReflTransGen (Step S) config next) :
    ∃ more, Progressing S counts onward agree start next (more ++ points) := by
  induction steps with
  | refl => exact ⟨[],progressing⟩
  | tail _ step ih =>
      obtain ⟨more,reached⟩ := ih
      obtain ⟨newer,after⟩ := progressing_step atomic reached step
      exact ⟨newer ++ more,by rwa [List.append_assoc]⟩

theorem reached_progressing (atomic : Atomic S counts onward agree) (path : Reached S start config) :
    ∃ points, Progressing S counts onward agree start config points := by
  induction path with
  | initial => exact ⟨[],progressing_initial atomic⟩
  | step _ step ih =>
      obtain ⟨points,before⟩ := ih
      obtain ⟨more,after⟩ := progressing_step atomic before step
      exact ⟨more ++ points,after⟩

-- Later points come after the earlier ones: nothing that was answered is reordered.
theorem linearizable (atomic : Atomic S counts onward agree) (path : Reached S start config)
    (steps : Relation.ReflTransGen (Step S) config next) :
    ∃ points more, Linearized S counts onward agree start config points ∧
      Linearized S counts onward agree start next (more ++ points) := by
  obtain ⟨points,before⟩ := reached_progressing atomic path
  obtain ⟨more,after⟩ := progressing_steps atomic before steps
  exact ⟨points,more,progressing_linearized before,progressing_linearized after⟩

theorem serial_invariant {inv : σ → Prop} {store : σ} (initial : inv start)
    (kept : ∀ point ∈ points, inv point.before →
      inv ((S.script point.call).run S.step point.before).2)
    (serial : Serial S start points store) : inv store := by
  induction serial with
  | nil => exact initial
  | @cons points point earlier ih =>
      exact kept point List.mem_cons_self (ih fun other member => kept other (.tail _ member))

theorem serial_points {inv : σ → Prop} {store : σ} (initial : inv start)
    (kept : ∀ point ∈ points, inv point.before →
      inv ((S.script point.call).run S.step point.before).2)
    (serial : Serial S start points store) : ∀ point ∈ points, inv point.before := by
  induction serial with
  | nil => simp
  | @cons points point earlier ih =>
      have older := fun other member => kept other (List.mem_cons_of_mem point member)
      intro other member
      rcases List.mem_cons.mp member with rfl | rest
      · exact serial_invariant initial older earlier
      · exact ih older other rest

theorem serial_before {store : σ} (serial : Serial S start points store) {point : Event Op σ Call}
    (member : point ∈ points) :
    ∃ newer older, points = newer ++ point :: older ∧ Serial S start older point.before := by
  induction serial with
  | nil => cases member
  | @cons points last earlier ih =>
      rcases List.mem_cons.mp member with rfl | rest
      · exact ⟨[],points,rfl,earlier⟩
      · obtain ⟨newer,older,rfl,before⟩ := ih rest
        exact ⟨last :: newer,older,rfl,before⟩

theorem serial_after (atomic : Atomic S counts onward agree) {store : σ}
    (counted : ∀ point ∈ points, S.admits point.call ∧ counts point.call)
    (serial : Serial S start points store) :
    ∀ point ∈ points, onward ((S.script point.call).run S.step point.before).2 store := by
  induction serial with
  | nil => simp
  | @cons points point earlier ih =>
      obtain ⟨admitted,counts⟩ := counted point List.mem_cons_self
      have here := atomic.moves admitted counts point.before
      intro other member
      rcases List.mem_cons.mp member with rfl | rest
      · exact atomic.refl _
      · exact atomic.trans (ih (fun one among => counted one (.tail _ among)) other rest) here

theorem reached_invariant (atomic : Atomic S counts onward agree) {inv : σ → Prop}
    (initial : inv start)
    (kept : ∀ call store, S.admits call → counts call → inv store →
      inv ((S.script call).run S.step store).2)
    (path : Reached S start config) : inv config.store := by
  obtain ⟨points,progressing⟩ := reached_progressing atomic path
  refine serial_invariant initial (fun point member => ?_) progressing.serial
  obtain ⟨counted,rest,found⟩ := progressing.issued point member
  exact kept point.call _ ((reached_admitted path).1 _ (List.mem_of_getElem? found)) counted

theorem serial_onward {more : List (Event Op σ Call)} {store later : σ}
    (refl : ∀ store, onward store store)
    (trans : ∀ {one two three}, onward one two → onward two three → onward one three)
    (moves : ∀ point ∈ more, ∀ store, onward store ((S.script point.call).run S.step store).2)
    (early : Serial S start points store) (late : Serial S start (more ++ points) later) :
    onward store later := by
  induction more generalizing later with
  | nil =>
      cases early with
      | nil =>
          cases late
          exact refl _
      | cons earlier =>
          cases late
          exact refl _
  | cons point more ih =>
      cases late with
      | cons earlier =>
          have before := ih (fun other member => moves other (List.mem_cons_of_mem point member)) earlier
          exact trans before (moves point List.mem_cons_self _)

theorem reached_steps (path : Reached S start config)
    (steps : Relation.ReflTransGen (Step S) config next) : Reached S start next := by
  induction steps with
  | refl => exact path
  | tail _ step ih => exact ih.step step

theorem steps_onward (atomic : Atomic S counts onward agree) (path : Reached S start config)
    (steps : Relation.ReflTransGen (Step S) config next) : onward config.store next.store := by
  obtain ⟨points,before⟩ := reached_progressing atomic path
  obtain ⟨more,after⟩ := progressing_steps atomic before steps
  refine serial_onward atomic.refl atomic.trans (fun point member => ?_) before.serial after.serial
  obtain ⟨counted,rest,found⟩ := after.issued point (List.mem_append_left _ member)
  exact atomic.moves ((reached_admitted (reached_steps path steps)).1 _ (List.mem_of_getElem? found)) counted

end Runs

section Mapped

variable {onward : σ → σ → Prop} {step : ∀ op, σ → Ans op × σ} {agree : β → β → Prop}
  {agree' : γ → γ → Prop} {wrap : β → γ} {alone : σ → β × σ} {told : β} {script : Script Op Ans β}
  {store : σ}

theorem determined_map (respects : ∀ answer told, agree answer told → agree' (wrap answer) (wrap told))
    (settled : Determined onward step agree told script store) :
    Determined onward step agree' (wrap told) (script >>= fun value => .ret (wrap value)) store := by
  induction script generalizing store with
  | ret value => exact respects _ _ settled
  | exec op next ih => exact fun s moved => ⟨(settled s moved).1,ih _ (settled s moved).2⟩

theorem awaits_map (respects : ∀ answer told, agree answer told → agree' (wrap answer) (wrap told))
    (awaits : Awaits onward step agree alone script store) :
    Awaits onward step agree' (fun s => (wrap (alone s).1,(alone s).2))
      (script >>= fun value => .ret (wrap value)) store := by
  induction script generalizing store with
  | ret value => exact awaits.elim
  | exec op next ih =>
      intro s moved
      rcases awaits s moved with ⟨same,later⟩ | ⟨whole,settled⟩
      · exact .inl ⟨same,ih _ later⟩
      · have wrapped := determined_map respects settled
        exact .inr ⟨whole,wrapped⟩

end Mapped

end ParcelPilot.Interleaving
