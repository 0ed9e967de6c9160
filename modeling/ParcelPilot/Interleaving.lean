import Mathlib.Logic.Relation
import ParcelPilot.Script

namespace ParcelPilot.Interleaving

variable {Op : Type} {Ans : Op → Type} {σ Call α β γ : Type}

-- One executed operation: who ran it, for which call, and the store it found.
structure Event (Op σ Call : Type) where
  thread : Nat
  call : Call
  op : Op
  before : σ

structure Thread (Op : Type) (Ans : Op → Type) (Call β : Type) where
  call : Call
  rest : Script Op Ans β

-- The log is newest first.
structure Config (Op : Type) (Ans : Op → Type) (σ Call β : Type) where
  store : σ
  threads : List (Thread Op Ans Call β)
  log : List (Event Op σ Call)

-- Calls may be issued at any time; `outside` is what anybody else may do to the
-- store between two operations.
structure System (Op : Type) (Ans : Op → Type) (σ Call β : Type) where
  step : ∀ op, σ → Ans op × σ
  script : Call → Script Op Ans β
  admits : Call → Prop
  outside : σ → σ → Prop

inductive Step (S : System Op Ans σ Call β) :
    Config Op Ans σ Call β → Config Op Ans σ Call β → Prop where
  | issue {config : Config Op Ans σ Call β} {call : Call} (admitted : S.admits call) :
      Step S config {config with threads := config.threads ++ [⟨call,S.script call⟩]}
  | operation {config : Config Op Ans σ Call β} {i : Nat} {call : Call} {op : Op}
      {next : Ans op → Script Op Ans β}
      (running : config.threads[i]? = some ⟨call,.exec op next⟩) :
      Step S config {
        store := (S.step op config.store).2
        threads := config.threads.set i ⟨call,next (S.step op config.store).1⟩
        log := ⟨i,call,op,config.store⟩ :: config.log }
  | outside {config : Config Op Ans σ Call β} {store : σ} (changed : S.outside config.store store) :
      Step S config {config with store := store}

inductive Reached (S : System Op Ans σ Call β) (start : σ) : Config Op Ans σ Call β → Prop where
  | initial : Reached S start ⟨start,[],[]⟩
  | step {config next : Config Op Ans σ Call β} :
      Reached S start config → Step S config next → Reached S start next

variable {S : System Op Ans σ Call β} {start : σ} {config : Config Op Ans σ Call β} {call : Call}

theorem reached_admitted (path : Reached S start config) :
    (∀ thread ∈ config.threads, S.admits thread.call) ∧ ∀ event ∈ config.log, S.admits event.call := by
  induction path with
  | initial => simp
  | @step config next _ step ih =>
      obtain ⟨threads,events⟩ := ih
      cases step with
      | @issue call admitted =>
          refine ⟨fun thread member => ?_,events⟩
          rcases List.mem_append.mp member with old | new
          · exact threads thread old
          · cases List.mem_singleton.mp new
            exact admitted
      | @operation i call op rest running =>
          have caller := threads _ (List.mem_of_getElem? running)
          refine ⟨fun thread member => ?_,fun event member => ?_⟩
          · rcases List.mem_or_eq_of_mem_set member with old | rfl
            · exact threads thread old
            · exact caller
          · rcases List.mem_cons.mp member with rfl | old
            · exact caller
            · exact events event old
      | outside changed => exact ⟨threads,events⟩

theorem reached_finish {script : Script Op Ans β} {i : Nat} (path : Reached S start config)
    (running : config.threads[i]? = some ⟨call,script⟩) :
    ∃ log, Reached S start ⟨(script.run S.step config.store).2,
      config.threads.set i ⟨call,.ret (script.run S.step config.store).1⟩,log⟩ := by
  induction script generalizing config with
  | ret value =>
      obtain ⟨inside,here⟩ := List.getElem?_eq_some_iff.mp running
      refine ⟨config.log,?_⟩
      have same : config.threads.set i ⟨call,.ret value⟩ = config.threads := by
        rw [← here]
        exact List.set_getElem_self inside
      rw [Script.run_ret,same]
      exact path
  | exec op next ih =>
      have inside := (List.getElem?_eq_some_iff.mp running).1
      obtain ⟨log,finished⟩ := ih _ (path.step (.operation running))
        (List.getElem?_set_self inside)
      simp only [List.set_set] at finished
      exact ⟨log,finished⟩

theorem reached_alone (path : Reached S start config) (admitted : S.admits call) :
    ∃ log, Reached S start ⟨((S.script call).run S.step config.store).2,
      config.threads ++ [⟨call,.ret ((S.script call).run S.step config.store).1⟩],log⟩ := by
  have running : (config.threads ++ [⟨call,S.script call⟩])[config.threads.length]? =
      some ⟨call,S.script call⟩ := by simp
  obtain ⟨log,finished⟩ := reached_finish (path.step (.issue admitted)) running
  simp only [List.set_append_right,Nat.le_refl,Nat.sub_self,List.set_cons_zero] at finished
  exact ⟨log,finished⟩

-- What every participant keeps (`inv`) and how far it may move the store and
-- the log (`onward`), which is also all that a thread may assume of the others.
structure Protocol (S : System Op Ans σ Call β) where
  inv : σ → List (Event Op σ Call) → Prop
  onward : σ → List (Event Op σ Call) → σ → List (Event Op σ Call) → Prop
  refl : ∀ store log, onward store log store log
  trans : ∀ {s₁ l₁ s₂ l₂ s₃ l₃}, onward s₁ l₁ s₂ l₂ → onward s₂ l₂ s₃ l₃ → onward s₁ l₁ s₃ l₃
  outside : ∀ {s s' log}, inv s log → S.outside s s' → inv s' log ∧ onward s log s' log

namespace Protocol

variable (P : Protocol S)

-- From (store, log) on, whatever the others do, thread `i` of `call` keeps the
-- protocol with each of its operations and ends with `post`.
def Holds (i : Nat) (call : Call) :
    Script Op Ans α → (α → σ → List (Event Op σ Call) → Prop) → σ → List (Event Op σ Call) → Prop
  | .ret value,post,store,log => ∀ s l, P.onward store log s l → P.inv s l → post value s l
  | .exec op next,post,store,log => ∀ s l, P.onward store log s l → P.inv s l →
      P.inv (S.step op s).2 (⟨i,call,op,s⟩ :: l) ∧
      P.onward s l (S.step op s).2 (⟨i,call,op,s⟩ :: l) ∧
      Holds i call (next (S.step op s).1) post (S.step op s).2 (⟨i,call,op,s⟩ :: l)

variable {P} {i : Nat} {call : Call} {post : α → σ → List (Event Op σ Call) → Prop}
  {store : σ} {log : List (Event Op σ Call)}

theorem holds_later {script : Script Op Ans α} (holds : P.Holds i call script post store log)
    (moved : P.onward store log s l) : P.Holds i call script post s l := by
  cases script with
  | ret value => exact fun s' l' later valid => holds s' l' (P.trans moved later) valid
  | exec op next => exact fun s' l' later valid => holds s' l' (P.trans moved later) valid

theorem holds_bind {script : Script Op Ans α} {rest : α → Script Op Ans γ}
    {goal : γ → σ → List (Event Op σ Call) → Prop}
    (first : P.Holds i call script
      (fun value s l => P.Holds i call (rest value) goal s l) store log)
    (valid : P.inv store log) :
    P.Holds i call (script >>= rest) goal store log := by
  induction script generalizing store log with
  | ret value => exact first store log (P.refl _ _) valid
  | exec op next ih =>
      intro s l moved valid'
      obtain ⟨kept,onward,after⟩ := first s l moved valid'
      exact ⟨kept,onward,ih _ after kept⟩

theorem holds_imp {script : Script Op Ans α} {goal : α → σ → List (Event Op σ Call) → Prop}
    (holds : P.Holds i call script post store log)
    (implies : ∀ value s l, P.onward store log s l → P.inv s l → post value s l → goal value s l) :
    P.Holds i call script goal store log := by
  induction script generalizing store log with
  | ret value =>
      exact fun s l moved valid => implies _ _ _ moved valid (holds s l moved valid)
  | exec op next ih =>
      intro s l moved valid
      obtain ⟨kept,onward,after⟩ := holds s l moved valid
      refine ⟨kept,onward,ih _ after fun value s' l' later valid' reached => ?_⟩
      exact implies value s' l' (P.trans moved (P.trans onward later)) valid' reached

theorem holds_reads {Op' : Type} {Ans' : Op' → Type} {into : Op' → Op}
    {back : ∀ op, Ans (into op) → Ans' op}
    (quiet : ∀ op s l, P.inv s l → P.inv (S.step (into op) s).2 (⟨i,call,into op,s⟩ :: l) ∧
      P.onward s l (S.step (into op) s).2 (⟨i,call,into op,s⟩ :: l))
    (script : Script Op' Ans' α) :
    P.Holds i call (Script.embed into back script) (fun _ _ _ => True) store log := by
  induction script generalizing store log with
  | ret value => exact fun _ _ _ _ => trivial
  | exec op next ih =>
      intro s l _ valid
      exact ⟨(quiet op s l valid).1,(quiet op s l valid).2,ih _⟩

variable (P) in
structure Sound (goal : Nat → Call → β → σ → List (Event Op σ Call) → Prop) : Prop where
  script : ∀ {i call s l}, S.admits call → P.inv s l → P.Holds i call (S.script call) (goal i call) s l

-- Every participant keeps the protocol, so every interleaving does.
theorem reached_holds {goal : Nat → Call → β → σ → List (Event Op σ Call) → Prop}
    (sound : P.Sound goal) {start : σ} (initial : P.inv start [])
    {config : Config Op Ans σ Call β} (path : Reached S start config) :
    P.inv config.store config.log ∧ ∀ i thread, config.threads[i]? = some thread →
      P.Holds i thread.call thread.rest (goal i thread.call) config.store config.log := by
  induction path with
  | initial => exact ⟨initial,by simp⟩
  | @step config next _ step ih =>
      obtain ⟨valid,threads⟩ := ih
      cases step with
      | issue admitted =>
          refine ⟨valid,fun i thread found => ?_⟩
          by_cases old : i < config.threads.length
          · rw [List.getElem?_append_left old] at found
            exact threads i thread found
          · rw [List.getElem?_append_right (by omega)] at found
            rcases eq : i - config.threads.length with _ | k
            · simp only [eq,List.getElem?_cons_zero,Option.some.injEq] at found
              subst found
              exact sound.script admitted valid
            · simp [eq] at found
      | @operation i call op rest running =>
          obtain ⟨kept,onward,after⟩ := threads i _ running config.store config.log (P.refl _ _) valid
          refine ⟨kept,fun j thread found => ?_⟩
          by_cases same : i = j
          · subst same
            rw [List.getElem?_set_self (List.getElem?_eq_some_iff.mp running).1] at found
            cases Option.some.inj found
            exact after
          · rw [List.getElem?_set_ne same] at found
            exact holds_later (threads j thread found) onward
      | outside changed =>
          obtain ⟨kept,onward⟩ := P.outside valid changed
          exact ⟨kept,fun j thread found => holds_later (threads j thread found) onward⟩

theorem step_onward {goal : Nat → Call → β → σ → List (Event Op σ Call) → Prop}
    (sound : P.Sound goal) {start : σ} (initial : P.inv start [])
    {config next : Config Op Ans σ Call β} (path : Reached S start config) (step : Step S config next) :
    P.onward config.store config.log next.store next.log := by
  obtain ⟨valid,threads⟩ := reached_holds sound initial path
  cases step with
  | issue admitted => exact P.refl _ _
  | operation running => exact (threads _ _ running config.store config.log (P.refl _ _) valid).2.1
  | outside changed => exact (P.outside valid changed).2

theorem later_onward {goal : Nat → Call → β → σ → List (Event Op σ Call) → Prop}
    (sound : P.Sound goal) {start : σ} (initial : P.inv start [])
    {config later : Config Op Ans σ Call β} (path : Reached S start config)
    (steps : Relation.ReflTransGen (Step S) config later) :
    Reached S start later ∧ P.onward config.store config.log later.store later.log := by
  induction steps with
  | refl => exact ⟨path,P.refl _ _⟩
  | tail _ step ih => exact ⟨ih.1.step step,P.trans ih.2 (step_onward sound initial ih.1 step)⟩

theorem finished_goal {goal : Nat → Call → β → σ → List (Event Op σ Call) → Prop}
    (sound : P.Sound goal) {start : σ} (initial : P.inv start [])
    {config : Config Op Ans σ Call β} (path : Reached S start config)
    (finished : config.threads[i]? = some ⟨call,.ret result⟩) :
    goal i call result config.store config.log := by
  obtain ⟨valid,threads⟩ := reached_holds sound initial path
  exact threads i _ finished config.store config.log (P.refl _ _) valid

end Protocol

end ParcelPilot.Interleaving
