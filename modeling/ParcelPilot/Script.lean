import Mathlib.Data.List.Basic

namespace ParcelPilot

-- A program seen from outside: a value, or one atomic operation whose answer
-- chooses the rest. The same script is answered by a fixed oracle, run against
-- a store, or interleaved with others; none of the three looks inside a step.
inductive Script (Op : Type) (Ans : Op → Type) (α : Type) where
  | ret (value : α)
  | exec (op : Op) (next : Ans op → Script Op Ans α)

namespace Script

variable {Op Op' : Type} {Ans : Op → Type} {Ans' : Op' → Type} {α β γ ε σ : Type}

def bind : Script Op Ans α → (α → Script Op Ans β) → Script Op Ans β
  | .ret value,rest => rest value
  | .exec op next,rest => .exec op (fun answer => bind (next answer) rest)

instance : Monad (Script Op Ans) where
  pure := .ret
  bind := bind

@[simp] theorem ret_bind (value : α) (rest : α → Script Op Ans β) :
    (Script.ret value >>= rest) = rest value := rfl

@[simp] theorem pure_bind_script (value : α) (rest : α → Script Op Ans β) :
    ((pure value : Script Op Ans α) >>= rest) = rest value := rfl

@[simp] theorem exec_bind (op : Op) (next : Ans op → Script Op Ans α) (rest : α → Script Op Ans β) :
    (Script.exec op next >>= rest) = .exec op (fun answer => next answer >>= rest) := rfl

theorem bind_ret (script : Script Op Ans α) : (script >>= Script.ret) = script := by
  induction script with
  | ret value => rfl
  | exec op next ih => simp only [exec_bind,ih]

theorem bind_bind (script : Script Op Ans α) (first : α → Script Op Ans β)
    (second : β → Script Op Ans γ) :
    (script >>= first >>= second) = (script >>= fun value => first value >>= second) := by
  induction script with
  | ret value => rfl
  | exec op next ih => simp only [exec_bind,ih]

instance : LawfulMonad (Script Op Ans) :=
  LawfulMonad.mk' _ bind_ret (fun _ _ => rfl) bind_bind

-- Answered by an oracle that never changes: every operation is a read.
def answered (oracle : ∀ op, Ans op) : Script Op Ans α → α
  | .ret value => value
  | .exec op next => answered oracle (next (oracle op))

@[simp] theorem answered_ret (oracle : ∀ op, Ans op) (value : α) :
    (Script.ret value).answered oracle = value := rfl

@[simp] theorem answered_exec (oracle : ∀ op, Ans op) (op : Op) (next : Ans op → Script Op Ans α) :
    (Script.exec op next).answered oracle = (next (oracle op)).answered oracle := rfl

@[simp] theorem answered_bind (oracle : ∀ op, Ans op) (script : Script Op Ans α)
    (rest : α → Script Op Ans β) :
    (script >>= rest).answered oracle = (rest (script.answered oracle)).answered oracle := by
  induction script with
  | ret value => rfl
  | exec op next ih => exact ih (oracle op)

-- Run against a store that the operations may change.
def run (step : ∀ op, σ → Ans op × σ) : Script Op Ans α → σ → α × σ
  | .ret value,store => (value,store)
  | .exec op next,store => run step (next (step op store).1) (step op store).2

@[simp] theorem run_ret (step : ∀ op, σ → Ans op × σ) (value : α) (store : σ) :
    (Script.ret value : Script Op Ans α).run step store = (value,store) := rfl

@[simp] theorem run_exec (step : ∀ op, σ → Ans op × σ) (op : Op)
    (next : Ans op → Script Op Ans α) (store : σ) :
    (Script.exec op next).run step store = (next (step op store).1).run step (step op store).2 := rfl

@[simp] theorem run_bind (step : ∀ op, σ → Ans op × σ) (script : Script Op Ans α)
    (rest : α → Script Op Ans β) (store : σ) :
    (script >>= rest).run step store =
      (rest (script.run step store).1).run step (script.run step store).2 := by
  induction script generalizing store with
  | ret value => rfl
  | exec op next ih => exact ih _ _

-- One vocabulary of operations inside a larger one.
def embed (into : Op' → Op) (back : ∀ op, Ans (into op) → Ans' op) :
    Script Op' Ans' α → Script Op Ans α
  | .ret value => .ret value
  | .exec op next => .exec (into op) (fun answer => embed into back (next (back op answer)))

theorem run_embed (step : ∀ op, σ → Ans op × σ) (into : Op' → Op)
    (back : ∀ op, Ans (into op) → Ans' op) (reads : ∀ op store, (step (into op) store).2 = store)
    (script : Script Op' Ans' α) (store : σ) :
    (embed into back script).run step store =
      (script.answered (fun op => back op (step (into op) store).1),store) := by
  induction script with
  | ret value => rfl
  | exec op next ih =>
      simp only [embed,run_exec,answered_exec,reads]
      exact ih _

-- Whatever it is answered, a script asks for operations of one kind only.
def Uses (allowed : Op → Prop) : Script Op Ans α → Prop
  | .ret _ => True
  | .exec op next => allowed op ∧ ∀ answer, Uses allowed (next answer)

theorem uses_bind {allowed : Op → Prop} {script : Script Op Ans α} {rest : α → Script Op Ans β}
    (left : script.Uses allowed) (right : ∀ value, (rest value).Uses allowed) :
    (script >>= rest).Uses allowed := by
  induction script with
  | ret value => exact right value
  | exec op next ih => exact ⟨left.1,fun answer => ih answer (left.2 answer)⟩

theorem uses_embed {allowed : Op → Prop} {into : Op' → Op} {back : ∀ op, Ans (into op) → Ans' op}
    (inside : ∀ op, allowed (into op)) (script : Script Op' Ans' α) :
    (embed into back script).Uses allowed := by
  induction script with
  | ret value => trivial
  | exec op next ih => exact ⟨inside op,fun answer => ih (back op answer)⟩

section Levels

variable {allowed : Op → Prop} {one two step : ∀ op, σ → Ans op × σ}
  {level : σ → Nat} {bound : Nat}

theorem run_related (related : σ → σ → Prop) (refl : ∀ store, related store store)
    (trans : ∀ {before between after}, related before between → related between after →
      related before after)
    (moves : ∀ op store, allowed op → related store (step op store).2)
    {script : Script Op Ans α} (inside : script.Uses allowed) (store : σ) :
    related store (script.run step store).2 := by
  induction script generalizing store with
  | ret value => exact refl store
  | exec op next ih => exact trans (moves op store inside.1) (ih _ (inside.2 _) _)

theorem run_within (rises : ∀ op store, allowed op → level store ≤ level (one op store).2)
    (same : ∀ op store, allowed op → level (one op store).2 ≤ bound → one op store = two op store)
    {script : Script Op Ans α} (inside : script.Uses allowed) {store : σ}
    (within : level (script.run one store).2 ≤ bound) :
    script.run one store = script.run two store := by
  induction script generalizing store with
  | ret value => rfl
  | exec op next ih =>
      rw [run_exec] at within
      have later := run_related (fun before after => level before ≤ level after)
        (fun _ => Nat.le_refl _) Nat.le_trans rises (inside.2 (one op store).1) (one op store).2
      have first : level (one op store).2 ≤ bound := Nat.le_trans later within
      rw [run_exec,run_exec,← same op store inside.1 first]
      exact ih _ (inside.2 _) within

end Levels

end Script

-- Scripts that may raise.
abbrev Fallible (ε Op : Type) (Ans : Op → Type) (α : Type) := ExceptT ε (Script Op Ans) α

namespace Fallible

variable {Op : Type} {Ans : Op → Type} {α β ε : Type}

def ask (op : Op) : Fallible ε Op Ans (Ans op) := ExceptT.lift (.exec op .ret)

def outcome (oracle : ∀ op, Ans op) (script : Fallible ε Op Ans α) : Except ε α :=
  Script.answered oracle (ExceptT.run script)

@[simp] theorem outcome_pure (oracle : ∀ op, Ans op) (value : α) :
    outcome oracle (pure value : Fallible ε Op Ans α) = .ok value := rfl

@[simp] theorem outcome_throw (oracle : ∀ op, Ans op) (error : ε) :
    outcome oracle (throw error : Fallible ε Op Ans α) = .error error := rfl

@[simp] theorem outcome_ask (oracle : ∀ op, Ans op) (op : Op) :
    outcome oracle (ask op : Fallible ε Op Ans (Ans op)) = .ok (oracle op) := rfl

@[simp] theorem outcome_bind (oracle : ∀ op, Ans op) (script : Fallible ε Op Ans α)
    (rest : α → Fallible ε Op Ans β) :
    outcome oracle (script >>= rest) =
      match outcome oracle script with
      | .ok value => outcome oracle (rest value)
      | .error error => .error error := by
  unfold outcome
  rw [ExceptT.run_bind,Script.answered_bind]
  cases Script.answered oracle (ExceptT.run script) <;> rfl

-- `try`: the error becomes a value.
def attempt (script : Fallible ε Op Ans α) : Fallible ε Op Ans (Except ε α) :=
  ExceptT.mk (script.run >>= fun result => .ret (.ok result))

@[simp] theorem outcome_attempt (oracle : ∀ op, Ans op) (script : Fallible ε Op Ans α) :
    outcome oracle (attempt script) = .ok (outcome oracle script) := by
  unfold outcome attempt
  rw [ExceptT.run_mk,Script.answered_bind]
  rfl

-- One item at a time, in order, keeping what is selected; the first error ends it.
def collect (select : α → Fallible ε Op Ans (Option β)) : List α → Fallible ε Op Ans (List β)
  | [] => pure []
  | item :: rest => do
      let found ← select item
      let others ← collect select rest
      pure (found.toList ++ others)

theorem outcome_collect {oracle : ∀ op, Ans op} {select : α → Fallible ε Op Ans (Option β)}
    {items : List α} {found : List β} :
    outcome oracle (collect select items) = .ok found ↔
      (∀ item ∈ items, ∃ value, outcome oracle (select item) = .ok value) ∧
        found = items.filterMap fun item => (outcome oracle (select item)).toOption.join := by
  induction items generalizing found with
  | nil => simp [collect,eq_comm]
  | cons item rest ih =>
      rw [List.forall_mem_cons,List.filterMap_cons]
      unfold collect
      rw [outcome_bind]
      cases first : outcome oracle (select item) with
      | error error => simp
      | ok value =>
          simp only [outcome_bind,Except.ok.injEq,exists_eq',true_and]
          cases later : outcome oracle (collect select rest) with
          | error error =>
              have raises := mt (fun each => ih.mpr ⟨each,rfl⟩) (by simp [later])
              simp [raises]
          | ok others =>
              obtain ⟨each,rfl⟩ := ih.mp later
              simp only [outcome_pure,Except.ok.injEq]
              constructor
              · rintro rfl
                exact ⟨each,by cases value <;> rfl⟩
              · rintro ⟨_,rfl⟩
                cases value <;> rfl

-- Two oracles that a script cannot tell apart: same value or same error.
def Alike (first second : ∀ op, Ans op) (script : Fallible ε Op Ans α) : Prop :=
  outcome first script = outcome second script

variable {first second : ∀ op, Ans op}

theorem alike_pure (value : α) : Alike first second (pure value : Fallible ε Op Ans α) := rfl

theorem alike_throw (error : ε) : Alike first second (throw error : Fallible ε Op Ans α) := rfl

theorem alike_ask {op : Op} (same : first op = second op) :
    Alike first second (ask op : Fallible ε Op Ans (Ans op)) := by
  simp only [Alike,outcome_ask,same]

theorem alike_bind {script : Fallible ε Op Ans α} {rest : α → Fallible ε Op Ans β}
    (left : Alike first second script)
    (right : ∀ value, outcome first script = .ok value → Alike first second (rest value)) :
    Alike first second (script >>= rest) := by
  unfold Alike at left ⊢
  rw [outcome_bind,outcome_bind,← left]
  cases reached : outcome first script with
  | error error => rfl
  | ok value => exact right value reached

theorem alike_collect {select : α → Fallible ε Op Ans (Option β)} {items : List α}
    (each : ∀ item ∈ items, Alike first second (select item)) :
    Alike first second (collect select items) := by
  induction items with
  | nil => exact alike_pure _
  | cons item rest ih =>
      refine alike_bind (each item (by simp)) fun found _ => ?_
      refine alike_bind (ih fun other member => each other (by simp [member])) fun others _ => ?_
      exact alike_pure _

-- A read-only script inside a larger vocabulary, and what it does to a store.
def embed {Op' : Type} {Ans' : Op' → Type} (into : Op' → Op)
    (back : ∀ op, Ans (into op) → Ans' op) (script : Fallible ε Op' Ans' α) :
    Fallible ε Op Ans α := ExceptT.mk (Script.embed into back script.run)

-- Run against a store: writes made before an error stay.
def perform {σ : Type} (step : ∀ op, σ → Ans op × σ) (script : Fallible ε Op Ans α) (store : σ) :
    Except ε α × σ := Script.run step (ExceptT.run script) store

section Perform

variable {σ : Type} {step : ∀ op, σ → Ans op × σ} {store : σ}

@[simp] theorem perform_pure (value : α) :
    perform step (pure value : Fallible ε Op Ans α) store = (.ok value,store) := rfl

@[simp] theorem perform_throw (error : ε) :
    perform step (throw error : Fallible ε Op Ans α) store = (.error error,store) := rfl

@[simp] theorem perform_ask (op : Op) :
    perform step (ask op : Fallible ε Op Ans (Ans op)) store =
      (.ok (step op store).1,(step op store).2) := rfl

@[simp] theorem perform_bind (script : Fallible ε Op Ans α) (rest : α → Fallible ε Op Ans β) :
    perform step (script >>= rest) store =
      match perform step script store with
      | (.ok value,after) => perform step (rest value) after
      | (.error error,after) => (.error error,after) := by
  unfold perform
  rw [ExceptT.run_bind,Script.run_bind]
  rcases Script.run step (ExceptT.run script) store with ⟨_ | _,_⟩ <;> rfl

theorem perform_bind_ok {script : Fallible ε Op Ans α} {rest : α → Fallible ε Op Ans β} {value : β}
    {after : σ} :
    perform step (script >>= rest) store = (.ok value,after) ↔
      ∃ middle between, perform step script store = (.ok middle,between) ∧
        perform step (rest middle) between = (.ok value,after) := by
  rw [perform_bind]
  rcases perform step script store with ⟨_ | middle,between⟩ <;> simp

@[simp] theorem perform_attempt (script : Fallible ε Op Ans α) :
    perform step (attempt script) store =
      (.ok (perform step script store).1,(perform step script store).2) := by
  unfold perform attempt
  rw [ExceptT.run_mk,Script.run_bind]
  rfl

theorem perform_embed {Op' : Type} {Ans' : Op' → Type} {into : Op' → Op}
    {back : ∀ op, Ans (into op) → Ans' op} (reads : ∀ op store, (step (into op) store).2 = store)
    (script : Fallible ε Op' Ans' α) :
    perform step (embed into back script) store =
      (outcome (fun op => back op (step (into op) store).1) script,store) :=
  Script.run_embed step into back reads script.run store

end Perform

-- Two machines that a script cannot tell apart, whatever store it starts from.
section Coincide

variable {σ : Type}

def Coincide (first second : ∀ op, σ → Ans op × σ) (script : Fallible ε Op Ans α) : Prop :=
  ∀ store, perform first script store = perform second script store

variable {one two : ∀ op, σ → Ans op × σ}

theorem coincide_pure (value : α) : Coincide one two (pure value : Fallible ε Op Ans α) :=
  fun _ => rfl

theorem coincide_bind {script : Fallible ε Op Ans α} {rest : α → Fallible ε Op Ans β}
    (left : Coincide one two script)
    (right : ∀ value, (∃ store after, perform one script store = (.ok value,after)) →
      Coincide one two (rest value)) : Coincide one two (script >>= rest) := by
  intro store
  rw [perform_bind,perform_bind,← left store]
  rcases reached : perform one script store with ⟨_ | value,between⟩
  · rfl
  · exact right value ⟨store,between,reached⟩ between

theorem coincide_attempt {script : Fallible ε Op Ans α} (same : Coincide one two script) :
    Coincide one two (attempt script) := by
  intro store
  rw [perform_attempt,perform_attempt,same store]

theorem coincide_embed {Op' : Type} {Ans' : Op' → Type} {into : Op' → Op}
    {back : ∀ op, Ans (into op) → Ans' op} {script : Fallible ε Op' Ans' α}
    (oneReads : ∀ op store, (one (into op) store).2 = store)
    (twoReads : ∀ op store, (two (into op) store).2 = store)
    (same : ∀ store, Alike (fun op => back op (one (into op) store).1)
      (fun op => back op (two (into op) store).1) script) :
    Coincide one two (embed into back script) := by
  intro store
  rw [perform_embed oneReads,perform_embed twoReads,same store]

end Coincide

section Uses

variable {allowed : Op → Prop}

def Uses (allowed : Op → Prop) (script : Fallible ε Op Ans α) : Prop :=
  Script.Uses allowed (ExceptT.run script)

theorem uses_pure (value : α) : Uses allowed (pure value : Fallible ε Op Ans α) := trivial

theorem uses_ask {op : Op} (inside : allowed op) :
    Uses allowed (ask op : Fallible ε Op Ans (Ans op)) := ⟨inside,fun _ => trivial⟩

theorem uses_bind {script : Fallible ε Op Ans α} {rest : α → Fallible ε Op Ans β}
    (left : Uses allowed script) (right : ∀ value, Uses allowed (rest value)) :
    Uses allowed (script >>= rest) := by
  unfold Uses at left ⊢
  rw [ExceptT.run_bind]
  apply Script.uses_bind left
  intro result
  cases result with
  | ok value => exact right value
  | error error => trivial

theorem uses_attempt {script : Fallible ε Op Ans α} (inside : Uses allowed script) :
    Uses allowed (attempt script) := by
  unfold Uses attempt at *
  rw [ExceptT.run_mk]
  apply Script.uses_bind inside
  intro result
  trivial

theorem uses_embed {Op' : Type} {Ans' : Op' → Type} {into : Op' → Op}
    {back : ∀ op, Ans (into op) → Ans' op} (inside : ∀ op, allowed (into op))
    (script : Fallible ε Op' Ans' α) : Uses allowed (embed into back script) :=
  Script.uses_embed inside _

end Uses

end Fallible

end ParcelPilot
