import ParcelPilot.Interleaving

namespace ParcelPilot

variable {Op Op' : Type} {Ans : Op → Type} {Ans' : Op' → Type} {σ σ' Call α β ε : Type}

-- Each operation carried out by one operation of a machine below, whose answer is
-- read back and may turn out unreadable.
structure Lowering (Op : Type) (Ans : Op → Type) (Op' : Type) (Ans' : Op' → Type) (ε : Type) where
  lower : Op → Op'
  raise : ∀ op, Ans' (lower op) → Except ε (Ans op)

variable {L : Lowering Op Ans Op' Ans' ε} {failed : ε → β}

-- What cannot be read ends the script.
def Lowering.read (L : Lowering Op Ans Op' Ans' ε) (failed : ε → β) (op : Op)
    (next : Ans op → Script Op' Ans' β) (answer : Ans' (L.lower op)) : Script Op' Ans' β :=
  match L.raise op answer with
  | .ok answer => next answer
  | .error error => .ret (failed error)

-- The script on the machine below
def Script.lowered (L : Lowering Op Ans Op' Ans' ε) (failed : ε → β) :
    Script Op Ans β → Script Op' Ans' β
  | .ret value => .ret value
  | .exec op next => .exec (L.lower op) (L.read failed op fun answer => lowered L failed (next answer))

namespace Lowering

variable {step : ∀ op, σ → Ans op × σ} {step' : ∀ op, σ' → Ans' op × σ'} {related : σ → σ' → Prop}

-- What one operation has to keep: related stores stay related, and the answer reads
-- as it was meant.
structure Matches (L : Lowering Op Ans Op' Ans' ε) (step : ∀ op, σ → Ans op × σ)
    (step' : ∀ op, σ' → Ans' op × σ') (related : σ → σ' → Prop) (op : Op) (store : σ) (store' : σ') :
    Prop where
  kept : related (step op store).2 (step' (L.lower op) store').2
  reads : L.raise op (step' (L.lower op) store').1 = .ok (step op store).1

-- Every operation a script issues matches, whatever related stores it finds, and it
-- ends in `post`.
def Tracks (L : Lowering Op Ans Op' Ans' ε) (step : ∀ op, σ → Ans op × σ)
    (step' : ∀ op, σ' → Ans' op × σ') (related : σ → σ' → Prop) :
    Script Op Ans α → (α → Prop) → Prop
  | .ret value,post => post value
  | .exec op next,post => ∀ store store', related store store' →
      Matches L step step' related op store store' ∧
        Tracks L step step' related (next (step op store).1) post

theorem tracks_bind {script : Script Op Ans α} {rest : α → Script Op Ans β} {middle : α → Prop}
    {post : β → Prop} (first : Tracks L step step' related script middle)
    (second : ∀ value, middle value → Tracks L step step' related (rest value) post) :
    Tracks L step step' related (script >>= rest) post := by
  induction script with
  | ret value => exact second value first
  | exec op next ih =>
      intro store store' here
      obtain ⟨matching,on⟩ := first store store' here
      exact ⟨matching,ih _ on⟩

theorem tracks_mono {script : Script Op Ans α} {post weaker : α → Prop}
    (tracks : Tracks L step step' related script post) (implied : ∀ value, post value → weaker value) :
    Tracks L step step' related script weaker := by
  induction script with
  | ret value => exact implied value tracks
  | exec op next ih =>
      intro store store' here
      obtain ⟨matching,on⟩ := tracks store store' here
      exact ⟨matching,ih _ on⟩

theorem tracks_embed {Op₀ : Type} {Ans₀ : Op₀ → Type} {into : Op₀ → Op}
    {back : ∀ op, Ans (into op) → Ans₀ op}
    (each : ∀ op store store', related store store' → Matches L step step' related (into op) store store')
    (script : Script Op₀ Ans₀ α) :
    Tracks L step step' related (Script.embed into back script) fun _ => True := by
  induction script with
  | ret value => trivial
  | exec op next ih => exact fun store store' here => ⟨each op store store' here,ih _⟩

open Interleaving

variable {S : System Op Ans σ Call β} {T : System Op' Ans' σ' Call β}
  {start store : σ} {start' store' : σ'} {config : Config Op Ans σ Call β}
  {config' : Config Op' Ans' σ' Call β}

def thread (L : Lowering Op Ans Op' Ans' ε) (failed : ε → β) (running : Thread Op Ans Call β) :
    Thread Op' Ans' Call β := ⟨running.call,running.rest.lowered L failed⟩

theorem thread_ret (call : Call) (value : β) :
    thread L failed ⟨call,.ret value⟩ = ⟨call,.ret value⟩ := rfl

theorem thread_exec (call : Call) (op : Op) (next : Ans op → Script Op Ans β) :
    thread L failed ⟨call,.exec op next⟩ =
      ⟨call,.exec (L.lower op) (L.read failed op fun answer => (next answer).lowered L failed)⟩ := rfl

-- The same calls, run on the machine below.
structure Refines (L : Lowering Op Ans Op' Ans' ε) (failed : ε → β) (S : System Op Ans σ Call β)
    (T : System Op' Ans' σ' Call β) (related : σ → σ' → Prop) : Prop where
  script : ∀ call, T.script call = (S.script call).lowered L failed
  admits : ∀ call, T.admits call ↔ S.admits call
  tracks : ∀ call, S.admits call → Tracks L S.step T.step related (S.script call) fun _ => True
  below : ∀ {store store' after'}, related store store' → T.outside store' after' →
    ∃ after, S.outside store after ∧ related after after'
  above : ∀ {store store' after}, related store store' → S.outside store after →
    ∃ after', T.outside store' after' ∧ related after after'

-- One configuration seen on both machines
structure Tracked (L : Lowering Op Ans Op' Ans' ε) (failed : ε → β) (S : System Op Ans σ Call β)
    (T : System Op' Ans' σ' Call β) (related : σ → σ' → Prop) (config : Config Op Ans σ Call β)
    (config' : Config Op' Ans' σ' Call β) : Prop where
  stores : related config.store config'.store
  threads : config'.threads = config.threads.map (thread L failed)
  tracks : ∀ running ∈ config.threads, Tracks L S.step T.step related running.rest fun _ => True

theorem tracked_issue (refines : Refines L failed S T related)
    (tracked : Tracked L failed S T related config config') (admitted : S.admits call) :
    Tracked L failed S T related {config with threads := config.threads ++ [⟨call,S.script call⟩]}
      {config' with threads := config'.threads ++ [⟨call,T.script call⟩]} := by
  refine ⟨tracked.stores,?_,?_⟩
  · rw [List.map_append,tracked.threads,refines.script call]
    rfl
  · intro running member
    rcases List.mem_append.mp member with old | new
    · exact tracked.tracks running old
    · cases List.mem_singleton.mp new
      exact refines.tracks call admitted

theorem tracked_operation {i : Nat} {call : Call} {op : Op} {next : Ans op → Script Op Ans β}
    {log : List (Event Op σ Call)} {log' : List (Event Op' σ' Call)}
    (tracked : Tracked L failed S T related config config')
    (running : config.threads[i]? = some ⟨call,.exec op next⟩) :
    Tracked L failed S T related
      { store := (S.step op config.store).2
        threads := config.threads.set i ⟨call,next (S.step op config.store).1⟩
        log := log }
      { store := (T.step (L.lower op) config'.store).2
        threads := config'.threads.set i ⟨call,
          L.read failed op (fun answer => (next answer).lowered L failed)
            (T.step (L.lower op) config'.store).1⟩
        log := log' } := by
  obtain ⟨matching,on⟩ := tracked.tracks _ (List.mem_of_getElem? running) _ _ tracked.stores
  refine ⟨matching.kept,?_,?_⟩
  · dsimp only [read]
    rw [List.map_set,tracked.threads,matching.reads]
    rfl
  · intro other member
    rcases List.mem_or_eq_of_mem_set member with old | rfl
    · exact tracked.tracks other old
    · exact on

theorem reached_above (refines : Refines L failed S T related) (here : related start start')
    (path : Reached T start' config') :
    ∃ config, Reached S start config ∧ Tracked L failed S T related config config' := by
  induction path with
  | initial => exact ⟨_,.initial,here,rfl,fun running member => absurd member List.not_mem_nil⟩
  | @step middle' next' _ step ih =>
      obtain ⟨middle,reached,tracked⟩ := ih
      cases step with
      | @issue call admitted =>
          have issued := (refines.admits call).mp admitted
          exact ⟨_,reached.step (.issue issued),tracked_issue refines tracked issued⟩
      | @operation i call op' next running =>
          rw [tracked.threads,List.getElem?_map] at running
          obtain ⟨⟨caller,rest⟩,there,same⟩ := Option.map_eq_some_iff.mp running
          cases rest with
          | ret value =>
              rw [thread_ret] at same
              cases same
          | exec op next =>
              rw [thread_exec] at same
              cases same
              exact ⟨_,reached.step (.operation there),tracked_operation tracked there⟩
      | outside changed =>
          obtain ⟨after,moved,still⟩ := refines.below tracked.stores changed
          exact ⟨_,reached.step (.outside moved),still,tracked.threads,tracked.tracks⟩

theorem reached_below (refines : Refines L failed S T related) (here : related start start')
    (path : Reached S start config) :
    ∃ config', Reached T start' config' ∧ Tracked L failed S T related config config' := by
  induction path with
  | initial => exact ⟨_,.initial,here,rfl,fun running member => absurd member List.not_mem_nil⟩
  | @step middle next _ step ih =>
      obtain ⟨middle',reached,tracked⟩ := ih
      cases step with
      | @issue call admitted =>
          have issued := (refines.admits call).mpr admitted
          exact ⟨_,reached.step (.issue issued),tracked_issue refines tracked admitted⟩
      | @operation i call op next running =>
          have there : middle'.threads[i]? = some ⟨call,.exec (L.lower op)
              (L.read failed op fun answer => (next answer).lowered L failed)⟩ := by
            rw [tracked.threads,List.getElem?_map,running]
            rfl
          exact ⟨_,reached.step (.operation there),tracked_operation tracked running⟩
      | outside changed =>
          obtain ⟨after',moved,still⟩ := refines.above tracked.stores changed
          exact ⟨_,reached.step (.outside moved),still,tracked.threads,tracked.tracks⟩

theorem tracked_answer (tracked : Tracked L failed S T related config config') {i : Nat} {call : Call}
    {value : β} : config'.threads[i]? = some ⟨call,.ret value⟩ ↔
      config.threads[i]? = some ⟨call,.ret value⟩ := by
  rw [tracked.threads,List.getElem?_map]
  constructor
  · intro found
    obtain ⟨⟨caller,rest⟩,there,same⟩ := Option.map_eq_some_iff.mp found
    cases rest with
    | ret value =>
        rw [thread_ret] at same
        cases same
        exact there
    | exec op next =>
        rw [thread_exec] at same
        cases same
  · intro found
    rw [found]
    rfl

end Lowering

end ParcelPilot
