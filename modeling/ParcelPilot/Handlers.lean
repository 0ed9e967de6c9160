import ParcelPilot.Script

namespace ParcelPilot.Script

variable {Op Op' : Type} {Ans : Op → Type} {Ans' : Op' → Type} {α τ : Type}
  {handle : ∀ op, τ → Script Op' Ans' (Ans op × τ)}

-- Operations carried out by somebody who keeps a state and may ask for others.
def interpret (handle : ∀ op, τ → Script Op' Ans' (Ans op × τ)) :
    Script Op Ans α → τ → Script Op' Ans' (α × τ)
  | .ret value,state => .ret (value,state)
  | .exec op next,state => handle op state >>= fun result => interpret handle (next result.1) result.2

theorem answered_interpret {oracle : ∀ op, Ans' op} {step : ∀ op, τ → Ans op × τ}
    (same : ∀ op state, (handle op state).answered oracle = step op state)
    (script : Script Op Ans α) (state : τ) :
    (interpret handle script state).answered oracle = script.run step state := by
  induction script generalizing state with
  | ret value => rfl
  | exec op next ih =>
      simp only [interpret,answered_bind,same,run_exec]
      exact ih _ _

theorem uses_interpret {allowed : Op → Prop} {allowed' : Op' → Prop}
    (inside : ∀ op state, allowed op → (handle op state).Uses allowed') {script : Script Op Ans α}
    (uses : script.Uses allowed) (state : τ) : (interpret handle script state).Uses allowed' := by
  induction script generalizing state with
  | ret value => trivial
  | exec op next ih =>
      apply uses_bind (inside op state uses.1)
      intro result
      exact ih result.1 (uses.2 result.1) result.2

theorem uses_embed_of {into : Op → Op'} {back : ∀ op, Ans' (into op) → Ans op} {allowed : Op → Prop}
    {allowed' : Op' → Prop} (inside : ∀ op, allowed op → allowed' (into op)) {script : Script Op Ans α}
    (uses : script.Uses allowed) : (embed into back script).Uses allowed' := by
  induction script with
  | ret value => trivial
  | exec op next ih => exact ⟨inside op uses.1,fun answer => ih _ (uses.2 (back op answer))⟩

end ParcelPilot.Script
