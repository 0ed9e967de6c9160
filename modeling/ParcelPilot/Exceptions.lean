import ParcelPilot.Handlers
import ParcelPilot.Raising

namespace ParcelPilot

namespace Script

variable {Op Op' : Type} {Ans : Op → Type} {Ans' : Op' → Type} {α β σ τ : Type}

variable {post middle : α → Prop} {final : β → Prop} {script : Script Op Ans α}

end Script

namespace Fallible

variable {ε Op Op' : Type} {Ans : Op → Type} {Ans' : Op' → Type} {α β : Type}
  {allowed kinds : ε → Prop}

end Fallible

end ParcelPilot
