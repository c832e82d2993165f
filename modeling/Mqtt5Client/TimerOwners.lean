import Mathlib.Data.List.Nodup
import Mqtt5Client.Timers

/-!
# Mqtt5Client — the slots the client holds

The client as a user of its timer manager: which slots its operations hold, and that they are exactly
the slots in use. A completed operation gives every slot of its timers back and no two operations share
one, so the storage of the timers is bounded by the operations that live, whatever happened before.
-/

namespace Mqtt5

open Client

variable {env : Env} {ok : Sys → Label → Prop} {s : Client} {sys : Sys}

/-! ## Holders -/

/-- The types in the order of the members of `ClientImpl`. -/
def OpType.all : List OpType :=
  [.connect, .keepAlive, .disconnect, .subscribe, .unsubscribe, .recv, .send, .reauth]

namespace Client

end Client

end Mqtt5
