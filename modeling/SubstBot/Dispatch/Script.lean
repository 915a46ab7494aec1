import SubstBot.Dispatch.Run

/-!
# `SubstBot/Dispatch/Script.lean` — runs over a given sequence of receipts

A transport whose receipts are listed beforehand, and whose deliveries fail exactly where it is
told. When the list is used up, it reports that nothing more will come.
-/

set_option autoImplicit false

namespace SubstBot.Dispatch

/-- What is still to be received, how many deliveries have been tried, and which of them, counted
from one, fail. -/
structure Script where
  receipts : List Receipt
  tried : Nat := 0
  failure : Nat → Option TransportError

namespace Script

/-- The transport over scripts. -/
def transport : Transport Script where
  receive s :=
    match s.receipts with
    | [] => (.disconnected, [], s)
    | r :: rs => (r, [], { s with receipts := rs })
  send _ s := (s.failure (s.tried + 1), { s with tried := s.tried + 1 })
  backlog s := s.receipts.length

/-- A handler that makes the same of every message. -/
def fixedHandler (r : Response) : Handler :=
  ⟨fun _ _ => r⟩

def run {ε : Type} (bot : Identity) (handlers : List (Handler ε)) (s : Script) : Run Script ε :=
  Dispatch.run transport bot handlers s

end Script

end SubstBot.Dispatch
