import SubstBot.Telegram.Channel

/-!
# `SubstBot/Telegram/Operation.lean` — operating a channel step by step

The operations on a channel as data, so that a history of a channel is a list of them. At most one
caller at a time waits for a message; after each operation it is looked whether its waiting is
over.
-/

set_option autoImplicit false

namespace SubstBot.Telegram

/-- An operation on a channel or on what is behind it. -/
inductive Operation where
  | start
  | stop
  | close
  | receive
  | username
  | put (u : Update)
  | setRunning (running : Bool)
  | send (m : Outgoing)
  | pollError (e : Error)

/-- What an operation gives at once. -/
inductive Result where
  | done
  | username (s : String)
  | failed (e : TransportError)
  deriving DecidableEq, Repr

/-- What there is to say about a caller that asked for a message: it waits, or it has an answer. -/
inductive Reception where
  | waiting
  | ended (r : Receipt)
  deriving DecidableEq, Repr

/-- A channel, and whether a caller waits for a message. -/
structure Attended where
  channel : Channel
  waiting : Bool := false

/-- What an operation led to. `reception` is there from the time that a caller asks for a message
until it has its answer. -/
structure Report where
  result : Result := .done
  reception : Option Reception := none
  activity : Activity := {}
  deriving DecidableEq, Repr

namespace Attended

def resultOf : Option TransportError → Result
  | none => .done
  | some e => .failed e

/-- What an operation does at once, before anyone who waits is looked after. -/
def act (ch : Channel) : Operation → Result × Activity × Channel
  | .start => let (e, done, ch) := ch.start; (resultOf e, done, ch)
  | .stop => let (done, ch) := ch.stop; (.done, done, ch)
  | .close => (.done, {}, ch.close)
  | .receive => (.done, {}, ch)
  | .username => (.username ch.updater.username, {}, ch)
  | .put u =>
    (.done, {}, { ch with updater := { ch.updater with queue := ch.updater.queue ++ [u] } })
  | .setRunning running => (.done, {}, { ch with updater := { ch.updater with running } })
  | .send m => let (e, done, ch) := ch.send m; (resultOf e, done, ch)
  | .pollError e =>
    (.done, { logs := [Channel.record .warning ("Telegram polling error, retrying: " ++
      e.kind.name ++ ": " ++ e.text)] }, ch)

/-- Look after the caller that asks for a message or waits for one. -/
def attend (op : Operation) (waiting : Bool) (ch : Channel) :
    Option Reception × List LogRecord × Attended :=
  let answer : Option (Option Receipt × List LogRecord × Channel) :=
    if waiting then some ch.resume
    else
      match op with
      | .receive => some ch.receive
      | _ => none
  match answer with
  | none => (none, [], ⟨ch, false⟩)
  | some (none, logs, ch) => (some .waiting, logs, ⟨ch, true⟩)
  | some (some r, logs, ch) => (some (.ended r), logs, ⟨ch, false⟩)

def perform (a : Attended) (op : Operation) : Report × Attended :=
  let (result, done, ch) := act a.channel op
  let (reception, logs, a) := attend op a.waiting ch
  ({ result, reception, activity := done ++ { logs } }, a)

/-- Carry out operations one after another; with each report, how the channel stands after it. -/
def performAll (a : Attended) : List Operation → List (Report × Attended)
  | [] => []
  | op :: ops =>
    let (report, a) := a.perform op
    (report, a) :: a.performAll ops

end Attended

end SubstBot.Telegram
