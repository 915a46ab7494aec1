import SubstBot.Number.Binary64
import SubstBot.Telegram.Error
import SubstBot.Telegram.Update

/-!
# `SubstBot/Telegram/Updater.lean` — the connection to Telegram

The connection polls for updates in the background and keeps them in a queue, and it makes the
calls that are asked of it. Here everything outside the bot is given beforehand: how each call
ends, and what each period of polling brings.
-/

set_option autoImplicit false

namespace SubstBot.Telegram

inductive Method where
  | contact
  | startPolling
  | stop
  | shutdown
  | sendMessage
  deriving DecidableEq, Repr

def Method.all : List Method :=
  [contact, startPolling, stop, shutdown, sendMessage]

/-- Which message a sent one replies to, and whether it is sent all the same if that is gone. -/
structure ReplyParameters where
  message : Identifier
  allowWithout : Bool
  deriving DecidableEq, Repr

/-- A call, with what is passed. Opening a connection and waiting are recorded as calls too. -/
inductive Call where
  | openChannel (token : String) (pollTimeout : Int)
  | contact
  | startPolling (timeout : Int) (allowed : List String) (dropPending : Bool)
  | stop
  | shutdown
  | sendMessage (chat : Identifier) (text : String) (reply : Option ReplyParameters)
  | sleep (seconds : Binary64)
  deriving DecidableEq, Repr

/-- A call that was made, with the error if it failed. -/
structure CallRecord where
  call : Call
  failure : Option Error := none
  deriving DecidableEq, Repr

/-- A period of polling: the updates that it brings, and whether polling breaks off once they have
been taken. -/
structure Session where
  updates : List Update := []
  dies : Bool := false
  deriving DecidableEq, Repr

/-- How the calls to come of each method end. Beyond the list they succeed. -/
abbrev Outcomes := Method → List (Option Error)

structure Updater where
  username : String
  running : Bool := false
  queue : List Update := []
  outcomes : Outcomes := fun _ => []
  sessions : List Session := []
  /-- Whether the present period of polling breaks off once the queue is empty. -/
  dies : Bool := false

namespace Updater

/-- How the next call of a method ends, and the connection after it. -/
def next (u : Updater) (m : Method) : Option Error × Updater :=
  ((u.outcomes m).head?.join,
    { u with outcomes := fun n => if n = m then (u.outcomes m).tail else u.outcomes n })

/-- Polling breaks off if it is to and nothing is queued. -/
def settle (u : Updater) : Updater :=
  if u.dies && u.queue.isEmpty then { u with running := false, dies := false } else u

/-- Polling has started: the next period's updates are queued. -/
def started (u : Updater) : Updater :=
  match u.sessions with
  | [] => { u with running := true, dies := false }
  | s :: rest =>
    settle
      { u with running := true, queue := u.queue ++ s.updates, sessions := rest, dies := s.dies }

/-- The rest of the queue after an update has been taken. -/
def taken (u : Updater) (rest : List Update) : Updater :=
  settle { u with queue := rest }

/-- How many failures can still come from outside: each uses up the outcome of a call or a period
of polling. -/
def mishaps (u : Updater) : Nat :=
  Method.all.foldr (fun m n => (u.outcomes m).length + n) u.sessions.length

end Updater

end SubstBot.Telegram
