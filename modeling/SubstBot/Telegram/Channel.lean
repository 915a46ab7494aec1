import SubstBot.Telegram.Updater
import SubstBot.Transport

/-!
# `SubstBot/Telegram/Channel.lean` — a Telegram connection as a transport

A channel starts and stops a connection, takes messages from its queue and sends messages through
it. It remembers two things of its own: whether the first contact has been made, and whether it has
been closed. A closed channel reports that nothing more will come, whatever is queued.

Each operation gives its result, what it did on the way, and the channel after it.
-/

set_option autoImplicit false

namespace SubstBot.Telegram

/-- Calls made and records logged, each in order. -/
structure Activity where
  calls : List CallRecord := []
  logs : List LogRecord := []
  deriving DecidableEq, Repr

def Activity.append (a b : Activity) : Activity :=
  ⟨a.calls ++ b.calls, a.logs ++ b.logs⟩

instance : Append Activity := ⟨Activity.append⟩

structure Channel where
  updater : Updater
  pollTimeout : Int := 30
  initialized : Bool := false
  closed : Bool := false

namespace Channel

def text (ch : Channel) : String :=
  "TelegramChannel(poll_timeout=" ++ toString ch.pollTimeout ++ ")"

def failure (what : String) (e : Error) : TransportError :=
  ⟨.channel (some e.kind), what ++ ": " ++ e.text⟩

def record (level : LogLevel) (text : String) : LogRecord :=
  ⟨level, .telegram, text⟩

/-- The next outcome of a method, and the channel after the call. -/
def next (ch : Channel) (m : Method) : Option Error × Channel :=
  let (outcome, updater) := ch.updater.next m
  (outcome, { ch with updater })

/-! ## Starting -/

/-- The seconds waited before each further attempt at the first contact. -/
def initDelays : List Nat := [2, 5, 10, 15]

/-- The attempts at the first contact from the `attempt`-th on; `delays` are those that are left. A
failure of the network is followed by another attempt while there is one. -/
def contactFrom (ch : Channel) (attempt : Nat) :
    (delays : List Nat) → Option TransportError × Activity × Channel
  | [] =>
    let (outcome, ch) := ch.next .contact
    let done : Activity := { calls := [⟨.contact, outcome⟩] }
    match outcome with
    | none => (none, done, { ch with initialized := true })
    | some e => (some (failure "Telegram init failed" e), done, ch)
  | delay :: delays =>
    let (outcome, ch) := ch.next .contact
    let done : Activity := { calls := [⟨.contact, outcome⟩] }
    match outcome with
    | none => (none, done, { ch with initialized := true })
    | some e =>
      if e.kind.isNetwork then
        let retry : Activity :=
          { calls := [{ call := .sleep (.ofNat delay) }]
            logs := [record .warning ("Telegram init failed (attempt " ++ toString attempt ++ "/" ++
              toString (initDelays.length + 1) ++ "): " ++ e.kind.name ++ ": " ++ e.text ++
              ". Retrying in " ++ toString delay ++ "s...")] }
        let (result, later, ch) := contactFrom ch (attempt + 1) delays
        (result, done ++ retry ++ later, ch)
      else (some (failure "Telegram init failed" e), done, ch)

/-- Make the first contact unless it has been made. -/
def contact (ch : Channel) : Option TransportError × Activity × Channel :=
  if ch.initialized then (none, {}, ch) else ch.contactFrom 1 initDelays

/-- The kinds of updates that are asked for. -/
def allowedUpdates : List String := ["message", "channel_post"]

/-- Start polling; updates that came before are kept. -/
def startPolling (ch : Channel) : Option TransportError × Activity × Channel :=
  let (outcome, ch) := ch.next .startPolling
  let call : CallRecord := ⟨.startPolling ch.pollTimeout allowedUpdates false, outcome⟩
  match outcome with
  | none =>
    (none,
      { calls := [call]
        logs := [record .info ("Telegram bot @" ++ ch.updater.username ++ " polling.")] },
      { ch with updater := ch.updater.started })
  | some e => (some (failure "Telegram polling failed to start" e), { calls := [call] }, ch)

/-- Start the channel; a channel that is polling is left as it is. -/
def start (ch : Channel) : Option TransportError × Activity × Channel :=
  if ch.updater.running then (none, {}, ch)
  else
    match ch.contact with
    | (some e, done, ch) => (some e, done, ch)
    | (none, done, ch) =>
      let (result, more, ch) := ch.startPolling
      (result, done ++ more, ch)

/-! ## Stopping -/

/-- Close the channel: whoever asks for a message from now on is told that none will come. -/
def close (ch : Channel) : Channel :=
  { ch with closed := true }

/-- The activity of a call that failed while stopping: it is logged and nothing else is tried. -/
def stopFailed (call : Call) (e : Error) : Activity :=
  { calls := [⟨call, some e⟩]
    logs := [record .warning ("Telegram shutdown failed: " ++ e.text)] }

/-- End the contact, if it was made. -/
def shutdown (ch : Channel) : Activity × Channel :=
  if ch.initialized then
    match ch.next .shutdown with
    | (none, ch) => ({ calls := [{ call := .shutdown }] }, { ch with initialized := false })
    | (some e, ch) => (stopFailed .shutdown e, ch)
  else ({}, ch)

/-- Close the channel, stop polling and end the contact. Never fails; what goes wrong is logged. -/
def stop (ch : Channel) : Activity × Channel :=
  let ch := ch.close
  if ch.updater.running then
    match ch.next .stop with
    | (none, ch) =>
      let ch := { ch with updater := { ch.updater with running := false } }
      let (more, ch) := ch.shutdown
      ({ calls := [{ call := .stop }] } ++ more, ch)
    | (some e, ch) => (stopFailed .stop e, ch)
  else ch.shutdown

/-! ## Sending -/

/-- Send a message, as a reply if it says to which message. -/
def send (m : Outgoing) (ch : Channel) : Option TransportError × Activity × Channel :=
  let (outcome, ch) := ch.next .sendMessage
  let reply := m.reply.messageId?.map fun i => { message := i, allowWithout := true }
  let done : Activity := { calls := [⟨.sendMessage m.chat m.content reply, outcome⟩] }
  (outcome.map (failure ("sendMessage to " ++ m.chat.show ++ " failed")), done, ch)

/-! ## Receiving -/

/-- The error of asking for a message when none can come. -/
def notRunning : TransportError :=
  ⟨.channel none, "Telegram polling is not running"⟩

def skippedRecord (u : Update) : LogRecord :=
  record .debug ("Skipping non-text update " ++ toString u.id)

def taken (ch : Channel) (rest : List Update) : Channel :=
  { ch with updater := ch.updater.taken rest }

/-- What the channel gives when its queue is empty: nothing yet while it is polling, otherwise an
error. -/
def whenEmpty (ch : Channel) : Option Receipt :=
  if ch.updater.running then none else some (.failed notRunning)

/-- Take updates until one becomes a message. An update that holds something without a text is
logged, and one that holds nothing is passed over in silence. -/
def takeFrom (ch : Channel) : (queue : List Update) → Option Receipt × List LogRecord × Channel
  | [] => (ch.whenEmpty, [], ch)
  | u :: rest =>
    let ch := ch.taken rest
    match u.post? with
    | none => ch.takeFrom rest
    | some p =>
      match p.toMessage? with
      | some m => (some (.message m), [], ch)
      | none =>
        let (r, logs, ch) := ch.takeFrom rest
        (r, skippedRecord u :: logs, ch)

/-- Ask for a message. Without a receipt, the caller has to wait. -/
def receive (ch : Channel) : Option Receipt × List LogRecord × Channel :=
  if ch.closed then (some .disconnected, [], ch) else ch.takeFrom ch.updater.queue

/-- Look again for a caller that waits: an update wakes it even if polling has stopped, and so does
the closing of the channel. -/
def resume (ch : Channel) : Option Receipt × List LogRecord × Channel :=
  match ch.updater.queue with
  | [] => (if ch.closed then some .disconnected else none, [], ch)
  | u :: rest => ch.takeFrom (u :: rest)

end Channel

end SubstBot.Telegram
