import SubstBot.Dispatch.Run
import SubstBot.Settings
import SubstBot.Supervisor
import SubstBot.Telegram.Channel

/-!
# `SubstBot/Service.lean` — the bot as a whole

The bot opens one channel and keeps it through all restarts, so that what has been taken from its
queue is not taken again. Each supervised run makes sure that the channel is polling and then
dispatches messages until the channel is closed or something fails. At the end, however it comes,
the channel is stopped once.

The bot runs until it is asked to stop. Here that happens when it would have to wait for an update
that never comes.
-/

set_option autoImplicit false

namespace SubstBot.Service

open Telegram (Channel Updater CallRecord)

/-- The bot at work: its channel, the calls made so far, and the steps of each run that got as far
as dispatching. -/
structure World where
  channel : Channel
  calls : List CallRecord := []
  runs : List (List Dispatch.Step) := []

namespace World

/-- The world after something was done on the channel. -/
def after (w : World) (done : Telegram.Activity) (channel : Channel) : World :=
  { w with channel, calls := w.calls ++ done.calls }

/-- Ask the channel for a message; if that would mean to wait for ever, the channel is closed. -/
def receive (w : World) : Receipt × List LogRecord × World :=
  match w.channel.receive with
  | (some r, logs, ch) => (r, logs, { w with channel := ch })
  | (none, logs, ch) => (.disconnected, logs, { w with channel := ch.close })

def send (m : Outgoing) (w : World) : Option TransportError × World :=
  let (e, done, ch) := w.channel.send m
  (e, w.after done ch)

def transport : Transport World where
  receive := receive
  send := send
  backlog w := w.channel.updater.queue.length

end World

/-! ## One run -/

def record (text : String) : LogRecord :=
  ⟨.info, .bot, text⟩

/-- The time after calls that began at a given one: only waiting takes time. -/
def timeAfter (now : Binary64) : List CallRecord → Binary64
  | [] => now
  | ⟨.sleep d, _⟩ :: cs => timeAfter (now + d) cs
  | _ :: cs => timeAfter now cs

/-- The name that the bot can be addressed by: the one in the settings, unless that is absent or
empty, else the one that Telegram knows it by. -/
def identity (settings : Settings) (username : String) : Identity :=
  match settings.handle with
  | some h => if h = "" then ⟨some username⟩ else ⟨some h⟩
  | none => ⟨some username⟩

/-- How a run of the dispatch loop ends, to a supervisor. -/
def endOf : Dispatch.Ending → RunEnd Rule.NumeralTooLong
  | .disconnected => .clean
  | .receiverFailed e => .failed .receiver e.message
  | .handlerFailed e => .failed .handler e.message
  | .crashed e => .escaped e

def oneRun (E : Regex.Engine) (settings : Settings) (now : Binary64) (w : World) :
    RunEnd Rule.NumeralTooLong × List LogRecord × Binary64 × World :=
  match w.channel.start with
  | (some e, done, ch) =>
    (.failed .channel e.message, done.logs, timeAfter now done.calls, w.after done ch)
  | (none, done, ch) =>
    let bot := identity settings ch.updater.username
    let run := Dispatch.run World.transport bot (Handler.standard E settings.matchTimeout)
      (w.after done ch)
    (endOf run.ending,
      done.logs ++
        record ("Dispatching messages as @" ++ bot.handle.getD "None" ++ ".") :: run.logs,
      timeAfter now done.calls, { run.state with runs := run.state.runs ++ [run.steps] })

/-! ## The whole life -/

def supervised (E : Regex.Engine) (settings : Settings) :
    Supervised World Rule.NumeralTooLong where
  attempt := oneRun E settings
  wait d w := { w with calls := w.calls ++ [{ call := .sleep d }] }

def supervisor (settings : Settings) : Supervisor where
  maxFailuresPerMinute := settings.maxFailuresPerMinute
  restartDelay := settings.restartDelay

structure Life where
  verdict : Verdict Rule.NumeralTooLong
  calls : List CallRecord
  logs : List LogRecord
  runs : List (List Dispatch.Step)

/-- The world before the first run: the channel has been opened. -/
def opened (settings : Settings) (updater : Updater) : World where
  channel := { updater, pollTimeout := settings.pollTimeout }
  calls := [{ call := .openChannel settings.token settings.pollTimeout }]

/-- All supervised runs. Each that fails uses up something that was given beforehand. -/
def superviseAll (E : Regex.Engine) (settings : Settings) (updater : Updater) :
    Supervision World Rule.NumeralTooLong :=
  (supervisor settings).superviseFor (supervised E settings) (updater.mishaps + 1) 0 (.ofInt 0)
    (opened settings updater)

/-- The life of the bot over a connection. -/
def run (E : Regex.Engine) (settings : Settings) (updater : Updater) : Life :=
  let s := superviseAll E settings updater
  let (done, ch) := s.state.channel.stop
  { verdict := s.verdict
    calls := (s.state.after done ch).calls
    logs := record "Sedbot is running. Press Ctrl+C to stop." :: (s.logs ++ done.logs)
    runs := s.state.runs }

end SubstBot.Service
