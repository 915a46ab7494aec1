import SubstBot.Log
import SubstBot.Message
import SubstBot.Telegram.Error

/-!
# `SubstBot/Transport.lean` — where messages come from and go to

A transport hands over messages one at a time and delivers replies. Either can fail. It is given as
a state and functions on it, so that a run over it is a function of the state it starts in.

`backlog` bounds how many messages can still come. A live connection has no such bound; here
everything that will ever come is in the state.
-/

set_option autoImplicit false

namespace SubstBot

/-- Which part of a transport failed: a channel, because of a failing call or by itself, or
something that does not tell. -/
inductive TransportSource where
  | channel (cause : Option Telegram.ErrorKind)
  | unspecified
  deriving DecidableEq, Repr

/-- A failure to receive or deliver. -/
structure TransportError where
  source : TransportSource
  message : String
  deriving DecidableEq, Repr

/-- What asking for the next message ends in. -/
inductive Receipt where
  | message (m : Message)
  | disconnected
  | failed (e : TransportError)
  deriving DecidableEq, Repr

/-- The message of a receipt, if one came. -/
def Receipt.message? : Receipt → Option Message
  | .message m => some m
  | _ => none

def disconnectedText : String := "message channel disconnected"

/-- A transport with states `σ`. -/
structure Transport (σ : Type) where
  /-- The next message, with what is logged on the way. -/
  receive : σ → Receipt × List LogRecord × σ
  /-- Deliver a message; the error if that fails. -/
  send : Outgoing → σ → Option TransportError × σ
  /-- At least as many as the messages that can still come. -/
  backlog : σ → Nat

end SubstBot
