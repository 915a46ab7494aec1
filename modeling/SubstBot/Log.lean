/-!
# `SubstBot/Log.lean` — log records

What the bot does is written to a log, one record at a time. A record carries a level, the part of
the bot that writes it, and a text; when it was written is not kept.
-/

set_option autoImplicit false

namespace SubstBot

/-- How much a record matters. -/
inductive LogLevel where
  | debug
  | info
  | warning
  | error
  | critical
  deriving DecidableEq, Repr

def LogLevel.name : LogLevel → String
  | debug => "DEBUG"
  | info => "INFO"
  | warning => "WARNING"
  | error => "ERROR"
  | critical => "CRITICAL"

/-- The parts of the bot that write to the log. -/
inductive Logger where
  | bot
  | handler
  | dispatch
  | supervisor
  | telegram
  deriving DecidableEq, Repr

def Logger.name : Logger → String
  | bot => "sedbot"
  | handler => "sedbot.handler"
  | dispatch => "sedbot.app"
  | supervisor => "sedbot.supervisor"
  | telegram => "sedbot.telegram"

structure LogRecord where
  level : LogLevel
  logger : Logger
  text : String
  deriving DecidableEq, Repr

end SubstBot
