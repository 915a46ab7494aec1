/-!
# `SubstBot/Telegram/Error.lean` — failures of Telegram calls

A call to Telegram fails with one of a few kinds of errors. Some of them count as failures of the
network, which may pass: a call that makes the first contact is tried again after those.
-/

set_option autoImplicit false

namespace SubstBot.Telegram

inductive ErrorKind where
  | general
  | network
  | timedOut
  | badRequest
  | forbidden
  | invalidToken
  deriving DecidableEq, Repr

namespace ErrorKind

def name : ErrorKind → String
  | general => "TelegramError"
  | network => "NetworkError"
  | timedOut => "TimedOut"
  | badRequest => "BadRequest"
  | forbidden => "Forbidden"
  | invalidToken => "InvalidToken"

/-- Whether an error counts as a failure of the network. -/
def isNetwork : ErrorKind → Bool
  | network => true
  | timedOut => true
  | badRequest => true
  | _ => false

/-- The text of an error whose kind has only one. -/
def fixedText? : ErrorKind → Option String
  | timedOut => some "Timed out"
  | invalidToken => some "Invalid token"
  | _ => none

end ErrorKind

structure Error where
  kind : ErrorKind
  text : String
  deriving DecidableEq, Repr

end SubstBot.Telegram
