/-!
# `SubstBot/Message.lean` — messages and what they reply to

A message may be a reply. What it replies to is known as a whole message, by its identifier, not at
all any more (**pruned**), or the message is no reply.

**Chains of replies are cut after one link.** A message that is replied to keeps no more of its own
reply than the fact that there is one. `ReplyTarget.toMessage` is the way to build a reply to a
whole message and does the cutting.
-/

set_option autoImplicit false

namespace SubstBot

/-- An identifier of a message or a chat. A number and its decimal text are different. -/
inductive Identifier where
  | number (n : Int)
  | text (s : String)
  deriving DecidableEq, Repr

/-- The identifier as it stands in a log. -/
def Identifier.show : Identifier → String
  | number n => toString n
  | text s => s

mutual

/-- A message that has been delivered. -/
inductive Message where
  | mk (id chat : Identifier) (content : String) (reply : ReplyTarget)

/-- What a message replies to. -/
inductive ReplyTarget where
  | message (m : Message)
  | id (message : Identifier)
  | pruned
  | notReplying

end

deriving instance DecidableEq for Message, ReplyTarget
deriving instance Repr for Message, ReplyTarget

namespace Message

def id : Message → Identifier
  | mk id _ _ _ => id

def chat : Message → Identifier
  | mk _ chat _ _ => chat

def content : Message → String
  | mk _ _ content _ => content

def reply : Message → ReplyTarget
  | mk _ _ _ reply => reply

/-- The message with its reply cut off; a message that is no reply stays as it is. -/
def prune : Message → Message
  | mk id chat content .notReplying => mk id chat content .notReplying
  | mk id chat content _ => mk id chat content .pruned

/-- The message replied to, where it is known as a whole. -/
def replied? : Message → Option Message
  | mk _ _ _ (.message m) => some m
  | _ => none

end Message

namespace ReplyTarget

/-- The identifier of the message replied to, where it is known. -/
def messageId? : ReplyTarget → Option Identifier
  | message m => some m.id
  | id i => some i
  | pruned => none
  | notReplying => none

/-- A reply to a whole message, whose own reply is cut off. -/
def toMessage (m : Message) : ReplyTarget :=
  message m.prune

end ReplyTarget

mutual

/-- The message with every reply in it built anew, the innermost first. -/
def Message.rebuild : Message → Message
  | .mk id chat content reply => .mk id chat content reply.rebuild

/-- The reply built anew, the innermost first. -/
def ReplyTarget.rebuild : ReplyTarget → ReplyTarget
  | .message m => .toMessage m.rebuild
  | .id i => .id i
  | .pruned => .pruned
  | .notReplying => .notReplying

end

/-- A message that is to be sent: it gets its identifier on delivery. -/
structure Outgoing where
  chat : Identifier
  content : String
  reply : ReplyTarget
  deriving DecidableEq, Repr

/-- The bot as it is known to its users. -/
structure Identity where
  /-- The name that it can be addressed by, without the `@`. -/
  handle : Option String
  deriving DecidableEq, Repr

end SubstBot
