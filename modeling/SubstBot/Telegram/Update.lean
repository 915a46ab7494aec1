import SubstBot.Message

/-!
# `SubstBot/Telegram/Update.lean` — updates and the messages in them

Telegram hands over updates. An update may hold a message or a post of a channel, and either may
have a text; only those with a text become messages of the bot.

**A chain of replies is followed for one link and no further.** The message replied to is taken over
with its own reply cut off; if it has no text, only its identifier is kept.
-/

set_option autoImplicit false

namespace SubstBot.Telegram

/-- A message or post as Telegram gives it, possibly a reply to another. -/
inductive Post where
  | plain (id chat : Identifier) (text : Option String)
  | replying (id chat : Identifier) (text : Option String) (target : Post)
  deriving DecidableEq, Repr

namespace Post

def id : Post → Identifier
  | plain id _ _ => id
  | replying id _ _ _ => id

def chat : Post → Identifier
  | plain _ chat _ => chat
  | replying _ chat _ _ => chat

/-- The text of the post, if it has one; an empty text is one. -/
def text : Post → Option String
  | plain _ _ text => text
  | replying _ _ text _ => text

/-- The post that this one replies to. -/
def replyTo? : Post → Option Post
  | plain _ _ _ => none
  | replying _ _ _ target => some target

/-- The message of a post with a text, with its reply cut off. -/
def toPruned? : Post → Option Message
  | plain id chat text => text.map fun s => .mk id chat s .notReplying
  | replying id chat text _ => text.map fun s => .mk id chat s .pruned

/-- The reply target that a post replied to becomes. -/
def toReplyTarget (p : Post) : ReplyTarget :=
  match p.toPruned? with
  | some m => .toMessage m
  | none => .id p.id

def toMessage? : Post → Option Message
  | plain id chat text => text.map fun s => .mk id chat s .notReplying
  | replying id chat text target =>
    text.map fun s => .mk id chat s target.toReplyTarget

end Post

structure Update where
  id : Int
  message : Option Post := none
  channelPost : Option Post := none
  deriving DecidableEq, Repr

/-- What an update holds: its message, or the post if there is no message. -/
def Update.post? (u : Update) : Option Post :=
  u.message.or u.channelPost

/-- The message of the bot that an update becomes, if it holds something with a text. -/
def Update.toMessage? (u : Update) : Option Message :=
  u.post?.bind Post.toMessage?

end SubstBot.Telegram
