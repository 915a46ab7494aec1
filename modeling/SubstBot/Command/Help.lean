import SubstBot.Message
import SubstBot.Text.Blank

/-!
# `SubstBot/Command/Help.lean` — the help command

The text `/help`, or `/help@` and the bot's handle, asks for help; blanks around it do not matter.
The answer is always the same text.
-/

set_option autoImplicit false

namespace SubstBot.Command

/-- A request for help: who is to be answered. -/
structure HelpInquiry where
  trigger : Identifier
  chat : Identifier
  deriving DecidableEq, Repr

namespace HelpInquiry

def helpText : String :=
  "This bot performs replacements on messages based on regular expressions.\n\n" ++
  "- /help -- shows this message\n\n" ++
  "- s/regex/replacement/flags -- performs a replacement in the message " ++
  "you're replying to.\n\n" ++
  "Flags: i (case insensitive), m (multi-line), s (dot matches new line), " ++
  "U (swap greed), x (ignore whitespace), o (octal escapes), " ++
  "g (replace all matches).\n" ++
  "Use \\1 or $1 in the replacement to insert a captured group."

/-- Whether a text asks for help. Without a handle, or with an empty one, only the bare form
does. -/
def recognizes (handle : Option String) (content : List Char) : Bool :=
  let s := Text.trim content
  let bare := "/help".toList
  s == bare ||
    match handle with
    | some h => h != "" && s == bare ++ '@' :: h.toList
    | none => false

def parse? (bot : Identity) (m : Message) : Option HelpInquiry :=
  if recognizes bot.handle m.content.toList then some { trigger := m.id, chat := m.chat } else none

def execute (r : HelpInquiry) : Outgoing where
  chat := r.chat
  content := helpText
  reply := .id r.trigger

end HelpInquiry

end SubstBot.Command
