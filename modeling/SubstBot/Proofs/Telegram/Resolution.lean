import SubstBot.Proofs.Message.Chain
import SubstBot.Telegram.Update

/-!
# `SubstBot/Proofs/Telegram/Resolution.lean` — one link is as good as the whole chain

A post is taken over by following its chain of replies for one link. It could be done with more
effort: `resolve?` follows the chain to its end and builds a reply at each link, `chain?` keeps the
whole chain and leaves the building for afterwards. **All three give the same message**, wherever in
the chain there are posts without a text.

The reason is that the cut is made twice. Following one link, the post replied to is taken over with
its own reply cut off; building a reply cuts it off again, whatever is there. So it is enough that
the message of a post is the same up to that cut (`resolve?_prune`), and this needs no look further
down. What is there cannot matter either: any post can take its place (`toMessage?_replaceBehind`).
-/

set_option autoImplicit false

namespace SubstBot.Telegram.Post

/-! ## The whole chain -/

/-- The message of a post with its whole chain of replies resolved, the innermost first. A post
without a text becomes none, and a reply to it keeps its identifier alone. -/
def resolve? : Post → Option Message
  | plain id chat text => text.map fun s => .mk id chat s .notReplying
  | replying id chat text target =>
    text.map fun s => .mk id chat s
      (match target.resolve? with
      | some m => .toMessage m
      | none => .id target.id)

/-- The same with nothing cut off: a message that is replied to keeps its own chain. -/
def chain? : Post → Option Message
  | plain id chat text => text.map fun s => .mk id chat s .notReplying
  | replying id chat text target =>
    text.map fun s => .mk id chat s
      (match target.chain? with
      | some m => .message m
      | none => .id target.id)

/-- The post with another one in the place of what the post replied to replies to. -/
def replaceBehind (p other : Post) : Post :=
  match p with
  | replying id chat text (replying id' chat' text' _) =>
    replying id chat text (replying id' chat' text' other)
  | p => p

/-! ## The two cuts -/

/-- A post that is cut off when it is taken over is cut off after its chain was resolved. -/
theorem resolve?_prune (p : Post) : p.resolve?.map Message.prune = p.toPruned? := by
  cases p with
  | plain id chat text =>
    rw [resolve?, toPruned?, Option.map_map]
    rfl
  | replying id chat text target =>
    rw [resolve?, toPruned?, Option.map_map]
    cases target.resolve? with
    | none => rfl
    | some m => rfl

/-- The reply to a post that a full resolution builds is the one with a single link. -/
theorem toReplyTarget_eq (p : Post) :
    p.toReplyTarget =
      match p.resolve? with
      | some m => .toMessage m
      | none => .id p.id := by
  rw [toReplyTarget, ← p.resolve?_prune]
  cases p.resolve? with
  | none => rfl
  | some m =>
    show ReplyTarget.toMessage m.prune = .toMessage m
    rw [ReplyTarget.toMessage, ReplyTarget.toMessage, Message.prune_prune]

theorem toMessage?_eq_resolve? (p : Post) : p.toMessage? = p.resolve? := by
  cases p with
  | plain id chat text => rfl
  | replying id chat text target => rw [toMessage?, resolve?, toReplyTarget_eq]

/-- Building at each link is the same as building when the whole chain is there. The induction is on
the chain, since the innermost message is built first. -/
theorem resolve?_eq_chain? (p : Post) : p.resolve? = p.chain?.map Message.rebuild := by
  induction p with
  | plain id chat text =>
    rw [resolve?, chain?, Option.map_map]
    rfl
  | replying id chat text target ih =>
    rw [resolve?, chain?, Option.map_map, ih]
    cases target.chain? with
    | none => rfl
    | some m => rfl

/-- Of the post replied to, it is seen whether it is a reply, and not to what. -/
theorem toMessage?_replaceBehind (p other : Post) :
    (p.replaceBehind other).toMessage? = p.toMessage? := by
  cases p with
  | plain id chat text => rfl
  | replying id chat text target =>
    cases target with
    | plain id' chat' text' => rfl
    | replying id' chat' text' behind => rfl

/-- **Following one link gives what following all of them gives**, for a chain of any length with
posts with and without a text anywhere in it: the message is the one with each link resolved, and
the one built from the unabridged chain. It is so although nothing behind the post replied to has
been looked at. -/
theorem toMessage?_resolves (p : Post) :
    p.toMessage? = p.resolve? ∧ p.toMessage? = p.chain?.map Message.rebuild ∧
      ∀ other, (p.replaceBehind other).toMessage? = p.toMessage? := by
  refine ⟨p.toMessage?_eq_resolve?, ?_, fun other => p.toMessage?_replaceBehind other⟩
  rw [toMessage?_eq_resolve?, resolve?_eq_chain?]

end SubstBot.Telegram.Post
