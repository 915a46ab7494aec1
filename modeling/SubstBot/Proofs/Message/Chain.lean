import SubstBot.Message

/-!
# `SubstBot/Proofs/Message/Chain.lean` — chains of replies have one link

A message can be given as a reply to a reply to a reply. When it is built, innermost first, each
reply to a whole message cuts off what that message replies to, so of a chain of any length the
message itself, the one it replies to, and the bare fact that this one is a reply are left.

Building and cutting off meet in one fact, `prune_rebuild`: **what is built inside a message that
is cut off makes no difference**. Everything else is read off it, without a look below the second
message: `rebuild_chain` says what a built message keeps, that this decides which structures build
the same message, and that whatever is built already stays as it is.
-/

set_option autoImplicit false

namespace SubstBot

/-! ## What is given and what is kept -/

mutual

/-- The number of messages in a row that are known as a whole, behind the message itself. -/
def Message.depth : Message → Nat
  | .mk _ _ _ reply => reply.depth

/-- The number of messages in a row that are known as a whole. -/
def ReplyTarget.depth : ReplyTarget → Nat
  | .message m => m.depth + 1
  | .id _ => 0
  | .pruned => 0
  | .notReplying => 0

end

namespace Message

/-- A message that the constructors give: what it replies to has been built before it. -/
inductive Constructed : Message → Prop where
  | notReplying (id chat : Identifier) (content : String) :
      Constructed (.mk id chat content .notReplying)
  | pruned (id chat : Identifier) (content : String) : Constructed (.mk id chat content .pruned)
  | toId (id chat : Identifier) (content : String) (i : Identifier) :
      Constructed (.mk id chat content (.id i))
  | toMessage (id chat : Identifier) (content : String) {n : Message} (h : Constructed n) :
      Constructed (.mk id chat content (.toMessage n))

/-- The same message but for what it replies to, of which only the fact that it replies counts. -/
structure SameHead (m m' : Message) : Prop where
  id : m.id = m'.id
  chat : m.chat = m'.chat
  content : m.content = m'.content
  replies : m.reply = .notReplying ↔ m'.reply = .notReplying

end Message

/-- Two replies that agree as far as the message replied to: it has the same head, if it is known as
a whole. -/
inductive ReplyTarget.Agrees : ReplyTarget → ReplyTarget → Prop where
  | message {n n' : Message} (h : n.SameHead n') : Agrees (.message n) (.message n')
  | id (i : Identifier) : Agrees (.id i) (.id i)
  | pruned : Agrees .pruned .pruned
  | notReplying : Agrees .notReplying .notReplying

/-- Two messages that agree as far as the message replied to, and not necessarily below it. -/
structure Message.Agrees (m m' : Message) : Prop where
  id : m.id = m'.id
  chat : m.chat = m'.chat
  content : m.content = m'.content
  reply : m.reply.Agrees m'.reply

namespace Message

/-- **What a built message keeps** of the structure that it is built from. -/
structure Kept (given built : Message) : Prop where
  id : built.id = given.id
  chat : built.chat = given.chat
  content : built.content = given.content
  /-- The chain has one link at most, and it has that if it was given one. -/
  depth : built.depth = min given.depth 1
  /-- A message that is replied to and known as a whole keeps its head. -/
  nested : ∀ n, given.reply = .message n →
    ∃ n', built.reply = .message n' ∧ n'.id = n.id ∧ n'.chat = n.chat ∧ n'.content = n.content ∧
      (n'.reply = .notReplying ↔ n.reply = .notReplying)
  /-- Any message replied to that is known as a whole has no more of a reply than the fact. -/
  cut : ∀ n', built.reply = .message n' → n'.reply = .notReplying ∨ n'.reply = .pruned
  other : (∀ n, given.reply ≠ .message n) → built.reply = given.reply

/-! ## Cutting off -/

@[simp] theorem prune_id (m : Message) : m.prune.id = m.id := by
  obtain ⟨id, chat, content, reply⟩ := m
  cases reply <;> rfl

@[simp] theorem prune_chat (m : Message) : m.prune.chat = m.chat := by
  obtain ⟨id, chat, content, reply⟩ := m
  cases reply <;> rfl

@[simp] theorem prune_content (m : Message) : m.prune.content = m.content := by
  obtain ⟨id, chat, content, reply⟩ := m
  cases reply <;> rfl

theorem prune_reply (m : Message) :
    m.prune.reply = if m.reply = .notReplying then .notReplying else .pruned := by
  obtain ⟨id, chat, content, reply⟩ := m
  cases reply <;> rfl

theorem prune_reply_cases (m : Message) :
    m.prune.reply = .notReplying ∨ m.prune.reply = .pruned := by
  rw [prune_reply]
  split
  · exact Or.inl rfl
  · exact Or.inr rfl

theorem prune_reply_eq_notReplying_iff (m : Message) :
    m.prune.reply = .notReplying ↔ m.reply = .notReplying := by
  rw [prune_reply]
  split <;> simp_all

@[simp] theorem prune_depth (m : Message) : m.prune.depth = 0 := by
  obtain ⟨id, chat, content, reply⟩ := m
  cases reply <;> rfl

@[simp] theorem prune_prune (m : Message) : m.prune.prune = m.prune := by
  obtain ⟨id, chat, content, reply⟩ := m
  cases reply <;> rfl

theorem ext_fields {m m' : Message} (hid : m.id = m'.id) (hchat : m.chat = m'.chat)
    (hcontent : m.content = m'.content) (hreply : m.reply = m'.reply) : m = m' := by
  obtain ⟨id, chat, content, reply⟩ := m
  obtain ⟨id', chat', content', reply'⟩ := m'
  cases hid
  cases hchat
  cases hcontent
  cases hreply
  rfl

/-- A message that is cut off is its head. -/
theorem prune_eq_prune_iff {m m' : Message} : m.prune = m'.prune ↔ m.SameHead m' := by
  constructor
  · intro h
    refine ⟨?_, ?_, ?_, ?_⟩
    · rw [← prune_id m, h, prune_id]
    · rw [← prune_chat m, h, prune_chat]
    · rw [← prune_content m, h, prune_content]
    · rw [← prune_reply_eq_notReplying_iff m, h, prune_reply_eq_notReplying_iff]
  · intro h
    refine ext_fields ?_ ?_ ?_ ?_
    · rw [prune_id, prune_id, h.id]
    · rw [prune_chat, prune_chat, h.chat]
    · rw [prune_content, prune_content, h.content]
    · simp only [prune_reply, h.replies]

/-! ## Building -/

/-- What is built inside a message that is cut off makes no difference. -/
theorem prune_rebuild (m : Message) : m.rebuild.prune = m.prune := by
  obtain ⟨id, chat, content, reply⟩ := m
  cases reply <;> rfl

end Message

/-- A reply is built by cutting off the message replied to, however deep its own chain is. -/
theorem ReplyTarget.rebuild_message (n : Message) :
    (ReplyTarget.message n).rebuild = .message n.prune := by
  rw [ReplyTarget.rebuild, ReplyTarget.toMessage, Message.prune_rebuild]

theorem ReplyTarget.rebuild_eq_rebuild_iff {r r' : ReplyTarget} :
    r.rebuild = r'.rebuild ↔ r.Agrees r' := by
  constructor
  · intro h
    cases r with
    | message n =>
      cases r' with
      | message n' =>
        rw [rebuild_message, rebuild_message, ReplyTarget.message.injEq] at h
        exact .message (Message.prune_eq_prune_iff.mp h)
      | id _ | pruned | notReplying => nomatch h
    | id i =>
      cases r' with
      | id i' =>
        cases h
        exact .id i
      | message _ | pruned | notReplying => nomatch h
    | pruned =>
      cases r' with
      | pruned => exact .pruned
      | message _ | id _ | notReplying => nomatch h
    | notReplying =>
      cases r' with
      | notReplying => exact .notReplying
      | message _ | id _ | pruned => nomatch h
  · intro h
    cases h with
    | message h => rw [rebuild_message, rebuild_message, Message.prune_eq_prune_iff.mpr h]
    | id i | pruned | notReplying => rfl

theorem ReplyTarget.rebuild_rebuild (r : ReplyTarget) : r.rebuild.rebuild = r.rebuild := by
  cases r with
  | message n => rw [rebuild_message, rebuild_message, Message.prune_prune]
  | id i | pruned | notReplying => rfl

theorem ReplyTarget.rebuild_depth (r : ReplyTarget) : r.rebuild.depth = min r.depth 1 := by
  cases r with
  | message n =>
    rw [rebuild_message, ReplyTarget.depth, ReplyTarget.depth, Message.prune_depth]
    omega
  | id i | pruned | notReplying => rfl

namespace Message

theorem rebuild_reply (m : Message) : m.rebuild.reply = m.reply.rebuild := by
  obtain ⟨id, chat, content, reply⟩ := m
  rfl

theorem rebuild_kept (m : Message) : Kept m m.rebuild := by
  have hreply := m.rebuild_reply
  obtain ⟨id, chat, content, reply⟩ := m
  refine ⟨rfl, rfl, rfl, reply.rebuild_depth, ?nested, ?cut, ?other⟩
  case nested =>
    rintro n rfl
    exact ⟨n.prune, hreply.trans (ReplyTarget.rebuild_message n), n.prune_id, n.prune_chat,
      n.prune_content, n.prune_reply_eq_notReplying_iff⟩
  case cut =>
    intro n' h
    rw [hreply] at h
    cases reply with
    | message n =>
      rw [reply, ReplyTarget.rebuild_message, ReplyTarget.message.injEq] at h
      rw [← h]
      exact n.prune_reply_cases
    | id i | pruned | notReplying => exact absurd h (by simp [Message.reply, ReplyTarget.rebuild])
  case other =>
    intro h
    rw [hreply]
    cases reply with
    | message n => exact absurd rfl (h n)
    | id i | pruned | notReplying => rfl

theorem rebuild_eq_rebuild_iff {m m' : Message} : m.rebuild = m'.rebuild ↔ m.Agrees m' := by
  constructor
  · intro h
    have hkept := m.rebuild_kept
    have hkept' := m'.rebuild_kept
    refine ⟨?_, ?_, ?_, ReplyTarget.rebuild_eq_rebuild_iff.mp ?_⟩
    · rw [← hkept.id, h, hkept'.id]
    · rw [← hkept.chat, h, hkept'.chat]
    · rw [← hkept.content, h, hkept'.content]
    · rw [← m.rebuild_reply, h, m'.rebuild_reply]
  · intro h
    refine ext_fields ?_ ?_ ?_ ?_
    · rw [m.rebuild_kept.id, h.id, m'.rebuild_kept.id]
    · rw [m.rebuild_kept.chat, h.chat, m'.rebuild_kept.chat]
    · rw [m.rebuild_kept.content, h.content, m'.rebuild_kept.content]
    · rw [rebuild_reply, rebuild_reply, ReplyTarget.rebuild_eq_rebuild_iff.mpr h.reply]

theorem rebuild_rebuild (m : Message) : m.rebuild.rebuild = m.rebuild := by
  obtain ⟨id, chat, content, reply⟩ := m
  rw [rebuild, rebuild, ReplyTarget.rebuild_rebuild]

/-- Innermost first: the message replied to is constructed before the one that replies to it. -/
theorem constructed_rebuild : ∀ m : Message, m.rebuild.Constructed
  | .mk id chat content (.message n) => .toMessage id chat content (constructed_rebuild n)
  | .mk id chat content (.id i) => .toId id chat content i
  | .mk id chat content .pruned => .pruned id chat content
  | .mk id chat content .notReplying => .notReplying id chat content

/-- The constructors give the messages that building again does not change, and no others. -/
theorem constructed_iff_rebuild_eq {m : Message} : m.Constructed ↔ m.rebuild = m := by
  constructor
  · intro h
    cases h with
    | @toMessage id chat content n h =>
      rw [rebuild, ReplyTarget.toMessage, ReplyTarget.rebuild_message, prune_prune]
    | notReplying | pruned | toId => rfl
  · intro h
    rw [← h]
    exact m.constructed_rebuild

/-- **Chains of replies have one link.** A built message keeps the heads of the message itself and
of the one it replies to. Two structures build the same message if and only if they agree in these,
and what is below them makes no difference. What the constructors give is what building gives, and
neither building nor cutting off does anything when done again. -/
theorem rebuild_chain (m : Message) :
    Kept m m.rebuild ∧ (∀ m', m.rebuild = m'.rebuild ↔ m.Agrees m') ∧
    (m.Constructed ↔ ∃ given : Message, given.rebuild = m) ∧
    m.rebuild.rebuild = m.rebuild ∧ m.prune.prune = m.prune := by
  refine ⟨m.rebuild_kept, fun m' => rebuild_eq_rebuild_iff, ?constructed, m.rebuild_rebuild,
    m.prune_prune⟩
  case constructed =>
    constructor
    · intro h
      exact ⟨m, constructed_iff_rebuild_eq.mp h⟩
    · rintro ⟨given, rfl⟩
      exact given.constructed_rebuild

end Message

end SubstBot
