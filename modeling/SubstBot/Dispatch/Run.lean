import SubstBot.Handler

/-!
# `SubstBot/Dispatch/Run.lean` — one run of the dispatch loop

Messages are taken from a transport one at a time, in the order in which they come. Each is offered
to the handlers in their order until one claims it; a message that none claims is dropped. The run
ends when the transport reports that nothing more will come, or at the first failure.

A run is recorded as **steps**, one for each time that a message was asked for.
-/

set_option autoImplicit false

namespace SubstBot.Dispatch

/-- How an offer of a message to a handler ended. -/
inductive Offer where
  | declined
  | claimed
  | raised
  deriving DecidableEq, Repr

/-- An answer that was handed to the transport, with the error if it was not delivered. -/
structure Delivery where
  answer : Outgoing
  failure : Option TransportError := none
  deriving DecidableEq, Repr

/-- One message asked for: what came, the offers made, the answer handed to the transport if there
was one, and what was logged. -/
structure Step where
  receipt : Receipt
  offers : List Offer := []
  delivery : Option Delivery := none
  logs : List LogRecord := []
  deriving DecidableEq, Repr

/-- The answers delivered in a step: at most one. -/
def Step.sent (s : Step) : List Outgoing :=
  match s.delivery with
  | some ⟨answer, none⟩ => [answer]
  | _ => []

/-- How a run ended. A failure of a handler that is none of the transport's ends it as it is. -/
inductive Ending (ε : Type := Rule.NumeralTooLong) where
  | disconnected
  | receiverFailed (e : TransportError)
  | handlerFailed (e : TransportError)
  | crashed (e : ε)
  deriving DecidableEq, Repr

/-- A failure inside a handler, as the end of a run. -/
def Ending.ofFailure {ε : Type} : HandlerFailure ε → Ending ε
  | .transport e => handlerFailed e
  | .other e => crashed e

/-- A message that has been offered around: the step so far, how the run ended if it did, and the
state of the transport. -/
structure Offering (σ : Type) (ε : Type := Rule.NumeralTooLong) where
  step : Step
  ending : Option (Ending ε)
  state : σ

/-- The offering with one more handler in front that declined. -/
def Offering.afterDecline {σ ε : Type} (o : Offering σ ε) : Offering σ ε :=
  { o with step := { o.step with offers := .declined :: o.step.offers } }

def droppedRecord (m : Message) : LogRecord :=
  ⟨.debug, .dispatch, "No handler claimed message " ++ m.id.show ++ ", dropped."⟩

/-- Hand an answer to the transport. The handler has claimed the message if it is delivered;
otherwise the run ends. -/
def deliver {σ ε : Type} (t : Transport σ) (m : Message) (logs : List LogRecord)
    (answer : Outgoing) (s : σ) : Offering σ ε :=
  let (failure, s) := t.send answer s
  { step :=
      { receipt := .message m, offers := [if failure.isSome then .raised else .claimed]
        delivery := some { answer, failure }, logs }
    ending := failure.map .handlerFailed, state := s }

def offer {σ ε : Type} (t : Transport σ) (bot : Identity) (m : Message) :
    List (Handler ε) → σ → Offering σ ε
  | [], s =>
    { step := { receipt := .message m, logs := [droppedRecord m] }, ending := none, state := s }
  | h :: hs, s =>
    match h.respond bot m with
    | .declined => (offer t bot m hs s).afterDecline
    | .claimed =>
      { step := { receipt := .message m, offers := [.claimed] }, ending := none, state := s }
    | .failed e =>
      { step := { receipt := .message m, offers := [.raised] }, ending := some (.ofFailure e)
        state := s }
    | .answered logs answer => deliver t m logs answer s

structure Run (σ : Type) (ε : Type := Rule.NumeralTooLong) where
  steps : List Step
  ending : Ending ε
  state : σ

def Run.logs {σ ε : Type} (r : Run σ ε) : List LogRecord :=
  r.steps.flatMap Step.logs

def disconnectedRecord : LogRecord :=
  ⟨.info, .dispatch, "Receiver disconnected, stopping dispatch loop."⟩

/-- Take and offer at most `bound` messages. A transport that has more to give than its backlog
said would be cut off there as if it had ended. -/
def runFor {σ ε : Type} (t : Transport σ) (bot : Identity) (handlers : List (Handler ε)) :
    (bound : Nat) → σ → Run σ ε
  | 0, s => { steps := [], ending := .disconnected, state := s }
  | bound + 1, s =>
    match t.receive s with
    | (.failed e, logs, s) =>
      { steps := [{ receipt := .failed e, logs }], ending := .receiverFailed e, state := s }
    | (.disconnected, logs, s) =>
      { steps := [{ receipt := .disconnected, logs := logs ++ [disconnectedRecord] }]
        ending := .disconnected, state := s }
    | (.message m, logs, s) =>
      let o := offer t bot m handlers s
      let step := { o.step with logs := logs ++ o.step.logs }
      match o.ending with
      | some ending => { steps := [step], ending, state := o.state }
      | none =>
        let r := runFor t bot handlers bound o.state
        { r with steps := step :: r.steps }

def run {σ ε : Type} (t : Transport σ) (bot : Identity) (handlers : List (Handler ε)) (s : σ) :
    Run σ ε :=
  runFor t bot handlers (t.backlog s + 1) s

end SubstBot.Dispatch
