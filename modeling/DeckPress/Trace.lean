/-!
Computations that report what they do. A trace holds the messages in order and what the
computation came to; messages written before a failure are kept. Outcomes compose as if nothing
had been reported.
-/

namespace DeckPress

inductive Level where
  | debug
  | info
  | warning
  | error
  deriving DecidableEq, Repr

def Level.name : Level → String
  | .debug => "DEBUG"
  | .info => "INFO"
  | .warning => "WARNING"
  | .error => "ERROR"

structure Message where
  level : Level
  text : String
  deriving DecidableEq, Repr

structure Trace (ε α : Type) where
  messages : List Message
  outcome : Except ε α

namespace Trace

variable {ε α β : Type}

def quiet (outcome : Except ε α) : Trace ε α :=
  { messages := [], outcome }

def report (level : Level) (text : String) : Trace ε Unit :=
  { messages := [{ level, text }], outcome := .ok () }

def reportAll (messages : List Message) : Trace ε Unit :=
  { messages, outcome := .ok () }

def mapError {δ : Type} (cause : ε → δ) (x : Trace ε α) : Trace δ α :=
  { messages := x.messages, outcome := x.outcome.mapError cause }

protected def bind (x : Trace ε α) (next : α → Trace ε β) : Trace ε β :=
  match x.outcome with
  | .ok a => { messages := x.messages ++ (next a).messages, outcome := (next a).outcome }
  | .error e => { messages := x.messages, outcome := .error e }

instance : Monad (Trace ε) where
  pure a := quiet (.ok a)
  bind := Trace.bind

@[simp] theorem outcome_quiet (x : Except ε α) : (quiet x).outcome = x := rfl

@[simp] theorem outcome_pure (a : α) : (pure a : Trace ε α).outcome = .ok a := rfl

@[simp] theorem outcome_bind (x : Trace ε α) (next : α → Trace ε β) :
    (x >>= next).outcome = x.outcome.bind fun a => (next a).outcome := by
  cases x with
  | mk messages outcome => cases outcome <;> rfl

@[simp] theorem outcome_mapError {δ : Type} (cause : ε → δ) (x : Trace ε α) :
    (x.mapError cause).outcome = x.outcome.mapError cause := rfl

@[simp] theorem outcome_report (level : Level) (text : String) :
    (report level text : Trace ε Unit).outcome = .ok () := rfl

@[simp] theorem outcome_reportAll (messages : List Message) :
    (reportAll messages : Trace ε Unit).outcome = .ok () := rfl

end Trace

end DeckPress
