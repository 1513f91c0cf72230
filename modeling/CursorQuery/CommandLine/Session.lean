/-!
This module contains sessions: what a command comes to before it prints anything, which is a result or
an error, and the events that it logs on the way.
-/

namespace CursorQuery

inductive Level where
  | info
  | debug
  deriving Repr, DecidableEq

structure Event where
  level : Level
  target : String
  text : String
  deriving Repr, DecidableEq

namespace Event

def display (event : Event) : String :=
  let level :=
    match event.level with
    | .info => "INFO"
    | .debug => "DEBUG"
  level ++ " " ++ event.target ++ ": " ++ event.text

def isShown (verbosity : Nat) (event : Event) : Bool :=
  match event.level with
  | .info => 1 ≤ verbosity
  | .debug => 2 ≤ verbosity

end Event

structure Session (α : Type) where
  result : Except String α
  log : List Event

namespace Session

variable {α β : Type}

def done (a : α) : Session α where
  result := .ok a
  log := []

def fail (message : String) : Session α where
  result := .error message
  log := []

def note (events : List Event) : Session Unit where
  result := .ok ()
  log := events

/-- One session after the other. After an error nothing more happens. -/
def andThen (first : Session α) (next : α → Session β) : Session β :=
  match first.result with
  | .error message => { result := .error message, log := first.log }
  | .ok a =>
    let second := next a
    { second with log := first.log ++ second.log }

instance : Monad Session where
  pure := done
  bind := andThen

def ofExcept {ε : Type} (message : ε → String) (result : Except ε α) : Session α :=
  match result with
  | .ok a => done a
  | .error e => fail (message e)

end Session
end CursorQuery
