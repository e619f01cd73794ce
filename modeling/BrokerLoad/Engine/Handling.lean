import BrokerLoad.Engine.Query
import BrokerLoad.Worker.Ending

/-!
# The life of an engine's handle

Every engine does its work through one handle, and they all treat it alike.  The
handle is created, opened, used, closed and given back.  What lies between opening
and closing is the engine's own loop; all the rest is here, once for all engines.

* A client that hands out no handle, or one that cannot be opened, ends the engine
  with an unexpected error.
* A fault that is an error, wherever it comes from, is reported and ends the engine
  with an unexpected error; the handle is closed all the same.  An error while
  closing is reported and changes nothing.
* A fault that is no error goes straight through: it ends the engine as it is, and
  nobody closes the handle.  It is still given back, as whatever held it goes away.
-/

namespace BrokerLoad

namespace Role

/-- What a handle of this role is called in log lines. -/
def word : Role → String
  | .publisher _ => "publisher"
  | .consumer _ _ _ => "consumer"

/-- What a handle of this role works on, in log lines. -/
def target : Role → String
  | .publisher destination => destination
  | .consumer destination group _ => destination ++ "/" ++ group

/-- The counter that a reported error of this role is counted in, if it is. -/
def errorCounter : Role → List Emission
  | .publisher _ => []
  | .consumer _ _ _ => [.bump .receiveErrors 1]

end Role

namespace Handling

/-- How far the handle has come. -/
inductive Stage where
  | creating
  | opening (handle : Handle)
  /-- Could not be opened; about to ask why. -/
  | refused (handle : Handle)
  /-- In use. -/
  | working (handle : Handle)
  | closing (handle : Handle) (ending : Ending)
  /-- About to be given back. -/
  | releasing (handle : Handle) (outcome : Outcome)
  /-- Gone. -/
  | over (outcome : Outcome)

end Handling

/-- An engine: its handle, and the state of its loop, which keeps its counts before the
loop is entered and after it is left. -/
structure Handling (σ : Type) where
  /-- How far the handle has come. -/
  stage : Handling.Stage
  loop : σ

namespace Handling

variable {σ : Type}

/-- An engine that has not begun. -/
def begin (loop : σ) : Paced (Handling σ) := .enter ⟨.creating, loop⟩

/-- The report of an error. -/
def caught (name : String) (role : Role) (what : String) : List Emission :=
  .say (.err (name ++ " caught unexpected exception: " ++ what)) :: role.errorCounter

/-- What follows a fault while there is a handle. -/
def fail (name : String) (role : Role) (handle : Handle) (loop : σ) : Fault → Paced (Handling σ)
  | .error what => ⟨caught name role what, ⟨.closing handle .unexpectedError, loop⟩⟩
  | .foreign => .enter ⟨.releasing handle (.error .foreign), loop⟩

/-- What follows the end of the loop. -/
def leave (name : String) (role : Role) (handle : Handle) (loop : σ) :
    Outcome → Paced (Handling σ)
  | .ok ending => .enter ⟨.closing handle ending, loop⟩
  | .error fault => fail name role handle loop fault

/-- What an engine asks next. -/
def request (name : String) (role : Role) (body : Handle → σ → Request Ending (Paced σ))
    (engine : Handling σ) : Request Ending (Paced (Handling σ)) :=
  let loop := engine.loop
  match engine.stage with
  | .creating =>
    .ask (.broker (.create role)) fun
      | .ok (some handle) => .enter ⟨.opening handle, loop⟩
      | .ok none =>
        ⟨[.say (.err (name ++ ": failed to create " ++ role.word ++ " for " ++ role.target))],
          ⟨.over (.ok .unexpectedError), loop⟩⟩
      | .error (.error what) =>
        ⟨caught name role what, ⟨.over (.ok .unexpectedError), loop⟩⟩
      | .error .foreign => .enter ⟨.over (.error .foreign), loop⟩
  | .opening handle =>
    .ask (.broker (.openHandle handle)) fun
      | .ok true => .enter ⟨.working handle, loop⟩
      | .ok false => .enter ⟨.refused handle, loop⟩
      | .error fault => fail name role handle loop fault
  | .refused handle =>
    .ask (.broker (.lastError handle)) fun reason =>
      ⟨[.say (.err (name ++ ": failed to open " ++ role.word ++ ": " ++ reason))],
        ⟨.closing handle .unexpectedError, loop⟩⟩
  | .working handle =>
    (body handle loop).within (fun loop => ⟨.working handle, loop⟩) (leave name role handle loop)
  | .closing handle ending =>
    .ask (.broker (.closeHandle handle)) fun
      | .ok () => .enter ⟨.releasing handle (.ok ending), loop⟩
      | .error (.error what) =>
        ⟨[.say (.err (name ++ ": failed to close " ++ role.word ++ ": " ++ what))],
          ⟨.releasing handle (.ok ending), loop⟩⟩
      | .error .foreign => .enter ⟨.releasing handle (.error .foreign), loop⟩
  | .releasing handle outcome =>
    .ask (.broker (.release handle)) fun _ => .enter ⟨.over outcome, loop⟩
  | .over outcome => .finish outcome

end Handling
end BrokerLoad
