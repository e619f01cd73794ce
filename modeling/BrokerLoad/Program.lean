import BrokerLoad.Broker.Hub
import BrokerLoad.Conductor.Schedule

/-!
# The program

The program parses its command line into a plan, and either says how it is to be
called or carries the plan out on a broker in memory.  It is a function of the
command line: what it writes is a list of log lines, and what it leaves is an exit
code.
-/

namespace BrokerLoad
namespace Program

/-- What the program has done. -/
structure Result where
  exitCode : Nat
  /-- What it wrote. -/
  log : List LogLine

/-- The lines that a run is introduced with. -/
def banner (plan : Plan) : List LogLine :=
  [.out "=== Load Generation Demo ===",
    .out ("  Destination: " ++ plan.destination),
    .out ("  Consumer group: " ++ plan.group),
    .out ("  Publishers: " ++ toString plan.publishers.toNat ++
      ", consumers: " ++ toString plan.consumers.toNat),
    .out ("  Messages per publisher: " ++ toString plan.messages.toNat ++
      " (" ++ toString plan.messageSize.toNat ++ " bytes)"),
    .out ("  Mode: " ++ if plan.pipelined then "async" else "sync")]

/-- Carries a plan out. -/
def carryOut (plan : Plan) (interrupted : Bool) : Result :=
  let hub : Hub := { throttleEvery := plan.throttleEvery, redeliverEvery := plan.redeliverEvery }
  let run := Conductor.conduct plan hub interrupted
  { exitCode := run.exitCode, log := banner plan ++ run.crew.shared.log }

/-- Runs the program on a command line, its own name included. -/
def run (commandLine : List String) (interrupted : Bool) : Result :=
  match Plan.parse {} commandLine with
  | (.accepted, plan) => carryOut plan interrupted
  | (.helpRequested, _) =>
    { exitCode := 0, log := (Plan.usageLines commandLine.head?).map .out }
  | (reception, _) =>
    { exitCode := 2
      log :=
        .err (reception.verdict.text ++ ": " ++ reception.complaint) ::
          (Plan.usageLines commandLine.head?).map .err }

end Program
end BrokerLoad
