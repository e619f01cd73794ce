import BrokerLoad.CommandLine.Scan
import BrokerLoad.CommandLine.Numeral

/-!
# The plan of a run

A plan says how many producers and consumers a run has, what they work on, and how
much.  It starts out with defaults, and a command line changes it: the options are
applied in order, each to its own field, and then the plan as a whole is checked.  A
command line that is refused leaves the plan as it was when it was refused, so the
options before the offending one have taken effect.
-/

namespace BrokerLoad

/-- The plan of a run. -/
structure Plan where
  /-- The destination that is written to and read from. -/
  destination : String := "/loadgen/demo"
  group : String := "/loadgen/demo_cg"
  /-- How many producers there are. -/
  publishers : UInt64 := 1
  consumers : UInt64 := 1
  messages : UInt64 := 1000
  /-- How many bytes of payload a message has. -/
  messageSize : UInt64 := 1024
  pipelined : Bool := true
  /-- How many writes there are from one refusal to the next; 0 for no refusals. -/
  throttleEvery : UInt32 := 0
  /-- How many acknowledgements there are from one duplicate to the next; 0 for no
  duplicates. -/
  redeliverEvery : UInt32 := 0
  /-- When the run is given up; 0 for never. -/
  timeoutSeconds : UInt32 := 60
  deriving DecidableEq

namespace Plan

/-- How many messages the run is to bring across. -/
def expected (plan : Plan) : UInt64 := plan.publishers * plan.messages

/-! ## Settings -/

/-- What an option of the command line is about. -/
inductive Setting where
  | destination
  | group
  /-- The number of producers. -/
  | publishers
  | consumers
  | messages
  | messageSize
  | timeout
  | blocking
  /-- Refusals. -/
  | throttleEvery
  /-- Duplicates. -/
  | redeliverEvery
  | help
  deriving DecidableEq

namespace Setting

/-- The long name of a setting's option. -/
def long : Setting → String
  | .destination => "destination"
  | .group => "consumer-group"
  | .publishers => "publishers"
  | .consumers => "consumers"
  | .messages => "messages"
  | .messageSize => "message-size"
  | .timeout => "timeout"
  | .blocking => "sync"
  | .throttleEvery => "throttle-every"
  | .redeliverEvery => "redeliver-every"
  | .help => "help"

/-- The letter of a setting's option. -/
def letter : Setting → Option Char
  | .destination => some 'd'
  | .group => some 'g'
  | .publishers => some 'p'
  | .consumers => some 'c'
  | .messages => some 'n'
  | .messageSize => some 's'
  | .timeout => some 't'
  | .blocking => none
  | .throttleEvery => none
  | .redeliverEvery => none
  | .help => some 'h'

/-- Whether a setting's option takes a value. -/
def takesValue : Setting → Bool
  | .blocking => false
  | .help => false
  | _ => true

/-- A setting's option. -/
def spec (setting : Setting) : CommandLine.OptionSpec Setting where
  key := setting
  long := setting.long
  letter := setting.letter
  takesValue := setting.takesValue

/-- All settings. -/
def all : List Setting :=
  [.destination, .group, .publishers, .consumers, .messages, .messageSize, .timeout, .blocking,
    .throttleEvery, .redeliverEvery, .help]

end Setting

/-- The options of the command line. -/
def options : List (CommandLine.OptionSpec Setting) := Setting.all.map Setting.spec

/-! ## Refusals -/

/-- Why a command line is refused. -/
inductive Refusal where
  /-- An option is not known, or there is an argument that is none. -/
  | unknownOption (blamed : String)
  /-- An option has no value. -/
  | missingValue (blamed : String)
  /-- The value of an option is not a number, or too large. -/
  | badNumber (setting : Setting) (text : String)
  | noDestination
  | noGroup
  /-- There are no producers. -/
  | noPublishers
  | noConsumers
  | noMessages
  | tooManyMessages
  deriving DecidableEq

namespace Refusal

/-- What a refusal complains about. -/
def text : Refusal → String
  | .unknownOption blamed => blamed
  | .missingValue blamed => blamed
  | .badNumber setting text => "--" ++ setting.long ++ " " ++ text
  | .noDestination => "destination path must not be empty"
  | .noGroup => "consumer group must not be empty"
  | .noPublishers => "at least one publisher is required"
  | .noConsumers => "at least one consumer is required"
  | .noMessages => "message count must be positive"
  | .tooManyMessages => "total message count (publishers * messages) is too large"

end Refusal

/-- The kinds of results that parsing a command line has. -/
inductive Verdict where
  /-- The plan can be carried out. -/
  | success
  | helpRequested
  | unknownOption
  /-- There is an option without its value. -/
  | missingValue
  /-- There is a value that cannot be. -/
  | invalidValue
  deriving DecidableEq

namespace Verdict

/-- The verdict of a code, if it has one. -/
def ofCode? : Int → Option Verdict
  | 0 => some .success
  | 1 => some .helpRequested
  | 2 => some .unknownOption
  | 3 => some .missingValue
  | 4 => some .invalidValue
  | _ => none

/-- How a verdict is worded. -/
def text : Verdict → String
  | .success => "Success"
  | .helpRequested => "Help requested"
  | .unknownOption => "Unknown option"
  | .missingValue => "Missing option value"
  | .invalidValue => "Invalid option value"

/-- How the verdict of a code is worded. -/
def textOfCode (code : Int) : String :=
  ((ofCode? code).map text).getD "Unknown error"

end Verdict

/-- How a command line is taken. -/
inductive Reception where
  /-- The plan can be carried out. -/
  | accepted
  | helpRequested
  | refused (why : Refusal)
  deriving DecidableEq

namespace Reception

/-- The kind of a reception. -/
def verdict : Reception → Verdict
  | .accepted => .success
  | .helpRequested => .helpRequested
  | .refused (.unknownOption _) => .unknownOption
  | .refused (.missingValue _) => .missingValue
  | .refused _ => .invalidValue

/-- What a reception complains about, if it does. -/
def complaint : Reception → String
  | .accepted => ""
  | .helpRequested => ""
  | .refused why => why.text

end Reception

/-! ## Applying options -/

/-- The largest value of most settings. -/
def maxUInt32 : UInt64 := 0xFFFFFFFF

/-- The largest value of the number of messages. -/
def maxUInt64 : UInt64 := 0xFFFFFFFFFFFFFFFF

/-- Applies a number to a field. -/
def number (plan : Plan) (setting : Setting) (text : String) (maximum : UInt64)
    (assign : UInt64 → Plan) : Except Reception Unit × Plan :=
  match Numeral.optionValue? text maximum with
  | some value => (.ok (), assign value)
  | none => (.error (.refused (.badNumber setting text)), plan)

/-- Applies an option.  Its end may be the end of the parsing. -/
def apply (plan : Plan) (option : CommandLine.Occurrence Setting) :
    Except Reception Unit × Plan :=
  let text := option.value
  match option.key with
  | .destination => (.ok (), { plan with destination := text })
  | .group => (.ok (), { plan with group := text })
  | .publishers =>
    plan.number .publishers text maxUInt32 fun value => { plan with publishers := value }
  | .consumers =>
    plan.number .consumers text maxUInt32 fun value => { plan with consumers := value }
  | .messages =>
    plan.number .messages text maxUInt64 fun value => { plan with messages := value }
  | .messageSize =>
    plan.number .messageSize text maxUInt32 fun value => { plan with messageSize := value }
  | .timeout =>
    plan.number .timeout text maxUInt32 fun value =>
      { plan with timeoutSeconds := value.toUInt32 }
  | .blocking => (.ok (), { plan with pipelined := false })
  | .throttleEvery =>
    plan.number .throttleEvery text maxUInt32 fun value =>
      { plan with throttleEvery := value.toUInt32 }
  | .redeliverEvery =>
    plan.number .redeliverEvery text maxUInt32 fun value =>
      { plan with redeliverEvery := value.toUInt32 }
  | .help => (.error .helpRequested, plan)

/-- Applies options until one of them is the end of it. -/
def applyAll (plan : Plan) : List (CommandLine.Occurrence Setting) → Except Reception Unit × Plan
  | [] => (.ok (), plan)
  | option :: rest =>
    match plan.apply option with
    | (.ok (), plan) => plan.applyAll rest
    | (.error reception, plan) => (.error reception, plan)

/-- Checks a plan as a whole.  The check for too many messages is by division, so that it
cannot overflow itself; it comes after the check that there are producers. -/
def check (plan : Plan) : Reception :=
  if plan.destination = "" then .refused .noDestination
  else if plan.group = "" then .refused .noGroup
  else if plan.publishers = 0 then .refused .noPublishers
  else if plan.consumers = 0 then .refused .noConsumers
  else if plan.messages = 0 then .refused .noMessages
  else if maxUInt64 / plan.publishers < plan.messages then .refused .tooManyMessages
  else .accepted

/-- What the end of a scan means for a plan that all its options were applied to. -/
def conclude (plan : Plan) : CommandLine.ScanEnd → Reception
  | .unknownOption blamed => .refused (.unknownOption blamed)
  | .missingValue blamed => .refused (.missingValue blamed)
  | .operands (operand :: _) => .refused (.unknownOption operand)
  | .operands [] => plan.check

/-- Parses a command line into a plan. -/
def parse (plan : Plan) (commandLine : List String) : Reception × Plan :=
  let scan := CommandLine.scan options commandLine
  match plan.applyAll scan.found with
  | (.error reception, plan) => (reception, plan)
  | (.ok (), plan) => (plan.conclude scan.ending, plan)

/-! ## Usage -/

/-- The lines that say how to call the program, whose name may be unknown. -/
def usageLines (program : Option String) : List String :=
  let defaults : Plan := {}
  ["Usage: " ++ program.getD "loadgen_demo" ++ " [options]",
    "  -d, --destination PATH      destination path (default " ++ defaults.destination ++ ")",
    "  -g, --consumer-group NAME   consumer group (default " ++ defaults.group ++ ")",
    "  -p, --publishers N          publisher instances (default " ++
      toString defaults.publishers.toNat ++ ")",
    "  -c, --consumers N           consumer instances (default " ++
      toString defaults.consumers.toNat ++ ")",
    "  -n, --messages N            messages per publisher (default " ++
      toString defaults.messages.toNat ++ ")",
    "  -s, --message-size BYTES    payload bytes per message (default " ++
      toString defaults.messageSize.toNat ++ ")",
    "  -t, --timeout SECONDS       give up after this long (default " ++
      toString defaults.timeoutSeconds.toNat ++ ")",
    "      --sync                  use the blocking publish/consume api",
    "      --throttle-every N      broker throttles every Nth write (default off)",
    "      --redeliver-every N     broker redelivers every Nth ack (default off)",
    "  -h, --help                  show this message"]

/-- How to call the program, each line with its end. -/
def usage (program : Option String) : String :=
  String.join ((usageLines program).map (· ++ "\n"))

end Plan
end BrokerLoad
