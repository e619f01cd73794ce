import BrokerLoad.Engine.Handling
import BrokerLoad.Producer.Pipelined
import BrokerLoad.Producer.Blocking
import BrokerLoad.Consumer.Pipelined
import BrokerLoad.Consumer.Blocking

/-!
# The four engines

A producer or a consumer, pipelined or blocking: each is its loop inside the life of
its handle.  `Engine` puts the four into one type, so that a crew may have any
mixture of them.
-/

namespace BrokerLoad

namespace Producer.Options

/-- The role of a producer's handle. -/
def role (options : Producer.Options) : Role := .publisher options.destination

end Producer.Options

namespace Consumer.Options

/-- The role of a consumer's handle. -/
def role (options : Consumer.Options) : Role :=
  .consumer options.destination options.group options.prefetch

end Consumer.Options

/-- An engine at work. -/
inductive Engine where
  | pipelinedProducer (options : Producer.Options)
      (state : Paced (Handling Producer.Pipelined.Loop))
  | blockingProducer (options : Producer.Options)
      (state : Paced (Handling Producer.Blocking.Loop))
  | pipelinedConsumer (options : Consumer.Options)
      (state : Paced (Handling Consumer.Pipelined.Loop))
  | blockingConsumer (options : Consumer.Options)
      (state : Paced (Handling Consumer.Blocking.Loop))

namespace Engine

/-- A producer that has not begun. -/
def producer (pipelined : Bool) (options : Producer.Options) : Engine :=
  if pipelined then
    .pipelinedProducer options (Handling.begin (.start options))
  else
    .blockingProducer options (Handling.begin {})

/-- A consumer that has not begun. -/
def consumer (pipelined : Bool) (options : Consumer.Options) : Engine :=
  if pipelined then
    .pipelinedConsumer options (Handling.begin {})
  else
    .blockingConsumer options (Handling.begin {})

/-- What an engine asks next, under the name that it writes in its log lines. -/
def request (name : String) : Engine → Request Ending Engine
  | .pipelinedProducer options state =>
    (state.request (Handling.request name options.role
      (Producer.Pipelined.request name options))).map (.pipelinedProducer options)
  | .blockingProducer options state =>
    (state.request (Handling.request name options.role
      (Producer.Blocking.request name options))).map (.blockingProducer options)
  | .pipelinedConsumer options state =>
    (state.request (Handling.request name options.role
      (Consumer.Pipelined.request name))).map (.pipelinedConsumer options)
  | .blockingConsumer options state =>
    (state.request (Handling.request name options.role
      (Consumer.Blocking.request name))).map (.blockingConsumer options)

/-- What an engine counts for itself. -/
inductive Counts where
  | producer (counts : Producer.Counts)
  | consumer (counts : Consumer.Counts)
  deriving DecidableEq

/-- The counts of an engine. -/
def counts : Engine → Counts
  | .pipelinedProducer _ state => .producer state.now.loop.counts
  | .blockingProducer _ state => .producer state.now.loop.counts
  | .pipelinedConsumer _ state => .consumer state.now.loop.counts
  | .blockingConsumer _ state => .consumer state.now.loop.counts

/-- How often an engine has waited for a delivery in vain. -/
def waits (engine : Engine) : UInt64 :=
  match engine.counts with
  | .producer _ => 0
  | .consumer counts => counts.readTimeouts

/-- The role of an engine's handle. -/
def role : Engine → Role
  | .pipelinedProducer options _ => options.role
  | .blockingProducer options _ => options.role
  | .pipelinedConsumer options _ => options.role
  | .blockingConsumer options _ => options.role

end Engine
end BrokerLoad
