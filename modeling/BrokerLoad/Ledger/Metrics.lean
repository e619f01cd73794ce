import BrokerLoad.Ledger.Histogram

/-!
# What a run counts

Eight counters and two latency histograms, shared by everything that runs.  A
counter is named by `Counter`, so that an engine can say which one it bumps; the
counters themselves are the fields of `Metrics`.
-/

namespace BrokerLoad

/-- The shared counters. -/
inductive Counter where
  /-- Messages handed to the broker, repeats included. -/
  | messagesOut
  /-- Their bytes on the wire. -/
  | bytesOut
  /-- Sends that the broker did not accept. -/
  | sendErrors
  /-- Of those, the ones it asked to slow down. -/
  | throttled
  | messagesIn
  | bytesIn
  /-- Deliveries of an id seen before. -/
  | duplicates
  /-- Failures on the receiving side. -/
  | receiveErrors
  deriving DecidableEq

/-- The two kinds of latency. -/
inductive Channel where
  /-- From handing a message to the broker until it is accepted. -/
  | write
  /-- From asking for a delivery until it is there. -/
  | read
  deriving DecidableEq

/-- The counters and latencies of a run. -/
structure Metrics where
  /-- The count of `Counter.messagesOut`. -/
  messagesOut : UInt64 := 0
  /-- The count of `Counter.bytesOut`. -/
  bytesOut : UInt64 := 0
  /-- The count of `Counter.sendErrors`. -/
  sendErrors : UInt64 := 0
  throttled : UInt64 := 0
  messagesIn : UInt64 := 0
  bytesIn : UInt64 := 0
  duplicates : UInt64 := 0
  /-- The count of `Counter.receiveErrors`. -/
  receiveErrors : UInt64 := 0
  /-- The latencies of accepted sends. -/
  writeLatency : Histogram := {}
  /-- The latencies of deliveries. -/
  readLatency : Histogram := {}
  deriving DecidableEq

namespace Metrics

/-- The value of a counter. -/
def get (m : Metrics) : Counter → UInt64
  | .messagesOut => m.messagesOut
  | .bytesOut => m.bytesOut
  | .sendErrors => m.sendErrors
  | .throttled => m.throttled
  | .messagesIn => m.messagesIn
  | .bytesIn => m.bytesIn
  | .duplicates => m.duplicates
  | .receiveErrors => m.receiveErrors

/-- Adds to a counter, which wraps around at the largest word. -/
def add (m : Metrics) (amount : UInt64) : Counter → Metrics
  | .messagesOut => { m with messagesOut := m.messagesOut + amount }
  | .bytesOut => { m with bytesOut := m.bytesOut + amount }
  | .sendErrors => { m with sendErrors := m.sendErrors + amount }
  | .throttled => { m with throttled := m.throttled + amount }
  | .messagesIn => { m with messagesIn := m.messagesIn + amount }
  | .bytesIn => { m with bytesIn := m.bytesIn + amount }
  | .duplicates => { m with duplicates := m.duplicates + amount }
  | .receiveErrors => { m with receiveErrors := m.receiveErrors + amount }

/-- The histogram of a channel. -/
def latency (m : Metrics) : Channel → Histogram
  | .write => m.writeLatency
  | .read => m.readLatency

/-- Changes the histogram of a channel. -/
def updateLatency (m : Metrics) (f : Histogram → Histogram) : Channel → Metrics
  | .write => { m with writeLatency := f m.writeLatency }
  | .read => { m with readLatency := f m.readLatency }

/-- A counter shows what was added to it, and no other counter moves. -/
@[simp] theorem get_add (m : Metrics) (amount : UInt64) (c d : Counter) :
    (m.add amount c).get d = if c = d then m.get d + amount else m.get d := by
  cases c <;> cases d <;> rfl

/-- Counting leaves the latencies alone. -/
@[simp] theorem latency_add (m : Metrics) (amount : UInt64) (c : Counter) (ch : Channel) :
    (m.add amount c).latency ch = m.latency ch := by
  cases c <;> cases ch <;> rfl

/-- Timing leaves the counters alone. -/
@[simp] theorem get_updateLatency (m : Metrics) (f : Histogram → Histogram) (ch : Channel)
    (c : Counter) : (m.updateLatency f ch).get c = m.get c := by
  cases c <;> cases ch <;> rfl

/-- A histogram shows the change made to it, and the other one does not move. -/
@[simp] theorem latency_updateLatency (m : Metrics) (f : Histogram → Histogram)
    (c d : Channel) :
    (m.updateLatency f c).latency d = if c = d then f (m.latency d) else m.latency d := by
  cases c <;> cases d <;> rfl

/-- What the counters and histograms say at one moment. -/
structure Snapshot where
  counter : Counter → UInt64 := fun _ => 0
  /-- The summaries of the two histograms. -/
  latency : Channel → Histogram.Summary := fun _ => {}

/-- What the metrics say now. -/
def snapshot (m : Metrics) : Snapshot where
  counter := m.get
  latency := fun channel => (m.latency channel).summarize

end Metrics
end BrokerLoad
