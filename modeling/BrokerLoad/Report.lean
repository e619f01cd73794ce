import BrokerLoad.Decimal.OnePlace
import BrokerLoad.Ledger.Metrics

/-!
# The statistics report

At the end of a run its metrics are printed as a block of text: counters, rates over
the elapsed time, and one line for each kind of latency.

A rate is computed in double precision in the order in which it is read: the count
as a double, times a thousand, over the milliseconds as a double, and for bytes the
result over the bytes of a mebibyte.  Each step rounds, so the order matters to the
last digit.
-/

namespace BrokerLoad
namespace Report

/-- A count per second, 0 if no time has elapsed. -/
def perSecond (count : UInt64) (elapsedMillis : Int) : Binary64 :=
  if elapsedMillis ≤ 0 then
    .zero
  else
    .div (.mul (.ofNat count.toNat) (.ofNat 1000)) (.ofNat elapsedMillis.toNat)

/-- A number of bytes in mebibytes. -/
def inMebibytes (bytes : Binary64) : Binary64 :=
  .div bytes (.ofNat (1024 * 1024))

/-- A word in decimal. -/
def word (n : UInt64) : String := toString n.toNat

/-- The label of a latency line, filled up to the common width. -/
def latencyLabel : Channel → String
  | .write => "  write latency   "
  | .read => "  read latency    "

/-- A latency line. -/
def latencyLine (channel : Channel) (summary : Histogram.Summary) : String :=
  latencyLabel channel ++
    if summary.count = 0 then
      "no samples"
    else
      "count=" ++ word summary.count ++
      " min=" ++ word summary.least ++ "us" ++
      " avg=" ++ summary.mean.onePlace ++ "us" ++
      " max=" ++ word summary.greatest ++ "us" ++
      " p50>=" ++ word summary.p50 ++ "us" ++
      " p90>=" ++ word summary.p90 ++ "us" ++
      " p99>=" ++ word summary.p99 ++ "us"

/-- A line with a count of messages and their rate. -/
def messagesLine (count : UInt64) (elapsedMillis : Int) : String :=
  "  messages        " ++ word count ++
    " (" ++ (perSecond count elapsedMillis).onePlace ++ " msg/s)"

/-- A line with a count of bytes and their rate. -/
def bytesLine (count : UInt64) (elapsedMillis : Int) : String :=
  "  bytes           " ++ word count ++
    " (" ++ (inMebibytes (perSecond count elapsedMillis)).onePlace ++ " MiB/s)"

/-- The lines of the block. -/
def lines (s : Metrics.Snapshot) (elapsedMillis : Int) : List String :=
  ["=== Run statistics (" ++ toString elapsedMillis ++ " ms) ===",
    "Publish:",
    messagesLine (s.counter .messagesOut) elapsedMillis,
    bytesLine (s.counter .bytesOut) elapsedMillis,
    "  errors          " ++ word (s.counter .sendErrors),
    "  throttled       " ++ word (s.counter .throttled),
    latencyLine .write (s.latency .write),
    "Consume:",
    messagesLine (s.counter .messagesIn) elapsedMillis,
    bytesLine (s.counter .bytesIn) elapsedMillis,
    "  duplicates      " ++ word (s.counter .duplicates),
    "  errors          " ++ word (s.counter .receiveErrors),
    latencyLine .read (s.latency .read)]

/-- The block as a text, each line with its end. -/
def text (s : Metrics.Snapshot) (elapsedMillis : Int) : String :=
  String.join ((lines s elapsedMillis).map (· ++ "\n"))

end Report

/-- The report on the metrics as they are now. -/
def Metrics.report (m : Metrics) (elapsedMillis : Int) : String :=
  Report.text m.snapshot elapsedMillis

end BrokerLoad
