/-!
# Log lines

What a run writes goes to one of three streams: the worker threads announce
themselves on standard output, trouble goes to standard error, and the conductor of
a run reports its progress on a stream of its own.  All of it is kept in one list,
in the order of writing.
-/

namespace BrokerLoad

/-- Where a line is written. -/
inductive LogStream where
  | out
  | err
  | progress
  | statistics
  deriving DecidableEq

/-- A piece of text and where it is written; the text may run over several lines and
has no line end of its own. -/
structure LogLine where
  /-- Where it is written. -/
  stream : LogStream
  /-- What is written. -/
  text : String
  deriving DecidableEq

namespace LogLine

/-- A line on standard output. -/
def out (text : String) : LogLine := ⟨.out, text⟩

/-- A line on standard error. -/
def err (text : String) : LogLine := ⟨.err, text⟩

/-- A line of progress. -/
def progress (text : String) : LogLine := ⟨.progress, text⟩

end LogLine
end BrokerLoad
