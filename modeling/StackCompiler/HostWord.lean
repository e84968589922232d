/-!
# Words of the host

Positions and sizes are kept in signed words of 64 bits.  Other integers have
no bound, so one that is to serve as a position or size may not fit.
-/

namespace StackCompiler

namespace HostWord

/-- Whether an integer fits a signed word of 64 bits. -/
def fits (number : Int) : Bool :=
  -0x8000000000000000 ≤ number && number < 0x8000000000000000

/-- What is said of an integer that does not fit. -/
def misfitMessage : String :=
  "cannot fit \x27int\x27 into an index-sized integer"

end HostWord

end StackCompiler
