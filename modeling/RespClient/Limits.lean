/-!
# Limits and defaults

How much of one reply is taken from the wire before the stream counts as corrupt,
and the settings that hold where nobody names others.
-/

namespace RespClient

/-- The longest header line, without its line end. -/
def maxLineLength : Nat := 65536

/-- The longest bulk string, which is the server's own limit. -/
def maxBulkLength : Nat := 536870912

/-- How deep arrays may stand inside arrays. -/
def maxNesting : Nat := 128

def minReadBuffer : Nat := 16

def defaultReadBuffer : Nat := 4096

def defaultPort : UInt16 := 6379

/-- Databases are numbered from zero up to this number. -/
def databaseCount : Nat := 16

def version : String := "0.1.0"

end RespClient
