import RespClient.Command

/-!
# Reading requests

The server's side of the request format. `takeRequest?` takes one complete request
off the front of what has arrived, and `countRequests` as many as are complete.
-/

namespace RespClient

/-- The text up to a line end, and what comes after it. -/
def takeLine? : Bytes → Option (Bytes × Bytes)
  | [] => none
  | byte :: rest =>
      match byte, rest with
      | 13, 10 :: after => some ([], after)
      | _, _ => (takeLine? rest).map fun parts => (byte :: parts.1, parts.2)

/-- The number in a header line that starts with the given type byte. -/
def takeHeader? (type : Char) : Bytes → Option (Nat × Bytes)
  | [] => none
  | first :: rest => do
      let (line, after) ← takeLine? rest
      let count ← Decimal.ofDigits? (line.map fun byte => Char.ofNat byte.toNat)
      if first = type.toUInt8 then some (count, after) else none

def takeBulk? (bytes : Bytes) : Option (Bytes × Bytes) := do
  let (length, rest) ← takeHeader? '$' bytes
  let data := rest.take length
  if data.length = length ∧ (rest.drop length).take 2 = Bytes.crlf then
    some (data, rest.drop (length + 2))
  else none

def takeBulks? : (count : Nat) → Bytes → Option (List Bytes × Bytes)
  | 0, bytes => some ([], bytes)
  | count + 1, bytes => do
      let (data, rest) ← takeBulk? bytes
      let (others, after) ← takeBulks? count rest
      some (data :: others, after)

def takeRequest? (bytes : Bytes) : Option (List Bytes × Bytes) := do
  let (count, rest) ← takeHeader? '*' bytes
  takeBulks? count rest

/-- How many of at most `bound` requests are complete, and what comes after them. -/
def countRequests : (bound : Nat) → Bytes → Nat × Bytes
  | 0, bytes => (0, bytes)
  | bound + 1, bytes =>
      match takeRequest? bytes with
      | none => (0, bytes)
      | some (_, rest) =>
          let (count, left) := countRequests bound rest
          (count + 1, left)

end RespClient
