import Courier.Conversation
import Courier.Hex
import Courier.Script
import Courier.Text.Marked

/-!
# HTTP messages

The bytes of a posted body, and the reply that the bytes of an answer spell. Answers that merely
announce the final one are passed over. The body of an answer ends where its head says: after a
number of bytes, after the last of its chunks, or with the connection.
-/
namespace Courier.Http

/-- The host and port of an endpoint; the usual port is left out. -/
def authority (endpoint : Endpoint) : String :=
  let host := if endpoint.host.contains ':' then "[" ++ endpoint.host ++ "]" else endpoint.host
  if endpoint.port = (if endpoint.secure then 443 else 80) then host
  else host ++ ":" ++ toString endpoint.port

/-- The bytes that post a JSON body. The connection serves for this one post. -/
def post (endpoint : Endpoint) (body : String) : List UInt8 :=
  let head :=
    ["POST " ++ endpoint.path ++ " HTTP/1.1", "Host: " ++ authority endpoint, "Accept: */*",
     "Content-Type: application/json", "Content-Length: " ++ toString body.utf8ByteSize,
     "Connection: close", "", ""]
  Text.Utf8.encode ("\r\n".intercalate head ++ body)

/-- The end of a line. -/
def lineEnd : List UInt8 := [0x0D, 0x0A]

/-- The bytes before the first occurrence of a mark and those after it. -/
def splitAt? (mark : List UInt8) : List UInt8 → Option (List UInt8 × List UInt8)
  | [] => none
  | byte :: rest =>
    if mark.isPrefixOf (byte :: rest) then some ([], (byte :: rest).drop mark.length)
    else (splitAt? mark rest).map fun (before, after) => (byte :: before, after)

/-- The status that the first line of an answer names. -/
def status? (line : String) : Option Nat :=
  match line.splitOn " " with
  | version :: status :: _ => if version.startsWith "HTTP/1." then status.toNat? else none
  | _ => none

/-- The value of a field of a head; the case of its name does not count. -/
def field? (lines : List String) (name : String) : Option String :=
  lines.findSome? fun line =>
    match line.splitOn ":" with
    | found :: value =>
      if found.toLower = name then some (":".intercalate value).trimAscii.toString else none
    | [] => none

/-- The number that hexadecimal digits spell, up to the first other character. -/
def chunkSize? (line : List Char) : Option Nat :=
  match line.takeWhile Hex.isDigit with
  | [] => none
  | digits => some (digits.foldl (fun size c => 16 * size + (Hex.digitValue? c).getD 0) 0)

/-- The chunks of a body put together, if the last one has arrived. Every chunk takes up bytes,
so as much fuel as there are bytes is enough. -/
def joinChunks? : Nat → List UInt8 → Option (List UInt8)
  | 0, _ => none
  | fuel + 1, bytes => do
    let (line, rest) ← splitAt? lineEnd bytes
    let size ← chunkSize? (line.map fun byte => Char.ofNat byte.toNat)
    if size = 0 then some []
    else if rest.length < size + lineEnd.length then none
    else
      let later ← joinChunks? fuel (rest.drop (size + lineEnd.length))
      some (rest.take size ++ later)

/-- The body that follows a head, if all of it has arrived. -/
def body? (closed : Bool) (lines : List String) (bytes : List UInt8) : Option (List UInt8) :=
  if (field? lines "transfer-encoding").map String.toLower = some "chunked" then
    joinChunks? bytes.length bytes
  else
    match (field? lines "content-length").bind String.toNat? with
    | some length => if length ≤ bytes.length then some (bytes.take length) else none
    | none => if closed then some bytes else none

/-- Whether an answer of a status merely announces the final one. -/
def isInterim (status : Nat) : Bool := 100 ≤ status && status < 200 && status ≠ 101

/-- The reply that the bytes so far come to, of which so many heads are looked at; nothing while
more of it can arrive. -/
def replyWithin? (closed : Bool) : Nat → List UInt8 → Option Reply
  | 0, _ => if closed then some .lost else none
  | fuel + 1, bytes =>
    match splitAt? (lineEnd ++ lineEnd) bytes with
    | none => if closed then some .lost else none
    | some (head, rest) =>
      match (Text.mend (Text.Utf8.scan head)).splitOn "\r\n" with
      | [] => some .lost
      | first :: lines =>
        match status? first with
        | none => some .lost
        | some status =>
          if isInterim status then replyWithin? closed fuel rest
          else if isBodiless status then some (.received status (some []))
          else
            match body? closed lines rest with
            | some body => some (.received status (some body))
            | none => if closed then some (.received status none) else none

/-- The reply that the bytes so far come to; nothing while more of it can arrive. Every head takes
up bytes, so as much fuel as there are bytes is enough. -/
def reply? (closed : Bool) (bytes : List UInt8) : Option Reply :=
  replyWithin? closed bytes.length bytes

end Courier.Http
