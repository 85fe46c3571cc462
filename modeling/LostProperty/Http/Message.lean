import LostProperty.Http.Redirect

/-
  Requests and answers as octets on a connection.

  Every request has a connection of its own, which is closed
  behind the answer. The body of an answer comes in chunks,
  or has the length that the head announces, or lasts as
  long as the connection.

  Key definitions include:
    * `Request.octets`
    * `Head`
    * `Reply.ofOctets?`
-/

------------------------------------------------------------
-- Requests
------------------------------------------------------------

namespace LostProperty

/- The end of a line. -/
def lineEnd : String :=
  "\r\n"

namespace Request

/- The host that a request names. -/
def hostField
    (r : Request) : String :=
  match r.url.authority with
  | some a => String.ofList (a.host.text ++ a.portText)
  | none => ""

/- The length of a body that is sent. -/
def bodyLength?
    (r : Request) : Option String :=
  if r.body = "" then
    none
  else
    some (toString r.body.utf8ByteSize)

/- The fields of a request, each with its value. -/
def fields
    (r : Request) : List (String × String) :=
  let given (name : String) (value : Option String) :=
    (value.map fun value => (name, value)).toList
  [("host", r.hostField), ("accept", accept)]
    ++ given "authorization" r.authorization
    ++ given "content-type" r.contentType
    ++ given "content-length" r.bodyLength?
    ++ given "referer" r.referer
    ++ [("connection", "close")]

/- The head of a request, with the empty line behind it. -/
def head
    (r : Request) : String :=
  let line (field : String × String) :=
    field.1 ++ ": " ++ field.2 ++ lineEnd
  r.method.name ++ " " ++ r.url.target ++ " HTTP/1.1" ++ lineEnd
    ++ String.join (r.fields.map line) ++ lineEnd

/- The octets of a request. -/
def octets
    (r : Request) : List UInt8 :=
  Utf8.encode (r.head ++ r.body).toList

end Request

end LostProperty

------------------------------------------------------------
-- Heads of Answers
------------------------------------------------------------

namespace LostProperty

/- The head of an answer; names are in lower case. -/
structure Head where
  status : Nat
  fields : List (String × String)
deriving DecidableEq, Repr

namespace Head

/- The octets before an empty line, and those behind it. -/
def split? :
    List UInt8 → Option (List UInt8 × List UInt8)
  | 13 :: 10 :: 13 :: 10 :: rest => some ([], rest)
  | octet :: rest =>
      (split? rest).map fun parts =>
        (octet :: parts.1, parts.2)
  | [] => none

/- The number of three digits. -/
def code?
    (text : List Char) : Option Nat :=
  if text.length = 3 ∧ text.all Char.isDigit then
    some (text.foldl
      (fun n c => n * 10 + (c.toNat - '0'.toNat)) 0)
  else
    none

/- The code in the first line. -/
def status?
    (line : List Char) : Option Nat :=
  match Text.splitAt ' ' line with
  | version :: code :: _ =>
      if "HTTP/1.".toList.isPrefixOf version then
        code? code
      else
        none
  | _ => none

/- The name and the value of a field. -/
def field?
    (line : List Char) : Option (String × String) :=
  let name := line.takeWhile (· ≠ ':')
  match line.drop name.length with
  | _ :: value =>
      some (String.ofList (name.map Char.toLower),
        String.ofList (Text.dropEnds Text.isBlank value))
  | [] => none

/- The head that some characters stand for. -/
def parse?
    (text : List Char) : Option Head :=
  let lines :=
    (Text.splitAt '\n' text).map fun line =>
      line.filter (· ≠ '\r')
  match lines with
  | first :: rest => do
      let status ← status? first
      let fields ← rest.mapM field?
      some ⟨status, fields⟩
  | [] => none

/- The value of a field. -/
def get?
    (head : Head)
    (name : String) : Option String :=
  List.lookup name head.fields

/- The body comes in chunks. -/
def isChunked
    (head : Head) : Bool :=
  (head.get? "transfer-encoding").map String.toLower
    = some "chunked"

/- The announced length of the body. -/
def length?
    (head : Head) : Option Nat :=
  (head.get? "content-length").bind String.toNat?

end Head

end LostProperty

------------------------------------------------------------
-- Bodies of Answers
------------------------------------------------------------

namespace LostProperty

namespace Body

/- The line at the start of some octets, and the rest. -/
def splitLine? :
    List UInt8 → Option (List UInt8 × List UInt8)
  | 13 :: 10 :: rest => some ([], rest)
  | octet :: rest =>
      (splitLine? rest).map fun parts =>
        (octet :: parts.1, parts.2)
  | [] => none

/- The length that the line in front of a chunk gives. -/
def chunkLength?
    (line : List UInt8) : Option Nat :=
  let digits :=
    (Utf8.decodeLossy line).takeWhile (· ≠ ';')
  let digits := Text.dropEnds Text.isBlank digits
  if digits.isEmpty then
    none
  else
    (digits.mapM Percent.digitValue?).map fun values =>
      values.foldl (fun n value => n * 16 + value) 0

/- The content of chunks, up to the empty one. -/
def ofChunks : (fuel : Nat) → List UInt8 → Body
  | 0, _ => ⟨[], false⟩
  | fuel + 1, octets =>
      match splitLine? octets with
      | none => ⟨[], false⟩
      | some (line, rest) =>
          match chunkLength? line with
          | none => ⟨[], false⟩
          | some 0 => ⟨[], true⟩
          | some length =>
              let chunk := rest.take length
              let behind := (rest.drop length).drop 2
              if chunk.length < length then
                ⟨chunk, false⟩
              else
                let later := ofChunks fuel behind
                ⟨chunk ++ later.octets, later.isComplete⟩

/- The body behind a head. -/
def behind
    (head : Head)
    (octets : List UInt8) : Body :=
  if head.isChunked then
    ofChunks octets.length octets
  else
    match head.length? with
    | some length =>
        ⟨octets.take length, length ≤ octets.length⟩
    | none => ⟨octets, true⟩

end Body

/- The reply that all octets of a connection stand for. -/
def Reply.ofOctets?
    (octets : List UInt8) : Option Reply := do
  let (head, rest) ← Head.split? octets
  let head ← Head.parse? (Utf8.decodeLossy head)
  let response : Response :=
    { status := head.status
      contentType := head.get? "content-type"
      body := Body.behind head rest }
  some ⟨response, head.get? "location"⟩

end LostProperty
