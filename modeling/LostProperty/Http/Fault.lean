import LostProperty.Url.Basic
import LostProperty.Text.Quoted

/-
  What can go wrong with an exchange over HTTP.

  A request may have no usable address, it may not reach its
  host, it may be led on too often, and an answer may not hold
  what was asked for.

  Key definitions include:
    * `SendFault`
    * `HttpFault`
    * `HttpFault.message`
    * `HttpFault.diagnosis`
-/

------------------------------------------------------------
-- Faults
------------------------------------------------------------

namespace LostProperty

/- Why a request was not answered. -/
inductive SendFault where
  | unreachable
  | refused
  | closed
  | timedOut
deriving DecidableEq, Repr, Inhabited

/-
  Why a URL cannot be asked for. It may have led to a text
  that is no URL.
-/
inductive TargetFault where
  | noHttp
  | noRequest
  | misled (cause : UrlFault)
deriving DecidableEq, Repr

/-
  Why an exchange failed. A request that was not answered was
  made for one URL, and failed at an address to which another
  answer may have led. One that was led on too often has come
  as far as a URL.
-/
inductive HttpFault where
  | invalidUrl (cause : UrlFault)
  | unusableUrl (cause : TargetFault) (url : Url)
  | unsent (cause : SendFault) (url : Url) (address : String)
  | astray (url : Url)
  | status (code : Nat) (url : Url)
  | unreadable
deriving DecidableEq, Repr, Inhabited

end LostProperty

------------------------------------------------------------
-- Status Codes
------------------------------------------------------------

namespace LostProperty

/- The standard phrases of the codes that report an error. -/
def statusPhrases : List (Nat × String) :=
  [
    (400, "Bad Request"),
    (401, "Unauthorized"),
    (402, "Payment Required"),
    (403, "Forbidden"),
    (404, "Not Found"),
    (405, "Method Not Allowed"),
    (406, "Not Acceptable"),
    (407, "Proxy Authentication Required"),
    (408, "Request Timeout"),
    (409, "Conflict"),
    (410, "Gone"),
    (411, "Length Required"),
    (412, "Precondition Failed"),
    (413, "Payload Too Large"),
    (414, "URI Too Long"),
    (415, "Unsupported Media Type"),
    (416, "Range Not Satisfiable"),
    (417, "Expectation Failed"),
    (418, "I'm a teapot"),
    (421, "Misdirected Request"),
    (422, "Unprocessable Entity"),
    (423, "Locked"),
    (424, "Failed Dependency"),
    (425, "Too Early"),
    (426, "Upgrade Required"),
    (428, "Precondition Required"),
    (429, "Too Many Requests"),
    (431, "Request Header Fields Too Large"),
    (451, "Unavailable For Legal Reasons"),
    (500, "Internal Server Error"),
    (501, "Not Implemented"),
    (502, "Bad Gateway"),
    (503, "Service Unavailable"),
    (504, "Gateway Timeout"),
    (505, "HTTP Version Not Supported"),
    (506, "Variant Also Negotiates"),
    (507, "Insufficient Storage"),
    (508, "Loop Detected"),
    (510, "Not Extended"),
    (511, "Network Authentication Required")
  ]

/- The phrase of a code. -/
def statusPhrase
    (code : Nat) : String :=
  match statusPhrases.find? (·.1 == code) with
  | some (_, phrase) => phrase
  | none => "<unknown status code>"

/- Which side a code that reports an error blames. -/
def blamedSide
    (code : Nat) : String :=
  if code < 500 then "client" else "server"

end LostProperty

------------------------------------------------------------
-- Wording
------------------------------------------------------------

namespace LostProperty

namespace HttpFault

/- The words that name the URL of a fault. -/
def forUrl
    (url : Url) : String :=
  " for url (" ++ url.text ++ ")"

/- The words of a fault. -/
def message : HttpFault → String
  | invalidUrl _ => "builder error"
  | unusableUrl _ url => "builder error" ++ forUrl url
  | unsent _ url _ => "error sending request" ++ forUrl url
  | astray url => "error following redirect" ++ forUrl url
  | status code url =>
      "HTTP status " ++ blamedSide code ++ " error ("
        ++ toString code ++ " " ++ statusPhrase code ++ ")"
        ++ forUrl url
  | unreadable => "error decoding response body"

/- The code that a fault reports. -/
def status? : HttpFault → Option Nat
  | status code _ => some code
  | _ => none

end HttpFault

end LostProperty

------------------------------------------------------------
-- Diagnostics
------------------------------------------------------------

namespace LostProperty

/- The host and the port that a URL is sent to. -/
def Url.address
    (u : Url) : String :=
  match u.authority with
  | none => ""
  | some a =>
      let port := a.port.orElse fun _ => defaultPort? u.scheme
      match port with
      | some port =>
          String.ofList (a.host.text ++ ':' :: Nat.toDigits 10 port)
      | none => String.ofList a.host.text

/- A number, a kind and the words of a system error. -/
def systemError
    (code kind words : String) : String :=
  "Os \x7b code: " ++ code ++ ", kind: " ++ kind
    ++ ", message: " ++ Text.quoted words ++ " \x7d"

/- An error in connecting to an address. -/
def connectError
    (address cause : String) : String :=
  "hyper_util::client::legacy::Error(Connect, ConnectError("
    ++ "\"tcp connect error\", " ++ address ++ ", " ++ cause
    ++ "))"

/- What the log tells of a request that was not answered. -/
def SendFault.diagnosis
    (address : String) : SendFault → String
  | unreachable =>
      connectError address
        (systemError "101" "NetworkUnreachable"
          "Network is unreachable")
  | refused =>
      connectError address
        (systemError "111" "ConnectionRefused"
          "Connection refused")
  | closed =>
      "hyper_util::client::legacy::Error(SendRequest, "
        ++ "hyper::Error(IncompleteMessage))"
  | timedOut => "TimedOut"

/- What the log tells of a URL that cannot be asked for. -/
def TargetFault.diagnosis : TargetFault → String
  | noHttp => "BadScheme"
  | noRequest => Text.quoted "Parsed Url is not a valid Uri"
  | misled cause => cause.diagnosis

namespace HttpFault

/- A fault of a kind, with further parts. -/
def diagnosisOf
    (kind : String)
    (parts : List String) : String :=
  let parts := ("kind: " ++ kind) :: parts
  "reqwest::Error \x7b " ++ ", ".intercalate parts ++ " \x7d"

/- The part that names the URL of a fault. -/
def urlPart
    (url : Url) : String :=
  "url: " ++ Text.quoted url.text

/- What the log tells of a fault. -/
def diagnosis : HttpFault → String
  | invalidUrl cause =>
      diagnosisOf "Builder" ["source: " ++ cause.diagnosis]
  | unusableUrl cause url =>
      diagnosisOf "Builder"
        [urlPart url, "source: " ++ cause.diagnosis]
  | unsent cause url address =>
      diagnosisOf "Request"
        [urlPart url, "source: " ++ cause.diagnosis address]
  | astray url =>
      diagnosisOf "Redirect"
        [urlPart url, "source: TooManyRedirects"]
  | status code url =>
      diagnosisOf ("Status(" ++ toString code ++ ", None)")
        [urlPart url]
  | unreadable => diagnosisOf "Decode" []

end HttpFault

end LostProperty
