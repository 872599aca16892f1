import SketchPreview.Text.Find
import SketchPreview.Text.Line
import SketchPreview.Url.Parser

/-!
# Font repositories

A repository hands out files over HTTP. Whatever it answers is a file, the news that there is none,
or a failure.

* `Reply`: what comes back from a request;
* `Reply.text?`: the file that a reply brings;
* `requestFor`: the address that is asked for a file, or why none is asked;
* `isBdf`: whether a text looks like a font file.
-/

namespace SketchPreview

/-- The schemes of the addresses that can be asked. -/
def requestSchemes : List (List Char) := ["http".toList, "https".toList]

/-- The address that is asked for what a text names, or why none can be asked. The name and the
password of a user are no part of it. -/
def requestFor (text : String) : Except String String :=
  match Url.parse text with
  | .error fault => .error ("builder error: " ++ fault.message)
  | .ok url =>
    let address := url.withoutCredentials.text
    if requestSchemes.contains url.scheme then .ok address
    else .error ("builder error for url (" ++ address ++ "): URL scheme is not allowed")

/-- What comes back from a request: a status and a body; or nothing, since the name of the host is
not known or no network is there. -/
inductive Reply where
  | answer (status : Nat) (body : String)
  | unresolved
  | unreachable
  deriving DecidableEq, Repr, Inhabited

/-- The phrase that goes with a status of failure. -/
def reasonPhrase : Nat → String
  | 400 => "Bad Request"
  | 401 => "Unauthorized"
  | 402 => "Payment Required"
  | 403 => "Forbidden"
  | 404 => "Not Found"
  | 405 => "Method Not Allowed"
  | 406 => "Not Acceptable"
  | 407 => "Proxy Authentication Required"
  | 408 => "Request Timeout"
  | 409 => "Conflict"
  | 410 => "Gone"
  | 411 => "Length Required"
  | 412 => "Precondition Failed"
  | 413 => "Payload Too Large"
  | 414 => "URI Too Long"
  | 415 => "Unsupported Media Type"
  | 416 => "Range Not Satisfiable"
  | 417 => "Expectation Failed"
  | 418 => "I'm a teapot"
  | 421 => "Misdirected Request"
  | 422 => "Unprocessable Entity"
  | 423 => "Locked"
  | 424 => "Failed Dependency"
  | 426 => "Upgrade Required"
  | 428 => "Precondition Required"
  | 429 => "Too Many Requests"
  | 431 => "Request Header Fields Too Large"
  | 451 => "Unavailable For Legal Reasons"
  | 500 => "Internal Server Error"
  | 501 => "Not Implemented"
  | 502 => "Bad Gateway"
  | 503 => "Service Unavailable"
  | 504 => "Gateway Timeout"
  | 505 => "HTTP Version Not Supported"
  | 506 => "Variant Also Negotiates"
  | 507 => "Insufficient Storage"
  | 508 => "Loop Detected"
  | 510 => "Not Extended"
  | 511 => "Network Authentication Required"
  | _ => "<unknown status code>"

/-- A status of failure in words, by the side that is to blame. -/
def statusError (side url : String) (status : Nat) : String :=
  "HTTP status " ++ side ++ " error (" ++ toString status ++ " " ++ reasonPhrase status ++
    ") for url (" ++ url ++ ")"

/-- A connection that was not made, and why. -/
def connectError (url reason : String) : String :=
  "error sending request for url (" ++ url ++ "): error trying to connect: " ++ reason

/-- The file that a reply to a request for an address brings, if there is such a file. -/
def Reply.text? (url : String) : Reply → Except String (Option String)
  | unresolved =>
    .error (connectError url
      ("dns error: failed to lookup address information: " ++
        "Temporary failure in name resolution"))
  | unreachable =>
    .error (connectError url "tcp connect error: Network is unreachable (os error 101)")
  | answer status body =>
    if status = 404 then .ok none
    else if 400 ≤ status ∧ status < 500 then .error (statusError "client" url status)
    else if 500 ≤ status ∧ status < 600 then .error (statusError "server" url status)
    else .ok (some body)

/-- Whether a text is a font file: one of its lines begins one. -/
def isBdf (text : String) : Bool :=
  (Text.lines text.toList).any fun line => Text.startsWith line "STARTFONT".toList

end SketchPreview
