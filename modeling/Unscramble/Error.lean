import Unscramble.Failure
import Unscramble.Json.Fault
import Unscramble.Video

/-!
# Errors

Everything that can go wrong outside a script and with it, the wording, and which errors may go away
if the same thing is tried again: those of downloads, unless the server says that it is the request
that is wrong.

## Main definitions

* `DownloadFault`: why a download failed.
* `Error`: everything that can go wrong.
* `Error.isTransient`: whether an error may go away.

## Main statements

* `DownloadFault.isTransient_iff`: the faults of downloads that may go away.
-/

namespace Unscramble

/-- Why a download failed. -/
inductive DownloadFault
  /-- What was asked for is no URL. -/
  | notUrl (fault : Url.Fault)
  /-- What was asked for is no URL of the web. -/
  | notWeb (url : String)
  /-- No answer came, or it broke off. -/
  | unanswered (detail : String)
  /-- The answer had a status that tells of an error. -/
  | status (code : Nat) (url : String)
  deriving DecidableEq

namespace DownloadFault

/-- What the statuses that tell of errors are called. -/
def statusNames : List (Nat × String) :=
  [(400, "Bad Request"), (401, "Unauthorized"), (402, "Payment Required"), (403, "Forbidden"),
    (404, "Not Found"), (405, "Method Not Allowed"), (406, "Not Acceptable"),
    (407, "Proxy Authentication Required"), (408, "Request Timeout"), (409, "Conflict"),
    (410, "Gone"), (411, "Length Required"), (412, "Precondition Failed"),
    (413, "Payload Too Large"), (414, "URI Too Long"), (415, "Unsupported Media Type"),
    (416, "Range Not Satisfiable"), (417, "Expectation Failed"), (418, "I'm a teapot"),
    (421, "Misdirected Request"), (422, "Unprocessable Entity"), (423, "Locked"),
    (424, "Failed Dependency"), (426, "Upgrade Required"), (428, "Precondition Required"),
    (429, "Too Many Requests"), (431, "Request Header Fields Too Large"),
    (451, "Unavailable For Legal Reasons"), (500, "Internal Server Error"),
    (501, "Not Implemented"), (502, "Bad Gateway"), (503, "Service Unavailable"),
    (504, "Gateway Timeout"), (505, "HTTP Version Not Supported"),
    (506, "Variant Also Negotiates"), (507, "Insufficient Storage"), (508, "Loop Detected"),
    (510, "Not Extended"), (511, "Network Authentication Required")]

/-- Whether a status tells that the server is at fault. -/
def isOfServer (code : Nat) : Bool :=
  500 ≤ code && code < 600

/-- The wording of a fault. -/
def message : DownloadFault → String
  | notUrl fault => s!"builder error: {fault.message}"
  | notWeb url => s!"builder error for url ({url}): URL scheme is not allowed"
  | unanswered detail => detail
  | status code url =>
    let side := if isOfServer code then "server" else "client"
    let name := (statusNames.lookup code).getD "<unknown status code>"
    s!"HTTP status {side} error ({code} {name}) for url ({url})"

/-- The status that a fault tells of. -/
def status? : DownloadFault → Option Nat
  | status code _ => some code
  | notUrl _ | notWeb _ | unanswered _ => none

/-- Whether a download may go well if it is tried again. Only a status can tell that it may not. -/
def isTransient (fault : DownloadFault) : Bool :=
  match fault.status? with
  | some code => isOfServer code
  | none => true

theorem isTransient_iff (fault : DownloadFault) : fault.isTransient = true ↔
    fault.status? = none ∨ ∃ code, fault.status? = some code ∧ 500 ≤ code ∧ code < 600 := by
  rw [isTransient]
  cases fault.status? with
  | none => exact iff_of_true rfl (.inl rfl)
  | some code =>
    simp only [isOfServer, Bool.and_eq_true, decide_eq_true_eq, reduceCtorEq, false_or,
      Option.some.injEq, exists_eq_left']

theorem isTransient_status {code : Nat} {url : String} :
    (status code url).isTransient = true ↔ 500 ≤ code ∧ code < 600 := by
  simp [isTransient_iff, status?]

end DownloadFault

/-- Why a file cannot be read. -/
inductive FileFault
  /-- There is no such file. -/
  | missing
  /-- It is not allowed to read the file. -/
  | forbidden
  /-- The path goes on behind a file. -/
  | notDirectory
  /-- There is a directory in place of the file. -/
  | isDirectory
  /-- The file holds no text. -/
  | notText
  /-- Something else. -/
  | other (detail : String)
  deriving DecidableEq

/-- The wording of a fault. -/
def FileFault.message : FileFault → String
  | missing => "No such file or directory (os error 2)"
  | forbidden => "Permission denied (os error 13)"
  | notDirectory => "Not a directory (os error 20)"
  | isDirectory => "Is a directory (os error 21)"
  | notText => "stream did not contain valid UTF-8"
  | other detail => detail

/-- Everything that can go wrong. -/
inductive Error
  /-- A script cannot be read, or its plan not be run. -/
  | script (failure : Failure)
  /-- A URL is not one of those that name a video. -/
  | notVideo (detail : String)
  /-- A signature cipher lacks a field. -/
  | missingField (key : String)
  /-- A page names no player script. -/
  | noPlayer
  /-- A download failed. -/
  | download (fault : DownloadFault)
  /-- A file cannot be read. -/
  | file (fault : FileFault)
  /-- A JSON text cannot be read. -/
  | json (error : Json.Error)
  /-- A text is no URL. -/
  | url (fault : Url.Fault)
  /-- An answer took too long. -/
  | timeout (detail : String)
  deriving DecidableEq

namespace Error

/-- The wording of an error. -/
def message : Error → String
  | script failure => s!"Cipher error: {failure.message}"
  | notVideo detail => s!"Invalid URL: {detail}"
  | missingField key => s!"Signature cipher is missing the `{key}` field"
  | noPlayer => "Player script URL not found in page"
  | download fault => s!"Download failed: {fault.message}"
  | file fault => s!"IO error: {fault.message}"
  | json error => s!"JSON error: {error.message}"
  | url fault => s!"URL parsing error: {fault.message}"
  | timeout detail => s!"Timeout error: {detail}"

/-- The wording of what caused an error, where that is an error of its own. -/
def cause? : Error → Option String
  | script failure => some failure.message
  | download fault => some fault.message
  | file fault => some fault.message
  | json error => some error.message
  | url fault => some fault.message
  | notVideo _ | missingField _ | noPlayer | timeout _ => none

/-- Whether the error may go away if the same thing is tried again. -/
def isTransient : Error → Bool
  | download fault => fault.isTransient
  | timeout _ => true
  | _ => false

@[simp] theorem isTransient_download (fault : DownloadFault) :
    (download fault).isTransient = fault.isTransient := rfl

/-- Whether the error is one of a script. -/
def isOfScript : Error → Bool
  | script _ => true
  | _ => false

/-- The error that a text names no video. -/
def ofVideo : Video.Fault → Error
  | .notUrl fault => url fault
  | .noId => notVideo "Missing video ID"
  | .noQueryId => notVideo "Missing v parameter"
  | .noPathId path => notVideo s!"Missing video ID in path {String.ofList path}"
  | .otherPage => notVideo "Unsupported video URL format"
  | .otherHost => notVideo "Not a supported video platform URL"

end Error

end Unscramble
