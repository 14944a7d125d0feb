/-
  RoomSync.Web.Refusal
  ────────────────────
  **HOW A HOMESERVER REFUSES A REQUEST.**

  A refusal has a status and a body that should say more: a code and a
  wording.  What the body does not say is filled in; a body that is no such
  record says nothing.
-/
import RoomSync.Json.Decode
import RoomSync.Json.Reader

namespace RoomSync.Web

open Json

/-- The standard wordings of the statuses. -/
def reasons : List (Nat × String) :=
  [(100, "Continue"), (101, "Switching Protocols"), (102, "Processing"),
    (200, "OK"), (201, "Created"), (202, "Accepted"), (203, "Non Authoritative Information"),
    (204, "No Content"), (205, "Reset Content"), (206, "Partial Content"), (207, "Multi-Status"),
    (208, "Already Reported"), (226, "IM Used"),
    (300, "Multiple Choices"), (301, "Moved Permanently"), (302, "Found"), (303, "See Other"),
    (304, "Not Modified"), (305, "Use Proxy"), (307, "Temporary Redirect"),
    (308, "Permanent Redirect"),
    (400, "Bad Request"), (401, "Unauthorized"), (402, "Payment Required"), (403, "Forbidden"),
    (404, "Not Found"), (405, "Method Not Allowed"), (406, "Not Acceptable"),
    (407, "Proxy Authentication Required"), (408, "Request Timeout"), (409, "Conflict"),
    (410, "Gone"), (411, "Length Required"), (412, "Precondition Failed"),
    (413, "Payload Too Large"), (414, "URI Too Long"), (415, "Unsupported Media Type"),
    (416, "Range Not Satisfiable"), (417, "Expectation Failed"), (418, "I'm a teapot"),
    (421, "Misdirected Request"), (422, "Unprocessable Entity"), (423, "Locked"),
    (424, "Failed Dependency"), (426, "Upgrade Required"),
    (428, "Precondition Required"), (429, "Too Many Requests"),
    (431, "Request Header Fields Too Large"), (451, "Unavailable For Legal Reasons"),
    (500, "Internal Server Error"), (501, "Not Implemented"), (502, "Bad Gateway"),
    (503, "Service Unavailable"), (504, "Gateway Timeout"), (505, "HTTP Version Not Supported"),
    (506, "Variant Also Negotiates"), (507, "Insufficient Storage"), (508, "Loop Detected"),
    (510, "Not Extended"), (511, "Network Authentication Required")]

/-- What a body says about a refusal. -/
structure Refusal where
  errcode : Option String := none
  detail : Option String := none
  deriving DecidableEq

namespace Refusal

def decode : Decoder Refusal := fun v => do
  let ms ← Decode.membersOrValues "a refusal" ["errcode", "error"] 0 v
  return {
    errcode := ← Decode.optional "errcode" Decode.string ms
    detail := ← Decode.optional "error" Decode.string ms }

/-- What a body says; one that is no record of a refusal says nothing. -/
def ofBody (body : String) : Refusal := (Decode.ofText? decode body).getD {}

/-- The error of a refusal. -/
def toSyncError (r : Refusal) (status : Nat) : SyncError :=
  .http status (r.errcode.getD "M_UNKNOWN") (r.detail.getD ((reasons.lookup status).getD "unknown"))

end Refusal

end RoomSync.Web
