import MeshDoctor.Inquiry.Basic
import MeshDoctor.Text.Pieces

/-!
# Envoy — the admin interface

The configuration is asked for once the interface is ready, and only once.

* `statusText`: a status over HTTP with its reason.
* `Endpoint.fetch`: the body of an answer, if the answer is a success.
* `Endpoint.configDump`: waits until the interface is ready and reads the configuration; says which
  paths were asked for.
-/

namespace MeshDoctor

/-! ## Answers -/

/-- The reasons of statuses over HTTP. -/
def statusReasons : List (Nat × String) :=
  [(100, "Continue"), (101, "Switching Protocols"), (102, "Processing"), (200, "OK"),
    (201, "Created"), (202, "Accepted"), (203, "Non Authoritative Information"),
    (204, "No Content"), (205, "Reset Content"), (206, "Partial Content"), (207, "Multi-Status"),
    (208, "Already Reported"), (226, "IM Used"), (300, "Multiple Choices"),
    (301, "Moved Permanently"), (302, "Found"), (303, "See Other"), (304, "Not Modified"),
    (305, "Use Proxy"), (307, "Temporary Redirect"), (308, "Permanent Redirect"),
    (400, "Bad Request"), (401, "Unauthorized"), (402, "Payment Required"), (403, "Forbidden"),
    (404, "Not Found"), (405, "Method Not Allowed"), (406, "Not Acceptable"),
    (407, "Proxy Authentication Required"), (408, "Request Timeout"), (409, "Conflict"),
    (410, "Gone"), (411, "Length Required"), (412, "Precondition Failed"),
    (413, "Payload Too Large"), (414, "URI Too Long"), (415, "Unsupported Media Type"),
    (416, "Range Not Satisfiable"), (417, "Expectation Failed"), (418, "I'm a teapot"),
    (421, "Misdirected Request"), (422, "Unprocessable Entity"), (423, "Locked"),
    (424, "Failed Dependency"), (425, "Too Early"), (426, "Upgrade Required"),
    (428, "Precondition Required"), (429, "Too Many Requests"),
    (431, "Request Header Fields Too Large"), (451, "Unavailable For Legal Reasons"),
    (500, "Internal Server Error"), (501, "Not Implemented"), (502, "Bad Gateway"),
    (503, "Service Unavailable"), (504, "Gateway Timeout"), (505, "HTTP Version Not Supported"),
    (506, "Variant Also Negotiates"), (507, "Insufficient Storage"), (508, "Loop Detected"),
    (510, "Not Extended"), (511, "Network Authentication Required")]

/-- A status with its reason. -/
def statusText (status : Nat) : String :=
  toString status ++ " " ++ (statusReasons.lookup status).getD "<unknown status code>"

/-- Is the answer a success? -/
def Reply.isSuccess (r : Reply) : Bool :=
  200 ≤ r.status && r.status < 300

/-- The path that says whether the interface is ready. -/
def readyPath : String := "/ready"

/-- The path of the configuration, endpoints included. -/
def dumpPath : String := "/config_dump?include_eds"

namespace Endpoint

/-- The body of the answer to a request for a path, if there is an answer and it is a success. -/
def fetch (pod : PodRef) (path : String) : Option Reply → Except Failure String
  | none => .error ⟨["Failed to reach Envoy admin for " ++ pod.text], .brokenExchange⟩
  | some r =>
    if r.isSuccess then
      match r.body with
      | some body => .ok body
      | none => .error ⟨["Failed to read Envoy admin response"], .brokenExchange⟩
    else
      .error (.say
        ("Envoy admin " ++ path ++ " returned " ++ statusText r.status ++ ": "
          ++ Text.trim (r.body.getD "")))

/-! ## Reading the configuration -/

/-- One attempt to see whether the interface is ready. -/
def readyStep (e : Endpoint) (pod : PodRef) (n : Nat) : Step Bool :=
  match fetch pod readyPath (e.ready n) with
  | .ok _ => .ready true
  | .error f => .failed f

/-- What is waited for. -/
def awaited (pod : PodRef) : String := "Waiting for Envoy admin on " ++ pod.text

/-- Waits until the interface is ready. -/
def awaitReady (e : Endpoint) (pod : PodRef) (timeout : Nat) : Polled Unit :=
  poll e.clock timeout (awaited pod) fun n => (e.readyStep pod n).patient

/-- What an exchange gave, and the paths that were asked for. -/
structure Exchange where
  result : Except Failure String
  paths : List String

/-- The exchange after the waiting: the configuration is asked for if the interface is ready. -/
def afterWaiting (e : Endpoint) (pod : PodRef) (waited : Polled Unit) : Exchange :=
  let asked := List.replicate waited.attempts readyPath
  match waited.result with
  | .ok () => ⟨fetch pod dumpPath e.dump, asked ++ [dumpPath]⟩
  | .error f => ⟨.error f, asked⟩

/-- The configuration, once the interface is ready. -/
def configDump (e : Endpoint) (pod : PodRef) (timeout : Nat) : Exchange :=
  e.afterWaiting pod (e.awaitReady pod timeout)

end Endpoint

end MeshDoctor
