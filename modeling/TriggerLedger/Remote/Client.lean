import TriggerLedger.Remote.Request
/-!
# Clients of the remote endpoint

A client sends requests and may fail; a failed request never stops anything
else.  The endpoint is told by posting the body of a request to its URL, and any
status outside 200 to 299 is a failure.
-/

namespace TriggerLedger.Remote

/-- Why a request was not accepted. -/
structure ClientFault where
  /-- The id that the endpoint gave the request, if it got that far. -/
  requestId : Option String
  message : String
  deriving DecidableEq

/-- A client with a state. -/
structure Client (γ : Type) where
  /-- Send a request. -/
  send : γ → Request → γ × Except ClientFault Unit

/-- The client that accepts everything and does nothing. -/
def Client.silent : Client Unit := ⟨fun _ _ => ((), .ok ())⟩

/-- The client that accepts everything and leaves its state alone. -/
def Client.ignoring {γ : Type} : Client γ := ⟨fun state _ => (state, .ok ())⟩

/-- The client that keeps every request and then fails with the given fault, if any. -/
def Client.recording (fault : Option ClientFault) : Client (List Request) :=
  ⟨fun requests request =>
    (requests ++ [request],
      match fault with
      | none => .ok ()
      | some fault => .error fault)⟩

/-- The URL that requests are posted to. -/
def telemetryUrl (endpoint : String) : String :=
  String.ofList (endpoint.toList.reverse.dropWhile (· == '/')).reverse ++ "/telemetry"

/-- The standard reasons of the status codes of HTTP. -/
def statusReasons : List (Nat × String) :=
  [(100, "Continue"), (101, "Switching Protocols"), (102, "Processing"), (103, "Early Hints"),
   (200, "OK"), (201, "Created"), (202, "Accepted"), (203, "Non Authoritative Information"),
   (204, "No Content"), (205, "Reset Content"), (206, "Partial Content"), (207, "Multi-Status"),
   (208, "Already Reported"), (226, "IM Used"), (300, "Multiple Choices"),
   (301, "Moved Permanently"), (302, "Found"), (303, "See Other"), (304, "Not Modified"),
   (305, "Use Proxy"), (307, "Temporary Redirect"), (308, "Permanent Redirect"),
   (400, "Bad Request"), (401, "Unauthorized"), (402, "Payment Required"), (403, "Forbidden"),
   (404, "Not Found"), (405, "Method Not Allowed"), (406, "Not Acceptable"),
   (407, "Proxy Authentication Required"), (408, "Request Timeout"), (409, "Conflict"),
   (410, "Gone"), (411, "Length Required"), (412, "Precondition Failed"),
   (413, "Payload Too Large"), (414, "URI Too Long"), (415, "Unsupported Media Type"),
   (416, "Range Not Satisfiable"), (417, "Expectation Failed"), (418, "I'm a teapot"),
   (421, "Misdirected Request"), (422, "Unprocessable Entity"), (423, "Locked"),
   (424, "Failed Dependency"), (425, "Too Early"), (426, "Upgrade Required"),
   (428, "Precondition Required"), (429, "Too Many Requests"),
   (431, "Request Header Fields Too Large"), (451, "Unavailable For Legal Reasons"),
   (500, "Internal Server Error"), (501, "Not Implemented"), (502, "Bad Gateway"),
   (503, "Service Unavailable"), (504, "Gateway Timeout"), (505, "HTTP Version Not Supported"),
   (506, "Variant Also Negotiates"), (507, "Insufficient Storage"), (508, "Loop Detected"),
   (510, "Not Extended"), (511, "Network Authentication Required")]

/-- A status code with its standard reason. -/
def statusText (status : Nat) : String :=
  s!"{status} " ++ (statusReasons.lookup status).getD "<unknown status code>"

/-- The answer of the endpoint to a request. -/
structure Response where
  status : Nat
  /-- The id that the endpoint gave the request. -/
  requestId : Option String
  deriving DecidableEq

/-- Whether the endpoint accepted a request. -/
def Response.outcome (response : Response) : Except ClientFault Unit :=
  if 200 ≤ response.status ∧ response.status < 300 then .ok ()
  else .error ⟨response.requestId, "server returned " ++ statusText response.status⟩

end TriggerLedger.Remote
