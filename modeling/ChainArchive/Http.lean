import ChainArchive.Text.Charset

namespace ChainArchive.Http

/-! Requests to a node and what becomes of them. -/

structure Request where
  /-- The path and the query. -/
  target : String
  body : Bytes
  deriving DecidableEq, Repr

namespace Request

def contentType : String := "application/json"

def line (request : Request) : String := "POST " ++ request.target ++ " HTTP/1.1"

end Request

structure Response where
  status : Nat
  contentType : String
  body : Bytes
  deriving DecidableEq, Repr

namespace Response

def isSuccess (response : Response) : Bool :=
  200 ≤ response.status && response.status ≤ 299

/-- Responses with these statuses end with their headers. -/
def isBodiless (response : Response) : Bool :=
  response.status == 101 || response.status == 204 || response.status == 304

def content (response : Response) : Bytes :=
  if response.isBodiless then [] else response.body

def isInterim (response : Response) : Bool :=
  100 ≤ response.status && response.status ≤ 199 && response.status != 101

def text (response : Response) : String :=
  (Text.ContentType.charset response.contentType).decode response.content

end Response

inductive HeadFault where
  | version
  | status
  | header
  deriving DecidableEq, Repr

def HeadFault.message : HeadFault → String
  | .version => "invalid HTTP version parsed"
  | .status => "invalid HTTP status-code parsed"
  | .header => "invalid HTTP header parsed"

inductive Outcome where
  /-- Nobody listens, and no request is sent. -/
  | refused
  /-- The connection is closed after the request. -/
  | closed
  | malformed (fault : HeadFault)
  | answered (response : Response)
  deriving DecidableEq, Repr

structure Exchange where
  outcome : Outcome
  stop : Bool
  elapsed : Nat
  deriving DecidableEq, Repr

end ChainArchive.Http
