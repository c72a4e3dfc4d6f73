import TlsSeed.Json.Reader
import TlsSeed.Settings
import TlsSeed.Store.Endpoint
import TlsSeed.Store.Output
import TlsSeed.Text.Causes

/-! # Exchanges with the store

A put becomes one request, the request gets a reply or none, and the reply is read as an
acknowledgement or as an error. An error is kept as the texts of its causes, from the outside in,
and a dump for the programmer.
-/

namespace TlsSeed.Store

open Item Json Text

/-- A put as a client is asked for it: the item to write under its table, a condition on the item
that is there, and whether that item is to be returned. -/
structure Put where
  table : String
  item : Entries
  condition : Option String := none
  returnOld : Bool := false

/-- The document that carries a put. -/
def Put.body (p : Put) : String :=
  objectOf ([("TableName", quoted p.table), ("Item", objectOf (Attribute.entryWires p.item))] ++
    (p.condition.toList.map fun c => ("ConditionExpression", quoted c)) ++
    if p.returnOld then [("ReturnValues", quoted "ALL_OLD")] else [])

structure Request where
  uri : String
  region : String
  put : Put

namespace Request

def method : String := "POST"

def target : String := "DynamoDB_20120810.PutItem"

/-- What the signature of the request is good for. -/
def scope (r : Request) : String :=
  r.region ++ "/dynamodb/aws4_request"

def body (r : Request) : String :=
  r.put.body

end Request

/-- An error of the client, with the texts of the error and of the causes behind it. -/
structure SendError where
  message : String
  causes : List String
  dump : String
  deriving DecidableEq, Repr

namespace SendError

/-- The error and its causes in one line, and the dump. -/
def report (e : SendError) : String :=
  chainReport (e.message :: e.causes) e.dump

/-- The error with a dump that names its stage and its last cause. -/
def of (stage message : String) (causes : List String) : SendError :=
  ⟨message, causes, stage ++ "(" ++ Quoted.quote (causes.getLastD message) ++ ")"⟩

/-- No request could be made. -/
def construction (causes : List String) : SendError :=
  of "ConstructionFailure" "failed to construct request" causes

/-- The request got no reply. -/
def dispatch (causes : List String) : SendError :=
  of "DispatchFailure" "dispatch failure" causes

/-- The store refused, or its reply made no sense. -/
def service (causes : List String) : SendError :=
  of "ServiceError" "service error" causes

/-- A reply that is neither an acknowledgement nor an error with a code. -/
def unhandled (detail : String) : SendError :=
  service ["unhandled error", detail]

end SendError

inductive FailureKind where
  | io | timeout | user | other
  deriving DecidableEq, Repr

def FailureKind.message : FailureKind → String
  | io => "io error"
  | timeout => "timeout"
  | user => "user error"
  | other => "other"

structure Response where
  status : Nat
  headers : List (String × String)
  body : Bytes

inductive Reply where
  | response (r : Response)
  | failure (kind : FailureKind) (reason : String)

/-! ## Sending -/

/-- The request for a put. The table needs a name, and the endpoint an address that is still one
when requests go to it, and that no setting has to choose. -/
def Put.request (p : Put) (c : Client) : Except SendError Request :=
  if isBlank p.table then
    .error (.construction
      ["PutItemEndpointParamsInterceptor read_before_execution interceptor encountered an error",
       "table_name was missing: A required field was not set"])
  else if isDualStack c.region c.endpointUrl then .error (.dispatch ["other", dualStackRefusal])
  else match Route.to c.endpointUrl with
    | .error fault =>
      .error (.dispatch ("other" :: ("failed to apply endpoint `" ++ c.endpointUrl ++
        "` to request `Request`") :: fault.causes))
    | .ok route =>
      if route.isTooLong then
        .error (.dispatch ["other", "failed to create canonical request", "the uri was invalid",
          AddressFault.tooLong.message])
      else .ok ⟨route.uri, c.region, p⟩

/-! ## Reading the reply -/

/-- The first header with a name, in any mix of capitals. -/
def Response.header? (r : Response) (name : String) : Option String :=
  (r.headers.find? fun h => h.1.toLower == name.toLower).map (·.2)

/-- The number of the request that the store answers. -/
def Response.requestId? (r : Response) : Option String :=
  (r.header? "x-amzn-requestid").or (r.header? "x-amz-request-id")

/-- The document of the response. An empty body stands for an empty object. -/
def Response.document? (r : Response) : Option Value :=
  if r.body.isEmpty then some (.object []) else Json.document? r.body

def Response.output (r : Response) : Except SendError PutOutput :=
  match r.document?.bind PutOutput.ofValue? with
  | some o => .ok { o with requestId := r.requestId? }
  | none => .error (.unhandled "the acknowledgement cannot be read")

/-- What an error response says about the error. -/
structure Complaint where
  code : Option String := none
  message : Option String := none
  requestId : Option String := none
  deriving DecidableEq, Repr

namespace Complaint

/-- The complaint as it is shown. Parts that are absent are left out. -/
def text (c : Complaint) : String :=
  (Outline.fields "Error" ([("code", c.code), ("message", c.message),
    ("aws_request_id", c.requestId)].filterMap fun (name, part) =>
      part.map fun s => (name, Attribute.textOutline s))).flat

/-- The code without an address after it and a namespace before it. -/
def plainCode (s : String) : String :=
  let cs := s.toList.takeWhile (· != ':')
  match cs.dropWhile (· != '#') with
  | _ :: rest => String.ofList rest
  | [] => String.ofList cs

/-- The string under the last of the members with one of the names. The names are compared as they
are written in the document, escapes unresolved, and members that hold no string are skipped. -/
def lastString? (names : List String) (ms : List (Raw × Value)) : Option (Option String) :=
  ms.foldlM (fun found (raw, v) =>
    match v with
    | .string s =>
      if names.contains (String.ofList raw) then (Json.text? s).map some else some found
    | _ => some found) none

/-- The complaint of an error response. A header with the code goes before the document. -/
def ofResponse? (r : Response) : Option Complaint := do
  let ms ← looseMembers? r.body
  let code ← lastString? ["code"] ms
  let type ← lastString? ["__type"] ms
  let message ← lastString? ["message", "Message", "errorMessage"] ms
  return { code := (((r.header? "x-amzn-errortype").or code).or type).map plainCode
           message := message
           requestId := r.requestId? }

/-- The codes that the client has an error of its own for. -/
def knownCodes : List String :=
  ["ConditionalCheckFailedException", "InternalServerError", "InvalidEndpointException",
   "ItemCollectionSizeLimitExceededException", "ProvisionedThroughputExceededException",
   "ReplicatedWriteConflictException", "RequestLimitExceeded", "ResourceNotFoundException",
   "ThrottlingException", "TransactionConflictException"]

/-- The member in which an error with a known code tells its message. -/
def messageMember (code : String) : String :=
  if code = "InvalidEndpointException" then "Message" else "message"

/-- The member in which an error with a known code lists what slowed its request down. -/
def reasonsMember? : String → Option String
  | "ThrottlingException" => some "throttlingReasons"
  | "ProvisionedThroughputExceededException" | "RequestLimitExceeded" => some "ThrottlingReasons"
  | _ => none

/-- Accepts what slowed a request down: a reason and the resource that it is about. -/
def checkReason : Value → Option Unit :=
  membersOf? (fun _ name v =>
    if name = "reason" ∨ name = "resource" then
      (nullable Attribute.stringOf? v).map fun _ => ()
    else v.skip? ()) ()

/-- The message in the document of an error with a known code. A failed condition may carry the item
that is there. -/
def knownMessage? (code : String) (r : Response) : Option (Option String) :=
  r.document?.bind <| membersOf? (fun found name v =>
    if name = messageMember code then nullable Attribute.stringOf? v
    else if name = "Item" ∧ code = "ConditionalCheckFailedException" then
      (nullable (Attribute.entriesOf? (Attribute.maxLevels - 1)) v).map fun _ => found
    else if reasonsMember? code = some name then
      (nullable (itemsOf? checkReason) v).map fun _ => found
    else v.skip? found) none

end Complaint

def Response.error (r : Response) : SendError :=
  match Complaint.ofResponse? r with
  | none => .unhandled "the error cannot be read"
  | some c =>
    match c.code with
    | none => .unhandled c.text
    | some code =>
      if Complaint.knownCodes.contains code then
        match Complaint.knownMessage? code r with
        | none => .unhandled "the error cannot be read"
        | some own =>
          let line := chainText (code :: (own.or c.message).toList)
          .service [line, line]
      else .service ["unhandled error (" ++ code ++ ")", c.text]

def Response.isSuccess (r : Response) : Bool :=
  200 ≤ r.status && r.status < 300

def Reply.outcome : Reply → Except SendError PutOutput
  | .failure kind reason => .error (.dispatch [kind.message, reason])
  | .response r => if r.isSuccess then r.output else .error r.error

end TlsSeed.Store
