import TlsSeed.Log.Event
import TlsSeed.Store.Exchange

/-! # What a client reports

A client warns of an endpoint with a query, since it sends to the path alone. It does so when it
makes a request, and so before the request gets a reply, in the first attempt at its operation.
-/

namespace TlsSeed.Store

/-- The part of the client that reports what requests are made of. -/
def requestLogTarget : String := "aws_smithy_runtime_api::http::request"

/-- The part of the client that carries out operations. -/
def operationLogTarget : String := "aws_smithy_runtime::client::orchestrator"

/-- The spans of work in which a request is made. -/
def requestSpans : List Log.Span :=
  [{ name := "try_op", target := operationLogTarget },
   { name := "try_attempt", target := operationLogTarget, fields := [("attempt", 1)] },
   { name := "orchestrate_endpoint", target := operationLogTarget }]

def ignoredQueryWarning (query : String) : Log.Event where
  level := .warn
  target := requestLogTarget
  text := "query specified in endpoint will be ignored during endpoint resolution"
  details := [("query", query)]
  spans := requestSpans

/-- What a client reports when it is asked for a put. -/
def Put.notices (p : Put) (c : Client) : List Log.Event :=
  match p.request c, Route.to c.endpointUrl with
  | .ok _, .ok route => route.ignoredQuery.toList.map ignoredQueryWarning
  | _, _ => []

end TlsSeed.Store
