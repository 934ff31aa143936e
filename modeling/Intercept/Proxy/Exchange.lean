import Intercept.Module.Program

/-!
# Exchanges

An exchange is a request and its response. What the request leg finds out is kept for the response
leg: the route, which names the operation of both legs, the body as the client sent it, and the
session that the request was dispatched in, if it was.
-/

namespace Intercept

/-- A request as the transport hands it over. -/
structure Request where
  /-- The host, with its port if one is given. -/
  host : String
  path : String
  /-- The value of the header with the user id, if there is one. -/
  uid : Option String := none
  body : ByteArray := ByteArray.empty

/-- What the transport has to do with a request. -/
inductive RequestOutcome where
  /-- Answer it with nothing; there is no response leg. -/
  | blocked
  /-- Forward it as it is. -/
  | passThrough
  /-- Forward it with this body. -/
  | dispatched (body : ByteArray)

/-- What is kept of a request for its response. -/
structure Exchange where
  host : String
  /-- The path without the slashes around it. -/
  route : String
  isBlocked : Bool := false
  /-- The body as the client sent it, if the request was dispatched. -/
  requestData : Option ByteArray := none
  /-- The session that the request was dispatched in. -/
  session : Option Nat := none

/-- A path without the slashes around it. -/
def trimSlashes (path : String) : String :=
  let front := path.toList.dropWhile (· = '/')
  String.ofList (front.reverse.dropWhile (· = '/')).reverse

namespace Exchange

/-- The exchange of a request. -/
def ofRequest (r : Request) : Exchange := { host := r.host, route := trimSlashes r.path }

/-- The operation of the request leg. -/
def requestOp (x : Exchange) : String := "C/" ++ x.route

/-- The operation of the response leg. -/
def responseOp (x : Exchange) : String := "S/" ++ x.route

/-- Whether the exchange belongs to a session. -/
def isGameTraffic (x : Exchange) : Bool := x.session.isSome

/-- What packet hooks are told about the exchange. -/
def packetMeta (x : Exchange) : PacketMeta where
  host := x.host
  requestOp := x.requestOp
  requestData := x.requestData

end Exchange

end Intercept
