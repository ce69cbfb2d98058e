import Gatehouse.Text.Percent

/-!
The resources of the control interface, by method and path. Host and port stand in the path in percent
coding, one segment each.
-/

namespace Gatehouse.Control

/-- What a request to the control interface asks for. -/
inductive Resource where
  | health
  | version
  | listEndpoints
  | createEndpoint (host : Text)
  | deleteEndpoint (host : Text)
  | attachProxy (host port : Text)
  | notFound
  deriving DecidableEq

def segments (path : Text) : List Text := Text.split '/' (Text.trimBoth (· == '/') path)

/-- A segment with its percent coding undone; one that spells no text stands for itself. -/
def decodeSegment (t : Text) : Text := (Text.unescape? t).getD t

def Resource.ofSegments (method : Text) (parts : List Text) : Resource :=
  match parts with
  | [one] =>
    if method = "GET" ∧ one = "health" then health
    else if method = "GET" ∧ one = "version" then version
    else if method = "GET" ∧ one = "endpoints" then listEndpoints
    else notFound
  | [one, host] =>
    if method = "POST" ∧ one = "endpoints" then createEndpoint (decodeSegment host)
    else if method = "DELETE" ∧ one = "endpoints" then deleteEndpoint (decodeSegment host)
    else notFound
  | [one, host, three, port] =>
    if method = "POST" ∧ one = "endpoints" ∧ three = "proxies" then
      attachProxy (decodeSegment host) (decodeSegment port)
    else notFound
  | _ => notFound

/-- What a method and a path ask for. -/
def Resource.of (method path : Text) : Resource := ofSegments method (segments path)

end Gatehouse.Control
