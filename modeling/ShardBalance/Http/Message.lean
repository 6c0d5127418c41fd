import ShardBalance.Json.Printer
import ShardBalance.Url.Basic

/-!
Requests to a cluster over HTTP, and what comes back.
-/

namespace ShardBalance.Http

inductive Method where
  | get | post
  deriving DecidableEq, Repr

def Method.name : Method → String
  | get => "GET"
  | post => "POST"

structure Request where
  method : Method
  url : Url
  apiKey : Option String
  body : Option Json

/-- What a request brings. A transport delivers one response for each; a redirection that it follows by itself, one with a
status of 3xx and a place to go to, is not among them. -/
structure Response where
  status : Nat
  body : String
  deriving DecidableEq, Repr

def Response.isSuccess (r : Response) : Bool := 200 ≤ r.status && r.status < 300

inductive Delivery where
  /-- A response, and whether the operation was cancelled meanwhile. -/
  | response (r : Response) (cancels : Bool)
  | closed
  /-- Nothing until the operation was cancelled. -/
  | silent

abbrev Server (σ : Type) := Request → σ → Delivery × σ

/-- Control characters other than the tab may not stand in a header. -/
def isHeaderChar (c : Char) : Bool := c = '\t' || (0x20 ≤ c.toNat && c.toNat ≠ 0x7f)

end ShardBalance.Http
