import LogOperator.Document

/-!
# LogOperator.Endpoint

Where the aggregator and the dashboard reach the search engine: scheme, host and port.  An endpoint is
resolved once per pass and handed on by value.
-/

namespace LogOperator

open Document

/-- The scheme of an endpoint. -/
inductive Scheme where
  | http
  | https
deriving DecidableEq, Inhabited

def Scheme.name : Scheme → String
  | http => "http"
  | https => "https"

/-- The scheme of a name, which is in lower case. -/
def Scheme.ofName? (s : String) : Option Scheme :=
  [http, https].find? fun c => c.name == s

/-- An endpoint of the search engine. -/
structure Endpoint where
  scheme : Scheme
  host : String
  port : UInt16
deriving DecidableEq, Inhabited

namespace Endpoint

def portText (e : Endpoint) : String :=
  Nat.repr e.port.toNat

/-- The base URL of an endpoint. -/
def url (e : Endpoint) : String :=
  e.scheme.name ++ "://" ++ e.host ++ ":" ++ e.portText

/-- The endpoint of a document; its scheme is http unless stated. -/
def read? {α : Type} [Document α] (v : α) : Option Endpoint := do
  let ms ← record? ["host", "port", "scheme"] v
  return {
    scheme := ← defaulted (fun v => (choice? v).bind Scheme.ofName?) .http "scheme" ms
    host := ← required text? "host" ms
    port := ← required port? "port" ms }

def write (e : Endpoint) : Json :=
  .object
    [("host", .text e.host), ("port", .int e.port.toNat), ("scheme", .text e.scheme.name)]

end Endpoint

end LogOperator
