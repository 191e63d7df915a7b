import WasmCloud.Lib.MultiMap
import WasmCloud.Lib.Text

/-!
# Requests and the HTTP Library

What the gateways see of a request: a method, a URI and a set of headers. `HttpCrate`
carries the five conversions of the HTTP library that the gateways call, and every result
about a gateway is stated for all of them. Literal names are in canonical lowercase.

`HttpCrate.documented` is the library as its documentation describes it on ordinary input,
with which concrete runs are evaluated.
-/

namespace WasmCloud

/-- A header name in canonical, lowercase form. -/
structure HeaderName where
  text : String
  deriving DecidableEq, Repr

structure HeaderValue where
  bytes : List UInt8
  deriving DecidableEq, Repr

abbrev HeaderMap := MultiMap HeaderName HeaderValue

/-- A URI: its full text, its path and its query. -/
structure Uri where
  text : String
  path : String
  query : Option String
  deriving DecidableEq, Repr

structure RequestHeader where
  method : String
  uri : Uri
  headers : HeaderMap

/-- The conversions of the HTTP library for header values, header names and URIs. -/
structure HttpCrate where
  toStr : HeaderValue → Option String
  fromStr : String → Option HeaderValue
  parseName : String → Option HeaderName
  parseUri : String → Option Uri
  pathAndQuery : Uri → Option String

/-- `headers.get(name).and_then(|v| v.to_str().ok())`. -/
def headerStr (http : HttpCrate) (headers : HeaderMap) (name : String) : Option String :=
  (headers.get ⟨name⟩).bind http.toStr

/-- A byte a header value may hold. -/
def isValidByte (b : UInt8) : Bool := (32 ≤ b && b != 127) || b == 9

/-- A byte with which it can still be read as text. -/
def isVisibleAscii (b : UInt8) : Bool := (32 ≤ b && b < 127) || b == 9

def isTokenChar (c : Char) : Bool :=
  c.isAlphanum || "!#$%&'*+-.^_|~".toList.contains c || c.toNat == 96

/-- The library on ordinary input. -/
def HttpCrate.documented : HttpCrate where
  toStr v :=
    if v.bytes.all isVisibleAscii then
      some (String.ofList (v.bytes.map (fun b => Char.ofNat b.toNat)))
    else none
  fromStr s := if (Text.utf8 s).all isValidByte then some ⟨Text.utf8 s⟩ else none
  parseName s :=
    if !s.toList.isEmpty && s.toList.all isTokenChar then
      some ⟨String.ofList (s.toList.map Char.toLower)⟩
    else none
  parseUri s :=
    if Text.startsWith s "/" then
      some ⟨s, String.ofList (s.toList.takeWhile (fun c => c != '?')),
        match s.toList.dropWhile (fun c => c != '?') with
        | [] => none
        | _ :: query => some (String.ofList query)⟩
    else none
  pathAndQuery uri := some (uri.path ++ (uri.query.elim "" (fun query => "?" ++ query)))

end WasmCloud
