/-!
# Endpoints

Where requests go. Blanks around a URL and line breaks inside it count for nothing, the scheme
may have any case, slashes of either kind may follow it in any number, and a name with a
password may stand before the host.

The host is taken as it is written. URLs in the wild are read with more care there: a host with
percent signs is decoded first, one beyond ASCII is rewritten, and one that ends in a number, or
stands in brackets, must be an address. Such a URL may name an endpoint here and none there, or
the other way round.
-/
namespace Courier

/-- A place that HTTP requests can be sent to. -/
structure Endpoint where
  /-- Whether the connection is encrypted. -/
  secure : Bool
  /-- The name or address of the host. -/
  host : String
  /-- The port. -/
  port : Nat
  /-- The path and the query. -/
  path : String
  deriving DecidableEq, Repr

namespace Endpoint

/-- The characters of a URL that count. -/
def significant (url : String) : List Char :=
  let trimmed := url.toList.dropWhile fun c => c.toNat ≤ 0x20
  let trimmed := (trimmed.reverse.dropWhile fun c => c.toNat ≤ 0x20).reverse
  trimmed.filter fun c => c ≠ '\t' && c ≠ '\n' && c ≠ '\r'

/-- The schemes that can be sent to, and whether they are encrypted. -/
def secure? (scheme : List Char) : Option Bool :=
  match String.ofList (scheme.map Char.toLower) with
  | "http" => some false
  | "https" => some true
  | _ => none

/-- Whether a character ends the host and port. -/
def endsAuthority (c : Char) : Bool := c = '/' || c = '\\' || c = '?' || c = '#'

/-- The host and port without a name and password before them. -/
def dropUser (authority : List Char) : List Char :=
  (authority.reverse.takeWhile (· ≠ '@')).reverse

/-- Whether a character may stand in a host. -/
def isHostChar (c : Char) : Bool :=
  0x20 < c.toNat && c.toNat ≠ 0x7F && !"#%/:<>?@[\\]^|".toList.contains c

/-- The host and what follows it. An address in brackets may hold colons. -/
def splitHost? (authority : List Char) : Option (List Char × List Char) :=
  match authority with
  | '[' :: rest =>
    match rest.dropWhile (· ≠ ']') with
    | ']' :: after => some (rest.takeWhile (· ≠ ']'), after)
    | _ => none
  | _ =>
    let host := authority.takeWhile (· ≠ ':')
    if host.all isHostChar then some (host, authority.dropWhile (· ≠ ':')) else none

/-- How many ports there are. -/
def portCount : Nat := 65536

/-- The port after the host, or the usual one. -/
def port? (usual : Nat) : List Char → Option Nat
  | [] => some usual
  | [':'] => some usual
  | ':' :: digits =>
    if digits.all Char.isDigit then
      (String.ofList digits).toNat?.filter fun port => port < portCount
    else none
  | _ => none

/-- The endpoint that a URL names, if it names one. -/
def parse? (url : String) : Option Endpoint := do
  let cs := significant url
  let secure ← secure? (cs.takeWhile (· ≠ ':'))
  let rest ← (cs.dropWhile (· ≠ ':')).tail?
  let rest := rest.dropWhile fun c => c = '/' || c = '\\'
  let (host, after) ← splitHost? (dropUser (rest.takeWhile fun c => !endsAuthority c))
  if host.isEmpty then none
  else
    let port ← port? (if secure then 443 else 80) after
    let path := (rest.dropWhile fun c => !endsAuthority c).takeWhile (· ≠ '#')
    let path := if path.head? = some '/' then path else '/' :: path
    return { secure, host := String.ofList host, port, path := String.ofList path }

end Endpoint

end Courier
