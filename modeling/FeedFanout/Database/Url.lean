import FeedFanout.Address
import FeedFanout.Database.Path
import FeedFanout.Domain.Ipv4
import FeedFanout.Domain.Name
import FeedFanout.Text.Percent
import FeedFanout.Text.Utf8

/-!
URLs of databases: a scheme, and perhaps an authority with a user, a host and a port, then a path and a query. The
schemes of the web and of files have rules of their own: their hosts are names or addresses, and backslashes divide
their paths, too.
-/
namespace FeedFanout.Database

inductive UrlError
  | noBase
  | emptyHost
  | invalidPort
  | invalidIpv4
  | invalidIpv6
  | invalidCharacter
  | invalidDomain
deriving DecidableEq, Repr

def UrlError.message : UrlError → String
  | .noBase => "relative URL without a base"
  | .emptyHost => "empty host"
  | .invalidPort => "invalid port number"
  | .invalidIpv4 => "invalid IPv4 address"
  | .invalidIpv6 => "invalid IPv6 address"
  | .invalidCharacter => "invalid domain character"
  | .invalidDomain => "invalid international domain name"

/-- The parts of a URL as they are written. The path is given without its first slash. -/
structure Url where
  user : List Char := []
  password : List Char := []
  host : List Char := []
  path : List Char := []
  query : List Char := []
deriving DecidableEq, Repr

/-- What the rules for a URL depend on. -/
inductive SchemeKind
  | web
  | file
  | other
deriving DecidableEq, Repr

namespace Url

/-- Without control characters and spaces at the ends, and without tabs and line breaks. -/
def cleaned (url : String) : List Char :=
  let outer (c : Char) : Bool := c.toNat ≤ 32
  let cs := ((url.toList.dropWhile outer).reverse.dropWhile outer).reverse
  cs.filter fun c => c ≠ '\t' && c ≠ '\n' && c ≠ '\r'

/-- Scheme, and what follows its colon. -/
def scheme? (cs : List Char) : Option (List Char × List Char) :=
  let isPart (c : Char) : Bool := c.isAlphanum || c = '+' || c = '-' || c = '.'
  match cs.takeWhile isPart, cs.dropWhile isPart with
  | c :: scheme, ':' :: rest => if c.isAlpha then some ((c :: scheme).map Char.toLower, rest) else none
  | _, _ => none

def kindOf (scheme : List Char) : SchemeKind :=
  match String.ofList scheme with
  | "http" | "https" | "ws" | "wss" | "ftp" => .web
  | "file" => .file
  | _ => .other

/-- Divides the parts of a path. -/
def isSlash (kind : SchemeKind) (c : Char) : Bool := c = '/' || (kind ≠ .other && c = '\\')

/-- Ends an authority. -/
def isEnd (kind : SchemeKind) (c : Char) : Bool := isSlash kind c || c = '?' || c = '#'

/-! ### Hosts -/

/-- Characters that no host may hold as it stands. -/
def isForbidden (c : Char) : Bool := c.toNat = 0 || "\t\n\r #/:<>?@[\\]^|".toList.contains c

/-- An address in brackets. -/
def checkIpv6 (host : List Char) : Except UrlError Unit :=
  match Address.readIpv6 (host.drop 1).dropLast with
  | some (_, []) => if host.getLast? = some ']' then .ok () else .error .invalidIpv6
  | _ => .error .invalidIpv6

/-- A host that is a name or an address, in its usual form. -/
def readName (host : List Char) : Except UrlError (List Char) := do
  if host.head? = some '[' then
    checkIpv6 host
    return host
  let bytes := Text.Percent.bytes host
  if (Text.Utf8.flaw? bytes).isSome then throw .invalidDomain
  match Domain.read? (Text.Utf8.repair bytes) with
  | none => throw .invalidDomain
  | some [] => throw .emptyHost
  | some name =>
    if Domain.Ipv4.endsInNumber name && !Domain.Ipv4.isAddress name then throw .invalidIpv4
    return name

def readHost (kind : SchemeKind) (host : List Char) : Except UrlError (List Char) := do
  match kind, host with
  | .other, '[' :: _ =>
    checkIpv6 host
    return host
  | .other, _ => if host.any isForbidden then throw .invalidCharacter else return host
  | .web, [] => throw .emptyHost
  | .file, [] => return []
  | _, _ => readName host

/-! ### Authorities -/

/-- The host up to a colon outside brackets, and what follows it. -/
def splitHost (inside : Bool) : List Char → List Char × List Char
  | [] => ([], [])
  | c :: cs =>
    if c = ':' && !inside then ([], c :: cs)
    else
      let (host, rest) := splitHost (if c = '[' then true else if c = ']' then false else inside) cs
      (c :: host, rest)

/-- User and password in front of the last at sign, if there is one, and what follows it. -/
def splitUser (cs : List Char) : List Char × List Char × List Char :=
  let place := (cs.reverse.takeWhile (· ≠ '@')).reverse
  let user := cs.take (cs.length - place.length - 1)
  (user.takeWhile (· ≠ ':'), (user.dropWhile (· ≠ ':')).drop 1, place)

/-- What follows a host: perhaps a colon and a number, which may be left out. A backslash ends it in any URL. -/
def readPort (cs : List Char) : Except UrlError (List Char) :=
  match cs with
  | ':' :: cs =>
    let ends (c : Char) : Bool := isEnd .web c
    match cs.takeWhile (!ends ·), cs.dropWhile (!ends ·) with
    | [], rest => .ok rest
    | number, rest =>
      match Decimal.readDigits 65535 .tooLarge 0 number with
      | .ok _ => .ok rest
      | .error _ => .error .invalidPort
  | cs => .ok cs

/-! ### Paths and queries -/

/-- The path and the query behind an authority or a scheme. A fragment is passed over. -/
def withRest (url : Url) (ofPath : List Char → List Char) (cs : List Char) : Url :=
  let cs := cs.takeWhile (· ≠ '#')
  { url with path := ofPath (cs.takeWhile (· ≠ '?')), query := (cs.dropWhile (· ≠ '?')).drop 1 }

/-- A path whose first slash may be left out. -/
def ofPath (kind : SchemeKind) (path : List Char) : List Char :=
  match path with
  | c :: cs => Path.simplify (isSlash kind) (if isSlash kind c then cs else path)
  | [] => []

/-- Reads an authority and what follows it. -/
def readAuthority (kind : SchemeKind) (cs : List Char) : Except UrlError Url := do
  let authority := cs.takeWhile (!isEnd kind ·)
  let rest := cs.dropWhile (!isEnd kind ·)
  if authority = ['@'] && !rest.isEmpty then throw .emptyHost
  let (user, password, place) := splitUser authority
  let (host, port) := splitHost false place
  let name ← readHost kind host
  if name.isEmpty && !port.isEmpty then throw .emptyHost
  let rest ← readPort (port ++ rest)
  if name.isEmpty && !(user.isEmpty && password.isEmpty) then throw .emptyHost
  return withRest { user, password, host := name } (ofPath kind) rest

/-- Reads what follows the scheme of a file: two slashes and a host, or a path alone. A drive is no host. -/
def readFile (cs : List Char) : Except UrlError Url := do
  match cs with
  | a :: b :: place =>
    if isSlash .file a && isSlash .file b then
      let host := place.takeWhile (!isEnd .file ·)
      if Path.isDrive host then return withRest {} (ofPath .file) place
      let host ← readHost .file host
      return withRest { host } (ofPath .file) (place.dropWhile (!isEnd .file ·))
    else return withRest {} (ofPath .file) cs
  | cs => return withRest {} (ofPath .file) cs

def parse (text : String) : Except UrlError Url :=
  match scheme? (cleaned text) with
  | none => .error .noBase
  | some (scheme, cs) =>
    match kindOf scheme, cs with
    | .file, cs => readFile cs
    | .web, cs => readAuthority .web (cs.dropWhile (isSlash .web ·))
    | .other, '/' :: '/' :: cs => readAuthority .other cs
    | .other, '/' :: cs => .ok (withRest {} (ofPath .other) ('/' :: cs))
    | .other, cs => .ok (withRest {} id cs)

end Url

end FeedFanout.Database
