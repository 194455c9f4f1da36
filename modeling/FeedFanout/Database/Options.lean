import FeedFanout.Database.Error
import FeedFanout.Database.Url
import FeedFanout.Text.Form
import FeedFanout.Text.Quoted

/-!
Options of a database connection as a URL gives them. A URL that is not well formed or gives an option that cannot be
read is refused before any connection is tried.
-/
namespace FeedFanout.Database

/-- Why a URL does not say how to connect. -/
inductive OptionError
  | url (error : UrlError)
  | text (flaw : Text.Utf8.Flaw)
  | number (error : Decimal.IntegerError)
  | address
  | encryption (name : String)

/-- How far a connection must be encrypted. -/
def encryptionModes : List String := ["disable", "allow", "prefer", "require", "verify-ca", "verify-full"]

/-- The error of the connection that is not tried. A mode that is not known is an error of the configuration by itself,
told inside the other. -/
def OptionError.toDatabase : OptionError → DatabaseError
  | .url error => .configuration error.message
  | .text flaw => .configuration flaw.message
  | .number error => .configuration error.message
  | .address => .configuration "invalid IP address syntax"
  | .encryption name =>
    .configuration (DatabaseError.configuration s!"unknown value {Text.Quoted.encode name} for `ssl_mode`").message

private def number (largest : Nat) (value : List Char) : Except OptionError Unit :=
  match Decimal.parseNat largest value with
  | .ok _ => .ok ()
  | .error e => .error (.number e)

private def address (value : List Char) : Except OptionError Unit :=
  match Address.readOctets 4 value, Address.readIpv6 value with
  | some (_, []), _ => .ok ()
  | _, some (_, []) => .ok ()
  | _, _ => .error .address

/-- An option by its name. -/
def checkOption (name value : List Char) : Except OptionError Unit :=
  match String.ofList name with
  | "sslmode" | "ssl-mode" =>
    if String.ofList (value.map Char.toLower) ∈ encryptionModes then .ok ()
    else .error (.encryption (String.ofList value))
  | "statement-cache-capacity" => number Decimal.largestNat64 value
  | "hostaddr" => address value
  | "port" => number 65535 value
  | _ => .ok ()

/-- A part of a URL whose bytes have to be text. -/
def checkPart (part : List Char) : Except OptionError Unit :=
  match Text.Utf8.flaw? (Text.Percent.bytes part) with
  | some flaw => .error (.text flaw)
  | none => .ok ()

/-- The path of a directory in place of a host. -/
def isDirectory (host : List Char) : Bool := (Text.Percent.bytes host).head? = some 0x2F

def checkUrl (text : String) : Except OptionError Unit := do
  let url ← (Url.parse text).mapError .url
  if isDirectory url.host then checkPart url.host
  checkPart url.user
  checkPart url.password
  checkPart (url.path.dropWhile (· = '/'))
  (Text.Form.pairs url.query).forM fun (name, value) => checkOption name value

/-- The error with which a connection to this URL fails at once. -/
def connectError? (url : String) : Option DatabaseError :=
  match checkUrl url with
  | .ok () => none
  | .error e => some e.toDatabase

end FeedFanout.Database
