import SyncHistory.Error
import SyncHistory.Percent

/-!
# Connection strings

A connection string says where a database is and how to connect to it, either as a URL or as a row of
keys with values. Both come down to options (`ConnectionString.options?`), each of which must be known
and have a value of the right form; `ConnectionString.check` finds out whether a connection can be tried
at all.
-/

namespace SyncHistory.ConnectionString

/-- An option with its value. -/
abbrev Setting := String × String

/-! ## Keys and values -/

/-- A value without quotes: up to a blank, where a backslash makes the next character count as it is. -/
def plainValue : List Char → List Char × List Char
  | '\\' :: c :: rest => let (value, rest) := plainValue rest; (c :: value, rest)
  | ['\\'] => ([], [])
  | c :: rest =>
    if Text.isBlank c then ([], c :: rest)
    else let (value, rest) := plainValue rest; (c :: value, rest)
  | [] => ([], [])

/-- A value in apostrophes, after the first of these. -/
def quotedValue? : List Char → Option (List Char × List Char)
  | '\'' :: rest => some ([], rest)
  | '\\' :: c :: rest => (quotedValue? rest).map fun (value, rest) => (c :: value, rest)
  | c :: rest => (quotedValue? rest).map fun (value, rest) => (c :: value, rest)
  | [] => none

/-- A value; without quotes it must not be empty. -/
def value? (cs : List Char) : Option (List Char × List Char) :=
  match cs with
  | '\'' :: rest => quotedValue? rest
  | cs =>
    let (value, rest) := plainValue cs
    if value.isEmpty then none else some (value, rest)

/-- The keys and values of a text. It ends where no key follows. -/
def pairs? : (fuel : Nat) → List Char → Option (List Setting)
  | 0, _ => some []
  | fuel + 1, cs => do
    let cs := Text.trimStart cs
    let key := cs.takeWhile fun c => !Text.isBlank c && c != '='
    if key.isEmpty then return []
    match Text.trimStart (cs.drop key.length) with
    | '=' :: rest =>
      let (value, rest) ← value? (Text.trimStart rest)
      some ((String.ofList key, String.ofList value) :: (← pairs? fuel rest))
    | _ => none

/-! ## URLs -/

/-- Splits in front of the first character of a kind, if there is one. -/
def splitBefore (isMark : Char → Bool) (cs : List Char) : List Char × List Char :=
  (cs.takeWhile fun c => !isMark c, cs.dropWhile fun c => !isMark c)

/-- The host and its port number in one part of an authority; 5432 is the number that is standard. -/
def hostAndPort? (cs : List Char) : Option (List Char × List Char) :=
  match cs with
  | '[' :: inner =>
    let (host, rest) := splitBefore (· == ']') inner
    match rest with
    | [']'] => some (host, "5432".toList)
    | ']' :: ':' :: port => some (host, port)
    | _ => none
  | cs =>
    let (host, rest) := splitBefore (· == ':') cs
    match rest with
    | _ :: port => some (host, port)
    | [] => some (host, "5432".toList)

/-- The options in one part of an authority. -/
def hostSettings? (cs : List Char) : Option (List Setting) := do
  let (host, port) ← hostAndPort? cs
  some [("host", ← Percent.decode? host), ("port", ← Percent.decode? port)]

def authority? (user : Option (List Char)) (hosts : List Char) : Option (List Setting) := do
  let user ← match user with
    | some cs => (Percent.decode? (splitBefore (· == ':') cs).1).map fun name => [("user", name)]
    | none => some []
  if hosts.isEmpty then return user
  let settings ← (Text.splitAtAll (· == ',') hosts).mapM hostSettings?
  some (user ++ settings.flatten)

/-- The options behind a question mark. -/
def query? : (fuel : Nat) → List Char → Option (List Setting)
  | 0, _ => some []
  | _, [] => some []
  | fuel + 1, cs => do
    let (key, rest) := splitBefore (· == '=') cs
    match rest with
    | _ :: rest =>
      let (value, rest) := splitBefore (· == '&') rest
      some ((← Percent.decode? key, ← Percent.decode? value) :: (← query? fuel (rest.drop 1)))
    | [] => none

/-- The options of a URL after its scheme. -/
def url? (cs : List Char) : Option (List Setting) := do
  let (user, rest) := match splitBefore (· == '@') cs with
    | (user, _ :: rest) => (some user, rest)
    | (_, []) => (none, cs)
  let (hosts, rest) := splitBefore (fun c => c == '/' || c == '?') rest
  let authority ← authority? user hosts
  let (path, rest) := splitBefore (· == '?') rest
  let database ← match path with
    | '/' :: c :: name => (Percent.decode? (c :: name)).map fun name => [("dbname", name)]
    | _ => some []
  some (authority ++ database ++ (← query? rest.length (rest.drop 1)))

/-! ## Options -/

/-- The options of a connection string. -/
def options? (s : String) : Option (List Setting) :=
  let cs := s.toList
  match ["postgres://", "postgresql://"].findSome? fun scheme => Text.dropStart? scheme.toList cs with
  | some rest => url? rest
  | none => pairs? (cs.length + 1) cs

/-- A number without a minus. -/
def unsigned? (cs : List Char) : Option Nat :=
  match cs with
  | '+' :: digits => Digits.nat? 10 digits
  | digits => Digits.nat? 10 digits

/-- Is this a port number? An empty text stands for the standard one. -/
def isPort (cs : List Char) : Bool :=
  cs.isEmpty || (unsigned? cs).any (· < 65536)

/-- Is this a number of so many bits? -/
def isSigned (bits : Nat) (s : String) : Bool :=
  (Digits.int? s.toList).any (Digits.fitsSigned bits)

/-- Is this a number of so many bits without a sign? -/
def isUnsigned (bits : Nat) (s : String) : Bool :=
  (unsigned? s.toList).any fun n => Digits.fitsUnsigned bits n

/-- Is this the address of a host, four numbers with points between them or groups with colons? -/
def isAddress (cs : List Char) : Bool :=
  let parts := Text.splitAtAll (· == '.') cs
  (parts.length == 4 && parts.all fun part =>
    (Digits.nat? 10 part).any (· < 256) && (part.length == 1 || part.head? != some '0')) ||
  (2 ≤ (cs.filter (· == ':')).length &&
    cs.all fun c => c == ':' || c == '.' || (Digits.value? 16 c).isSome)

/-- The parts of a value with commas. -/
def parts (value : String) : List (List Char) :=
  Text.splitAtAll (· == ',') value.toList

/-- Is the option known, and does its value have the right form? -/
def isValid : Setting → Bool
  | ("user", _) | ("password", _) | ("dbname", _) | ("options", _) | ("application_name", _)
  | ("host", _) => true
  | ("sslmode", v) => ["disable", "prefer", "require"].contains v
  | ("hostaddr", v) => (parts v).all isAddress
  | ("port", v) => (parts v).all isPort
  | ("connect_timeout", v) | ("tcp_user_timeout", v) | ("keepalives_idle", v)
  | ("keepalives_interval", v) => isSigned 64 v
  | ("keepalives", v) => isUnsigned 64 v
  | ("keepalives_retries", v) => isUnsigned 32 v
  | ("target_session_attrs", v) => ["any", "read-write", "read-only"].contains v
  | ("channel_binding", v) => ["disable", "prefer", "require"].contains v
  | ("load_balance_hosts", v) => ["disable", "random"].contains v
  | _ => false

/-- How many values an option has in all. -/
def count (settings : List Setting) (name : String) : Nat :=
  (settings.filter fun s => s.1 == name).foldl (fun total s => total + (parts s.2).length) 0

/-- Do the options say where the database is? There must be a host or an address, as many hosts as
addresses if there are both, and one port number or as many as there are hosts. -/
def isComplete (settings : List Setting) : Bool :=
  let hosts := count settings "host"
  let addresses := count settings "hostaddr"
  let ports := count settings "port"
  let places := if hosts = 0 then addresses else hosts
  places != 0 && (hosts == 0 || addresses == 0 || hosts == addresses) &&
    (ports ≤ 1 || ports == places)

/-- Can a connection be tried at all? -/
def check (s : String) : Except DatabaseFault Unit :=
  match options? s with
  | some settings =>
    if !settings.all isValid then .error .badConnectionString
    else if isComplete settings then .ok () else .error .incompleteConnectionString
  | none => .error .badConnectionString

end SyncHistory.ConnectionString
