import ContractHarness.Url.Host

/-!
# The URL of a node

A node is reached at a URL with the scheme `http` or `https`. The host may be followed by a colon
and the number of a service. With a service the scheme may be left out in front of `localhost` and
of an IP address. Blanks and control characters around a URL do not count, and neither do line
breaks and tabs in it.
-/

set_option autoImplicit false

namespace ContractHarness.Url

/-- Cuts the characters with a property off both ends. -/
def strip (property : Char → Bool) (text : List Char) : List Char :=
  ((text.dropWhile property).reverse.dropWhile property).reverse

/-- The characters of a URL that count. -/
def clean (text : List Char) : List Char :=
  (strip (·.toNat ≤ 0x20) text).filter fun c => c ≠ '\t' ∧ c ≠ '\n' ∧ c ≠ '\r'

/-- The character can stand in a scheme. -/
def isSchemeChar (c : Char) : Bool :=
  c.isAlphanum || c == '+' || c == '-' || c == '.'

/-- Splits a URL behind its scheme, which is given in lowercase. -/
def splitScheme (text : List Char) : Except UrlError (List Char × List Char) :=
  match splitAtMark ':' text with
  | some (scheme, rest) =>
    if (scheme.head?.any Char.isAlpha) ∧ scheme.all isSchemeChar then
      .ok (scheme.map Char.toLower, rest)
    else .error .noScheme
  | none => .error .noScheme

/-- The character is a slash of either kind. -/
def isSlash (c : Char) : Bool :=
  c == '/' || c == '\\'

/-- The character ends the part of a URL that names the host. -/
def endsAuthority (c : Char) : Bool :=
  c == '/' || c == '?' || c == '#'

/-- Splits an authority at the last at sign, in front of which a user is named. -/
def splitUser (authority : List Char) : Option (List Char) × List Char :=
  match splitAtMark '@' authority.reverse with
  | some (host, user) => (some user.reverse, host.reverse)
  | none => (none, authority)

/-- Splits a host from its service. A colon in brackets belongs to the host. -/
def splitService (inBrackets : Bool) : List Char → List Char × Option (List Char)
  | [] => ([], none)
  | c :: rest =>
    if c = ':' ∧ ¬ inBrackets then ([], some rest)
    else
      let (host, service) := splitService (c = '[' || (c ≠ ']' && inBrackets)) rest
      (c :: host, service)

/-- The digits are the number of a service. -/
def isService (digits : List Char) : Bool :=
  (Decimal.toNat? digits).any (· < UInt16.size)

/-- Checks the number of a service, which may be left out. -/
def checkService : Option (List Char) → Except UrlError Unit
  | none => .ok ()
  | some digits => if digits.isEmpty ∨ isService digits then .ok () else .error .badService

/-- The schemes whose URLs name a host that is looked up. -/
def hostSchemes : List String :=
  ["http", "https", "ws", "wss", "ftp"]

/-- Checks what follows a scheme whose URLs name a host. -/
def checkHostUrl (rest : List Char) : Except UrlError Unit := do
  let authority := (rest.dropWhile isSlash).takeWhile fun c => !(isSlash c || endsAuthority c)
  let (host, service) := splitService false (splitUser authority).2
  checkHost host
  checkService service

/-- The text is a letter of a drive. -/
def isDrive : List Char → Bool
  | [letter, mark] => letter.isAlpha && (mark == ':' || mark == '|')
  | _ => false

/-- Checks what follows the scheme of a file, which may be on a host. -/
def checkFileUrl : List Char → Except UrlError Unit
  | a :: b :: rest =>
    let host := rest.takeWhile fun c => !(isSlash c || endsAuthority c)
    if isSlash a ∧ isSlash b ∧ ¬ host.isEmpty ∧ ¬ isDrive host then checkHost host else .ok ()
  | _ => .ok ()

/-- The text names a user or a password. -/
def namesUser (user : List Char) : Bool :=
  !user.isEmpty && user ≠ [':']

/-- Checks what follows any other scheme. A host may be left out together with everything beside
it. -/
def checkOpaqueUrl : List Char → Except UrlError Unit
  | '/' :: '/' :: rest => do
    let (user, place) := splitUser (rest.takeWhile fun c => !endsAuthority c)
    let goesOn := rest.any endsAuthority
    if user = some [] ∧ place.isEmpty ∧ goesOn then throw .noHost
    let (host, service) := splitService false place
    checkOpaqueHost host
    if host.isEmpty ∧ (service.isSome ∨ user.any namesUser) then throw .noHost
    checkService (service.map (·.takeWhile (· ≠ '\\')))
  | _ => .ok ()

/-- Checks a URL with a scheme. Nodes are not asked at a URL with another scheme, but it has to be a
good one. -/
def checkAbsolute (text : List Char) : Except UrlError Unit := do
  let (scheme, rest) ← splitScheme (clean text)
  let scheme := String.ofList scheme
  if hostSchemes.contains scheme then checkHostUrl rest
  else if scheme = "file" then checkFileUrl rest
  else checkOpaqueUrl rest
  unless scheme = "http" ∨ scheme = "https" do
    throw (.unknownScheme scheme)

/-- The text is an IPv6 address, which may name the zone that it holds in by a number behind a
percent sign. -/
def isZonedIpv6 (text : List Char) : Bool :=
  match splitAtMark '%' text with
  | some (address, zone) => isIpv6 address && (Decimal.toNat? zone).any (· < UInt32.size)
  | none => isIpv6 text

/-- The text is an IP address with a service. -/
def isSocket : List Char → Bool
  | '[' :: rest =>
    match splitAtMark ']' rest with
    | some (address, ':' :: service) => isZonedIpv6 address && isService service
    | _ => false
  | text =>
    match splitAtMark ':' text with
    | some (address, service) => isDotted address && isService service
    | none => false

/-- Checks the URL of a node. -/
def check (url : String) : Except UrlError Unit :=
  if url.startsWith "localhost:" ∨ isSocket url.toList then
    checkAbsolute ("http://".toList ++ url.toList)
  else checkAbsolute url.toList

end ContractHarness.Url
