import PluginFlow.Net.Url

/-!
Which destinations a flow may name. Only `https` URLs are let through, and neither URLs nor raw
hosts may name this host or an address of a private network in any spelling. A name that leads to
such an address is not known here; the sandbox looks at the addresses before it connects.
-/

namespace PluginFlow.Net

inductive Violation
  | invalidUrl
  | schemeNotAllowed
  | missingHost
  | localHostBlocked
  | invalidIpv4
  | privateIpv4Blocked
  | invalidPort
  deriving DecidableEq, Repr

namespace Violation

def name : Violation → String
  | invalidUrl => "invalid_url"
  | schemeNotAllowed => "scheme_not_allowed"
  | missingHost => "missing_host"
  | localHostBlocked => "local_host_blocked"
  | invalidIpv4 => "invalid_ipv4"
  | privateIpv4Blocked => "private_ipv4_blocked"
  | invalidPort => "invalid_port"

def ofFault : UrlFault → Violation
  | .emptyHost => missingHost
  | .invalidIpv4 => invalidIpv4
  | _ => invalidUrl

end Violation

def localHosts : List String := ["localhost", "127.0.0.1", "0.0.0.0", "::1"]

def checkAddress (a : Address) : Except Violation Unit :=
  if a.text ∈ localHosts then .error .localHostBlocked
  else if a.isBlocked then .error .privateIpv4Blocked
  else .ok ()

def withoutLastStops (name : String) : String :=
  String.ofList ((name.toList.reverse.dropWhile (· == '.')).reverse)

/-- Checks a host. An IPv4 address in the form of an IPv6 one counts as itself. -/
def Host.check : Host → Except Violation Unit
  | .domain name => if withoutLastStops name ∈ localHosts then .error .localHostBlocked else .ok ()
  | .ipv4 a => checkAddress (.v4 a)
  | .ipv6 a => checkAddress ((a.mapped?.map Address.v4).getD (.v6 a))

/-- A host text without blanks around it, brackets in front and brackets behind. -/
def bareHost (s : String) : List Char :=
  let cs := (Text.trim s).toList.dropWhile (· == '[')
  (cs.reverse.dropWhile (· == ']')).reverse

/-- The host that a text names, read like the host of a URL; a colon marks an IPv6 address. -/
def readHost (bare : List Char) : Except UrlFault Host :=
  if bare.contains ':' then Host.parse (String.ofList ('[' :: bare ++ [']']))
  else Host.parse (String.ofList bare)

def checkHost (s : String) : Except Violation Unit :=
  let bare := bareHost s
  if bare.isEmpty then .error .missingHost
  else match readHost bare with
    | .error f => .error (.ofFault f)
    | .ok h => h.check

def checkUrl (s : String) : Except Violation Url :=
  match Url.parse (Text.trim s) with
  | .error _ => .error .invalidUrl
  | .ok u =>
    if u.scheme ≠ "https" then .error .schemeNotAllowed
    else match checkHost (u.hostText?.getD "") with
      | .error v => .error v
      | .ok _ => .ok u

def checkHostPort (host : String) (port : Int) : Except Violation Unit :=
  match checkHost (Text.trim host) with
  | .error v => .error v
  | .ok _ => if 1 ≤ port ∧ port ≤ 65535 then .ok () else .error .invalidPort

end PluginFlow.Net
