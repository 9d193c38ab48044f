/-!
# Listening addresses

A server listens on `:PORT`, every interface at one port. `listenFailure?` says why such an
address cannot be listened on, in the words of the network library, or nothing when it can:

* the address is split at its last colon; a colon before it, or a bracket anywhere, is refused;
* a port of digits, with an optional sign, is a number. Digits are read into a 32-bit word that
  stops growing at 2^30, so a long number reads as a large one; a number outside 0 to 65535 is
  an invalid port;
* a port with any other character is a service name, looked up up to ASCII case among the
  well-known services; an unknown name is an unknown port.
-/

namespace BillOfMaterials

/-- The well-known services a port may be named by. -/
def servicePorts : List (String × Nat) :=
  [("ftp", 21), ("ftps", 990), ("gopher", 70), ("http", 80), ("https", 443), ("imap2", 143),
   ("imap3", 220), ("imaps", 993), ("pop3", 110), ("pop3s", 995), ("smtp", 25),
   ("submissions", 465), ("ssh", 22), ("telnet", 23)]

/-- Reads the digits of a port into a 32-bit word: `none` at the first character that is no
digit; at 2^30 or more the reading stops at the largest word, as it does when adding a digit
overflows. Multiplying by ten wraps. -/
def scanPortDigits : Nat → List Char → Option Nat
  | n, [] => some n
  | n, c :: cs =>
    if !c.isDigit then none
    else if n ≥ Nat.pow 2 30 then some (Nat.pow 2 32 - 1)
    else
      let m := n * 10 % Nat.pow 2 32
      let nn := (m + (c.toNat - '0'.toNat)) % Nat.pow 2 32
      if nn < m then some (Nat.pow 2 32 - 1) else scanPortDigits nn cs

/-- The number a port is written as, or `none` when it is a service name. -/
def portNumber? (s : String) : Option Int :=
  if s.isEmpty then some 0
  else
    let (neg, cs) := match s.toList with
      | '+' :: cs => (false, cs)
      | '-' :: cs => (true, cs)
      | cs => (false, cs)
    (scanPortDigits 0 cs).map fun n =>
      let cutoff := Nat.pow 2 30
      let p : Int := if !neg && n ≥ cutoff then cutoff - 1 else if neg && n > cutoff then cutoff else n
      if neg then -p else p

/-- ASCII lower case. -/
def asciiLower (s : String) : String :=
  s.map fun c => if 'A' ≤ c && c ≤ 'Z' then Char.ofNat (c.toNat + 32) else c

/-- The port a service name stands for. -/
def servicePort? (name : String) : Option Nat :=
  if name.utf8ByteSize > 25 then none else servicePorts.lookup (asciiLower name)

/-- Why a port cannot be listened on, if it cannot. -/
def portFailure? (port : String) : Option String :=
  match portNumber? port with
  | some n => if n < 0 || n > 65535 then some ("address " ++ port ++ ": invalid port") else none
  | none =>
    match servicePort? port with
    | some _ => none
    | none => some ("lookup tcp/" ++ port ++ ": unknown port")

/-- Why the address `:port` cannot be listened on, if it cannot. -/
def listenFailure? (port : String) : Option String :=
  let hostport := ":" ++ port
  let cs := hostport.toList
  let lastColon := cs.length - 1 - ((cs.reverse.takeWhile (· ≠ ':')).length)
  let host := cs.take lastColon
  let refuse (why : String) : Option String := some ("listen tcp: address " ++ hostport ++ ": " ++ why)
  if host.contains ':' then refuse "too many colons in address"
  else if cs.contains '[' then refuse "unexpected \x27[\x27 in address"
  else if cs.contains ']' then refuse "unexpected \x27]\x27 in address"
  else (portFailure? (String.ofList (cs.drop (lastColon + 1)))).map ("listen tcp: " ++ ·)

end BillOfMaterials
