/-!
# Addresses of services

Which texts make the address of a service. An authority is a host, perhaps with a user before an
`@` and a port behind a colon; the host may stand in brackets. Behind it comes a path.
-/

namespace MonitorFleet.Net

/-- The longest address, in bytes. -/
def maxUri : Nat := 65534

/-- Whether a character may stand in an authority; a percent sign may only in some places. -/
def isAuthorityChar (c : Char) : Bool :=
  c.isAlphanum || "-._~!$&'()*+,;=:@[]%".toList.contains c

/-- Whether a character ends an authority. -/
def endsAuthority (c : Char) : Bool := c = '/' || c = '?' || c = '#'

/-- What was seen of an authority. -/
structure Authority where
  colons : Nat := 0
  opened : Bool := false
  closed : Bool := false
  percent : Bool := false
  /-- Whether the last character was an `@`. -/
  atLast : Bool := false
  deriving DecidableEq, Repr

namespace Authority

/-- The most colons that may follow one another in an authority. -/
def maxColons : Nat := 8

/-- The authority with one more character; `none` if that may not stand there. Colons and percent
signs of a user or between brackets do not count. -/
def step (a : Authority) (c : Char) : Option Authority :=
  if !isAuthorityChar c then none
  else
    let a := { a with atLast := false }
    match c with
    | ':' => if maxColons ≤ a.colons then none else some { a with colons := a.colons + 1 }
    | '[' => if a.percent || a.opened then none else some { a with opened := true }
    | ']' =>
      if !a.opened || a.closed then none
      else some { a with closed := true, colons := 0, percent := false }
    | '@' => some { a with colons := 0, percent := false, atLast := true }
    | '%' => some { a with percent := true }
    | _ => some a

/-- Whether an authority may end here. -/
def isComplete (a : Authority) : Bool :=
  a.opened == a.closed && a.colons ≤ 1 && !a.atLast && !a.percent

/-- Whether a text is an authority, not empty. -/
def isValid (cs : List Char) : Bool :=
  cs ≠ [] && (cs.foldlM step {}).any isComplete

end Authority

/-- Whether a character may stand in a path. -/
def isPathChar (c : Char) : Bool :=
  let n := c.toNat
  n = 0x21 || n = 0x22 || (0x24 ≤ n && n ≤ 0x3B) || n = 0x3D || (0x40 ≤ n && n ≤ 0x5F) ||
    (0x61 ≤ n && n ≤ 0x7E) || 0x7F ≤ n

/-- Whether a character may stand in a query. -/
def isQueryChar (c : Char) : Bool :=
  let n := c.toNat
  n = 0x21 || (0x24 ≤ n && n ≤ 0x3B) || n = 0x3D || 0x3F ≤ n

/-- Whether a text is a path, perhaps with a query; what follows a `#` does not count. -/
def isPathAndQuery (cs : List Char) : Bool :=
  let cs := cs.takeWhile (· ≠ '#')
  (cs.takeWhile (· ≠ '?')).all isPathChar && ((cs.dropWhile (· ≠ '?')).drop 1).all isQueryChar

/-- Whether an endpoint's text makes the address of a service. -/
def isServiceAddress (endpoint : String) : Bool :=
  let cs := endpoint.toList
  endpoint.utf8ByteSize + 7 ≤ maxUri &&
    Authority.isValid (cs.takeWhile fun c => !endsAuthority c) &&
    isPathAndQuery (cs.dropWhile fun c => !endsAuthority c)

end MonitorFleet.Net
