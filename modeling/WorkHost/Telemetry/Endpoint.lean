/-!
Contract: the addresses that telemetry can be exported to.

An address is a uniform resource identifier: a path alone, an authority alone, or a
scheme with an authority and possibly a path, a query and a fragment. `fault?` says what
is wrong with a text that is none.
-/

namespace WorkHost

inductive EndpointFault where
  | empty
  | tooLong
  | longScheme
  | badCharacter
  | badAuthority
  /-- Parts are missing, or there is more than an authority without a scheme. -/
  | badFormat
deriving DecidableEq, Repr

def EndpointFault.message : EndpointFault → String
  | .empty => "empty string"
  | .tooLong => "uri too long"
  | .longScheme => "scheme too long"
  | .badCharacter => "invalid uri character"
  | .badAuthority => "invalid authority"
  | .badFormat => "invalid format"

namespace Endpoint

/-! ## Scheme -/

def isSchemeChar (c : Char) : Bool :=
  c.isAlphanum || ['+', '-', '.', '~'].contains c

def schemeLimit : Nat := 64

/-- What follows the scheme and the slashes after it, if there is a scheme. -/
def afterScheme (text : List Char) : Except EndpointFault (Option (List Char)) :=
  let scheme := text.takeWhile isSchemeChar
  match text.drop scheme.length with
  | ':' :: '/' :: '/' :: rest =>
    if text.length ≤ 3 then .ok none
    else if schemeLimit < scheme.length then .error .longScheme
    else .ok (some rest)
  | _ => .ok none

/-! ## Authority -/

def endsAuthority (c : Char) : Bool := c == '/' || c == '?' || c == '#'

def isAuthorityChar (c : Char) : Bool :=
  c.isAlphanum || "!$&'()*+,-.:;=@[]_~".toList.contains c

/-- What has been read of an authority. -/
structure Authority where
  /-- Colons that may be followed by a port. -/
  colons : Nat := 0
  opened : Bool := false
  closed : Bool := false
  /-- A percent sign was read after any user and any bracketed address. -/
  escaped : Bool := false
deriving DecidableEq, Repr

/-- More colons than those of a bracketed address have no place. -/
def colonLimit : Nat := 8

def Authority.next (authority : Authority) (c : Char) : Except EndpointFault Authority :=
  if c = '%' then .ok { authority with escaped := true }
  else if ¬ isAuthorityChar c then .error .badCharacter
  else if c = ':' then
    if authority.colons < colonLimit then
      .ok { authority with colons := authority.colons + 1 }
    else .error .badAuthority
  else if c = '[' then
    if authority.escaped ∨ authority.opened then .error .badAuthority
    else .ok { authority with opened := true }
  else if c = ']' then
    if authority.opened ∧ ¬ authority.closed then
      .ok { authority with colons := 0, closed := true, escaped := false }
    else .error .badAuthority
  else if c = '@' then .ok { authority with colons := 0, escaped := false }
  else .ok authority

/-- Whether what was read is complete, given its last character. -/
def Authority.isComplete (authority : Authority) (last : Option Char) : Bool :=
  authority.opened == authority.closed && authority.colons ≤ 1 && last != some '@'
    && !authority.escaped

/-- The authority at the start of a text, and what follows it. -/
def splitAuthority (text : List Char) : Except EndpointFault (List Char × List Char) := do
  if text.isEmpty then throw .empty
  let chars := text.takeWhile (!endsAuthority ·)
  let authority ← chars.foldlM Authority.next {}
  if authority.isComplete chars.getLast? then return (chars, text.drop chars.length)
  else throw .badAuthority

/-! ## Path and query -/

def isPathChar (c : Char) : Bool := 0x21 ≤ c.toNat && !(['<', '>', '\x60'].contains c)

def isQueryChar (c : Char) : Bool := 0x21 ≤ c.toNat && !(['"', '<', '>'].contains c)

/-- Checks a path and a query; a fragment may hold anything. -/
def checkPath (text : List Char) : Except EndpointFault Unit :=
  let shown := text.takeWhile (· != '#')
  let path := shown.takeWhile (· != '?')
  if path.all isPathChar ∧ (shown.drop path.length).all isQueryChar then .ok ()
  else .error .badCharacter

/-! ## Addresses -/

/-- An authority that nothing may follow. -/
def checkAuthority (text : List Char) (fault : EndpointFault) : Except EndpointFault Unit := do
  let (_, rest) ← splitAuthority text
  if rest.isEmpty then return () else throw fault

def lengthLimit : Nat := 65534

def check (written : String) : Except EndpointFault Unit := do
  if lengthLimit < written.utf8ByteSize then throw .tooLong
  match written.toList with
  | [] => throw .empty
  | ['/'] | ['*'] => return ()
  | [c] => checkAuthority [c] .badCharacter
  | '/' :: rest => checkPath ('/' :: rest)
  | text =>
    match ← afterScheme text with
    | none => checkAuthority text .badFormat
    | some rest =>
      let (authority, rest) ← splitAuthority rest
      if authority.isEmpty then throw .badFormat
      checkPath rest

/-- What is wrong with a text as an address. -/
def fault? (written : String) : Option EndpointFault :=
  match check written with
  | .ok _ => none
  | .error fault => some fault

end Endpoint

end WorkHost
