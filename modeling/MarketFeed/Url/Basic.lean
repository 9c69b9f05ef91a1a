import MarketFeed.Url.Address
import MarketFeed.Url.Domain

/-!
Addresses of web servers: scheme, user, host, port, path, query and fragment, as they are read from a
text, and as they are written. The parts are kept in their encoded form, and a port that is the default
of the scheme is no part of the address.
-/

namespace MarketFeed.Url

/-- Why a text is no address. -/
inductive Fault where
  | noScheme
  | emptyHost
  | badPort
  | badAddress4
  | badAddress6
  | badDomain
  | badHostCharacter
deriving DecidableEq, Repr

def Fault.message : Fault → String
  | noScheme => "relative URL without a base"
  | emptyHost => "empty host"
  | badPort => "invalid port number"
  | badAddress4 => "invalid IPv4 address"
  | badAddress6 => "invalid IPv6 address"
  | badDomain => "invalid international domain name"
  | badHostCharacter => "invalid domain character"

inductive Host where
  | domain (name : List Char)
  | address4 (value : Nat)
  | address6 (groups : List Nat)
deriving DecidableEq, Repr

def Host.text : Host → List Char
  | .domain name => name
  | .address4 n => address4Text n
  | .address6 gs => '[' :: address6Text gs ++ [']']

inductive Scheme where
  | http
  | https
  | ws
  | wss
deriving DecidableEq, Repr

namespace Scheme

def name : Scheme → String
  | http => "http"
  | https => "https"
  | ws => "ws"
  | wss => "wss"

/-- The port of a scheme when none is given. -/
def defaultPort : Scheme → Nat
  | http | ws => 80
  | https | wss => 443

end Scheme

end Url

/-- The address of a web server. The path is never empty: it is the list of its segments, and the last
one is empty if the path ends with a slash. -/
structure Url where
  scheme : Url.Scheme
  user : List Char
  password : List Char
  host : Url.Host
  port : Option Nat
  path : List (List Char)
  query : Option (List Char)
  fragment : Option (List Char)
deriving DecidableEq, Repr

namespace Url

/-- The user information with its sign. -/
def userText (u : Url) : List Char :=
  if u.user = [] ∧ u.password = [] then []
  else u.user ++ (if u.password = [] then [] else ':' :: u.password) ++ ['@']

/-- The port with its colon. -/
def portText (u : Url) : List Char :=
  match u.port with
  | some p => ':' :: Nat.toDigits 10 p
  | none => []

/-- The path with its slashes. -/
def pathText (u : Url) : List Char := u.path.flatMap fun s => '/' :: s

/-- A part with its mark, if there is one. -/
def markedText (mark : Char) : Option (List Char) → List Char
  | some s => mark :: s
  | none => []

def text (u : Url) : List Char :=
  u.scheme.name.toList ++ ':' :: '/' :: '/' :: u.userText ++ u.host.text ++ u.portText
    ++ u.pathText ++ markedText '?' u.query ++ markedText '#' u.fragment

/-- An address with another scheme; the port goes if it is the default of that. -/
def withScheme (u : Url) (s : Scheme) : Url :=
  { u with scheme := s, port := if u.port = some s.defaultPort then none else u.port }

/-- The port that is used. -/
def effectivePort (u : Url) : Nat := u.port.getD u.scheme.defaultPort

/-- The segments of a path without the empty ones at its end. -/
def trimSegments (path : List (List Char)) : List (List Char) :=
  (path.reverse.dropWhile (· = [])).reverse

end Url

end MarketFeed
