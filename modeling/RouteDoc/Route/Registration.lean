/-
Registrations in the text of a router.

A registration is a call `group.VERB("pattern", receiver.handler)`, where the
group is one of the two the router is known to use. `CallSite` is such a call
with the blanks in it, `CallSite.text` writes it down and `siteAt` reads one
that a text starts with. `sites` reads a text from left to right: where a call
starts it is taken and the text goes on behind it, anywhere else one character
is passed. The route table is made of these calls in order.
-/
import RouteDoc.Route
import RouteDoc.Route.Canonical
import RouteDoc.Text.Blank
import RouteDoc.Text.Casing
import RouteDoc.Text.Search
import RouteDoc.Text.Word

namespace RouteDoc.Route

/-- The methods a router can register. -/
inductive Verb where
  | get
  | post
  | put
  | patch
  | delete
  deriving DecidableEq, Repr

def Verb.all : List Verb := [.get, .post, .put, .patch, .delete]

/-- The verb as it is written in a call. -/
def Verb.text : Verb → List Char
  | .get => ['G', 'E', 'T']
  | .post => ['P', 'O', 'S', 'T']
  | .put => ['P', 'U', 'T']
  | .patch => ['P', 'A', 'T', 'C', 'H']
  | .delete => ['D', 'E', 'L', 'E', 'T', 'E']

/-- The verb as the method of a route. -/
def Verb.method : Verb → String
  | .get => "get"
  | .post => "post"
  | .put => "put"
  | .patch => "patch"
  | .delete => "delete"

/-- The two groups of a router. -/
structure Groups where
  authorized : String
  anonymous : String
  deriving DecidableEq, Repr

def Groups.standard : Groups := ⟨"authorized", "api"⟩

/-- A registration as it stands in a text: the blanks before the pattern, before the receiver and
after the handler are kept. -/
structure CallSite where
  group : List Char
  verb : Verb
  blank1 : List Char
  pattern : List Char
  blank2 : List Char
  receiver : List Char
  handler : List Char
  blank3 : List Char
  deriving DecidableEq, Repr

/-- The call as text. -/
def CallSite.text (s : CallSite) : List Char :=
  s.group ++ '.' :: (s.verb.text ++ '(' :: (s.blank1 ++ '"' :: (s.pattern ++ '"' :: ',' ::
    (s.blank2 ++ s.receiver ++ '.' :: (s.handler ++ s.blank3 ++ [')'])))))

/-- What is left of a text behind `lead`, where it starts with it. -/
def after? (lead s : List Char) : Option (List Char) :=
  if Text.startsWith lead s then some (s.drop lead.length) else none

/-- The verb and opening parenthesis that a text starts with. -/
def verbAt (s : List Char) : Option (Verb × List Char) :=
  Verb.all.findSome? fun v => (after? (v.text ++ ['(']) s).map fun rest => (v, rest)

/-- The arguments of a call, up to its closing parenthesis. -/
def argumentsAt (group : List Char) (verb : Verb) (s : List Char) : Option CallSite := do
  let blank1 := s.takeWhile Text.isBlank
  let s ← after? ['"'] (s.dropWhile Text.isBlank)
  let pattern := s.takeWhile (· != '"')
  if pattern.isEmpty then none
  let s ← after? ['"', ','] (s.dropWhile (· != '"'))
  let blank2 := s.takeWhile Text.isBlank
  let s := s.dropWhile Text.isBlank
  let receiver := s.takeWhile Text.isAsciiWord
  if receiver.isEmpty then none
  let s ← after? ['.'] (s.dropWhile Text.isAsciiWord)
  let handler := s.takeWhile Text.isAsciiWord
  if handler.isEmpty then none
  let s := s.dropWhile Text.isAsciiWord
  let blank3 := s.takeWhile Text.isBlank
  let _ ← after? [')'] (s.dropWhile Text.isBlank)
  return ⟨group, verb, blank1, pattern, blank2, receiver, handler, blank3⟩

/-- The call on `group` that a text starts with. -/
def siteOf (group s : List Char) : Option CallSite := do
  let s ← after? (group ++ ['.']) s
  let (verb, s) ← verbAt s
  argumentsAt group verb s

/-- The call on one of the groups that a text starts with. -/
def siteAt (g : Groups) (s : List Char) : Option CallSite :=
  (siteOf g.anonymous.toList s).or (siteOf g.authorized.toList s)

/-- Whether a word starts or ends between two neighbours. -/
def wordEdge (before : Option Char) (c : Char) : Bool :=
  (match before with
    | some b => Text.isWord b
    | none => false) != Text.isWord c

/-- Looks on for calls behind `skip` more characters, where `before` stands in front. -/
def sitesFrom (g : Groups) (before : Option Char) : Nat → List Char → List CallSite
  | _, [] => []
  | skip + 1, c :: rest => sitesFrom g (some c) skip rest
  | 0, c :: rest =>
    match (if wordEdge before c then siteAt g (c :: rest) else none) with
    | some site => site :: sitesFrom g (some c) (site.text.length - 1) rest
    | none => sitesFrom g (some c) 0 rest

/-- The calls of a text, from left to right. -/
def sites (g : Groups) (source : List Char) : List CallSite := sitesFrom g none 0 source

/-- The route that a call registers. -/
def CallSite.route (g : Groups) (s : CallSite) : Route where
  path := String.ofList (canonical s.pattern)
  method := s.verb.method
  handler := String.ofList s.handler
  secured := s.group == g.authorized.toList

/-- The routes of a router text; the last registration of a handler counts. -/
def parseRoutes (g : Groups) (source : String) : RouteTable :=
  RouteTable.ofEntries ((sites g source.toList).map fun s => (String.ofList s.handler, s.route g))

end RouteDoc.Route
