import ProtocolGateway.Text.Blank

/-!
# Methods

The method of a request is any token. Routes are registered for nine of them, the verbs.
-/

namespace ProtocolGateway

/-- Whether a character may stand in a token: letters, digits and some punctuation. -/
def isTokenChar (c : Char) : Bool := c.isAlphanum || "!#$%&'*+-.^_\x60|~".toList.contains c

/-- Whether a text is a token, as methods and the names of headers are. -/
def isToken (text : List Char) : Bool := !text.isEmpty && text.all isTokenChar

/-- A method that routes can be registered for. -/
inductive Verb where
  | get
  | head
  | delete
  | options
  | patch
  | post
  | put
  | trace
  | connect
deriving DecidableEq, Repr

namespace Verb

/-- All verbs, in the order in which tables are compared. -/
def all : List Verb := [.get, .head, .delete, .options, .patch, .post, .put, .trace, .connect]

/-- The method of a verb. -/
def name : Verb → String
  | .get => "GET"
  | .head => "HEAD"
  | .delete => "DELETE"
  | .options => "OPTIONS"
  | .patch => "PATCH"
  | .post => "POST"
  | .put => "PUT"
  | .trace => "TRACE"
  | .connect => "CONNECT"

/-- The verb of a method. -/
def ofMethod? (method : String) : Option Verb := all.find? (·.name = method)

theorem mem_all (v : Verb) : v ∈ all := by cases v <;> decide

theorem ofMethod?_name (v : Verb) : ofMethod? v.name = some v := by cases v <;> decide

end Verb

end ProtocolGateway
