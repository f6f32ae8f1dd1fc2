import YasinMcp.Errors
import YasinMcp.Foundation.JsonText
import YasinMcp.Foundation.Program

/-!
# Requesters

An adapter reaches its upstream through a function it is given: it hands over a
URL with headers and a timeout, and gets a decoded answer or an exception.  An
answer is any value, so reading a member of it can fail.
-/

namespace YasinMcp

open Foundation

structure UpstreamRequest where
  url : String
  headers : List (String × String)
  timeout : Int
deriving DecidableEq

abbrev UpstreamAnswer (_ : UpstreamRequest) := Except PyException Value

abbrev Fetch := Program UpstreamRequest UpstreamAnswer PyException

theorem timeout_pos {timeout : Int} (h : ¬ timeout ≤ 0) : 0 < timeout :=
  Int.not_le.mp h

def requester (request : UpstreamRequest) : Fetch Value :=
  .perform request fun response => .ofExcept response

def Foundation.Value.get (v : Value) (name : String) : Except PyException (Option Value) :=
  match v with
  | .dict entries => .ok (Dict.lookupIn (Key.str name) entries)
  | _ => .error (.other "AttributeError" true)

end YasinMcp
