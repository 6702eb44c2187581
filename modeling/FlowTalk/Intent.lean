import FlowTalk.Text.Ranges

namespace FlowTalk

/-- What a command is about. -/
inductive Intent where
  | add
  | delete
  | update
  | connect
  | disconnect
  | explain
  | unknown
  deriving DecidableEq

namespace Intent

def all : List Intent := [add, delete, update, connect, disconnect, explain, unknown]

/-- The name of an intent in a message. -/
def tag : Intent → Text
  | add => "add_node".toList
  | delete => "delete_node".toList
  | update => "update_node".toList
  | connect => "connect_nodes".toList
  | disconnect => "disconnect_nodes".toList
  | explain => "explain".toList
  | unknown => "unknown".toList

def ofTag? (t : Text) : Option Intent := all.find? fun i => i.tag == t

theorem ofTag?_tag (i : Intent) : ofTag? i.tag = some i := by cases i <;> decide

end Intent

end FlowTalk
