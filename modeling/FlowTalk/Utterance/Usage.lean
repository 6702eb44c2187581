import FlowTalk.Text.Ranges

/-! What is said when an utterance cannot be understood. -/
namespace FlowTalk.Usage

def anything : Text :=
  ("I didn't understand that command. Try: \"Add a node called X\", \"Delete node 1\", " ++
    "\"Delete the end call node\", \"Connect node 1 to node 2\", " ++
    "\"Disconnect node 1 from node 2\", \"Update node 1 to say Y\", or \"Explain this flow\"").toList

def delete : Text :=
  ("Could not tell which node to delete. Format: \"Delete node 1\" or " ++
    "\"Delete the end call node\"").toList

def update : Text :=
  "Could not parse update command. Format: \"Update node 1 to say Welcome\"".toList

def connect : Text :=
  "Could not find the nodes to connect. Format: \"Connect node 1 to node 2\"".toList

def disconnect : Text :=
  "Could not find the nodes to disconnect. Format: \"Disconnect node 1 from node 2\"".toList

end FlowTalk.Usage
