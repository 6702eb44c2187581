import FlowTalk.Listing.Basic

/-! The prompt for the hosted model. -/
namespace FlowTalk.Prompt

/-- What the model is asked to do. -/
def instructions : Text :=
  ("You are an AI assistant that helps users manage a flow diagram.\n" ++
    "Convert the user's natural language command into a structured JSON command.\n" ++
    "\n" ++
    "Available commands:\n" ++
    "1. add_node - Add a new node with a label\n" ++
    "2. delete_node - Delete a node by its number or label\n" ++
    "3. update_node - Update a node's label\n" ++
    "4. connect_nodes - Connect two nodes together\n" ++
    "5. disconnect_nodes - Disconnect two nodes\n" ++
    "6. explain - Explain what the flow does\n" ++
    "7. unknown - If the command is unclear").toList

/-- The form of an answer, up to the number of the next node. -/
def formatStart : Text :=
  ("Return ONLY a valid JSON object in this exact format (no markdown, no code blocks, " ++
    "just the JSON):\n" ++
    "\x7b\n" ++
    "  \"type\": \"add_node\" | \"delete_node\" | \"update_node\" | \"connect_nodes\" | " ++
    "\"disconnect_nodes\" | \"explain\" | \"unknown\",\n" ++
    "  \"nodeId\": \"string (required for delete_node, update_node - use exact node ID " ++
    "from list above)\",\n" ++
    "  \"nodeLabel\": \"string (required for add_node, update_node)\",\n" ++
    "  \"sourceNodeId\": \"string (required for connect_nodes, disconnect_nodes - use " ++
    "exact node ID from list above)\",\n" ++
    "  \"targetNodeId\": \"string (required for connect_nodes, disconnect_nodes - use " ++
    "exact node ID from list above)\",\n" ++
    "  \"message\": \"string (required for explain, optional for unknown)\"\n" ++
    "\x7d\n" ++
    "\n" ++
    "Rules:\n" ++
    "- For node numbers: Node 1 = first node (index 0), Node 2 = second node (index 1), " ++
    "etc.\n" ++
    "- Return the EXACT node ID from the nodes list above, not a descriptive phrase.\n" ++
    "- For add_node: ALWAYS provide a nodeLabel. If the user gives no label, use \"Node ").toList

/-- The form of an answer, after the number of the next node. -/
def formatEnd : Text :=
  ("\". Never ask the user for a label.\n" ++
    "- Match node labels intelligently: \"end call node\" matches a node labeled \"End " ++
    "Call\".\n" ++
    "- If a node is not found, return type \"unknown\" with a message listing available " ++
    "nodes.\n" ++
    "\n" ++
    "Examples:\n" ++
    "- \"Add a node called Hello\" -> " ++
    "\x7b\"type\":\"add_node\",\"nodeLabel\":\"Hello\"\x7d\n" ++
    "- \"Delete node 2\" -> " ++
    "\x7b\"type\":\"delete_node\",\"nodeId\":\"<exact-node-id>\"\x7d\n" ++
    "- \"Connect node 1 to node 3\" -> " ++
    "\x7b\"type\":\"connect_nodes\",\"sourceNodeId\":\"<id-1>\",\"targetNodeId\":\"<id-3>" ++
    "\"\x7d\n" ++
    "- \"Update node 1 to say Welcome\" -> " ++
    "\x7b\"type\":\"update_node\",\"nodeId\":\"<id-1>\",\"nodeLabel\":\"Welcome\"\x7d\n" ++
    "- \"What does this flow do?\" -> " ++
    "\x7b\"type\":\"explain\",\"message\":\"<description>\"\x7d\n" ++
    "\n" ++
    "IMPORTANT: Return ONLY the JSON object, nothing else.").toList

/-- The nodes as the model sees them: numbered from one, with ids and labels. -/
def nodeLines (nodes : Listing) : List Text :=
  nodes.mapIdx fun i node =>
    "  ".toList ++ Text.ofNat (i + 1) ++ ". Node ID: ".toList ++ node.id ++ ", Label: \"".toList ++
      node.label ++ "\"".toList

def context (nodes : Listing) : Text :=
  if nodes.isEmpty then "The flow is currently empty (no nodes exist yet).".toList
  else "Current nodes in the flow:\n".toList ++ Text.joinWith "\n".toList (nodeLines nodes)

/-- The whole prompt for an utterance about some nodes. -/
def render (utterance : Text) (nodes : Listing) : Text :=
  Text.joinWith "\n\n".toList
    [instructions, context nodes, "User command: \"".toList ++ utterance ++ "\"".toList,
      formatStart ++ Text.ofNat (nodes.length + 1) ++ formatEnd]

end FlowTalk.Prompt
