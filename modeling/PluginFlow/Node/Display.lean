import PluginFlow.Node.Turn

/-!
Nodes that show something to the user or send a message.
-/

namespace PluginFlow

def currentScreenKey : String := "_currentScreenId"

def Turn.duration (t : Turn) : DurationHint := .ofText (t.textParam "duration" "short")

namespace Handler

def showToast (t : Turn) : Script (Option String) := do
  let message ← .require (t.required "message")
  let _ ← .call (.toast (t.fill message.toText) t.duration)
  return t.node.next

def showDialog (t : Turn) : Script (Option String) := do
  let title := t.fill (t.textParam "title" "")
  let message ← .require (t.required "message")
  let _ ← .call (.dialog title (t.fill message.toText) t.duration)
  return t.node.next

def navigate (t : Turn) : Script (Option String) := do
  let screen := t.fill (← .require (t.required "screenId")).toText
  let _ ← .call (.navigate screen .empty)
  .set currentScreenKey (.text screen)
  return t.node.next

def showImage (t : Turn) : Script (Option String) := do
  let source ← .require (t.required "source")
  let screen := t.fill (t.textParam "screenId" "image_viewer")
  let _ ← .call (.navigate screen (KeyMap.empty.insert "source" (t.resolve source)))
  .set currentScreenKey (.text screen)
  return t.node.next

/-- There is no transport for messages, so a message is only told about. -/
def emitMessage (t : Turn) : Script (Option String) := do
  .say (t.log .debug "EmitMessage has no messaging transport, skipping" "message_type"
    (t.textParam "messageType" ""))
  return t.node.next

end Handler
end PluginFlow
