import TlsClient.Session.Basic

/-!
# Alerts of a session

A fatal alert closes the session, whichever side sends it.  A close notification is answered in kind
and ends the session in order; any other warning changes nothing.
-/

namespace TlsClient.Session

/-- Sends a warning. -/
def sendWarning (s : Session) (description : AlertDescription) : Session :=
  (s.note (.sendingWarning description)).send (.ofAlert ⟨.warning, description⟩)

/-- Sends a fatal alert and closes the session, unless it is closed already. -/
def abort (s : Session) (description : AlertDescription) : Session :=
  if s.status = .closed then s
  else
    let s := (s.note (.sendingFatal description)).send (.ofAlert ⟨.fatal, description⟩)
    { s with status := .closed }

/-- Takes in a close notification.  A handshake that it cuts short cannot be completed. -/
def receiveClose (s : Session) : Except TlsError Unit × Session :=
  let s := { s.note .closeReceived with closeReceived := true }
  let s := if s.status = .opened then s.send (.ofAlert ⟨.warning, .closeNotify⟩) else s
  (if s.traffic then .ok () else .error (.alertReceived .closeNotify), { s with status := .closed })

/-- Takes in an alert. -/
def receiveAlert (s : Session) (a : Alert) : Except TlsError Unit × Session :=
  if a.level ≠ .warning ∧ a.level ≠ .fatal then
    (.error (.alertReceived a.description), s.abort .illegalParameter)
  else if a.description = .closeNotify then s.receiveClose
  else if a.level = .warning then (.ok (), s.note (.warningReceived a))
  else
    (.error (.alertReceived a.description), { s.note (.fatalReceived a) with status := .closed })

/-- Takes in alerts one after another, up to a close notification. -/
def receiveAlerts (s : Session) : List Alert → Except TlsError Unit × Session
  | [] => (.ok (), s)
  | a :: rest =>
    match s.receiveAlert a with
    | (.ok (), s) => if s.closeReceived then (.ok (), s) else s.receiveAlerts rest
    | failed => failed

end TlsClient.Session
