import CCTVWebServer.Foundation.Markup
import CCTVWebServer.Foundation.StringLiteral
import CCTVWebServer.Text

/-!
# The table of users

The rows that `fetchUsers` writes into the page of the admin, and what a browser reads in
them: the markup of a row, and the calls behind its buttons. Strings of the page are in
UTF-16 units.
-/

namespace CCTVWebServer.AdminPage

open Foundation.Html Foundation.Script

/-- A string of the page. -/
abbrev JsString := List UInt16

/-- A literal of the page, in ASCII. -/
def js (s : String) : JsString := (str s).map UInt8.toUInt16

/-- A user of the answer to `/api/users`. -/
structure User where
  userId : JsString
  username : JsString
  role : JsString
  isApproved : Int
  isActive : Int

/-! ## fetchUsers -/

def statusText (user : User) : JsString :=
  if user.isActive = 0 then js "<span style=\"color:red;\">Banned</span>"
  else if user.isApproved = 0 then js "<span style=\"color:orange;\">Pending Approval</span>"
  else js "<span style=\"color:green;\">Approved</span>"

inductive Button where
  | approve
  | evict

/-- The conditions under which `actionsHTML` gets the button. -/
def Button.Shown : Button → User → Prop
  | .approve, user => user.isActive ≠ 0 ∧ user.isApproved = 0
  | .evict, user => user.isActive = 1 ∧ user.userId ≠ js "admin"

instance Button.Shown.decidable : ∀ button user, Decidable (Button.Shown button user)
  | .approve, user => inferInstanceAs (Decidable (user.isActive ≠ 0 ∧ user.isApproved = 0))
  | .evict, user => inferInstanceAs (Decidable (user.isActive = 1 ∧ user.userId ≠ js "admin"))

/-- The button up to the value of its `onclick`. -/
def Button.front : Button → JsString
  | .approve => js ("<button class=\"btn\" style=\"padding: 6px 12px; font-size:12px; " ++
      "margin-right:4px;\" onclick=\"")
  | .evict => js ("<button class=\"btn btn-danger\" style=\"padding: 6px 12px; " ++
      "font-size:12px;\" onclick=\"")

/-- The function that the button calls. -/
def Button.function : Button → JsString
  | .approve => js "approveUser"
  | .evict => js "evictUser"

def Button.back : Button → JsString
  | .approve => js "\">Approve</button>"
  | .evict => js "\">Evict</button>"

/-- The call that is written into the button. -/
def Button.handler (button : Button) (userId : JsString) : JsString :=
  button.function ++ js "('" ++ userId ++ js "')"

def Button.html (button : Button) (userId : JsString) : JsString :=
  button.front ++ button.handler userId ++ button.back

/-- What the button adds to `actionsHTML`. -/
def Button.part (button : Button) (user : User) : JsString :=
  if button.Shown user then button.html user.userId else []

def actionsHTML (user : User) : JsString :=
  Button.part .approve user ++ Button.part .evict user

/-- The end of a cell and the begin of the next. -/
def nextCell : JsString := js "</td>\n                    <td>"

/-- The row up to its buttons. -/
def cells (user : User) : JsString :=
  js "\n                    <td>" ++ user.userId ++ nextCell ++ user.username ++ nextCell ++
    user.role ++ nextCell ++ statusText user ++ nextCell

/-- What `tr.innerHTML` is set to. -/
def rowHTML (user : User) : JsString :=
  cells user ++ actionsHTML user ++ js "</td>\n                "

/-- The rows of the table, in their order. -/
def fetchUsers (users : List User) : List JsString := users.map rowHTML

/-! ## fetchRTSPConfigs -/

/-- A camera of the answer to `/api/rtsp`. -/
structure Camera where
  name : JsString
  url : JsString

/-- What the status line is set to, through `innerHTML` or `textContent`. -/
inductive StatusLine where
  | html (source : JsString)
  | text (content : JsString)

def statusHTML (latest : Camera) : JsString :=
  js "<strong>Name:</strong> " ++ latest.name
    ++ js "<br/><strong>URL (Decrypted):</strong> <code>" ++ latest.url ++ js "</code>"

def fetchRTSPConfigs (data : List Camera) : StatusLine :=
  match data.getLast? with
  | some latest => .html (statusHTML latest)
  | none => .text (js "No RTSP Stream Registered.")

/-! ## The browser -/

/-- Text is no markup. -/
def StatusLine.markup : StatusLine → JsString
  | html source => Foundation.Html.markup .data source
  | text _ => []

/-- The row up to the call of a button. -/
def upTo : Button → User → JsString
  | .approve, user => cells user ++ Button.front .approve
  | .evict, user => cells user ++ Button.part .approve user ++ Button.front .evict

/-- The argument when a script is the call of the function with one literal. -/
def callArgument (function script : JsString) : Option JsString :=
  let front := function ++ js "('"
  if front <+: script then
    (literal (script.drop front.length)).bind fun result =>
      if result.2 = js ")" then some result.1 else none
  else none

/-- The argument of the call behind a button, when the call is what the browser runs. -/
def argument (decode : JsString → JsString) (button : Button) (user : User) : Option JsString :=
  (attributeValue (upTo button user) ((rowHTML user).drop (upTo button user).length)).bind
    fun value => callArgument button.function (attributeText decode value)

end CCTVWebServer.AdminPage
