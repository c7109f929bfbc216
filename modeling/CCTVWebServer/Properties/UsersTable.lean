import CCTVWebServer.AdminPage
import CCTVWebServer.Specification.Rows

/-!
# The table of users as the admin sees it

What registrants write into their records stands in the rows of the table as it is. A row keeps
its markup and its calls exactly when the record has nothing that is markup or script.
-/

namespace CCTVWebServer.AdminPage

open Foundation.Html Foundation.Script

variable {decode : JsString → JsString} {user : User} {button : Button}

/-! ## Records -/

/-- The role has no bracket and no quote: the server writes it, and knows two of them. -/
def User.PlainRole (user : User) : Prop := lessThan ∉ user.role ∧ quotationMark ∉ user.role

/-- The role that is sent for a row of any reachable state is such. -/
theorem plainRole_of_reachable {w : World} {dbPath masterSecret : Bytes} {s : State}
    {row : UserRow} (hjson : w.json.Documented) (h : Reachable w dbPath masterSecret s)
    (hrow : row ∈ s.users.rows) (hrole : user.role = row.role.val.map UInt8.toUInt16) :
    user.PlainRole := by
  rw [User.PlainRole, hrole]
  rcases h.rolesStored hjson row hrow with hrow | hrow <;> rw [hrow] <;> decide

/-- The record without what its registrant chose. -/
def User.anonymous (user : User) : User :=
  { user with
    userId := if user.userId = js "admin" then js "admin" else []
    username := [] }

/-- The row has the markup of a row in which the registrant wrote nothing, and each of its
buttons calls its function with the id of the record. -/
structure Unaltered (decode : JsString → JsString) (user : User) : Prop where
  markup_eq : markup .data (rowHTML user) = markup .data (rowHTML user.anonymous)
  argument_eq : ∀ button : Button, button.Shown user →
    argument decode button user = some user.userId

/-- The texts of the record are plain, and behind a button the id has no quote, no escape
sequence, no end of a line and no reference to a character. -/
structure Inert (decode : JsString → JsString) (user : User) : Prop where
  userId : PlainText user.userId
  username : PlainText user.username
  handler : (∃ button : Button, button.Shown user) →
    quotationMark ∉ user.userId ∧ Verbatim user.userId ∧
      attributeText decode user.userId = user.userId

@[simp] theorem shown_anonymous : button.Shown user.anonymous ↔ button.Shown user := by
  cases button with
  | approve => exact Iff.rfl
  | evict =>
    have hnil : ([] : JsString) ≠ js "admin" := by decide
    by_cases hadmin : user.userId = js "admin" <;>
      simp [Button.Shown, User.anonymous, hadmin, hnil]

theorem anonymous_userId (user : User) :
    user.anonymous.userId = js "admin" ∨ user.anonymous.userId = [] := by
  by_cases hadmin : user.userId = js "admin" <;> simp [User.anonymous, hadmin]

theorem plainText_anonymous (user : User) : PlainText user.anonymous.userId := by
  apply plainText_of_not_mem
  rcases anonymous_userId user with h | h <;> rw [h] <;> decide

theorem quote_not_mem_anonymous (user : User) : quotationMark ∉ user.anonymous.userId := by
  rcases anonymous_userId user with h | h <;> rw [h] <;> decide

/-! ## The pieces of a row -/

theorem whole_nextCell : Whole nextCell := by decide

theorem nextCell_eq : nextCell = lessThan :: js "/td>\n                    <td>" := by decide

theorem whole_statusText (user : User) : Whole (statusText user) := by
  unfold statusText
  split_ifs <;> decide

theorem statusText_eq (user : User) :
    ∃ rest, statusText user = js "<span style=" ++ quotationMark :: 0x63 :: rest := by
  unfold statusText
  split_ifs
  · exact ⟨js "olor:red;\">Banned</span>", by decide⟩
  · exact ⟨js "olor:orange;\">Pending Approval</span>", by decide⟩
  · exact ⟨js "olor:green;\">Approved</span>", by decide⟩

theorem mode_front (button : Button) : mode .data button.front = .doubleQuoted := by
  cases button <;> decide +kernel

theorem quote_not_mem_handler {userId : JsString} (h : quotationMark ∉ userId) :
    quotationMark ∉ button.handler userId := by
  have hfunction : quotationMark ∉ button.function := by cases button <;> decide
  have hopen : quotationMark ∉ js "('" := by decide
  have hclose : quotationMark ∉ js "')" := by decide
  simp only [Button.handler, List.mem_append, not_or]
  exact ⟨⟨⟨hfunction, hopen⟩, h⟩, hclose⟩

/-- An id without a quote stays in the value of its attribute. -/
theorem read_html {userId : JsString} (h : quotationMark ∉ userId) :
    markup .data (button.html userId) =
        markup .data button.front ++ markup .doubleQuoted button.back ∧
      mode .data (button.html userId) = mode .doubleQuoted button.back := by
  have hquote : quotationMark ∉ button.handler userId := quote_not_mem_handler h
  obtain ⟨hmarkup, hmode⟩ := doubleQuoted_of_not_mem hquote
  constructor
  · rw [Button.html, markup_append, markup_append, mode_append, mode_front, hmarkup, hmode,
      List.append_nil]
  · rw [Button.html, mode_append, mode_append, mode_front, hmode]

theorem whole_html {userId : JsString} (h : quotationMark ∉ userId) :
    Whole (button.html userId) where
  mode_eq := by
    rw [(read_html h).2]
    cases button <;> decide
  regular := by
    rw [(read_html h).1]
    cases button <;> decide +kernel

theorem whole_part (h : button.Shown user → quotationMark ∉ user.userId) :
    Whole (button.part user) := by
  by_cases hshown : button.Shown user
  · rw [Button.part, if_pos hshown]
    exact whole_html (h hshown)
  · rw [Button.part, if_neg hshown]
    decide

theorem markup_part (h : button.Shown user → quotationMark ∉ user.userId) :
    markup .data (button.part user) = markup .data (button.part user.anonymous) := by
  by_cases hshown : button.Shown user
  · rw [Button.part, Button.part, if_pos hshown, if_pos (shown_anonymous.mpr hshown),
      (read_html (h hshown)).1, (read_html (quote_not_mem_anonymous user)).1]
  · rw [Button.part, Button.part, if_neg hshown, if_neg (shown_anonymous.not.mpr hshown)]

/-- The id has no quote where a button is shown. -/
def User.Unquoted (user : User) : Prop :=
  ∀ button : Button, button.Shown user → quotationMark ∉ user.userId

theorem unquoted_anonymous (user : User) : user.anonymous.Unquoted :=
  fun _ _ => quote_not_mem_anonymous user

theorem whole_actionsHTML (h : user.Unquoted) : Whole (actionsHTML user) :=
  (whole_part (h .approve)).append (whole_part (h .evict))

theorem markup_actionsHTML (h : user.Unquoted) :
    markup .data (actionsHTML user) = markup .data (actionsHTML user.anonymous) := by
  have hfirst := (whole_part (unquoted_anonymous user .approve)).markup_append
  rw [actionsHTML, (whole_part (h .approve)).markup_append, markup_part (h .approve),
    markup_part (h .evict), actionsHTML, hfirst]

/-! ## The row behind the name -/

/-- The cells of the role and of the status. -/
def roleCells (user : User) : JsString :=
  nextCell ++ user.role ++ nextCell ++ statusText user ++ nextCell

def rowTail (user : User) : JsString :=
  roleCells user ++ actionsHTML user ++ js "</td>\n                "

def firstCell : JsString := js "\n                    <td>"

theorem rowHTML_eq (user : User) :
    rowHTML user = firstCell ++ user.userId ++ nextCell ++ user.username ++ rowTail user := by
  simp only [rowHTML, cells, firstCell, rowTail, roleCells, List.append_assoc]

theorem roleCells_eq_cons (user : User) : ∃ rest, roleCells user = lessThan :: rest := by
  rw [roleCells, nextCell_eq]
  exact ⟨_, rfl⟩

theorem rowTail_eq_cons (user : User) : ∃ rest, rowTail user = lessThan :: rest := by
  obtain ⟨rest, hrest⟩ := roleCells_eq_cons user
  rw [rowTail, hrest]
  exact ⟨_, rfl⟩

theorem whole_roleCells (hrole : user.PlainRole) : Whole (roleCells user) :=
  (((whole_nextCell.append (whole_of_not_mem hrole.1)).append whole_nextCell).append
    (whole_statusText user)).append whole_nextCell

theorem whole_rowTail (hrole : user.PlainRole) (h : user.Unquoted) : Whole (rowTail user) :=
  ((whole_roleCells hrole).append (whole_actionsHTML h)).append (by decide)

theorem markup_rowTail (hrole : user.PlainRole) (h : user.Unquoted) :
    markup .data (rowTail user) = markup .data (rowTail user.anonymous) := by
  have hcells := whole_roleCells hrole
  have hactions := whole_actionsHTML (unquoted_anonymous user)
  have hsame : roleCells user.anonymous = roleCells user := rfl
  rw [rowTail, (hcells.append (whole_actionsHTML h)).markup_append, hcells.markup_append,
    markup_actionsHTML h, rowTail, hsame, (hcells.append hactions).markup_append,
    hcells.markup_append]

/-- The first quote behind the name opens the value of a `style`, it closes none. -/
theorem not_regular_rowTail (hrole : user.PlainRole) :
    ¬ Regular .doubleQuoted (markup .doubleQuoted (rowTail user)) := by
  obtain ⟨rest, hstatus⟩ := statusText_eq user
  have hnext : quotationMark ∉ nextCell := by decide
  have hspan : quotationMark ∉ js "<span style=" := by decide
  have hfront : quotationMark ∉ nextCell ++ user.role ++ nextCell ++ js "<span style=" := by
    simp only [List.mem_append, not_or]
    exact ⟨⟨⟨hnext, hrole.2⟩, hnext⟩, hspan⟩
  have htail : rowTail user = (nextCell ++ user.role ++ nextCell ++ js "<span style=") ++
      quotationMark :: 0x63 ::
        (rest ++ nextCell ++ actionsHTML user ++ js "</td>\n                ") := by
    simp only [rowTail, roleCells, hstatus, List.append_assoc, List.cons_append]
  rw [htail]
  exact not_regular_doubleQuoted hfront (by decide)

/-! ## The markup of a row -/

theorem whole_firstCell : Whole firstCell := by decide

/-- Plain texts leave the markup as it is. -/
theorem markup_rowHTML (hid : PlainText user.userId) (hname : PlainText user.username) :
    markup .data (rowHTML user) = markup .data (firstCell ++ nextCell ++ rowTail user) := by
  obtain ⟨rest, htail⟩ := rowTail_eq_cons user
  have hmiddle : markup .data (nextCell ++ (user.username ++ rowTail user)) =
      markup .data (nextCell ++ rowTail user) := by
    rw [whole_nextCell.markup_append, htail, hname.markup_append, whole_nextCell.markup_append]
  have hfirst : markup .data (user.userId ++ (nextCell ++ (user.username ++ rowTail user))) =
      markup .data (nextCell ++ (user.username ++ rowTail user)) := by
    rw [nextCell_eq, List.cons_append, hid.markup_append]
  rw [rowHTML_eq, List.append_assoc, List.append_assoc, List.append_assoc,
    whole_firstCell.markup_append, hfirst, hmiddle, List.append_assoc,
    whole_firstCell.markup_append]

theorem markup_rowHTML_anonymous (user : User) :
    markup .data (rowHTML user.anonymous) =
      markup .data (firstCell ++ nextCell ++ rowTail user.anonymous) :=
  markup_rowHTML (plainText_anonymous user) trivial

/-- The texts of a record are plain when they leave the markup as it is. -/
theorem plainText_of_rowHTML (hrole : user.PlainRole) (hquote : user.Unquoted)
    (h : markup .data (rowHTML user) = markup .data (rowHTML user.anonymous)) :
    PlainText user.userId ∧ PlainText user.username := by
  obtain ⟨back, hback⟩ := rowTail_eq_cons user
  obtain ⟨back', hback'⟩ := rowTail_eq_cons user.anonymous
  have hwhole : Whole (rowTail user.anonymous) := whole_rowTail hrole (unquoted_anonymous user)
  have hregular := ((whole_firstCell.append whole_nextCell).append hwhole).regular
  have hsame := markup_rowTail hrole hquote
  have hend := not_regular_rowTail hrole
  rw [markup_rowHTML_anonymous, rowHTML_eq] at h
  rw [hback, hback'] at h hsame
  rw [hback'] at hregular
  rw [hback] at hend
  have hquote : quotationMark ∉ markup .data (firstCell ++ nextCell) := by decide
  rw [nextCell_eq] at h hregular hquote
  exact plainText_of_markup_eq whole_firstCell.mode_eq (by decide) hquote hregular hsame hend h

/-! ## The calls of a row -/

theorem mode_cells (hid : PlainText user.userId) (hname : PlainText user.username)
    (hrole : user.PlainRole) : mode .data (cells user) = .data := by
  obtain ⟨rest, hrest⟩ := roleCells_eq_cons user
  have hcells : cells user =
      firstCell ++ (user.userId ++ (nextCell ++ (user.username ++ roleCells user))) := by
    simp only [cells, firstCell, roleCells, List.append_assoc]
  have hmiddle : mode .data (nextCell ++ (user.username ++ roleCells user)) = .data := by
    rw [mode_append, whole_nextCell.mode_eq, hrest, hname.mode_append, ← hrest,
      (whole_roleCells hrole).mode_eq]
  rw [nextCell_eq, List.cons_append] at hcells hmiddle
  rw [hcells, mode_append, whole_firstCell.mode_eq, hid.mode_append, hmiddle]

theorem mode_upTo (hid : PlainText user.userId) (hname : PlainText user.username)
    (hrole : user.PlainRole) (hquote : user.Unquoted) :
    mode .data (upTo button user) = .doubleQuoted := by
  have hcells := mode_cells hid hname hrole
  cases button with
  | approve => rw [upTo, mode_append, hcells, mode_front]
  | evict =>
    rw [upTo, mode_append, mode_append, hcells, (whole_part (hquote .approve)).mode_eq, mode_front]

/-- The call stands in the row where the value of the `onclick` begins. -/
theorem rowHTML_eq_upTo (hshown : button.Shown user) :
    ∃ rest, rowHTML user =
      upTo button user ++ (button.handler user.userId ++ quotationMark :: rest) := by
  have hback : ∃ rest, button.back = quotationMark :: rest := by
    cases button with
    | approve => exact ⟨js ">Approve</button>", by decide⟩
    | evict => exact ⟨js ">Evict</button>", by decide⟩
  obtain ⟨back, hback⟩ := hback
  have hpart : button.part user =
      button.front ++ (button.handler user.userId ++ quotationMark :: back) := by
    rw [Button.part, if_pos hshown, Button.html, hback, List.append_assoc]
  cases button with
  | approve =>
    refine ⟨back ++ Button.part .evict user ++ js "</td>\n                ", ?_⟩
    rw [rowHTML, actionsHTML, hpart, upTo]
    simp only [List.append_assoc, List.cons_append]
  | evict =>
    refine ⟨back ++ js "</td>\n                ", ?_⟩
    rw [rowHTML, actionsHTML, hpart, upTo]
    simp only [List.append_assoc, List.cons_append]

/-- In the handler of a button only the id can be a reference. -/
theorem attributeText_handler (hdecode : CharacterReferences decode) (text : JsString) :
    attributeText decode (button.function ++ js "('" ++ text) =
      button.function ++ js "('" ++ attributeText decode text := by
  have hopen : js "('" = js "(" ++ [apostrophe] := by decide
  have hcr : 0x0D ∉ button.function ++ js "(" := by cases button <;> decide
  have hnull : 0 ∉ button.function ++ js "(" := by cases button <;> decide
  have hampersand : 0x26 ∉ button.function ++ js "(" := by cases button <;> decide
  have hfront := hdecode.attributeText_of_not_mem hcr hnull hampersand
  rw [hopen, ← List.append_assoc, List.append_assoc _ [apostrophe], List.singleton_append,
    hdecode.attributeText_append, hfront, List.append_assoc _ [apostrophe],
    List.singleton_append]

theorem callArgument_handler (function text : JsString) :
    callArgument function (function ++ js "('" ++ text) =
      (literal text).bind fun result => if result.2 = js ")" then some result.1 else none := by
  rw [callArgument, if_pos (List.prefix_append _ _), List.drop_left]

/-- The argument of a call, from the value behind its opening quote. -/
theorem argument_eq (hdecode : CharacterReferences decode) (hshown : button.Shown user) :
    ∃ rest, argument decode button user =
      if mode .data (upTo button user) = .doubleQuoted then
        (literal (attributeText decode
          (untilQuote (user.userId ++ (js "')" ++ quotationMark :: rest))))).bind
          fun result => if result.2 = js ")" then some result.1 else none
      else none := by
  obtain ⟨rest, hrow⟩ := rowHTML_eq_upTo hshown
  refine ⟨rest, ?_⟩
  have hfront : quotationMark ∉ button.function ++ js "('" := by cases button <;> decide
  rw [argument, hrow, List.drop_left, attributeValue]
  split_ifs
  · rw [Option.bind_some, Button.handler, List.append_assoc, List.append_assoc,
      untilQuote_append hfront, attributeText_handler hdecode, callArgument_handler]
  · rfl

/-- The value behind the opening quote when the id does not end it. -/
theorem attributeText_untilQuote (hdecode : CharacterReferences decode) {userId : JsString}
    (h : quotationMark ∉ userId) (rest : JsString) :
    attributeText decode (untilQuote (userId ++ (js "')" ++ quotationMark :: rest))) =
      attributeText decode userId ++ apostrophe :: js ")" := by
  have hclose : js "')" = apostrophe :: js ")" := by decide
  have hend : attributeText decode (js ")") = js ")" :=
    hdecode.attributeText_of_not_mem (by decide) (by decide) (by decide)
  rw [untilQuote_append h, untilQuote_append (by decide), untilQuote_cons, List.append_nil,
    hclose, hdecode.attributeText_append, hend]

/-- The call has the id as its argument only when nothing in the id is read as something
else: neither a literal nor the value of an attribute is shorter than what it stands for. -/
theorem of_argument_eq (hdecode : CharacterReferences decode) (hshown : button.Shown user)
    (h : argument decode button user = some user.userId) :
    quotationMark ∉ user.userId ∧ Verbatim user.userId ∧
      attributeText decode user.userId = user.userId := by
  obtain ⟨rest, hargument⟩ := argument_eq hdecode hshown
  rw [hargument] at h
  split_ifs at h
  obtain ⟨result, hliteral, hresult⟩ := Option.bind_eq_some_iff.mp h
  split_ifs at hresult with hclosed
  obtain ⟨hle, hverbatim⟩ := literal_length hliteral
  rw [hclosed, Option.some.inj hresult] at hle hverbatim
  have hquote : quotationMark ∉ user.userId := fun hmem => by
    have hshort := length_untilQuote_lt hmem (js "')" ++ quotationMark :: rest)
    have hvalue := hdecode.length_attributeText
      (untilQuote (user.userId ++ (js "')" ++ quotationMark :: rest)))
    omega
  have hvalue := hdecode.length_attributeText user.userId
  rw [attributeText_untilQuote hdecode hquote] at hle hverbatim
  simp only [List.length_append, List.length_cons] at hle hverbatim
  obtain ⟨htext, hid⟩ := hverbatim (by omega)
  exact ⟨hquote, hid, List.append_cancel_right htext⟩

theorem argument_of_inert (hdecode : CharacterReferences decode) (hrole : user.PlainRole)
    (h : Inert decode user) (hshown : button.Shown user) :
    argument decode button user = some user.userId := by
  have hhandler (button : Button) (hshown : button.Shown user) := h.handler ⟨button, hshown⟩
  have hmode : mode .data (upTo button user) = .doubleQuoted :=
    mode_upTo h.userId h.username hrole fun button hshown => (hhandler button hshown).1
  obtain ⟨hquote, hverbatim, htext⟩ := hhandler button hshown
  obtain ⟨rest, hargument⟩ := argument_eq hdecode hshown
  rw [hargument, if_pos hmode, attributeText_untilQuote hdecode hquote, htext,
    literal_verbatim hverbatim, Option.bind_some, if_pos rfl]

/-! ## The table -/

/-- A row is what it should be exactly when its record is inert. -/
theorem unaltered_iff (hdecode : CharacterReferences decode) (hrole : user.PlainRole) :
    Unaltered decode user ↔ Inert decode user := by
  constructor
  · intro h
    have hquote : user.Unquoted := fun button hshown =>
      (of_argument_eq hdecode hshown (h.argument_eq button hshown)).1
    obtain ⟨hid, hname⟩ := plainText_of_rowHTML hrole hquote h.markup_eq
    exact ⟨hid, hname, fun ⟨button, hshown⟩ =>
      of_argument_eq hdecode hshown (h.argument_eq button hshown)⟩
  · intro h
    have hquote : user.Unquoted := fun button hshown => (h.handler ⟨button, hshown⟩).1
    have hcells := whole_firstCell.append whole_nextCell
    refine ⟨?_, fun button hshown => argument_of_inert hdecode hrole h hshown⟩
    rw [markup_rowHTML h.userId h.username, markup_rowHTML_anonymous, hcells.markup_append,
      hcells.markup_append, markup_rowTail hrole hquote]

/-- Two records that differ only in what their registrants chose have rows of the same markup,
as long as both are inert. -/
theorem markup_eq_of_inert {user' : User} (hdecode : CharacterReferences decode)
    (hrole : user.PlainRole) (h : Inert decode user) (h' : Inert decode user')
    (hsame : user'.role = user.role ∧ user'.isApproved = user.isApproved ∧
      user'.isActive = user.isActive)
    (hadmin : user'.userId = js "admin" ↔ user.userId = js "admin") :
    markup .data (rowHTML user) = markup .data (rowHTML user') := by
  have hrole' : user'.PlainRole := by rwa [User.PlainRole, hsame.1]
  have hanonymous : user'.anonymous = user.anonymous := by
    simp only [User.anonymous, hsame, hadmin]
  rw [((unaltered_iff hdecode hrole).mpr h).markup_eq,
    ((unaltered_iff hdecode hrole').mpr h').markup_eq, hanonymous]

/-- For every list of users: the rows have the markup of rows in which the registrants wrote
nothing, and each button calls its function with the id of its user, exactly when all the
records are inert. -/
theorem fetchUsers_unaltered_iff (hdecode : CharacterReferences decode) (users : List User)
    (hrole : ∀ user ∈ users, user.PlainRole) :
    ((fetchUsers users).map (markup .data) =
        (fetchUsers (users.map User.anonymous)).map (markup .data) ∧
      ∀ user ∈ users, ∀ button : Button, button.Shown user →
        argument decode button user = some user.userId) ↔
      ∀ user ∈ users, Inert decode user := by
  simp only [fetchUsers, List.map_map, List.map_inj_left]
  constructor
  · rintro ⟨hmarkup, hargument⟩ user huser
    exact (unaltered_iff hdecode (hrole user huser)).mp ⟨hmarkup user huser, hargument user huser⟩
  · intro h
    have hall (user : User) (huser : user ∈ users) :=
      (unaltered_iff hdecode (hrole user huser)).mpr (h user huser)
    exact ⟨fun user huser => (hall user huser).markup_eq,
      fun user huser => (hall user huser).argument_eq⟩

/-- Where there is no reference, nothing is replaced. -/
theorem characterReferences_id : CharacterReferences id := ⟨fun _ => rfl, fun _ _ => rfl, by simp⟩

/-- A user who waits for approval, with an ordinary name. -/
def bob : User := ⟨js "bob", js "Bob", js "user", 0, 1⟩

theorem inert_bob : Inert id bob where
  userId := plainText_of_not_mem (by decide)
  username := plainText_of_not_mem (by decide)
  handler _ := ⟨by decide, by decide, by decide⟩

theorem fetchUsers_unaltered_iff_bob :
    (fetchUsers [bob]).map (markup .data) = (fetchUsers [bob.anonymous]).map (markup .data) ∧
      ∀ user ∈ [bob], ∀ button : Button, button.Shown user →
        argument id button user = some user.userId := by
  have hrole : ∀ user ∈ [bob], user.PlainRole :=
    List.forall_mem_singleton.mpr ⟨by decide, by decide⟩
  exact (fetchUsers_unaltered_iff characterReferences_id [bob] hrole).mpr
    (List.forall_mem_singleton.mpr inert_bob)

/-- A registrant whose name has a tag gets it into the page of the admin, and one whose id has
an apostrophe ends the literal. -/
theorem registrant_alters_row :
    markup .data (rowHTML { bob with username := js "<b>x" }) ≠ markup .data (rowHTML bob) ∧
      argument id .approve { bob with userId := js "x'y" } ≠ some (js "x'y") := by
  refine ⟨by decide +kernel, fun h => ?_⟩
  have hshown : Button.Shown .approve { bob with userId := js "x'y" } := by decide
  have hverbatim := (of_argument_eq characterReferences_id hshown h).2.1
  exact (hverbatim apostrophe (by decide)).1 rfl

end CCTVWebServer.AdminPage
