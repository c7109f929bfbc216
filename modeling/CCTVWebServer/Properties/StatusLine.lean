import CCTVWebServer.Properties.UsersTable

/-!
# The status line of the camera

The name and the url of the camera stand in the status line as they were saved. The line
keeps its markup exactly when neither of them has any.
-/

namespace CCTVWebServer.AdminPage

open Foundation.Html

variable {camera : Camera}

/-- The camera without its texts. -/
def Camera.blank (_ : Camera) : Camera := ⟨[], []⟩

theorem statusHTML_eq (camera : Camera) :
    statusHTML camera = js "<strong>Name:</strong> " ++ camera.name
      ++ lessThan :: js "br/><strong>URL (Decrypted):</strong> <code>" ++ camera.url
      ++ lessThan :: js "/code>" := by
  have hmiddle : js "<br/><strong>URL (Decrypted):</strong> <code>" =
      lessThan :: js "br/><strong>URL (Decrypted):</strong> <code>" := by decide
  have hback : js "</code>" = lessThan :: js "/code>" := by decide
  rw [statusHTML, hmiddle, hback]

theorem statusHTML_blank (camera : Camera) :
    statusHTML camera.blank = js "<strong>Name:</strong> "
      ++ lessThan :: js "br/><strong>URL (Decrypted):</strong> <code>"
      ++ lessThan :: js "/code>" := by
  rw [statusHTML_eq, Camera.blank, List.append_nil, List.append_nil]

/-- The template of the line has whole tags without values. -/
theorem whole_label : Whole (js "<strong>Name:</strong> ") := by decide

theorem whole_middle :
    Whole (lessThan :: js "br/><strong>URL (Decrypted):</strong> <code>") := by decide

theorem statusHTML_unaltered_iff (camera : Camera) :
    markup .data (statusHTML camera) = markup .data (statusHTML camera.blank) ↔
      PlainText camera.name ∧ PlainText camera.url := by
  constructor
  · intro h
    rw [statusHTML_eq camera, statusHTML_blank] at h
    have hback : Whole (lessThan :: js "/code>") := by decide
    exact plainText_of_markup_eq whole_label.mode_eq whole_middle.mode_eq (by decide +kernel)
      ((whole_label.append whole_middle).append hback).regular rfl (by decide) h
  · rintro ⟨hname, hurl⟩
    rw [statusHTML_eq camera, statusHTML_blank]
    simp only [List.append_assoc, List.cons_append]
    rw [whole_label.markup_append, whole_label.markup_append, hname.markup_append]
    have hmiddle := whole_middle.markup_append
    simp only [List.cons_append] at hmiddle
    rw [hmiddle, hmiddle, hurl.markup_append]

/-- For every answer to `/api/rtsp`, and so for every camera that an admin may have saved: the
status line has the markup of one without texts exactly when the name and the url of the last
camera are plain. -/
theorem fetchRTSPConfigs_unaltered_iff (data : List Camera) :
    (fetchRTSPConfigs data).markup = (fetchRTSPConfigs (data.map Camera.blank)).markup ↔
      ∀ latest, data.getLast? = some latest → PlainText latest.name ∧ PlainText latest.url := by
  unfold fetchRTSPConfigs
  rw [List.getLast?_map]
  cases data.getLast? with
  | none => simp
  | some latest =>
    have hiff := statusHTML_unaltered_iff latest
    simpa [StatusLine.markup] using hiff

end CCTVWebServer.AdminPage
