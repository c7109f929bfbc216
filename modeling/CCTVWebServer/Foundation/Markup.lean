import Mathlib.Tactic

/-!
# Markup

How a browser tells the markup of a document from its text: the tokenizer of HTML, one
UTF-16 unit after the other. `markup` keeps what is markup: the brackets, the names of tags and
attributes and the quotes around values. Text, values and what a comment says are left out.

A tag does not change how the text behind it is read. In a browser the few tags of raw
text, such as `<script>`, do; up to the first of them both readings are the same.

## Main definitions

* `step`, `mode`, `markup` — the tokenizer.
* `PlainText` — a text that holds no markup wherever it stands between two tags.
* `Regular` — markup of tags all of whose values are in double quotes.
-/

namespace Foundation.Html

/-! ## Characters -/

abbrev quotationMark : UInt16 := 0x22
abbrev apostrophe : UInt16 := 0x27
abbrev exclamationMark : UInt16 := 0x21
abbrev hyphen : UInt16 := 0x2D
abbrev slash : UInt16 := 0x2F
abbrev lessThan : UInt16 := 0x3C
abbrev equals : UInt16 := 0x3D
abbrev greaterThan : UInt16 := 0x3E
abbrev questionMark : UInt16 := 0x3F

def isSpace (c : UInt16) : Bool := c = 0x09 || c = 0x0A || c = 0x0C || c = 0x0D || c = 0x20

def isLetter (c : UInt16) : Bool := (0x41 ≤ c && c ≤ 0x5A) || (0x61 ≤ c && c ≤ 0x7A)

/-! ## The tokenizer -/

inductive Mode where
  | data
  | tagOpen
  | endTagOpen
  | tagName
  | beforeAttributeName
  | attributeName
  | afterAttributeName
  | beforeAttributeValue
  | doubleQuoted
  | singleQuoted
  | unquoted
  | afterAttributeValue
  | selfClosing
  | declaration
  | declarationDash
  | bogusComment
  | commentStart
  | commentStartDash
  | comment
  | commentEndDash
  | commentEnd
  | commentEndBang
  deriving DecidableEq, Repr

/-- Behind a name in a tag, or behind a value. -/
def inTag (c : UInt16) (space other : Mode) : Mode :=
  if isSpace c then space
  else if c = slash then .selfClosing
  else if c = greaterThan then .data
  else other

/-- A comment that ends with the next bracket. -/
def inBogusComment (c : UInt16) : List UInt16 × Mode :=
  if c = greaterThan then ([c], .data) else ([], .bogusComment)

/-- One unit: the markup that is certain with it, and the mode behind it. The bracket that may
open a tag shows with the unit that decides about it, and every comment shows as `<!`. -/
def step : Mode → UInt16 → List UInt16 × Mode
  | .data, c => ([], if c = lessThan then .tagOpen else .data)
  | .tagOpen, c =>
    if c = exclamationMark then ([lessThan, exclamationMark], .declaration)
    else if c = slash then ([], .endTagOpen)
    else if isLetter c then ([lessThan, c], .tagName)
    else if c = questionMark then ([lessThan, exclamationMark], .bogusComment)
    else ([], if c = lessThan then .tagOpen else .data)
  | .endTagOpen, c =>
    if isLetter c then ([lessThan, slash, c], .tagName)
    else if c = greaterThan then ([], .data)
    else ([lessThan, exclamationMark], .bogusComment)
  | .tagName, c => ([c], inTag c .beforeAttributeName .tagName)
  | .beforeAttributeName, c => ([c], inTag c .beforeAttributeName .attributeName)
  | .attributeName, c =>
    ([c], if c = equals then .beforeAttributeValue
      else inTag c .afterAttributeName .attributeName)
  | .afterAttributeName, c =>
    ([c], if c = equals then .beforeAttributeValue
      else inTag c .afterAttributeName .attributeName)
  | .beforeAttributeValue, c =>
    if isSpace c then ([c], .beforeAttributeValue)
    else if c = quotationMark then ([c], .doubleQuoted)
    else if c = apostrophe then ([c], .singleQuoted)
    else if c = greaterThan then ([c], .data)
    else ([], .unquoted)
  | .doubleQuoted, c =>
    if c = quotationMark then ([c], .afterAttributeValue) else ([], .doubleQuoted)
  | .singleQuoted, c =>
    if c = apostrophe then ([c], .afterAttributeValue) else ([], .singleQuoted)
  | .unquoted, c =>
    if isSpace c then ([c], .beforeAttributeName)
    else if c = greaterThan then ([c], .data)
    else ([], .unquoted)
  | .afterAttributeValue, c => ([c], inTag c .beforeAttributeName .attributeName)
  | .selfClosing, c => ([c], inTag c .beforeAttributeName .attributeName)
  | .declaration, c => if c = hyphen then ([], .declarationDash) else inBogusComment c
  | .declarationDash, c => if c = hyphen then ([], .commentStart) else inBogusComment c
  | .bogusComment, c => inBogusComment c
  | .commentStart, c =>
    if c = hyphen then ([], .commentStartDash)
    else if c = greaterThan then ([c], .data)
    else ([], .comment)
  | .commentStartDash, c =>
    if c = hyphen then ([], .commentEnd)
    else if c = greaterThan then ([c], .data)
    else ([], .comment)
  | .comment, c => ([], if c = hyphen then .commentEndDash else .comment)
  | .commentEndDash, c => ([], if c = hyphen then .commentEnd else .comment)
  | .commentEnd, c =>
    if c = greaterThan then ([c], .data)
    else if c = exclamationMark then ([], .commentEndBang)
    else ([], if c = hyphen then .commentEnd else .comment)
  | .commentEndBang, c =>
    if c = hyphen then ([], .commentEndDash)
    else if c = greaterThan then ([c], .data)
    else ([], .comment)

/-- The mode behind a text. -/
def mode (q : Mode) (text : List UInt16) : Mode := text.foldl (fun q c => (step q c).2) q

/-- The markup of a text. -/
def markup : Mode → List UInt16 → List UInt16
  | _, [] => []
  | q, c :: text => (step q c).1 ++ markup (step q c).2 text

@[simp] theorem mode_nil (q : Mode) : mode q [] = q := rfl

@[simp] theorem mode_cons (q : Mode) (c : UInt16) (text : List UInt16) :
    mode q (c :: text) = mode (step q c).2 text := rfl

@[simp] theorem mode_append (q : Mode) (a b : List UInt16) :
    mode q (a ++ b) = mode (mode q a) b := by
  simp [mode, List.foldl_append]

@[simp] theorem markup_nil (q : Mode) : markup q [] = [] := rfl

@[simp] theorem markup_cons (q : Mode) (c : UInt16) (text : List UInt16) :
    markup q (c :: text) = (step q c).1 ++ markup (step q c).2 text := rfl

@[simp] theorem markup_append (q : Mode) (a b : List UInt16) :
    markup q (a ++ b) = markup q a ++ markup (mode q a) b := by
  induction a generalizing q with
  | nil => rfl
  | cons c a ih => simp [ih]

/-- Behind a bracket: a comment, an end tag, a tag, or text. -/
theorem step_tagOpen_cases (c : UInt16) :
    ((c = exclamationMark ∨ c = questionMark) ∧
      ∃ q, step .tagOpen c = ([lessThan, exclamationMark], q)) ∨
    (c = slash ∧ step .tagOpen c = ([], .endTagOpen)) ∨
    (isLetter c ∧ step .tagOpen c = ([lessThan, c], .tagName)) ∨
    (¬ isLetter c ∧ c ≠ exclamationMark ∧ c ≠ questionMark ∧ c ≠ slash ∧
      step .tagOpen c = step .data c) := by
  by_cases hbang : c = exclamationMark
  · exact .inl ⟨.inl hbang, .declaration, by rw [hbang]; decide⟩
  by_cases hslash : c = slash
  · exact .inr (.inl ⟨hslash, by rw [hslash]; decide⟩)
  by_cases hletter : isLetter c
  · exact .inr (.inr (.inl ⟨hletter, by simp [step, hbang, hslash, hletter]⟩))
  by_cases hquestion : c = questionMark
  · exact .inl ⟨.inr hquestion, .bogusComment, by rw [hquestion]; decide⟩
  · exact .inr (.inr (.inr ⟨hletter, hbang, hquestion, hslash,
      by simp [step, hbang, hslash, hletter, hquestion]⟩))

/-- Behind `</`: a tag, nothing at all, or a comment. -/
theorem step_endTagOpen_cases (c : UInt16) :
    (isLetter c ∧ step .endTagOpen c = ([lessThan, slash, c], .tagName)) ∨
    (c = greaterThan ∧ step .endTagOpen c = ([], .data)) ∨
    (c ≠ greaterThan ∧ step .endTagOpen c = ([lessThan, exclamationMark], .bogusComment)) := by
  by_cases hletter : isLetter c
  · exact .inl ⟨hletter, by simp [step, hletter]⟩
  by_cases hc : c = greaterThan
  · exact .inr (.inl ⟨hc, by rw [hc]; decide⟩)
  · exact .inr (.inr ⟨hc, by simp [step, hletter, hc]⟩)

theorem step_tagOpen_lessThan : step .tagOpen lessThan = step .data lessThan := by decide

/-! ## Text between tags -/

/-- No bracket of the text opens a tag or a comment. Behind `</` only `>` opens none, and what
follows the text counts as well: it may be a tag. -/
def PlainText : List UInt16 → Prop
  | [] => True
  | [_] => True
  | a :: b :: text =>
    (a = lessThan → ¬ isLetter b ∧ b ≠ exclamationMark ∧ b ≠ questionMark ∧
      (b = slash → text.head? = some greaterThan)) ∧ PlainText (b :: text)

/-- The text is not in the middle of a tag or a comment, nor behind `</`. -/
def Mode.Resting (q : Mode) : Prop := q = .data ∨ q = .tagOpen

theorem Mode.Resting.markup_lessThan {q : Mode} (h : q.Resting) (text : List UInt16) :
    markup q (lessThan :: text) = markup .data (lessThan :: text) := by
  obtain rfl | rfl := h
  · rfl
  · rw [markup_cons, step_tagOpen_lessThan, markup_cons]

theorem Mode.Resting.mode_lessThan {q : Mode} (h : q.Resting) (text : List UInt16) :
    mode q (lessThan :: text) = mode .data (lessThan :: text) := by
  obtain rfl | rfl := h
  · rfl
  · rw [mode_cons, step_tagOpen_lessThan, mode_cons]

/-- Behind a bracket a text has no markup if it has none without the bracket and its first unit
makes no tag of it. -/
theorem plain_tagOpen_iff (b : UInt16) (text : List UInt16) :
    markup .tagOpen (b :: text) = [] ∧ (mode .tagOpen (b :: text)).Resting ↔
      (¬ isLetter b ∧ b ≠ exclamationMark ∧ b ≠ questionMark ∧
        (b = slash → text.head? = some greaterThan)) ∧
      markup .data (b :: text) = [] ∧ (mode .data (b :: text)).Resting := by
  rcases step_tagOpen_cases b with ⟨hmark, q, hstep⟩ | ⟨rfl, hstep⟩ | ⟨hletter, hstep⟩ |
    ⟨hletter, hbang, hquestion, hslash, hstep⟩
  · rcases hmark with rfl | rfl <;> simp [hstep]
  · -- Of `</` nothing is left only when `>` follows.
    have hdata : step .data slash = ([], .data) := by decide
    have hname : ¬ isLetter slash ∧ slash ≠ exclamationMark ∧ slash ≠ questionMark := by decide
    rw [markup_cons, mode_cons, markup_cons, mode_cons, hstep, hdata]
    cases text with
    | nil => simp [Mode.Resting]
    | cons c text =>
      rcases step_endTagOpen_cases c with ⟨hletter, hend⟩ | ⟨rfl, hend⟩ | ⟨hc, hend⟩
      · have hc : c ≠ greaterThan := by
          rintro rfl
          exact absurd hletter (by decide)
        simp [hend, hc]
      · have hdata' : step .data greaterThan = ([], .data) := by decide
        simp [hend, hdata', hname]
      · simp [hend, hc]
  · simp [hstep, hletter]
  · simp [hstep, hletter, hbang, hquestion, hslash]

/-- Plain texts are the texts without markup that end outside of a tag. -/
theorem plainText_iff (text : List UInt16) :
    PlainText text ↔ markup .data text = [] ∧ (mode .data text).Resting := by
  induction text using PlainText.induct with
  | case1 => simp [PlainText, Mode.Resting]
  | case2 c => by_cases hc : c = lessThan <;> simp [PlainText, Mode.Resting, step, hc]
  | case3 a b text ih =>
    by_cases ha : a = lessThan
    · have hopen : step .data a = ([], .tagOpen) := by rw [ha]; rfl
      rw [markup_cons, mode_cons, hopen, List.nil_append, plain_tagOpen_iff, PlainText, ← ih]
      simp [ha]
    · simp [PlainText, ha, ih, step]

/-! ## Regular markup -/

/-- What may follow in regular markup. -/
def Mode.admits : Mode → UInt16 → Bool
  | .data, c => c = lessThan
  | .tagOpen, c => isLetter c || c = slash
  | .endTagOpen, c => isLetter c
  | .tagName, c | .beforeAttributeName, c | .attributeName, c | .afterAttributeName, c
  | .selfClosing, c => c ≠ lessThan
  | .beforeAttributeValue, c | .doubleQuoted, c => c = quotationMark
  | .afterAttributeValue, c => isSpace c || c = greaterThan
  | _, _ => false

/-- Markup of tags: it is read as a text itself, the values being empty. -/
def Regular : Mode → List UInt16 → Prop
  | q, [] => q = .data
  | q, c :: text => q.admits c ∧ Regular (step q c).2 text

instance Regular.decidable : ∀ q text, Decidable (Regular q text)
  | q, [] => inferInstanceAs (Decidable (q = .data))
  | q, c :: text =>
    have := Regular.decidable (step q c).2 text
    inferInstanceAs (Decidable (q.admits c ∧ Regular (step q c).2 text))

/-- What the markup so far tells of the mode. -/
def Mode.seen : Mode → Mode
  | .tagOpen | .endTagOpen => .data
  | q => q

/-- The modes in the tags of regular markup. -/
def Mode.known : Mode → Bool
  | .data | .tagOpen | .endTagOpen | .tagName | .beforeAttributeName | .attributeName
  | .afterAttributeName | .beforeAttributeValue | .doubleQuoted | .afterAttributeValue
  | .selfClosing => true
  | _ => false

/-- A value without quotes ends with a space or with its tag. -/
theorem markup_unquoted (text : List UInt16) :
    ∀ c ∈ (markup .unquoted text).head?, isSpace c ∨ c = greaterThan := by
  induction text with
  | nil => simp
  | cons c text ih =>
    by_cases hspace : isSpace c
    · simp [step, hspace]
    by_cases hc : c = greaterThan
    · subst hc
      have hend : step .unquoted greaterThan = ([greaterThan], .data) := by decide
      simp [hend]
    · simpa [step, hspace, hc] using ih

/-- Regular markup has no value without quotes. -/
theorem not_regular_unquoted (text : List UInt16) :
    ¬ Regular .beforeAttributeValue (markup .unquoted text) := by
  intro h
  cases hmarkup : markup .unquoted text with
  | nil => simp [hmarkup, Regular] at h
  | cons c rest =>
    rw [hmarkup, Regular, Mode.admits, decide_eq_true_eq] at h
    have hc := markup_unquoted text c (by simp [hmarkup])
    rw [h.1] at hc
    exact absurd hc (by decide)

theorem Regular.append {a b : List UInt16} {q : Mode} :
    Regular q (a ++ b) → Regular (mode q a) b := by
  induction a generalizing q with
  | nil => exact id
  | cons c a ih => exact fun h => ih h.2

theorem Regular.trans {a b : List UInt16} {q : Mode} (ha : Regular q a) (hb : Regular .data b) :
    Regular q (a ++ b) := by
  induction a generalizing q with
  | nil => rwa [show q = .data from ha]
  | cons c a ih => exact ⟨ha.1, ih ha.2⟩

/-- In a tag the mode is known from the markup. -/
theorem known_inTag {q : Mode} {c : UInt16} {space other : Mode} (hq : q.seen = q)
    (hstep : step q c = ([c], inTag c space other)) (hspace : space.known ∧ space.seen = space)
    (hother : other.known ∧ other.seen = other) :
    (step q c).2.known ∧ mode q.seen (step q c).1 = (step q c).2.seen := by
  have hnext : (inTag c space other).known ∧ (inTag c space other).seen = inTag c space other := by
    unfold inTag
    split_ifs
    exacts [hspace, by decide, by decide, hother]
  rw [hq, hstep, mode_cons, hstep, mode_nil]
  exact ⟨hnext.1, hnext.2.symm⟩

/-- One unit of a text with regular markup. -/
theorem known_step {q : Mode} {c : UInt16} {text : List UInt16} (hq : q.known)
    (h : Regular q.seen (markup q (c :: text))) :
    (step q c).2.known ∧ mode q.seen (step q c).1 = (step q c).2.seen := by
  rw [markup_cons] at h
  cases q with
  | data => by_cases hc : c = lessThan <;> simp [step, hc, Mode.known, Mode.seen]
  | tagOpen =>
    rcases step_tagOpen_cases c with ⟨-, q, hstep⟩ | ⟨-, hstep⟩ | ⟨-, hstep⟩ | ⟨-, -, -, -, hstep⟩
    · rw [hstep] at h
      exact absurd h.2.1 (by decide)
    · rw [hstep]
      decide
    · have hread : mode .data [lessThan, c] = (step .tagOpen c).2 := rfl
      rw [hstep] at hread ⊢
      exact ⟨rfl, hread⟩
    · rw [hstep]
      by_cases hc : c = lessThan <;> simp [step, hc, Mode.known, Mode.seen]
  | endTagOpen =>
    rcases step_endTagOpen_cases c with ⟨-, hstep⟩ | ⟨-, hstep⟩ | ⟨-, hstep⟩
    · have hread : mode .data [lessThan, slash, c] = (step .endTagOpen c).2 := rfl
      rw [hstep] at hread ⊢
      exact ⟨rfl, hread⟩
    · rw [hstep]
      decide
    · rw [hstep] at h
      exact absurd h.2.1 (by decide)
  | tagName => exact known_inTag rfl rfl (by decide) (by decide)
  | beforeAttributeName => exact known_inTag rfl rfl (by decide) (by decide)
  | attributeName | afterAttributeName =>
    by_cases hc : c = equals
    · simp [step, hc, Mode.known, Mode.seen]
    · have hstep : ([c], if c = equals then Mode.beforeAttributeValue
          else inTag c .afterAttributeName .attributeName) =
          ([c], inTag c .afterAttributeName .attributeName) := by rw [if_neg hc]
      exact known_inTag rfl hstep (by decide) (by decide)
  | beforeAttributeValue =>
    -- In regular markup the value comes at once, and in double quotes.
    by_cases hc : c = quotationMark
    · rw [hc]
      decide
    · have hnot (rest : List UInt16) : ¬ Regular .beforeAttributeValue (c :: rest) := by
        simp [Regular, Mode.admits, hc]
      simp only [step, if_neg hc] at h
      split_ifs at h
      · exact absurd h (hnot _)
      · exact absurd h (hnot _)
      · exact absurd h (hnot _)
      · exact absurd h (not_regular_unquoted text)
  | doubleQuoted => by_cases hc : c = quotationMark <;> simp [step, hc, Mode.known, Mode.seen]
  | afterAttributeValue => exact known_inTag rfl rfl (by decide) (by decide)
  | selfClosing => exact known_inTag rfl rfl (by decide) (by decide)
  | _ => cases hq

/-- A text with regular markup. -/
theorem known_run {q : Mode} {text rest : List UInt16} (hq : q.known)
    (h : Regular q.seen (markup q (text ++ rest))) :
    (mode q text).known ∧ mode q.seen (markup q text) = (mode q text).seen ∧
      Regular (mode q text).seen (markup (mode q text) rest) := by
  induction text generalizing q with
  | nil => exact ⟨hq, rfl, h⟩
  | cons c text ih =>
    obtain ⟨hknown, hseen⟩ := known_step hq h
    have hrest := Regular.append h
    rw [hseen] at hrest
    obtain ⟨hmode, hread, htail⟩ := ih hknown hrest
    exact ⟨hmode, by rw [markup_cons, mode_append, hseen, hread, mode_cons], htail⟩

/-- In regular markup a tag does not begin inside of another, unless in a value. -/
theorem resting_or_doubleQuoted {q : Mode} {text : List UInt16} (hq : q.known)
    (h : Regular q.seen (markup q (lessThan :: text))) : q.Resting ∨ q = .doubleQuoted := by
  cases q with
  | data => exact .inl (.inl rfl)
  | tagOpen => exact .inl (.inr rfl)
  | doubleQuoted => exact .inr rfl
  | endTagOpen => exact absurd h.2.1 (by decide)
  | beforeAttributeValue => exact absurd h (not_regular_unquoted text)
  | tagName | beforeAttributeName | attributeName | afterAttributeName | afterAttributeValue
  | selfClosing => exact absurd h.1 (by decide)
  | _ => cases hq

/-! ## Quoted values -/

theorem step_eq_doubleQuoted {q : Mode} {c : UInt16} (h : (step q c).2 = .doubleQuoted) :
    q = .doubleQuoted ∨ c = quotationMark := by
  cases q <;> simp only [step, inTag, inBogusComment] at h <;> split_ifs at h <;> simp_all

/-- A value in double quotes is opened by one. -/
theorem mode_eq_doubleQuoted {q : Mode} {text : List UInt16} (h : mode q text = .doubleQuoted) :
    q = .doubleQuoted ∨ quotationMark ∈ text := by
  induction text generalizing q with
  | nil => exact .inl h
  | cons c text ih =>
    rcases ih h with hstep | hmem
    · exact (step_eq_doubleQuoted hstep).imp id fun hc => by simp [hc]
    · exact .inr (List.mem_cons_of_mem c hmem)

/-- A value goes on up to the next quote. -/
theorem doubleQuoted_of_not_mem {text : List UInt16} (h : quotationMark ∉ text) :
    markup .doubleQuoted text = [] ∧ mode .doubleQuoted text = .doubleQuoted := by
  induction text with
  | nil => exact ⟨rfl, rfl⟩
  | cons c text ih =>
    rw [List.mem_cons, not_or] at h
    have hstep : step .doubleQuoted c = ([], .doubleQuoted) := by
      simp only [step, if_neg (Ne.symm h.1)]
    simpa [hstep] using ih h.2

/-- A quote that something else than a space or a bracket follows does not end a value of
regular markup. -/
theorem not_regular_doubleQuoted {a text : List UInt16} {c : UInt16} (ha : quotationMark ∉ a)
    (hc : ¬ (isSpace c || c = greaterThan)) :
    ¬ Regular .doubleQuoted (markup .doubleQuoted (a ++ quotationMark :: c :: text)) := by
  obtain ⟨hmarkup, hmode⟩ := doubleQuoted_of_not_mem ha
  rw [markup_append, hmarkup, hmode]
  exact fun h => hc h.2.1

def untilQuote (text : List UInt16) : List UInt16 := text.takeWhile (· ≠ quotationMark)

theorem untilQuote_append {a : List UInt16} (h : quotationMark ∉ a) (b : List UInt16) :
    untilQuote (a ++ b) = a ++ untilQuote b :=
  List.takeWhile_append_of_pos fun _ hc => decide_eq_true fun hquote => h (hquote ▸ hc)

@[simp] theorem untilQuote_cons (text : List UInt16) :
    untilQuote (quotationMark :: text) = [] := by
  simp [untilQuote]

theorem length_untilQuote_lt {a : List UInt16} (h : quotationMark ∈ a) (b : List UInt16) :
    (untilQuote (a ++ b)).length < a.length := by
  obtain ⟨front, back, rfl, hfront⟩ := List.eq_append_cons_of_mem h
  rw [List.append_assoc, untilQuote_append hfront, List.cons_append, untilQuote_cons]
  simp

/-- The value of the attribute in whose value a text ends. -/
def attributeValue (before after : List UInt16) : Option (List UInt16) :=
  if mode .data before = .doubleQuoted then some (untilQuote after) else none

/-- How a text is read before it is taken apart: every line ends with a line feed, and there is
no null. -/
def normalize : List UInt16 → List UInt16
  | [] => []
  | c :: text =>
    if c = 0x0D then
      if text.head? = some 0x0A then normalize text else 0x0A :: normalize text
    else (if c = 0 then 0xFFFD else c) :: normalize text

theorem length_normalize (text : List UInt16) : (normalize text).length ≤ text.length := by
  induction text with
  | nil => rfl
  | cons c text ih =>
    rw [normalize]
    split_ifs <;> simp only [List.length_cons] <;> omega

theorem normalize_append (a b : List UInt16) :
    normalize (a ++ apostrophe :: b) = normalize a ++ apostrophe :: normalize b := by
  induction a with
  | nil => rfl
  | cons c a ih =>
    have hhead : (a ++ apostrophe :: b).head? = some 0x0A ↔ a.head? = some 0x0A := by
      cases a <;> simp [apostrophe]
    simp only [List.cons_append, normalize, ih, hhead]
    split_ifs <;> rfl

theorem normalize_of_not_mem {text : List UInt16} (hcr : 0x0D ∉ text) (hnull : 0 ∉ text) :
    normalize text = text := by
  induction text with
  | nil => rfl
  | cons c text ih =>
    rw [List.mem_cons, not_or] at hcr hnull
    rw [normalize, if_neg (Ne.symm hcr.1), if_neg (Ne.symm hnull.1), ih hcr.2 hnull.2]

/-- What is said of the references to characters, such as `&lt;` and `&#60;`: each begins with an
ampersand, none goes on behind an apostrophe, and none is shorter than what it stands for. -/
structure CharacterReferences (decode : List UInt16 → List UInt16) : Prop where
  of_not_mem {text : List UInt16} : 0x26 ∉ text → decode text = text
  append (a b : List UInt16) : decode (a ++ apostrophe :: b) = decode a ++ apostrophe :: decode b
  length_le (text : List UInt16) : (decode text).length ≤ text.length

/-- The value of an attribute, as a script reads it. -/
def attributeText (decode : List UInt16 → List UInt16) (value : List UInt16) : List UInt16 :=
  decode (normalize value)

theorem CharacterReferences.length_attributeText {decode : List UInt16 → List UInt16}
    (hdecode : CharacterReferences decode) (value : List UInt16) :
    (attributeText decode value).length ≤ value.length :=
  (hdecode.length_le _).trans (length_normalize value)

theorem CharacterReferences.attributeText_append {decode : List UInt16 → List UInt16}
    (hdecode : CharacterReferences decode) (a b : List UInt16) :
    attributeText decode (a ++ apostrophe :: b) =
      attributeText decode a ++ apostrophe :: attributeText decode b := by
  rw [attributeText, normalize_append, hdecode.append, attributeText, attributeText]

theorem CharacterReferences.attributeText_of_not_mem {decode : List UInt16 → List UInt16}
    (hdecode : CharacterReferences decode) {value : List UInt16} (hcr : 0x0D ∉ value)
    (hnull : 0 ∉ value) (hampersand : 0x26 ∉ value) : attributeText decode value = value := by
  rw [attributeText, normalize_of_not_mem hcr hnull, hdecode.of_not_mem hampersand]

/-! ## Templates -/

/-- A text of whole tags, with their values in double quotes. -/
structure Whole (text : List UInt16) : Prop where
  mode_eq : mode .data text = .data
  regular : Regular .data (markup .data text)

instance Whole.decidable (text : List UInt16) : Decidable (Whole text) :=
  decidable_of_iff (mode .data text = .data ∧ Regular .data (markup .data text))
    ⟨fun h => ⟨h.1, h.2⟩, fun h => ⟨h.1, h.2⟩⟩

theorem Whole.markup_append {a : List UInt16} (ha : Whole a) (b : List UInt16) :
    markup .data (a ++ b) = markup .data a ++ markup .data b := by
  rw [Html.markup_append, ha.mode_eq]

theorem Whole.append {a b : List UInt16} (ha : Whole a) (hb : Whole b) : Whole (a ++ b) where
  mode_eq := by rw [mode_append, ha.mode_eq, hb.mode_eq]
  regular := by
    rw [ha.markup_append]
    exact ha.regular.trans hb.regular

theorem data_of_not_mem {text : List UInt16} (h : lessThan ∉ text) :
    markup .data text = [] ∧ mode .data text = .data := by
  induction text with
  | nil => exact ⟨rfl, rfl⟩
  | cons c text ih =>
    rw [List.mem_cons, not_or] at h
    have hstep : step .data c = ([], .data) := by simp only [step, if_neg (Ne.symm h.1)]
    simpa [hstep] using ih h.2

theorem plainText_of_not_mem {text : List UInt16} (h : lessThan ∉ text) : PlainText text :=
  (plainText_iff text).mpr ⟨(data_of_not_mem h).1, .inl (data_of_not_mem h).2⟩

theorem whole_of_not_mem {text : List UInt16} (h : lessThan ∉ text) : Whole text where
  mode_eq := (data_of_not_mem h).2
  regular := by rw [(data_of_not_mem h).1]; rfl

/-- Plain text in front of a tag is as good as none. -/
theorem PlainText.markup_append {a : List UInt16} (h : PlainText a) (text : List UInt16) :
    markup .data (a ++ lessThan :: text) = markup .data (lessThan :: text) := by
  obtain ⟨hmarkup, hresting⟩ := (plainText_iff a).mp h
  rw [Html.markup_append, hmarkup, List.nil_append, hresting.markup_lessThan]

theorem PlainText.mode_append {a : List UInt16} (h : PlainText a) (text : List UInt16) :
    mode .data (a ++ lessThan :: text) = mode .data (lessThan :: text) := by
  obtain ⟨-, hresting⟩ := (plainText_iff a).mp h
  rw [Html.mode_append, hresting.mode_lessThan]

/-- Two texts that are put into a template leave its markup as it is only when both are
plain. No markup in the texts makes up for what is lost: between them there is no quote that
would hide a part of the template, and behind them no value can end. -/
theorem plainText_of_markup_eq {front a middle b back back' : List UInt16}
    (hfront : mode .data front = .data) (hmiddle : mode .data (lessThan :: middle) = .data)
    (hquote : quotationMark ∉ markup .data (front ++ lessThan :: middle))
    (hregular : Regular .data (markup .data (front ++ lessThan :: middle ++ lessThan :: back')))
    (hback : markup .data (lessThan :: back) = markup .data (lessThan :: back'))
    (hend : ¬ Regular .doubleQuoted (markup .doubleQuoted (lessThan :: back)))
    (h : markup .data (front ++ a ++ lessThan :: middle ++ b ++ lessThan :: back) =
      markup .data (front ++ lessThan :: middle ++ lessThan :: back')) :
    PlainText a ∧ PlainText b := by
  have hwhole := hregular
  rw [← h] at hwhole
  -- Behind the second text the template goes on.
  obtain ⟨hknown, -, hrest⟩ := known_run (q := .data) rfl hwhole
  have hb := (resting_or_doubleQuoted hknown hrest).resolve_right fun hq =>
    hend (by rwa [hq] at hrest)
  have hsame : markup .data (front ++ a ++ lessThan :: middle ++ b) =
      markup .data (front ++ lessThan :: middle) := by
    rw [Html.markup_append, hb.markup_lessThan, hback, Html.markup_append _ (front ++ _),
      Html.mode_append, hfront, hmiddle] at h
    exact List.append_cancel_right h
  -- Between the two texts it does as well: no value has begun in front of it.
  rw [List.append_assoc, List.append_assoc, List.cons_append] at hwhole
  obtain ⟨hknown, hread, hrest⟩ := known_run (q := .data) rfl hwhole
  have ha := (resting_or_doubleQuoted hknown hrest).resolve_right fun hq => by
    rw [hq] at hread
    have hmem := (mode_eq_doubleQuoted hread).resolve_left (by decide)
    rw [← hsame, List.append_assoc _ _ b, Html.markup_append] at hquote
    exact hquote (List.mem_append_left _ hmem)
  rw [Html.mode_append, hfront] at ha
  have hmode : mode .data (front ++ a ++ lessThan :: middle) = .data := by
    rw [Html.mode_append, Html.mode_append, hfront, ha.mode_lessThan, hmiddle]
  rw [Html.mode_append, hmode] at hb
  -- The markup of the template alone is as long as all of it.
  have hlength := congrArg List.length hsame
  rw [Html.markup_append, hmode, Html.markup_append, Html.mode_append, hfront, ha.markup_lessThan,
    Html.markup_append, Html.markup_append, hfront] at hlength
  simp only [List.length_append] at hlength
  have hemptyA : markup .data a = [] := List.length_eq_zero_iff.mp (by omega)
  have hemptyB : markup .data b = [] := List.length_eq_zero_iff.mp (by omega)
  exact ⟨(plainText_iff a).mpr ⟨hemptyA, ha⟩, (plainText_iff b).mpr ⟨hemptyB, hb⟩⟩

end Foundation.Html
