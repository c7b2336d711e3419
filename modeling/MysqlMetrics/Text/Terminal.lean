/-!
# Text for a terminal

A text may hold sequences that begin with the escape character. They set colours or titles and are
not shown. Where colours have no place, what is left of a text is its plain text: neither sequences
nor controls, apart from those that lay the text out.

A sequence is over when its last character is read, and so may reach beyond the place where it was
put: one that is cut off takes the text behind it along, up to a character that ends it. A character
beyond ASCII ends none and is lost in it, but for the terminator of eight bits: a string ends with
any character that has it among its bytes.

* `Terminal.plain` is the plain text; `shownFrom_of_visible`: text without controls is its own.
-/

namespace MysqlMetrics.Text.Terminal

/-- What a terminal is reading. -/
inductive Mode where
  /-- Text to show. -/
  | text
  /-- A sequence, right behind the escape character. -/
  | escape
  /-- A sequence with characters that come before its last. -/
  | announced
  /-- A control sequence, with parameters before its last character. -/
  | control
  /-- A command, which a bell or the escape character ends. -/
  | command
  /-- The head of a device's string, right at its beginning. -/
  | device
  /-- The head of a device's string, behind a parameter. -/
  | deviceParameters
  /-- The head of a device's string, behind the parameters. -/
  | deviceAnnounced
  /-- A string, which the escape character or the terminator ends. -/
  | string
  deriving DecidableEq, Repr

/-- The character that begins a sequence. -/
def escape : Char := '\x1b'

/-- The controls that lay out text: tab, line feed, form feed and carriage return. -/
def laysOut (c : Char) : Bool := c = '\t' || c = '\n' || c = '\x0c' || c = '\r'

/-- The control characters of ASCII. -/
def isControl (c : Char) : Bool := c < ' ' || c = '\x7f'

/-- The characters that a sequence is made of: those of ASCII that are no controls. -/
def isGraphic (c : Char) : Bool := ' ' ≤ c && c ≤ '~'

/-- The character may come before the last one of a sequence. -/
def announces (c : Char) : Bool := ' ' ≤ c && c ≤ '/'

/-- The character may come before the last one of a control sequence. -/
def isParameter (c : Char) : Bool := ' ' ≤ c && c ≤ '?'

/-- The character goes on with the parameters of a device's string. -/
def continuesParameters (c : Char) : Bool := '0' ≤ c && c ≤ ';'

/-- The terminator of eight bits is among the bytes of the character. -/
def holdsTerminator (c : Char) : Bool := (String.utf8EncodeChar c).contains 0x9C

/-- What is read after the character that follows the escape character. -/
def afterEscape (c : Char) : Mode :=
  if c = '[' then .control
  else if c = ']' then .command
  else if c = 'P' then .device
  else if c = 'X' || c = '^' || c = '_' then .string
  else if announces c then .announced
  else .text

/-- What is read after a character of a sequence: layout ends it, `next` says it for the characters
that a sequence is made of, and the others do not count. -/
def within (mode : Mode) (c : Char) (next : Mode) : Mode :=
  if laysOut c then .text else if isGraphic c then next else mode

/-- What is read after a character in the head of a device's string: `next` says it for the graphic
characters that announce nothing, and the others do not count. -/
def withinHead (mode : Mode) (c : Char) (next : Mode) : Mode :=
  if announces c then .deviceAnnounced else if isGraphic c then next else mode

/-- What is read after a character. Cancel and substitute end every sequence, and the escape
character begins another. -/
def after (mode : Mode) (c : Char) : Mode :=
  if c = '\x18' || c = '\x1a' then .text
  else if c = escape then .escape
  else
    match mode with
    | .text => .text
    | .escape => within mode c (afterEscape c)
    | .announced => within mode c (if announces c then mode else .text)
    | .control => within mode c (if isParameter c then mode else .text)
    | .command => if c = '\x07' then .text else mode
    | .device => withinHead mode c (if isParameter c then .deviceParameters else .string)
    | .deviceParameters => withinHead mode c (if continuesParameters c then mode else .string)
    | .deviceAnnounced => withinHead mode c .string
    | .string => if holdsTerminator c then .text else mode

/-- What is shown of a character: in text everything but controls, and there and in the sequences
that layout ends the controls that lay out text. -/
def shown (mode : Mode) (c : Char) : List Char :=
  match mode with
  | .text => if isControl c && !laysOut c then [] else [c]
  | .escape | .announced | .control => if laysOut c then [c] else []
  | _ => []

/-- What is shown of a text. -/
def shownFrom : Mode → List Char → List Char
  | _, [] => []
  | mode, c :: rest => shown mode c ++ shownFrom (after mode c) rest

/-- The text without sequences and controls. -/
def plain (text : String) : String := String.ofList (shownFrom .text text.toList)

/-- Text in one of the colours that a terminal knows by number. -/
def coloured (number : Nat) (text : String) : String :=
  let set (code : Nat) : String := String.ofList [escape, '['] ++ toString code ++ "m"
  set number ++ text ++ set 0

theorem shownFrom_of_visible {text : List Char} (h : ∀ c ∈ text, isControl c = false) :
    shownFrom .text text = text := by
  induction text with
  | nil => rfl
  | cons c rest ih =>
    have hc := h c List.mem_cons_self
    have hne : ∀ d : Char, isControl d = true → c ≠ d := fun d hd e => by
      rw [e, hd] at hc
      cases hc
    have hmode : after .text c = .text := by
      simp [after, escape, hne '\x18' rfl, hne '\x1a' rfl, hne '\x1b' rfl]
    rw [shownFrom, hmode, ih fun d hd => h d (List.mem_cons_of_mem c hd)]
    simp [shown, hc]

end MysqlMetrics.Text.Terminal
