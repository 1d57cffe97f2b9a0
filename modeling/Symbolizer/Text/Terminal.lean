/-!
# Texts without terminal controls

A terminal obeys some of the characters it is sent: controls, and the sequences that an escape
character begins. `plain` is what is left of a text without them, so that a text from outside can be
repeated to the user and does nothing but show. A text that holds no such character is left as it is
(`plain_eq_self`).

Sequences are found by the states of a terminal that reads bytes. Blanks that lay out a text are
obeyed even inside a sequence, and what follows them at once is shown as well.
-/

namespace Symbolizer.Text.Terminal

/-- What a terminal takes the next character for. -/
inductive Expecting
  /-- A character to show. -/
  | text
  /-- The kind of a sequence, behind the escape character. -/
  | kind
  /-- The end of an escape sequence that has begun. -/
  | escapeEnd
  /-- The parameters or the end of a control sequence. -/
  | control
  /-- The first character of a device control string. -/
  | device
  /-- The parameters of a device control string. -/
  | deviceParameters
  /-- What stands between the parameters and the data of a device control string. -/
  | deviceKind
  /-- A string that shows nothing, up to its terminator. -/
  | string
  /-- A command to the system around the terminal, up to a bell. -/
  | systemCommand
  deriving DecidableEq, Repr

namespace Expecting

/-- What is expected behind a character that is obeyed in the midst of anything: an escape character
begins a sequence, a cancel or a substitute character abandons the one that has begun. -/
def anew? (c : Char) : Option Expecting :=
  match c with
  | '\x1b' => some kind
  | '\x18' | '\x1a' => some text
  | _ => none

/-- What is expected behind a character that is not obeyed in the midst of anything. The byte 9C ends
a string even if it is a part of a character. -/
def behind (e : Expecting) (c : Char) : Expecting :=
  let within (low high : Nat) : Bool := low ≤ c.toNat && c.toNat ≤ high
  match e with
  | text => text
  | kind =>
    match c with
    | '[' => control
    | ']' => systemCommand
    | 'P' => device
    | 'X' | '^' | '_' => string
    | _ => if within 0x20 0x2F then escapeEnd else if within 0x30 0x7E then text else kind
  | escapeEnd => if within 0x30 0x7E then text else escapeEnd
  | control => if within 0x40 0x7E then text else control
  | device =>
    if within 0x20 0x2F then deviceKind
    else if within 0x30 0x3F then deviceParameters
    else if within 0x40 0x7E then string
    else device
  | deviceParameters =>
    if within 0x20 0x2F then deviceKind
    else if within 0x3C 0x7E then string
    else deviceParameters
  | deviceKind => if within 0x30 0x7E then string else deviceKind
  | string => if (String.utf8EncodeChar c).contains 0x9C then text else string
  | systemCommand => if c = '\x07' then text else systemCommand

/-- What is expected behind a character. -/
def next (e : Expecting) (c : Char) : Expecting := (anew? c).getD (e.behind c)

end Expecting

/-- Whether a character lays out a text. -/
def isLayout (c : Char) : Bool := c == '\t' || c == '\n' || c == '\x0c' || c == '\r'

/-- Whether a character shows or lays out. Of the characters beyond ASCII every one does. -/
def isPlain (c : Char) : Bool := isLayout c || (0x20 ≤ c.toNat && c.toNat ≠ 0x7F)

/-- How far a terminal has come. -/
structure State where
  expecting : Expecting := .text
  /-- Whether the last character was shown. -/
  showing : Bool := false

namespace State

/-- Whether a character is shown where none was shown before it. -/
def starts (s : State) (c : Char) : Bool :=
  match s.expecting with
  | .text => isPlain c
  | .kind | .escapeEnd | .control => isLayout c
  | _ => false

/-- How far a terminal has come behind a character. Where a character was shown, what it interrupted
waits; a character beyond ASCII ends it. -/
def next (s : State) (c : Char) : State :=
  if s.showing && isPlain c then
    { s with expecting := if c.toNat < 0x80 then s.expecting else .text }
  else if s.showing then
    { expecting := (Expecting.anew? c).getD s.expecting, showing := false }
  else
    { expecting := s.expecting.next c, showing := s.starts c }

/-- What is shown of characters. -/
def shown (s : State) : List Char → List Char
  | [] => []
  | c :: cs => if (s.next c).showing then c :: (s.next c).shown cs else (s.next c).shown cs

theorem shown_eq_self {s : State} {cs : List Char} (h : s.expecting = .text)
    (hcs : ∀ c ∈ cs, isPlain c) : s.shown cs = cs := by
  induction cs generalizing s with
  | nil => rfl
  | cons c cs ih =>
    have hc : isPlain c := hcs c List.mem_cons_self
    have hanew : Expecting.anew? c = none := by
      unfold Expecting.anew?
      split <;> first | rfl | exact absurd hc (by decide)
    have hnext : (s.next c).showing ∧ (s.next c).expecting = .text := by
      cases hs : s.showing <;>
        simp [next, hs, hc, h, starts, Expecting.next, Expecting.behind, hanew]
    rw [shown, if_pos hnext.1, ih hnext.2 fun d hd => hcs d (List.mem_cons_of_mem c hd)]

end State

/-- What a text shows on a terminal. -/
def plain (text : String) : String :=
  String.ofList (({} : State).shown text.toList)

/-- A text that a terminal only shows is left as it is. -/
theorem plain_eq_self {text : String} (h : ∀ c ∈ text.toList, isPlain c) : plain text = text := by
  rw [plain, State.shown_eq_self rfl h, String.ofList_toList]

end Symbolizer.Text.Terminal
