/-
Marginalia.Text.ControlSequence — leaving control sequences out of a text.

A terminal does not show control sequences: the escape character with what
it introduces, from single letters over parameters and a final letter to
whole strings with an end of their own. They are left out here, and so are
the controls that are not blanks. A blank inside a sequence is shown, and
the text behind it with it, up to the next control.
-/

namespace Marginalia.Text

/-! ## 1. Where a text is in a sequence -/

/-- What a text is in the middle of. -/
inductive ControlMode where
  /-- Of nothing. -/
  | none
  /-- Of a sequence, behind the escape character. -/
  | escape
  /-- Behind the escape character and intermediate characters. -/
  | escapeIntermediate
  /-- Of a sequence of parameters, which a letter ends. -/
  | parameters
  /-- Of a command to the system, which the bell ends. -/
  | systemCommand
  /-- Of the head of a string for the device. -/
  | deviceEntry
  | deviceParameters
  | deviceIntermediate
  /-- Of a string. -/
  | string
  deriving DecidableEq, Repr

namespace ControlMode

/-- The blanks among the ASCII controls; line tabulation is not one of them. -/
def isBlankControl (c : Char) : Bool := c == '\t' || c == '\n' || c == '\x0c' || c == '\r'

/-- Is the character shown? -/
def shows (mode : ControlMode) (c : Char) : Bool :=
  match mode with
  | .none => isBlankControl c || (0x20 ≤ c.toNat && c.toNat != 0x7F)
  | .escape | .escapeIntermediate | .parameters => isBlankControl c
  | _ => false

/-- Does the byte 9C, an end of strings, stand in the character's encoding? -/
def holdsStringEnd (c : Char) : Bool := (String.utf8EncodeChar c).contains 0x9C

/-- Where a text is behind an ASCII character that is neither the escape
character nor cancels sequences. -/
def nextAscii (mode : ControlMode) (c : Char) : ControlMode :=
  let n := c.toNat
  let isIntermediate := 0x20 ≤ n && n ≤ 0x2F
  let isParameter := 0x30 ≤ n && n ≤ 0x3F
  let isFinal := 0x40 ≤ n && n ≤ 0x7E
  match mode with
  | .none => .none
  | .escape =>
    if isIntermediate then .escapeIntermediate
    else if c == '[' then .parameters
    else if c == ']' then .systemCommand
    else if c == 'P' then .deviceEntry
    else if c == 'X' || c == '^' || c == '_' then .string
    else if isParameter || isFinal then .none
    else mode
  | .escapeIntermediate => if isParameter || isFinal then .none else mode
  | .parameters => if isFinal then .none else mode
  | .systemCommand => if c == '\x07' then .none else mode
  | .deviceEntry =>
    if isIntermediate then .deviceIntermediate
    else if isParameter then .deviceParameters
    else if isFinal then .string
    else mode
  | .deviceParameters =>
    if isIntermediate then .deviceIntermediate
    else if 0x3C ≤ n && n ≤ 0x7E then .string
    else mode
  | .deviceIntermediate => if isParameter || isFinal then .string else mode
  | .string => .string

/-- Where a text is behind a character. -/
def next (mode : ControlMode) (c : Char) : ControlMode :=
  if c == '\x1b' then .escape
  else if c == '\x18' || c == '\x1a' then .none
  else if c.toNat < 0x80 then mode.nextAscii c
  else if mode = .string && holdsStringEnd c then .none
  else mode

end ControlMode

/-! ## 2. Texts without controls -/

/-- The text without controls, from a mode on. While `showing`, the text behind
something shown is read, in which only a further control counts. -/
def withoutControlsFrom (showing : Bool) (mode : ControlMode) : List Char → List Char
  | [] => []
  | c :: cs =>
    if showing && ControlMode.none.shows c then
      c :: withoutControlsFrom true (if c.toNat < 0x80 then mode else .none) cs
    else if !showing && mode.shows c then c :: withoutControlsFrom true (mode.next c) cs
    else withoutControlsFrom false (mode.next c) cs

/-- The text without control sequences and without the controls that are not
blanks. -/
def withoutControls (s : String) : String :=
  String.ofList (withoutControlsFrom true .none s.toList)

example : withoutControls "a\x1b[1mb\x07" = "ab" := by decide

end Marginalia.Text
