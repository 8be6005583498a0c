/-
Marginalia.Markdown.CodeSpan — code between runs of backquotes.

Code ends at the next run of backquotes as long as the one it starts with.
Once a run has been looked for in vain up to the end of a text, the search
goes by memory: of each length only the run last come across is known, and
where that one is not ahead the opening run is text.
-/

namespace Marginalia.Markdown

/-! ## 1. Closing runs -/

/-- The longest run of backquotes around code. -/
def maxBackquotes : Nat := 80

/-- What is known of the runs of backquotes in a text. -/
structure Backquotes where
  /-- Was a run looked for up to the end of the text? -/
  reachedEnd : Bool := false
  /-- The start of the run last come across, by length. -/
  lastSeen : List (Nat × Nat) := []

namespace Backquotes

/-- Notes a run of a length that starts at a place. -/
def note (length start : Nat) (b : Backquotes) : Backquotes :=
  if 1 ≤ length ∧ length ≤ maxBackquotes then
    { b with lastSeen := (length, start) :: b.lastSeen }
  else b

/-- May a run of a length be ahead of a place? -/
def mayBeAhead (length place : Nat) (b : Backquotes) : Bool :=
  !b.reachedEnd || (b.lastSeen.lookup length).any (place < ·)

/-- The end of the next run of exactly `length` backquotes, and what is known
then. The text starts at `place`, right behind `run` backquotes. -/
def closingEnd? (length run place : Nat) (b : Backquotes) : List Char → Option Nat × Backquotes
  | [] =>
    let b := b.note run (place - run)
    if run = length then (some place, b) else (none, { b with reachedEnd := true })
  | c :: cs =>
    if c == '\x60' then closingEnd? length (run + 1) (place + 1) b cs
    else
      let b := b.note run (place - run)
      if run = length then (some place, b) else closingEnd? length 0 (place + 1) b cs

end Backquotes

/-! ## 2. The code -/

/-- The code that a text between backquotes writes: line ends are spaces, and
one space is cut on both sides where there is one on both. -/
def codeText (s : List Char) : List Char :=
  let s := s.map fun c => if c == '\n' then ' ' else c
  if s.head? == some ' ' && s.getLast? == some ' ' && s.any (· != ' ') then
    (s.drop 1).take (s.length - 2)
  else s

example : codeText " \x60\x60 ".toList = ['\x60', '\x60'] := by decide

end Marginalia.Markdown
