/-
Marginalia.Settings.Basic — what a user can choose.

Settings come in three sections: how markdown is read, how HTML is written,
and whether and how callouts are made.
-/
import Marginalia.Callout.Conversion

namespace Marginalia

/-- What a user can choose. -/
structure Settings where
  /-- Read struck-out text and bare links. -/
  gfm : Bool := false
  /-- Pass raw HTML through instead of leaving it out. -/
  rawHtml : Bool := false
  /-- Turn marked quotes into callouts. -/
  callouts : Bool := true
  /-- The element that callouts are written as. -/
  element : String := Callout.defaultElement
  deriving DecidableEq, Inhabited, Repr

/-- The settings as a JSON value, by section. -/
def Settings.toJson (s : Settings) : Json :=
  .obj [("reader", .obj [("gfm", .bool s.gfm)]),
    ("html", .obj [("allow-dangerous-html", .bool s.rawHtml)]),
    ("callout", .obj [("enabled", .bool s.callouts), ("element", .text s.element)])]

end Marginalia
