/-
Marginalia.Tree.Data — what a block carries for its writer.

A block may carry an element name that replaces its own, attributes, and a
bag of further values that every transform leaves alone.

Main statement: `className?_setProperty_class` (a class that is set is found).
-/
import Marginalia.OrderedMap
import Marginalia.Json.Value

namespace Marginalia

/-- What a block carries for its writer. -/
structure Data where
  /-- The element name to write instead of the block's own. -/
  elementName : Option String := none
  /-- The properties to write as attributes, by property name. -/
  properties : OrderedMap String := .empty
  /-- Values that only the writers of other programs read. -/
  extra : OrderedMap Json := .empty
  deriving Inhabited

namespace Data

/-- The property that is written as the attribute `class`. -/
def classProperty : String := "className"

/-- The data of a block that carries nothing. -/
def none : Data := {}

/-- Does the block carry nothing? -/
def isEmpty (d : Data) : Bool :=
  d.elementName.isNone && d.properties.isEmpty && d.extra.isEmpty

/-- The data with one property set. -/
def setProperty (d : Data) (name value : String) : Data :=
  { d with properties := d.properties.insert name value }

/-- The data with an element name, or without one. -/
def setElementName (d : Data) (name : Option String) : Data := { d with elementName := name }

/-- The data with a further value put into the bag. -/
def addExtra (d : Data) (key : String) (value : Json) : Data :=
  { d with extra := d.extra.insert key value }

/-- The value of the class property. -/
def className? (d : Data) : Option String := d.properties.get? classProperty

@[simp] theorem isEmpty_none : Data.none.isEmpty = true := rfl

@[simp] theorem className?_setProperty_class (d : Data) (value : String) :
    (d.setProperty classProperty value).className? = some value := by
  simp [className?, setProperty]

end Data

end Marginalia
