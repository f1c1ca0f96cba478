/-!
# Records

What the readers of all formats have to know about an object with a fixed set of attributes:
their order, their names, and how they make up the finished object.  While a record is read, a
draft holds the attributes that have been met so far.
-/

set_option autoImplicit false

namespace DynamicForms

/-- A kind of object with named attributes. -/
structure Record (Attribute Draft α : Type) where
  /-- How messages name the record. -/
  title : String
  /-- The attributes in the order of their positions. -/
  attributes : List Attribute
  /-- The name by which messages call an attribute. -/
  name : Attribute → String
  /-- The attribute of a name; several names may stand for one. -/
  ofName? : String → Option Attribute
  /-- The draft before anything is read. -/
  start : Draft
  /-- Whether an attribute has been met. -/
  has : Draft → Attribute → Bool
  /-- The finished object, or the first attribute that it cannot do without. -/
  finish : Draft → Except Attribute α

end DynamicForms
