/-
Where annotations may be written.

Attribute groups hold items; an item is an annotation, with an expression for
its value, or a plain attribute, with a name.  `Placement.validate` accepts or
rejects the groups written at one place and, when it accepts, answers their
annotations in the order they were written.
-/
import Marginalia.AnnotationError

namespace Marginalia

/-- An item of an attribute group, over some form of expressions. -/
inductive ItemContent (α : Type) where
  | value (expression : α)
  | attribute (name : String)
deriving Repr

/-- An item and where it is written. -/
structure Item (α : Type) where
  location : Location
  content : ItemContent α
deriving Repr

/-- A group of items; a vendor's name before it applies to all of them. -/
structure Group (α : Type) where
  items : List (Item α)
  location : Location
  vendor : Option String := none
deriving Repr

/-- An annotation: an item with its expression. -/
structure AnnotationItem (α : Type) where
  location : Location
  expression : α
deriving Repr

/-- The kinds of places groups are written at. -/
inductive Position where
  | declaration
  | typeSpecifier
  | statement
deriving DecidableEq, Repr

/-- Groups and the construct they would belong to. -/
structure Placement (α : Type) where
  construct : Option Kind
  position : Position
  groups : List (Group α)
deriving Repr

variable {α : Type}

/-- The annotation in an item, if it is one. -/
def Item.carried? (i : Item α) : Option (AnnotationItem α) :=
  match i.content with
  | .value e => some ⟨i.location, e⟩
  | .attribute _ => none

/-- The annotations of a group, left to right. -/
def Group.annotations (g : Group α) : List (AnnotationItem α) := g.items.filterMap Item.carried?

/-- The failure of a group with a vendor's name that holds an annotation. -/
def Group.mixed? (g : Group α) : Option AnnotationError :=
  match g.vendor, g.annotations with
  | some v, a :: _ => some ⟨.mixedGroup v, some a.location⟩
  | _, _ => none

namespace Placement

/-- The annotations of all groups, in the order they are written. -/
def annotations (p : Placement α) : List (AnnotationItem α) := p.groups.flatMap Group.annotations

/-- Why annotations cannot stand at a place, if they cannot. -/
def objection? (p : Placement α) (annotatable : List Kind) : Option Cause :=
  match p.position, p.construct with
  | .typeSpecifier, _ => some .onTypeSpecifier
  | .statement, _ => some .withoutConstruct
  | .declaration, none => some .withoutConstruct
  | .declaration, some k => if k ∈ annotatable then none else some (.kindNotAnnotatable k)

/-- Accepts the annotations of a placement, or says what is wrong with them. -/
def validate (p : Placement α) (annotatable : List Kind) :
    Except AnnotationError (List (AnnotationItem α)) :=
  match p.groups.findSome? Group.mixed? with
  | some e => .error e
  | none =>
    match p.annotations with
    | [] => .ok []
    | a :: rest =>
      match p.objection? annotatable with
      | some c => .error ⟨c, some a.location⟩
      | none => .ok (a :: rest)

end Placement

end Marginalia
