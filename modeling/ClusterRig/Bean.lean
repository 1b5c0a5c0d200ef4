import ClusterRig.Sorted

/-!
# Beans

A bean is a class with properties. It identifies a metric exporter, so beans are
ordered, first by class and then by their properties in ascending order.
-/

namespace ClusterRig

structure Bean where
  className : String
  properties : SortedMap String
  deriving DecidableEq

namespace Bean

def named (className : String) : Bean := ⟨className, SortedMap.empty⟩

/-- Set a property, in place of any earlier value. -/
def withProperty (b : Bean) (name value : String) : Bean :=
  { b with properties := b.properties.insert name value }

/-- The bean of a class after setting properties from left to right. -/
def ofProperties (className : String) (properties : List (String × String)) : Bean :=
  properties.foldl (fun b p => b.withProperty p.1 p.2) (named className)

def propertyText (p : String × String) : String := p.1 ++ "=" ++ p.2

def text (b : Bean) : String :=
  b.className ++ "(" ++ ", ".intercalate (b.properties.entries.map propertyText) ++ ")"

/-- Properties are compared by name, then by value. -/
def compareProperty : String × String → String × String → Ordering :=
  compareLex (compareOn Prod.fst) (compareOn Prod.snd)

instance : Std.TransCmp compareProperty :=
  inferInstanceAs (Std.TransCmp (compareLex (compareOn Prod.fst) (compareOn Prod.snd)))

def compareProperties (a b : Bean) : Ordering :=
  List.compareLex compareProperty a.properties.entries b.properties.entries

instance : Std.TransCmp compareProperties where
  eq_swap := by
    intro a b
    have h : Std.OrientedCmp (List.compareLex compareProperty) := inferInstance
    exact h.eq_swap
  isLE_trans := by
    intro a b c
    have h : Std.TransCmp (List.compareLex compareProperty) := inferInstance
    exact h.isLE_trans

def compare : Bean → Bean → Ordering :=
  compareLex (compareOn className) compareProperties

instance : Std.TransCmp compare :=
  inferInstanceAs (Std.TransCmp (compareLex (compareOn className) compareProperties))

end Bean
end ClusterRig
