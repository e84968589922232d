import StackCompiler.Text.Quoted

/-!
# Enumerations with names

Operations, segments and policies are given by name.  Each of them is a short
list of items with different names, and a word is looked up in the same way in
all three: it stands for the item that it names, or it is unknown.
-/

namespace StackCompiler

/-- A name outside an enumeration. -/
structure UnknownName where
  enumeration : String
  name : String
  deriving DecidableEq, Repr

def UnknownName.message (unknown : UnknownName) : String :=
  Text.quote unknown.name ++ " is not a valid " ++ unknown.enumeration

/-- A list of all items of a type, with names that tell them apart. -/
structure Enumeration (Item : Type) where
  /-- What the enumeration is called in messages. -/
  title : String
  items : List Item
  name : Item → String
  complete : ∀ item, item ∈ items
  distinct : ∀ first second, name first = name second → first = second

namespace Enumeration

variable {Item : Type} (enumeration : Enumeration Item)

def ofName? (word : String) : Option Item :=
  enumeration.items.find? fun item => enumeration.name item == word

/-- The item that a word names, or the unknown word. -/
def named (word : String) : Except UnknownName Item :=
  match enumeration.ofName? word with
  | some item => .ok item
  | none => .error ⟨enumeration.title, word⟩

variable {enumeration}

/-- A word stands for the item whose name it is. -/
theorem ofName?_eq_some_iff {word : String} {item : Item} :
    enumeration.ofName? word = some item ↔ word = enumeration.name item := by
  constructor
  · intro found
    exact (eq_of_beq (List.find?_some found :)).symm
  · rintro rfl
    cases found : enumeration.ofName? (enumeration.name item) with
    | none =>
        have unnamed := List.find?_eq_none.mp found item (enumeration.complete item)
        simp at unnamed
    | some other =>
        have same : enumeration.name other = enumeration.name item :=
          eq_of_beq (List.find?_some found :)
        rw [enumeration.distinct other item same]

theorem ofName?_ofList_eq_some_iff {word : List Char} {item : Item} :
    enumeration.ofName? (String.ofList word) = some item ↔
      word = (enumeration.name item).toList := by
  rw [ofName?_eq_some_iff, ← String.toList_inj, String.toList_ofList]

end Enumeration

end StackCompiler
