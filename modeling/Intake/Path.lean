/-!
# Paths

The place of a value inside a request, as declared names and positions in arrays.

Main results:

- {lit}`Path` is a list of steps from the root.
- Definition {lit}`Path.text` writes names set off by points and positions in brackets, which
  theorem {lit}`Path.text_name_cons` says of all steps at once.
-/

namespace Intake

/-- One step of a path. -/
inductive PathStep where
  /-- To the field with this name. -/
  | name (s : String)
  /-- To the item at this position. -/
  | index (n : Nat)
  deriving DecidableEq

/-- The steps from the root. -/
abbrev Path := List PathStep

namespace Path

/-- The place of a field inside the object at this place. -/
def child (path : Path) (name : String) : Path :=
  path ++ [.name name]

/-- The place of an item inside the array at this place. -/
def item (path : Path) (n : Nat) : Path :=
  path ++ [.index n]

/-- The text of a path with one more step; a point goes before a name unless it comes first. -/
def extend (text : String) : PathStep → String
  | .name s => if text.isEmpty then s else text ++ "." ++ s
  | .index n => text ++ "[" ++ toString n ++ "]"

/-- The path as a text. -/
def text (path : Path) : String :=
  path.foldl extend ""

/-- The text of a field's place continues the text of the object's place. -/
theorem text_child (path : Path) (name : String) :
    (path.child name).text = extend path.text (.name name) := by
  simp [text, child]

/-- The text of an item's place continues the text of the array's place. -/
theorem text_item (path : Path) (n : Nat) :
    (path.item n).text = extend path.text (.index n) := by
  simp [text, item]

/-- What a step adds to a text that has begun. -/
def suffix : PathStep → String
  | .name s => "." ++ s
  | .index n => "[" ++ toString n ++ "]"

/-- A text that has begun is continued step by step. -/
theorem foldl_extend {begun : String} (h : begun ≠ "") (path : Path) :
    path.foldl extend begun = begun ++ String.join (path.map suffix) := by
  induction path generalizing begun with
  | nil => simp
  | cons step rest ih =>
    have hstep : extend begun step = begun ++ suffix step := by
      cases step with
      | name s => simp [extend, suffix, h, String.append_assoc]
      | index n => simp [extend, suffix, String.append_assoc]
    have hne : begun ++ suffix step ≠ "" := by
      simp [h]
    rw [List.foldl_cons, hstep, ih hne, List.map_cons, String.join_cons, String.append_assoc]

/-- A place that begins with a name is written as this name and what the steps after it add: a point
before each name, and brackets around each position. -/
theorem text_name_cons {s : String} (h : s ≠ "") (rest : Path) :
    text (.name s :: rest) = s ++ String.join (rest.map suffix) :=
  foldl_extend h rest

end Path

end Intake
