import Mathlib.Data.List.Basic

/-!
# Nested spans

Spans that contain one another, with notes between their marks, form a forest.  A reader
with a stack finds the forest in the line of its marks when every span is closed by a mark
that belongs to the mark that opened it.
-/

namespace YasinMcp
namespace Foundation

section

variable {opening closing note : Type}

inductive Tree (opening closing note : Type) where
  | leaf (noted : note)
  | span (opened : opening) (inner : List (Tree opening closing note)) (closed : closing)

inductive Mark (opening closing note : Type) where
  | noted (noted : note)
  | opened (opened : opening)
  | closed (closed : closing)
deriving DecidableEq, Repr

namespace Tree

mutual

def marks : Tree opening closing note -> List (Mark opening closing note)
  | .leaf noted => [.noted noted]
  | .span opened inner closed => .opened opened :: (marksOf inner ++ [.closed closed])

def marksOf : List (Tree opening closing note) -> List (Mark opening closing note)
  | [] => []
  | tree :: rest => tree.marks ++ marksOf rest

end

mutual

def Closed (belongs : opening -> closing -> Bool) : Tree opening closing note -> Prop
  | .leaf _ => True
  | .span opened inner closed => belongs opened closed = true ∧ AllClosed belongs inner

def AllClosed (belongs : opening -> closing -> Bool) : List (Tree opening closing note) -> Prop
  | [] => True
  | tree :: rest => tree.Closed belongs ∧ AllClosed belongs rest

end

/--
Read marks, with the spans that are open and the trees before each of them, and the trees
that are done in the innermost one.
-/
def readMarks? (belongs : opening -> closing -> Bool) :
    List (opening × List (Tree opening closing note)) -> List (Tree opening closing note) ->
      List (Mark opening closing note) -> Option (List (Tree opening closing note))
  | [], done, [] => some done
  | _ :: _, _, [] => none
  | pending, done, .noted noted :: rest =>
      readMarks? belongs pending (done ++ [.leaf noted]) rest
  | pending, done, .opened opened :: rest =>
      readMarks? belongs ((opened, done) :: pending) [] rest
  | [], _, .closed _ :: _ => none
  | (opened, before) :: pending, done, .closed closed :: rest =>
      if belongs opened closed then
        readMarks? belongs pending (before ++ [.span opened done closed]) rest
      else none

def readForest? (belongs : opening -> closing -> Bool)
    (line : List (Mark opening closing note)) : Option (List (Tree opening closing note)) :=
  readMarks? belongs [] [] line

theorem marksOf_append (trees others : List (Tree opening closing note)) :
    marksOf (trees ++ others) = marksOf trees ++ marksOf others := by
  induction trees with
  | nil => rfl
  | cons tree rest ih =>
      rw [List.cons_append, marksOf, marksOf, ih, List.append_assoc]

mutual

/-- The marks of a tree are read as the tree. -/
theorem readMarks?_marks {belongs : opening -> closing -> Bool} :
    forall {tree : Tree opening closing note}, tree.Closed belongs -> forall pending done rest,
      readMarks? belongs pending done (tree.marks ++ rest) =
        readMarks? belongs pending (done ++ [tree]) rest
  | .leaf noted, _, pending, done, rest => by
      rw [marks, List.singleton_append, readMarks?]
  | .span opened inner closed, h, pending, done, rest => by
      rw [marks, List.cons_append, readMarks?, List.append_assoc, List.singleton_append,
        readMarks?_marksOf h.2, List.nil_append, readMarks?, if_pos h.1]

theorem readMarks?_marksOf {belongs : opening -> closing -> Bool} :
    forall {trees : List (Tree opening closing note)}, AllClosed belongs trees ->
      forall pending done rest,
        readMarks? belongs pending done (marksOf trees ++ rest) =
          readMarks? belongs pending (done ++ trees) rest
  | [], _, pending, done, rest => by
      rw [marksOf, List.nil_append, List.append_nil]
  | tree :: trees, h, pending, done, rest => by
      rw [marksOf, List.append_assoc, readMarks?_marks h.1, readMarks?_marksOf h.2,
        List.append_assoc]
      rfl

end

/-- A forest whose spans are closed is read from its marks. -/
theorem readForest?_marksOf {belongs : opening -> closing -> Bool}
    {trees : List (Tree opening closing note)} (h : AllClosed belongs trees) :
    readForest? belongs (marksOf trees) = some trees := by
  have hread := readMarks?_marksOf h [] [] []
  rw [List.append_nil, List.nil_append] at hread
  rw [readForest?, hread, readMarks?]

end Tree

end

end Foundation
end YasinMcp
