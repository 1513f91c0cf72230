/-!
This module contains finite trees with ordered children: their listing in pre-order and their
rendering as indented text.
-/

namespace CursorQuery

inductive Tree (α : Type) where
  | node (value : α) (children : List (Tree α))

namespace Tree

variable {α β : Type}

def value : Tree α → α
  | node a _ => a

def children : Tree α → List (Tree α)
  | node _ ts => ts

mutual

def map (f : α → β) : Tree α → Tree β
  | node a ts => node (f a) (mapForest f ts)

def mapForest (f : α → β) : List (Tree α) → List (Tree β)
  | [] => []
  | t :: ts => map f t :: mapForest f ts

end

mutual

def size : Tree α → Nat
  | node _ ts => forestSize ts + 1

def forestSize : List (Tree α) → Nat
  | [] => 0
  | t :: ts => size t + forestSize ts

end

theorem forestSize_append (ts us : List (Tree α)) :
    forestSize (ts ++ us) = forestSize ts + forestSize us := by
  induction ts with
  | nil => simp [forestSize]
  | cons t ts ih =>
    simp only [List.cons_append, forestSize, ih]
    omega

mutual

def preorder : Tree α → List α
  | node a ts => a :: forestPreorder ts

def forestPreorder : List (Tree α) → List α
  | [] => []
  | t :: ts => preorder t ++ forestPreorder ts

end

/--
The lines of the trees below a node, `indent` in front of each. A bar continues below every node that
has a later sibling.
-/
def renderForest (indent : String) : List (Tree String) → String
  | [] => ""
  | node label ts :: rest =>
    let deeper := indent ++ (if rest.isEmpty then "   " else "  |")
    indent ++ "  +--" ++ label ++ "\n" ++ renderForest deeper ts ++ renderForest indent rest

def render : Tree String → String
  | node label ts => label ++ "\n" ++ renderForest "" ts

end Tree
end CursorQuery
