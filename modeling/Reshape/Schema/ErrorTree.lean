/-!
# Error trees

Messages filed under dotted routes.  A node holds the messages of its route and, by segment, the
trees below it, in ascending order of the segments; so all problems of a description are reported at
once, each with its place.
-/

namespace Reshape

/-- Messages at a route, and the trees below it by route segment in ascending order. -/
inductive ErrorTree (α : Type) where
  /-- The messages of a route and what is filed below it. -/
  | node (messages : List α) (children : List (String × ErrorTree α))
deriving Inhabited

namespace ErrorTree

variable {α : Type}

/-- No messages. -/
def empty : ErrorTree α := node [] []

/-- The messages of the route itself. -/
def messages : ErrorTree α → List α
  | node ms _ => ms

/-- Record a message here. -/
def add (message : α) : ErrorTree α → ErrorTree α
  | node ms cs => node (ms ++ [message]) cs

/-- Record what an outcome failed with, if it failed. -/
def addResult (outcome : Except α Unit) (tree : ErrorTree α) : ErrorTree α :=
  match outcome with
  | .ok _ => tree
  | .error message => tree.add message

/-- Change the tree below a segment, which is empty if there is none. -/
def changeChild (segment : String) (f : ErrorTree α → ErrorTree α) :
    List (String × ErrorTree α) → List (String × ErrorTree α)
  | [] => [(segment, f empty)]
  | (key, child) :: rest =>
    if segment = key then (key, f child) :: rest
    else if segment < key then (segment, f empty) :: (key, child) :: rest
    else (key, child) :: changeChild segment f rest

/-- Change the tree at a route. -/
def changeAt (f : ErrorTree α → ErrorTree α) : List String → ErrorTree α → ErrorTree α
  | [], tree => f tree
  | segment :: route, node ms cs => node ms (changeChild segment (changeAt f route) cs)

/-- The segments of a dotted route. -/
def segments (route : String) : List String :=
  route.splitOn "."

/-- Record a message below. -/
def addAt (route : String) (message : α) (tree : ErrorTree α) : ErrorTree α :=
  changeAt (add message) (segments route) tree

mutual

/-- The messages of two trees: those of the second follow those of the first at each route. -/
def merge (into : ErrorTree α) : ErrorTree α → ErrorTree α
  | node more added =>
    match into with
    | node ms cs => node (ms ++ more) (mergeChildren cs added)

/-- The messages below a route in two trees. -/
def mergeChildren (into : List (String × ErrorTree α)) :
    List (String × ErrorTree α) → List (String × ErrorTree α)
  | [] => into
  | (key, child) :: rest => mergeChildren (changeChild key (fun old => merge old child) into) rest

end

/-- Merge a tree below a dotted route; the empty route means here. -/
def mergeAt (route : String) (added : ErrorTree α) (tree : ErrorTree α) : ErrorTree α :=
  if route.isEmpty then merge tree added
  else changeAt (fun old => merge old added) (segments route) tree

mutual

/-- Whether there are no messages. -/
def isEmpty : ErrorTree α → Bool
  | node ms cs => ms.isEmpty && childrenEmpty cs

/-- Whether there are no messages below. -/
def childrenEmpty : List (String × ErrorTree α) → Bool
  | [] => true
  | (_, child) :: rest => isEmpty child && childrenEmpty rest

end

mutual

/-- The number of messages. -/
def size : ErrorTree α → Nat
  | node ms cs => ms.length + childrenSize cs

/-- The number of messages below. -/
def childrenSize : List (String × ErrorTree α) → Nat
  | [] => 0
  | (_, child) :: rest => size child + childrenSize rest

end

/-- A route with one more segment. -/
def extend (route segment : String) : String :=
  if route.isEmpty then segment else route ++ "." ++ segment

mutual

/-- Every message with its route, for a tree that is filed at a route. -/
def flattenFrom (route : String) : ErrorTree α → List (String × α)
  | node ms cs => ms.map (fun m => (route, m)) ++ flattenChildren route cs

/-- Every message below a route. -/
def flattenChildren (route : String) : List (String × ErrorTree α) → List (String × α)
  | [] => []
  | (key, child) :: rest => flattenFrom (extend route key) child ++ flattenChildren route rest

end

/-- Every message with its route, in the order of the routes. -/
def flatten (tree : ErrorTree α) : List (String × α) :=
  flattenFrom "" tree

/-- Success if there are no messages, and otherwise the tree. -/
def result (tree : ErrorTree α) : Except (ErrorTree α) Unit :=
  if tree.isEmpty then .ok () else .error tree

end ErrorTree
end Reshape
