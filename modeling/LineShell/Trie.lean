/-!
# Prefix trees

A set of words, arranged so that the words with a given beginning are found by walking along that
beginning.

## The model

A node holds the word that ends there, if one does, and leads on to other nodes by single characters, in
no particular order. A tree is its root and a counter of the words that were stored. To find the words
with a given beginning, one walks to the node of the beginning and visits all nodes from there on; the
nodes that are still to be visited are on a stack.
-/

namespace LineShell

/-- A node of a prefix tree. -/
inductive Trie.Node where
  /-- The word that ends at the node, and what follows it by characters. -/
  | mk (word : Option String) (children : List (Char × Trie.Node))

/-- A prefix tree. -/
structure Trie where
  /-- The node at which all words begin. -/
  root : Trie.Node := .mk none []
  /-- The number of words. -/
  size : Nat := 0

namespace Trie

namespace Node

/-- The word that ends at a node. -/
def word : Node → Option String
  | mk word _ => word

/-- What follows a node, by characters. -/
def children : Node → List (Char × Node)
  | mk _ children => children

/-- A node from which nothing was stored. -/
def empty : Node := mk none []

/-- The node that a walk along some characters leads to. -/
def at? : List Char → Node → Option Node
  | [], node => some node
  | c :: cs, node => (node.children.lookup c).bind (at? cs)

/-- The nodes by characters, with another one for a character. -/
def replace (c : Char) (node : Node) : List (Char × Node) → List (Char × Node)
  | [] => [(c, node)]
  | (d, other) :: rest => if d = c then (c, node) :: rest else (d, other) :: replace c node rest

/-- Store a word at the node that a walk leads to, which is made where it is missing; tells whether no
word was there. -/
def store (word : String) : List Char → Node → Node × Bool
  | [], mk none children => (mk (some word) children, true)
  | [], mk (some other) children => (mk (some other) children, false)
  | c :: cs, node =>
    let (child, isNew) := store word cs ((node.children.lookup c).getD empty)
    (mk node.word (replace c child node.children), isNew)

/-- The nodes that follow a node, as they come to lie on a stack. -/
def nexts (node : Node) : List Node := (node.children.map (·.2)).reverse

theorem sizeOf_reverse_append (children : List (Char × Node)) (stack : List Node) :
    sizeOf ((children.map (·.2)).reverse ++ stack) ≤ sizeOf children + sizeOf stack := by
  induction children generalizing stack with
  | nil => simp
  | cons child children ih =>
    obtain ⟨c, node⟩ := child
    have h := ih (node :: stack)
    simp only [List.map_cons, List.reverse_cons, List.append_assoc, List.cons_append, List.nil_append,
      List.cons.sizeOf_spec, Prod.mk.sizeOf_spec] at h ⊢
    omega

theorem sizeOf_nexts_append (node : Node) (stack : List Node) :
    sizeOf (node.nexts ++ stack) < sizeOf (node :: stack) := by
  obtain ⟨word, children⟩ := node
  have h := sizeOf_reverse_append children stack
  simp only [nexts, Node.children, List.cons.sizeOf_spec, mk.sizeOf_spec] at h ⊢
  omega

/-- Visit the nodes on a stack and all that follow them; gives the words that end there besides those that
were found before. -/
def visit : List Node → List String → List String
  | [], found => found
  | node :: stack, found => visit (node.nexts ++ stack) (node.word.elim found found.insert)
termination_by stack => sizeOf stack
decreasing_by exact sizeOf_nexts_append node stack

end Node

/-- The tree with one more word. The empty word is never stored. -/
def insert (t : Trie) (word : String) : Trie :=
  if word.isEmpty then t
  else
    let (root, isNew) := t.root.store word word.toList
    { root, size := if isNew then t.size + 1 else t.size }

/-- The words that begin with `start`, in no particular order. -/
def withPrefix (t : Trie) (start : String) : List String :=
  match t.root.at? start.toList with
  | none => []
  | some node => Node.visit [node] []

/-- The tree holds no word. -/
def isEmpty (t : Trie) : Bool := t.size == 0

/-- The tree without its words. -/
def clear (_ : Trie) : Trie := {}

/-- The tree of all words of a list. -/
def ofList (ws : List String) : Trie := ws.foldl insert {}

/-- A word at its place among words in increasing order. -/
def place (w : String) : List String → List String
  | [] => [w]
  | v :: vs => if w ≤ v then w :: v :: vs else v :: place w vs

/-- Words in increasing order. -/
def sorted (ws : List String) : List String := ws.foldr place []

/-- The words that begin with `start`, in increasing order. -/
def completions (t : Trie) (start : String) : List String := sorted (t.withPrefix start)

end Trie

end LineShell
