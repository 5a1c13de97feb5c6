import Mathlib.Data.List.Basic

/-!
Patricia trees over keys of bits. A tree is committed to by the hash of its root,
and a table of nodes by their hashes lets a reader follow a key from the root to
its value, or to where the tree shows that there is none. The nodes on the way are
all that the table needs.
-/

namespace Snip36.Library.PatriciaTree

variable {V H : Type}

/-- An inner node, with its children by their hashes. An edge skips the bits of its
path. -/
inductive Node (H : Type) where
  | binary (left right : H)
  | edge (path : List Bool) (child : H)
  deriving DecidableEq

/-- A tree that is not empty. -/
inductive Trie (V : Type) where
  | leaf (value : V)
  | binary (left right : Trie V)
  | edge (path : List Bool) (child : Trie V)
  deriving DecidableEq

structure Hashing (V H : Type) where
  leaf : V → H
  node : Node H → H

namespace Trie

/-- All keys have this many bits. -/
def Fits : Trie V → Nat → Prop
  | .leaf _, height => height = 0
  | .binary left right, height => ∃ below, height = below + 1 ∧ left.Fits below ∧ right.Fits below
  | .edge path child, height => path ≠ [] ∧ ∃ below, height = path.length + below ∧ child.Fits below

def hash (hashing : Hashing V H) : Trie V → H
  | .leaf value => hashing.leaf value
  | .binary left right => hashing.node (.binary (left.hash hashing) (right.hash hashing))
  | .edge path child => hashing.node (.edge path (child.hash hashing))

/-- What stands in the table for the tree. -/
def node? (hashing : Hashing V H) : Trie V → Option (Node H)
  | .leaf _ => none
  | .binary left right => some (.binary (left.hash hashing) (right.hash hashing))
  | .edge path child => some (.edge path (child.hash hashing))

def lookup : Trie V → List Bool → Option V
  | .leaf value, _ => some value
  | .binary _ _, [] => none
  | .binary left right, bit :: key => if bit then right.lookup key else left.lookup key
  | .edge path child, key =>
      if path.isPrefixOf key then child.lookup (key.drop path.length) else none

/-- The trees whose roots are on the way to a key, without the leaf. -/
def visited : Trie V → List Bool → List (Trie V)
  | .leaf _, _ => []
  | .binary left right, [] => [.binary left right]
  | .binary left right, bit :: key =>
      .binary left right :: if bit then right.visited key else left.visited key
  | .edge path child, key =>
      .edge path child ::
        if path.isPrefixOf key then child.visited (key.drop path.length) else []

/-- A tree on the way is no higher than the whole. -/
theorem Fits.of_mem_visited {t s : Trie V} {height : Nat} (h : t.Fits height) {key : List Bool}
    (hs : s ∈ t.visited key) : ∃ below ≤ height, s.Fits below := by
  induction t generalizing height key with
  | leaf value => cases hs
  | binary left right ihl ihr =>
      obtain ⟨below, rfl, hleft, hright⟩ := h
      have hself : (Trie.binary left right).Fits (below + 1) := ⟨below, rfl, hleft, hright⟩
      cases key with
      | nil =>
          obtain rfl := List.mem_singleton.mp hs
          exact ⟨below + 1, Nat.le_refl _, hself⟩
      | cons bit key =>
          rw [visited, List.mem_cons] at hs
          rcases hs with rfl | hs
          · exact ⟨below + 1, Nat.le_refl _, hself⟩
          · have hbelow : ∃ n ≤ below, s.Fits n := by
              cases bit with
              | true => exact ihr hright hs
              | false => exact ihl hleft hs
            obtain ⟨n, hn, hfits⟩ := hbelow
            exact ⟨n, Nat.le_succ_of_le hn, hfits⟩
  | edge path child ih =>
      obtain ⟨hpath, below, rfl, hchild⟩ := h
      rw [visited, List.mem_cons] at hs
      rcases hs with rfl | hs
      · exact ⟨path.length + below, Nat.le_refl _, hpath, below, rfl, hchild⟩
      · split at hs
        · obtain ⟨n, hn, hfits⟩ := ih hchild hs
          exact ⟨n, Nat.le_trans hn (Nat.le_add_left _ _), hfits⟩
        · cases hs

end Trie

/-- Follow a key from a hash. The answer is the hash of a leaf, or that there is
none; a node that is not in the table gives no answer. -/
def walk (facts : H → Option (Node H)) : Nat → H → List Bool → Option (Option H)
  | _, hash, [] => some (some hash)
  | 0, _, _ :: _ => none
  | fuel + 1, hash, bit :: key =>
      match facts hash with
      | none => none
      | some (.binary left right) => walk facts fuel (if bit then right else left) key
      | some (.edge path child) =>
          if path.isPrefixOf (bit :: key) then
            walk facts fuel child ((bit :: key).drop path.length)
          else some none

section Walk

variable {hashing : Hashing V H} {facts : H → Option (Node H)}

/-- With the nodes on the way, the walk finds what the tree has. -/
theorem walk_hash {t : Trie V} {key : List Bool} (hfits : t.Fits key.length) {fuel : Nat}
    (hfuel : key.length ≤ fuel)
    (hfacts : ∀ s ∈ t.visited key, facts (s.hash hashing) = s.node? hashing) :
    walk facts fuel (t.hash hashing) key = some ((t.lookup key).map hashing.leaf) := by
  induction t generalizing key fuel with
  | leaf value =>
      obtain rfl := List.eq_nil_of_length_eq_zero hfits
      rw [walk]
      rfl
  | binary left right ihl ihr =>
      obtain ⟨below, hlength, hleft, hright⟩ := hfits
      cases key with
      | nil => cases hlength
      | cons bit key =>
          rw [List.length_cons, Nat.add_right_cancel_iff] at hlength
          subst hlength
          cases fuel with
          | zero => cases hfuel
          | succ fuel =>
              have hnow := hfacts (.binary left right) (by simp [Trie.visited])
              rw [List.length_cons, Nat.add_le_add_iff_right] at hfuel
              rw [walk, hnow]
              cases bit with
              | true => exact ihr hright hfuel fun s hs => hfacts s (List.mem_cons_of_mem _ hs)
              | false => exact ihl hleft hfuel fun s hs => hfacts s (List.mem_cons_of_mem _ hs)
  | edge path child ih =>
      obtain ⟨hpath, below, hlength, hchild⟩ := hfits
      have hpositive := List.length_pos_iff.mpr hpath
      cases key with
      | nil =>
          rw [List.length_nil] at hlength
          omega
      | cons bit key =>
          cases fuel with
          | zero => cases hfuel
          | succ fuel =>
              have hnow := hfacts (.edge path child) (by simp [Trie.visited])
              rw [walk, hnow, Trie.lookup]
              simp only [Trie.node?]
              by_cases hprefix : path.isPrefixOf (bit :: key)
              · have hdrop : ((bit :: key).drop path.length).length = below := by
                  rw [List.length_drop]
                  omega
                rw [if_pos hprefix, if_pos hprefix]
                apply ih
                · rw [hdrop]
                  exact hchild
                · rw [hdrop]
                  omega
                · intro s hs
                  apply hfacts s
                  rw [Trie.visited, if_pos hprefix]
                  exact List.mem_cons_of_mem _ hs
              · rw [if_neg hprefix, if_neg hprefix]
                rfl

end Walk

/-! ### Whole trees -/

/-- A tree for keys of one length. The empty tree has a hash that no other has. -/
structure Tree (hashing : Hashing V H) (emptyHash : H) (height : Nat) where
  root : Option (Trie V)
  fits : ∀ t ∈ root, t.Fits height
  hash_ne : ∀ t ∈ root, t.hash hashing ≠ emptyHash

/-- What a table shows of a key under a root. -/
def find [DecidableEq H] (facts : H → Option (Node H)) (emptyHash rootHash : H)
    (key : List Bool) : Option (Option H) :=
  if rootHash = emptyHash then some none else walk facts key.length rootHash key

namespace Tree

variable {hashing : Hashing V H} {emptyHash : H} {height : Nat}

def rootHash (tree : Tree hashing emptyHash height) : H :=
  (tree.root.map (Trie.hash hashing)).getD emptyHash

def lookup (tree : Tree hashing emptyHash height) (key : List Bool) : Option V :=
  tree.root.bind fun t => t.lookup key

def visited (tree : Tree hashing emptyHash height) (key : List Bool) : List (Trie V) :=
  (tree.root.map fun t => t.visited key).getD []

/-- The hashes of the nodes on the way to a key. -/
def path (tree : Tree hashing emptyHash height) (key : List Bool) : List H :=
  (tree.visited key).map (Trie.hash hashing)

theorem fits_of_mem_visited (tree : Tree hashing emptyHash height) {key : List Bool} {s : Trie V}
    (hs : s ∈ tree.visited key) : ∃ below ≤ height, s.Fits below := by
  rcases tree with ⟨_ | t, hfits, hne⟩
  · cases hs
  · exact (hfits t rfl).of_mem_visited hs

/-- A table with the nodes on the way to a key shows what the tree has there. -/
theorem find_rootHash [DecidableEq H] (tree : Tree hashing emptyHash height)
    {facts : H → Option (Node H)} {key : List Bool} (hkey : key.length = height)
    (hfacts : ∀ s ∈ tree.visited key, facts (s.hash hashing) = s.node? hashing) :
    find facts emptyHash tree.rootHash key = some ((tree.lookup key).map hashing.leaf) := by
  rcases tree with ⟨_ | t, hfits, hne⟩
  · simp [find, rootHash, lookup]
  · have hroot : t.hash hashing ≠ emptyHash := hne t rfl
    rw [find, rootHash, Option.map_some, Option.getD_some, if_neg hroot]
    apply walk_hash
    · rw [hkey]
      exact hfits t rfl
    · exact Nat.le_refl _
    · exact hfacts

end Tree

end Snip36.Library.PatriciaTree
