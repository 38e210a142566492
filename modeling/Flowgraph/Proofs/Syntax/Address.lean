import Flowgraph.Function.Complexity
import Mathlib.Data.List.Nodup

/-!
# Addresses in a syntax tree

A node of a tree is told apart from others like it by its address, the numbers of the children on
the way down to it. Each node has one address and no other has the same, so the nodes that divide
the path through a piece of code can be listed by address, each once.
-/

namespace Flowgraph

namespace SyntaxTree

def at? : SyntaxTree → List Nat → Option SyntaxTree
  | t, [] => some t
  | t, i :: rest => t.children[i]?.bind fun child => child.at? rest

@[simp] theorem at?_nil (t : SyntaxTree) : t.at? [] = some t := rfl

theorem at?_cons (t : SyntaxTree) (i : Nat) (rest : List Nat) :
    t.at? (i :: rest) = t.children[i]?.bind fun child => child.at? rest := rfl

theorem at?_append (t : SyntaxTree) (first rest : List Nat) :
    t.at? (first ++ rest) = (t.at? first).bind fun part => part.at? rest := by
  induction first generalizing t with
  | nil => rfl
  | cons i first ih =>
      rw [List.cons_append, at?_cons, at?_cons]
      cases t.children[i]? with
      | none => rfl
      | some child => exact ih child

mutual

def addressed : SyntaxTree → List (List Nat × SyntaxTree)
  | .node info children => ([], .node info children) :: addressedFrom 0 children

def addressedFrom (i : Nat) : List SyntaxTree → List (List Nat × SyntaxTree)
  | [] => []
  | t :: rest => (addressed t).map (fun x => (i :: x.1, x.2)) ++ addressedFrom (i + 1) rest

end

mutual

theorem map_snd_addressed (t : SyntaxTree) : t.addressed.map Prod.snd = t.preorder :=
  match t with
  | .node info children => by
      rw [addressed, preorder, List.map_cons, map_snd_addressedFrom 0 children]

theorem map_snd_addressedFrom (i : Nat) (children : List SyntaxTree) :
    (addressedFrom i children).map Prod.snd = preorderAll children :=
  match children with
  | [] => rfl
  | t :: rest => by
      have first : (t.addressed.map fun x => (i :: x.1, x.2)).map Prod.snd = t.preorder := by
        rw [List.map_map, ← map_snd_addressed t]
        rfl
      rw [addressedFrom, preorderAll, List.map_append, first, map_snd_addressedFrom (i + 1) rest]

end

theorem mem_addressedFrom {i : Nat} {children : List SyntaxTree} {address : List Nat}
    {u : SyntaxTree} :
    (address, u) ∈ addressedFrom i children ↔
      ∃ k child rest, children[k]? = some child ∧ address = (i + k) :: rest ∧
        (rest, u) ∈ child.addressed := by
  induction children generalizing i with
  | nil => simp [addressedFrom]
  | cons t more ih =>
      simp only [addressedFrom, List.mem_append, List.mem_map, Prod.mk.injEq, Prod.exists, ih]
      constructor
      · rintro (⟨rest, _, member, rfl, rfl⟩ | ⟨k, child, rest, atChild, rfl, member⟩)
        · exact ⟨0, t, rest, rfl, rfl, member⟩
        · exact ⟨k + 1, child, rest, atChild, by rw [Nat.add_right_comm, Nat.add_assoc], member⟩
      · rintro ⟨k, child, rest, atChild, rfl, member⟩
        cases k with
        | zero =>
            obtain rfl : t = child := Option.some.inj atChild
            exact .inl ⟨rest, u, member, rfl, rfl⟩
        | succ k =>
            exact .inr ⟨k, child, rest, atChild, by rw [Nat.add_right_comm, Nat.add_assoc], member⟩

theorem mem_addressed {t u : SyntaxTree} {address : List Nat} :
    (address, u) ∈ t.addressed ↔ t.at? address = some u := by
  induction address generalizing t with
  | nil =>
      obtain ⟨info, children⟩ := t
      simp [addressed, mem_addressedFrom, eq_comm]
  | cons i rest ih =>
      obtain ⟨info, children⟩ := t
      have notHere : (i :: rest, u) ≠ ([], node info children) := by simp
      rw [addressed, List.mem_cons, or_iff_right notHere, mem_addressedFrom, at?_cons]
      constructor
      · rintro ⟨k, child, more, atChild, same, member⟩
        obtain ⟨rfl, rfl⟩ := List.cons.inj same
        rw [Nat.zero_add, children_node, atChild]
        exact ih.1 member
      · intro found
        obtain ⟨child, atChild, found⟩ := Option.bind_eq_some_iff.1 found
        exact ⟨i, child, rest, atChild, by rw [Nat.zero_add], ih.2 found⟩

mutual

theorem nodup_addressed (t : SyntaxTree) : (t.addressed.map Prod.fst).Nodup :=
  match t with
  | .node info children => by
      rw [addressed, List.map_cons, List.nodup_cons]
      refine ⟨?_, nodup_addressedFrom 0 children⟩
      intro below
      obtain ⟨⟨_, u⟩, member, same⟩ := List.mem_map.1 below
      obtain ⟨k, _, rest, -, rfl, -⟩ := mem_addressedFrom.1 member
      cases same

theorem nodup_addressedFrom (i : Nat) (children : List SyntaxTree) :
    ((addressedFrom i children).map Prod.fst).Nodup :=
  match children with
  | [] => List.nodup_nil
  | t :: rest => by
      have first : (t.addressed.map fun x => (i :: x.1, x.2)).map Prod.fst =
          (t.addressed.map Prod.fst).map (i :: ·) := by
        rw [List.map_map, List.map_map]
        rfl
      rw [addressedFrom, List.map_append, first, List.nodup_append]
      refine ⟨(nodup_addressed t).map fun _ _ same => (List.cons.inj same).2,
        nodup_addressedFrom (i + 1) rest, ?_⟩
      intro early inFirst late inRest
      obtain ⟨_, -, rfl⟩ := List.mem_map.1 inFirst
      obtain ⟨⟨_, u⟩, member, rfl⟩ := List.mem_map.1 inRest
      obtain ⟨k, _, _, -, rfl, -⟩ := mem_addressedFrom.1 member
      intro same
      have number := (List.cons.inj same).1
      omega

end

/-! ## The nodes that divide the path -/

mutual

/-- The addresses of the nodes that divide the path, each before those within it. -/
def decisionSites : SyntaxTree → List (List Nat)
  | .node info children =>
      (if (node info children).isDecision then [[]] else []) ++ decisionSitesFrom 0 children

def decisionSitesFrom (i : Nat) : List SyntaxTree → List (List Nat)
  | [] => []
  | t :: rest => (decisionSites t).map (i :: ·) ++ decisionSitesFrom (i + 1) rest

end

mutual

theorem decisionSites_eq (t : SyntaxTree) :
    t.decisionSites = (t.addressed.filter (·.2.isDecision)).map Prod.fst :=
  match t with
  | .node info children => by
      rw [decisionSites, addressed, List.filter_cons, decisionSitesFrom_eq 0 children]
      split <;> rfl

/-- The nodes that divide the path are some of the nodes. -/
theorem decisionSitesFrom_eq (i : Nat) (children : List SyntaxTree) :
    decisionSitesFrom i children =
      ((addressedFrom i children).filter (·.2.isDecision)).map Prod.fst :=
  match children with
  | [] => rfl
  | t :: rest => by
      rw [decisionSitesFrom, addressedFrom, List.filter_append, List.map_append, List.filter_map,
        decisionSites_eq t, decisionSitesFrom_eq (i + 1) rest, List.map_map, List.map_map]
      rfl

end

theorem mem_decisionSites {t : SyntaxTree} {address : List Nat} :
    address ∈ t.decisionSites ↔ ∃ u, t.at? address = some u ∧ u.isDecision = true := by
  simp [decisionSites_eq, mem_addressed]

theorem nodup_decisionSites (t : SyntaxTree) : t.decisionSites.Nodup := by
  rw [decisionSites_eq]
  exact (nodup_addressed t).sublist (List.filter_sublist.map Prod.fst)

mutual

theorem countP_preorder (t : SyntaxTree) : t.preorder.countP isDecision = t.decisions :=
  match t with
  | .node info children => by
      rw [preorder, decisions, List.countP_cons, countP_preorderAll children, Nat.add_comm]

/-- Every node of a tree that divides the path is counted once. -/
theorem countP_preorderAll (trees : List SyntaxTree) :
    (preorderAll trees).countP isDecision = decisionsAmong trees :=
  match trees with
  | [] => rfl
  | t :: rest => by
      rw [preorderAll, decisionsAmong, List.countP_append, countP_preorder t,
        countP_preorderAll rest]

end

theorem length_decisionSites (t : SyntaxTree) : t.decisionSites.length = t.decisions := by
  rw [← countP_preorder, ← map_snd_addressed, List.countP_map, decisionSites_eq, List.length_map,
    List.countP_eq_length_filter]
  rfl

end SyntaxTree

end Flowgraph
