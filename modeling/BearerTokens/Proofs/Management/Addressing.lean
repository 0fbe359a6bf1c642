import BearerTokens.Management.Operations

/-!
# Addresses of management operations

The collection of tokens has one path, and each token has a path behind it.  Such a path
and one of its methods address a management operation, and every management operation
is addressed so.

Main results:

- Definition {lit}`Management.Addressed`: paths and methods of management operations.
- Theorem {lit}`Management.addressed_iff`: they are those that the routes lead to.
-/

namespace BearerTokens

/-! ## Paths of tokens -/

namespace Route

/-- The path of the token that a segment names. -/
def itemPath (segment : List Char) : Http.Path :=
  collectionPath ++ '/' :: segment

/-- The path of a token begins with that of the collection and a slash. -/
theorem itemPath_eq (segment : List Char) :
    itemPath segment = (collectionPath ++ ['/']) ++ segment := by
  rw [itemPath, List.append_assoc, List.singleton_append]

/-- The path of a token has 22 characters before its segment. -/
theorem length_itemPath (segment : List Char) :
    (itemPath segment).length = 22 + segment.length := by
  have hlead : collectionPath.length = 21 := by decide +kernel
  rw [itemPath, List.length_append, List.length_cons, hlead]
  omega

/-- A segment is found behind the path of the collection. -/
theorem segment?_eq_some_iff {path : Http.Path} {segment : List Char} :
    segment? path = some segment ↔ path = itemPath segment ∧ segment ≠ [] ∧ '/' ∉ segment := by
  simp only [segment?, Option.ite_none_right_eq_some, Option.some.injEq]
  constructor
  · rintro ⟨⟨hlead, hne, hslash⟩, rfl⟩
    refine ⟨?_, hne, hslash⟩
    have hsplit := List.take_append_drop (collectionPath ++ ['/']).length path
    rw [hlead] at hsplit
    rw [itemPath_eq]
    exact hsplit.symm
  · rintro ⟨rfl, hne, hslash⟩
    simp only [itemPath_eq, List.take_left, List.drop_left]
    exact ⟨⟨trivial, hne, hslash⟩, trivial⟩

/-- The path of a token is longer than all other paths. -/
theorem itemPath_ne (segment : List Char) {path : Http.Path} (h : path.length ≤ 21) :
    itemPath segment ≠ path := by
  intro heq
  have hlength := congrArg List.length heq
  rw [length_itemPath] at hlength
  omega

/-- The path of a token leads to it. -/
theorem ofPath?_itemPath {segment : List Char} (hne : segment ≠ []) (hslash : '/' ∉ segment) :
    ofPath? (itemPath segment) = some (.item segment) := by
  have hhealth : itemPath segment ≠ "/health".toList := itemPath_ne segment (by decide +kernel)
  have hapi : itemPath segment ≠ "/api/v1/health".toList :=
    itemPath_ne segment (by decide +kernel)
  have hcollection : itemPath segment ≠ collectionPath := itemPath_ne segment (by decide +kernel)
  simp only [ofPath?, hhealth, hapi, hcollection, or_self, if_false,
    segment?_eq_some_iff.mpr ⟨rfl, hne, hslash⟩, Option.map_some]

/-- A path that leads to a token is the path of its segment. -/
theorem eq_itemPath_of_ofPath? {path : Http.Path} {segment : List Char}
    (h : ofPath? path = some (.item segment)) :
    path = itemPath segment ∧ segment ≠ [] ∧ '/' ∉ segment := by
  unfold ofPath? at h
  split at h
  · cases h
  · split at h
    · cases h
    · obtain ⟨found, hfound, hitem⟩ := Option.map_eq_some_iff.mp h
      cases hitem
      exact segment?_eq_some_iff.mp hfound

/-- A path that leads to the collection is its path. -/
theorem eq_collectionPath_of_ofPath? {path : Http.Path} (h : ofPath? path = some .collection) :
    path = collectionPath := by
  unfold ofPath? at h
  split at h
  · cases h
  · split at h
    · assumption
    · obtain ⟨_, _, hitem⟩ := Option.map_eq_some_iff.mp h
      cases hitem

/-- Only the methods of a route ask for anything there. -/
theorem mem_methods_of_operation? {route : Route} {method : String} {operation : Operation}
    (h : route.operation? method = some operation) : method ∈ route.methods := by
  cases route with
  | health =>
    simp only [operation?, Option.ite_none_right_eq_some] at h
    simp only [methods, List.mem_cons, List.not_mem_nil, or_false]
    exact h.1
  | collection =>
    simp only [operation?] at h
    split at h
    · next hread => simp [methods, ← or_assoc, hread]
    · split at h
      · next hcreate => simp [methods, hcreate]
      · cases h
  | item segment =>
    simp only [operation?] at h
    split at h
    · next hread => simp [methods, ← or_assoc, hread]
    · split at h
      · next hrevoke => simp [methods, hrevoke]
      · cases h

end Route

/-! ## Management operations -/

namespace Management

/-- Whether a path and a method address a management operation. -/
inductive Addressed : Http.Path → String → Prop where
  | collection {method : String} : method ∈ ["GET", "HEAD", "POST"] →
    Addressed "/api/v1/access_tokens".toList method
  | item {segment : List Char} {method : String} : segment ≠ [] → '/' ∉ segment →
    method ∈ ["GET", "HEAD", "DELETE"] →
    Addressed (Route.itemPath segment) method

/-- A management operation is addressed exactly where a route leads to one. -/
theorem addressed_iff {path : Http.Path} {method : String} :
    Addressed path method ↔ ∃ route operation, Route.ofPath? path = some route ∧
      route.operation? method = some operation ∧ operation ≠ .health := by
  constructor
  · intro h
    cases h with
    | collection hmethod =>
      refine ⟨.collection, ?_⟩
      simp only [List.mem_cons, List.not_mem_nil, or_false] at hmethod
      obtain rfl | rfl | rfl := hmethod
      · exact ⟨.list, rfl, rfl, by simp⟩
      · exact ⟨.list, rfl, rfl, by simp⟩
      · exact ⟨.create, rfl, rfl, by simp⟩
    | @item segment method hne hslash hmethod =>
      refine ⟨.item segment, ?_⟩
      simp only [List.mem_cons, List.not_mem_nil, or_false] at hmethod
      obtain rfl | rfl | rfl := hmethod
      · exact ⟨.find segment, Route.ofPath?_itemPath hne hslash, rfl, by simp⟩
      · exact ⟨.find segment, Route.ofPath?_itemPath hne hslash, rfl, by simp⟩
      · exact ⟨.revoke segment, Route.ofPath?_itemPath hne hslash, rfl, by simp⟩
  · rintro ⟨route, operation, hroute, hoperation, hmanages⟩
    cases route with
    | health =>
      simp only [Route.operation?, Option.ite_none_right_eq_some, Option.some.injEq] at hoperation
      exact absurd hoperation.2.symm hmanages
    | collection =>
      rw [Route.eq_collectionPath_of_ofPath? hroute]
      exact .collection (Route.mem_methods_of_operation? hoperation)
    | item segment =>
      obtain ⟨rfl, hne, hslash⟩ := Route.eq_itemPath_of_ofPath? hroute
      exact .item hne hslash (Route.mem_methods_of_operation? hoperation)

end Management
end BearerTokens
