import Mathlib.Data.List.Basic

/-!
# Routing requests by method and path

A router is a list of routes, each with a method, a path pattern and a handler.
A pattern is written like a path; a segment that starts with a colon captures
one segment of the path, every other segment matches itself only.

A path is split at its slashes, so what is concatenated behind a slash is
matched by the rest of the pattern.
-/

namespace NuxAuth.Lib.PathRouting

universe u

/-- The methods of requests; those without a name of their own are named by
their text. -/
inductive Method where
  | get
  | head
  | post
  | put
  | delete
  | patch
  | options
  | other (name : String)
deriving DecidableEq

/-- A route serves its own method, and a route for GET serves HEAD too. -/
def Method.serves (route asked : Method) : Bool :=
  route = asked || (route = .get && asked = .head)

/-- The segments of a path: the texts between its slashes. -/
def segments : List Char → List (List Char)
  | [] => [[]]
  | letter :: rest =>
      if letter = '/' then [] :: segments rest
      else
        match segments rest with
        | [] => [[letter]]
        | first :: others => (letter :: first) :: others

/-- One segment of a pattern. -/
inductive Segment where
  | literal (text : List Char)
  | capture (name : List Char)
deriving DecidableEq

/-- A segment of a pattern, as it is written. -/
def Segment.ofText : List Char → Segment
  | ':' :: name => .capture name
  | text => .literal text

/-- A pattern, as it is written. -/
def pattern (text : String) : List Segment :=
  (segments text.toList).map Segment.ofText

/-- What the captures of a pattern are bound to, by name. -/
abbrev Captures := List (List Char × List Char)

/-- A literal matches itself, a capture matches one segment that is not empty. -/
def matchSegments : List Segment → List (List Char) → Option Captures
  | [], [] => some []
  | .literal text :: pattern, segment :: path =>
      if segment = text then matchSegments pattern path else none
  | .capture name :: pattern, segment :: path =>
      if segment = [] then none
      else (matchSegments pattern path).map fun rest => (name, segment) :: rest
  | _, _ => none

/-- What a router serves: a method, a pattern and who answers. -/
structure Route (Handler : Type u) where
  method : Method
  path : String
  handler : Handler

/-- Where a request ends: at no route, at a route for other methods, or at a
handler. -/
inductive Dispatch (Handler : Type u) where
  | notFound
  | methodNotAllowed
  | handled (handler : Handler) (captures : Captures)
deriving DecidableEq

variable {Handler : Type u}

/-- The first route whose path matches decides. -/
def dispatch (routes : List (Route Handler)) (method : Method) (path : String) :
    Dispatch Handler :=
  match routes with
  | [] => .notFound
  | route :: others =>
      match matchSegments (pattern route.path) (segments path.toList) with
      | none => dispatch others method path
      | some captures =>
          if route.method.serves method then .handled route.handler captures
          else .methodNotAllowed

/-- The route that decides, with what its pattern captures. -/
def routeOf (routes : List (Route Handler)) (path : String) :
    Option (Route Handler × Captures) :=
  match routes with
  | [] => none
  | route :: others =>
      match matchSegments (pattern route.path) (segments path.toList) with
      | none => routeOf others path
      | some captures => some (route, captures)

/-! ## Splitting a path -/

theorem segments_ne_nil (path : List Char) : segments path ≠ [] := by
  cases path with
  | nil => exact List.cons_ne_nil _ _
  | cons letter rest =>
      rw [segments]
      split
      · exact List.cons_ne_nil _ _
      · split
        · exact List.cons_ne_nil _ _
        · exact List.cons_ne_nil _ _

/-- A slash ends the segments before it. -/
theorem segments_append_slash (front back : List Char) :
    segments (front ++ '/' :: back) = segments front ++ segments back := by
  induction front with
  | nil => rfl
  | cons letter front induction =>
      rw [List.cons_append, segments, segments]
      split
      · rw [induction]
        rfl
      · rw [induction]
        cases split : segments front with
        | nil => exact absurd split (segments_ne_nil front)
        | cons first others => rfl

/-- A text without a slash is one segment. -/
theorem segments_of_no_slash {text : List Char} (plain : '/' ∉ text) :
    segments text = [text] := by
  induction text with
  | nil => rfl
  | cons letter rest induction =>
      have other : letter ≠ '/' := fun same => plain (by simp [same])
      have tail : '/' ∉ rest := fun member => plain (by simp [member])
      rw [segments, if_neg other, induction tail]

/-! ## Dispatching -/

theorem Method.serves_iff {route asked : Method} :
    route.serves asked = true ↔
      asked = route ∨ (route = .get ∧ asked = .head) := by
  rw [eq_comm (a := asked)]
  simp only [Method.serves, Bool.or_eq_true, Bool.and_eq_true,
    decide_eq_true_eq]

/-- A path that no pattern matches reaches no handler. -/
theorem dispatch_eq_notFound {routes : List (Route Handler)} {method : Method}
    {path : String}
    (unmatched : ∀ route ∈ routes,
      matchSegments (pattern route.path) (segments path.toList) = none) :
    dispatch routes method path = .notFound := by
  induction routes with
  | nil => rfl
  | cons route others induction =>
      rw [dispatch, unmatched route List.mem_cons_self]
      exact induction fun other member =>
        unmatched other (List.mem_cons_of_mem _ member)

/-- Dispatching is comparing the method of the deciding route. -/
theorem dispatch_eq_routeOf (routes : List (Route Handler)) (method : Method)
    (path : String) :
    dispatch routes method path =
      match routeOf routes path with
      | none => .notFound
      | some (route, captures) =>
          if route.method.serves method then .handled route.handler captures
          else .methodNotAllowed := by
  induction routes with
  | nil => rfl
  | cons route others induction =>
      rw [dispatch, routeOf]
      cases matchSegments (pattern route.path) (segments path.toList) with
      | none => exact induction
      | some captures => rfl

theorem routeOf_mem {routes : List (Route Handler)} {path : String}
    {route : Route Handler} {captures : Captures}
    (found : routeOf routes path = some (route, captures)) :
    route ∈ routes ∧
      matchSegments (pattern route.path) (segments path.toList) =
        some captures := by
  induction routes with
  | nil => cases found
  | cons first others induction =>
      rw [routeOf] at found
      split at found
      · rcases induction found with ⟨member, matched⟩
        exact ⟨List.mem_cons_of_mem _ member, matched⟩
      · rename_i matched
        cases found
        exact ⟨List.mem_cons_self, matched⟩

/-- A path differs from a pattern where they agree up to a literal that does
not match. -/
theorem matchSegments_literal_ne {text segment : List Char}
    (different : segment ≠ text) (front : List (List Char))
    (pattern : List Segment) (path : List (List Char)) :
    matchSegments (front.map Segment.literal ++ .literal text :: pattern)
      (front ++ segment :: path) = none := by
  induction front with
  | nil => exact if_neg different
  | cons first front induction =>
      rw [List.map_cons, List.cons_append, List.cons_append, matchSegments,
        if_pos rfl]
      exact induction

/-- A capture at the end of the pattern takes the rest of the path. -/
theorem matchSegments_capture {name text : List Char} (nonempty : text ≠ [])
    (front : List (List Char)) :
    matchSegments (front.map Segment.literal ++ [.capture name])
      (front ++ [text]) = some [(name, text)] := by
  induction front with
  | nil => exact if_neg nonempty
  | cons first front induction =>
      rw [List.map_cons, List.cons_append, List.cons_append, matchSegments,
        if_pos rfl]
      exact induction

end NuxAuth.Lib.PathRouting
