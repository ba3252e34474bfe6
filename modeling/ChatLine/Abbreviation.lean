import ChatLine.Text.Lower

set_option autoImplicit false

namespace ChatLine

/-- A name that has offered every character so far. -/
structure Candidate where
  name : String
  /-- The length of the name in lower case. -/
  length : Nat
  /-- How far into the name the characters so far reach. -/
  reach : Nat
  /-- What is left of the name in lower case after them. -/
  rest : List Char
  deriving DecidableEq, Repr

namespace Candidate

/-- A name before any character of the filter. -/
def ofName (name : String) : Candidate :=
  let chars := Text.lower name
  ⟨name, chars.length, 0, chars⟩

/-- The candidate after a further character, if what is left offers it. -/
def advance? (candidate : Candidate) (c : Char) : Option Candidate :=
  match candidate.rest.dropWhile (· != c) with
  | [] => none
  | _ :: rest =>
    some { candidate with
      reach := candidate.reach + (candidate.rest.length - rest.length), rest := rest }

/-- The candidates after a further character: those that offer it, or all when none does. -/
def narrow (candidates : List Candidate) (c : Char) : List Candidate :=
  let narrowed := candidates.filterMap fun candidate => candidate.advance? c
  if narrowed.isEmpty then candidates else narrowed

end Candidate

/-- The elements with the least measure, in order. -/
def leastBy {α : Type} (measure : α → Nat) (values : List α) : List α :=
  match (values.map measure).min? with
  | none => []
  | some least => values.filter fun value => measure value = least

/-- The best matches for a filter, in the order of the names: of the candidates that are left those
whose last place is earliest, and of these the shortest. -/
def bestMatches (names : List String) (filter : String) : List String :=
  let candidates := (Text.lower filter).foldl Candidate.narrow (names.map Candidate.ofName)
  (leastBy Candidate.length (leastBy Candidate.reach candidates)).map Candidate.name

end ChatLine
