import ResourceRouting.Uri.Component

/-!
# The pieces of a URI

The generic syntax of a URI divides a text at delimiters: each component ends at the first character
that cannot stand in it.  Pieces that hold none of these characters are what their text is divided
into.
-/

namespace ResourceRouting
namespace Uri

namespace Component

/-- The characters at which a component of a URI ends. -/
def delimiters : Component → List Char
  | scheme => [':', '/', '?', '#']
  | userInfo => ['/', '?', '#']
  | host => ['/', '?', '#']
  | port => ['/', '?', '#']
  | path => ['?', '#']
  | pathSegment => ['?', '#']
  | query => ['#']
  | fragment => []

/-- The place of a component in a URI. -/
def rank : Component → Nat
  | scheme => 0
  | userInfo => 1
  | host => 2
  | port => 3
  | path => 4
  | pathSegment => 4
  | query => 5
  | fragment => 6

/-- Whether a text holds none of the characters at which a component ends. -/
def Avoids (component : Component) (text : Text) : Prop :=
  ∀ character ∈ text, character ∉ component.delimiters

instance (component : Component) (text : Text) : Decidable (component.Avoids text) :=
  List.decidableBAll (· ∉ component.delimiters) text

/-- Whether a component ends where a text begins. -/
def EndsAt (component : Component) (rest : Text) : Prop :=
  ∀ character ∈ rest.head?, character ∈ component.delimiters

variable {component first second : Component}

theorem avoids_nil : component.Avoids [] :=
  fun _ present => absurd present List.not_mem_nil

theorem endsAt_nil : component.EndsAt [] :=
  fun _ present => nomatch present

theorem endsAt_cons {character : Char} (delimits : character ∈ component.delimiters) (rest : Text) :
    component.EndsAt (character :: rest) := by
  rintro _ ⟨⟩
  exact delimits

@[simp]
theorem avoids_append {front rest : Text} :
    component.Avoids (front ++ rest) ↔ component.Avoids front ∧ component.Avoids rest := by
  simp [Avoids, or_imp, forall_and]

/-- A component that stands further behind does not end at more characters. -/
theorem delimiters_subset (ordered : first.rank ≤ second.rank) :
    second.delimiters ⊆ first.delimiters := by
  revert ordered
  cases first <;> cases second <;> decide

/-- A text is cut where a component ends. -/
def cut (component : Component) (text : Text) : Text × Text :=
  (text.takeWhile (!component.delimiters.contains ·),
    text.dropWhile (!component.delimiters.contains ·))

theorem cut_append
    {text rest : Text}
    (avoids : component.Avoids text)
    (ends : component.EndsAt rest) :
    component.cut (text ++ rest) = (text, rest) := by
  have inside : ∀ character ∈ text, (!component.delimiters.contains character) = true := by
    intro character present
    simpa using avoids character present
  rw [cut, List.takeWhile_append_of_pos inside, List.dropWhile_append_of_pos inside]
  cases rest with
  | nil => simp
  | cons character rest =>
      have delimits := ends character rfl
      simp [delimits]

/-- What follows a mark is cut where a component ends, if the mark is there. -/
def cutBehind (mark : Text) (component : Component) (text : Text) : Option Text × Text :=
  if mark <+: text then
    (component.cut (text.drop mark.length)).map some id
  else
    (none, text)

/-- A piece behind its mark is cut off, and a piece that is not there is not. -/
theorem cutBehind_elim
    {piece : Option Text}
    {rest : Text}
    (mark : Text)
    (avoids : ∀ text ∈ piece, component.Avoids text)
    (ends : component.EndsAt rest)
    (absent : piece = none → ¬ mark <+: rest) :
    component.cutBehind mark (piece.elim [] (mark ++ ·) ++ rest) = (piece, rest) := by
  rw [cutBehind]
  cases piece with
  | none => exact if_neg (absent rfl)
  | some text =>
      rw [Option.elim_some, List.append_assoc, if_pos (List.prefix_append _ _), List.drop_left,
        cut_append (avoids text rfl) ends]
      rfl

end Component

/-- The pieces that a URI is divided into. -/
structure Pieces where
  /-- What stands before the first colon, if that comes before all other delimiters. -/
  scheme : Option Text
  /-- What follows two slashes, up to the next delimiter. -/
  authority : Option Text
  /-- What follows, up to a question mark or a number sign. -/
  path : Text
  /-- What follows a question mark, up to a number sign. -/
  query : Option Text
  /-- What follows a number sign. -/
  fragment : Option Text
  deriving DecidableEq, Repr

namespace Pieces

/-- The scheme before its colon, and what follows. -/
def splitScheme (text : Text) : Option Text × Text :=
  match Component.scheme.cut text with
  | (first :: scheme, ':' :: rest) => (some (first :: scheme), rest)
  | _ => (none, text)

/-- Divides a text by the generic syntax of a URI. -/
def split (text : Text) : Pieces :=
  let scheme := splitScheme text
  let authority := Component.host.cutBehind ['/', '/'] scheme.2
  let path := Component.path.cut authority.2
  let query := Component.query.cutBehind ['?'] path.2
  let fragment := Component.fragment.cutBehind ['#'] query.2
  ⟨scheme.1, authority.1, path.1, query.1, fragment.1⟩

/-- The text that some pieces make up. -/
def text (pieces : Pieces) : Text :=
  pieces.scheme.elim [] (· ++ [':']) ++
    (pieces.authority.elim [] (['/', '/'] ++ ·) ++
      (pieces.path ++ (pieces.query.elim [] (['?'] ++ ·) ++ pieces.fragment.elim [] (['#'] ++ ·))))

/-- Pieces with an authority that end where the generic syntax ends them. -/
structure IsProper (pieces : Pieces) : Prop where
  /-- A scheme is not empty. -/
  named : pieces.scheme ≠ some []
  /-- The scheme holds no delimiter. -/
  scheme : ∀ scheme ∈ pieces.scheme, Component.scheme.Avoids scheme
  /-- There is an authority. -/
  hosted : pieces.authority.isSome
  /-- The authority holds no delimiter. -/
  authority : ∀ authority ∈ pieces.authority, Component.host.Avoids authority
  /-- The path begins with a slash, which ends the authority. -/
  rooted : pieces.path = [] ∨ pieces.path.head? = some '/'
  /-- The path holds no delimiter. -/
  path : Component.path.Avoids pieces.path
  /-- The query holds no delimiter. -/
  query : ∀ query ∈ pieces.query, Component.query.Avoids query

/-- A piece behind its mark begins where the pieces before it end. -/
theorem endsAt_elim
    {component : Component}
    {mark : Char}
    (delimits : mark ∈ component.delimiters)
    {rest : Text}
    (ends : component.EndsAt rest)
    (piece : Option Text) :
    component.EndsAt (piece.elim [] ([mark] ++ ·) ++ rest) := by
  cases piece with
  | none => exact ends
  | some text => exact Component.endsAt_cons delimits _

/-- A scheme is told by its colon, and that there is none by the slashes of the authority. -/
theorem splitScheme_elim
    {scheme : Option Text}
    (named : scheme ≠ some [])
    (avoids : ∀ text ∈ scheme, Component.scheme.Avoids text)
    (rest : Text) :
    splitScheme (scheme.elim [] (· ++ [':']) ++ '/' :: rest) = (scheme, '/' :: rest) := by
  rw [splitScheme]
  cases scheme with
  | none =>
      have ends : Component.scheme.EndsAt ('/' :: rest) :=
        Component.endsAt_cons (by decide) rest
      have cut := Component.cut_append Component.avoids_nil ends
      rw [List.nil_append] at cut
      simp only [Option.elim_none, List.nil_append, cut]
  | some text =>
      have ends : Component.scheme.EndsAt (':' :: '/' :: rest) :=
        Component.endsAt_cons (by decide) ('/' :: rest)
      have cut := Component.cut_append (avoids text rfl) ends
      simp only [Option.elim_some, List.append_assoc, List.cons_append, List.nil_append, cut]
      cases text with
      | nil => exact absurd rfl named
      | cons first text => rfl

/-- Proper pieces are what their text is divided into. -/
theorem split_text {pieces : Pieces} (proper : pieces.IsProper) : split pieces.text = pieces := by
  obtain ⟨scheme, authority, path, query, fragment⟩ := pieces
  obtain ⟨named, schemeAvoids, hosted, authorityAvoids, rooted, pathAvoids, queryAvoids⟩ := proper
  obtain ⟨authority, rfl⟩ := Option.isSome_iff_exists.mp hosted
  -- Each piece ends where what stands behind it begins, from the last piece to the first.
  have afterQuery : Component.query.EndsAt (fragment.elim [] (['#'] ++ ·) ++ []) :=
    endsAt_elim (by decide) Component.endsAt_nil fragment
  have afterPath : Component.path.EndsAt
      (query.elim [] (['?'] ++ ·) ++ (fragment.elim [] (['#'] ++ ·) ++ [])) :=
    endsAt_elim (by decide) (endsAt_elim (by decide) Component.endsAt_nil fragment) query
  have afterAuthority : Component.host.EndsAt
      (path ++ (query.elim [] (['?'] ++ ·) ++ (fragment.elim [] (['#'] ++ ·) ++ []))) := by
    rcases rooted with rfl | rooted
    · exact fun character first =>
        Component.delimiters_subset (by decide) (afterPath character first)
    · obtain ⟨rest, rfl⟩ := List.head?_eq_some_iff.mp rooted
      exact Component.endsAt_cons (by decide) _
  have schemeCut := splitScheme_elim named schemeAvoids ('/' :: (authority ++
    (path ++ (query.elim [] (['?'] ++ ·) ++ (fragment.elim [] (['#'] ++ ·) ++ [])))))
  have authorityCut := Component.cutBehind_elim ['/', '/'] authorityAvoids afterAuthority
    (fun absent => nomatch absent)
  have pathCut := Component.cut_append pathAvoids afterPath
  have queryCut := Component.cutBehind_elim ['?'] queryAvoids afterQuery (by
    rintro - ⟨rest, begins⟩
    cases fragment <;> cases begins)
  have fragmentCut : Component.fragment.cutBehind ['#'] (fragment.elim [] (['#'] ++ ·) ++ []) =
      (fragment, []) :=
    Component.cutBehind_elim ['#'] (fun text _ character _ delimits => nomatch delimits)
      Component.endsAt_nil (fun _ begins => nomatch List.prefix_nil.mp begins)
  simp only [List.append_nil, Option.elim_some, List.cons_append, List.nil_append]
    at schemeCut authorityCut pathCut queryCut fragmentCut
  simp only [split, text, Option.elim_some, List.cons_append, List.nil_append,
    schemeCut, authorityCut, pathCut, queryCut, fragmentCut]

end Pieces

end Uri
end ResourceRouting
