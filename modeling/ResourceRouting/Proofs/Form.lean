import ResourceRouting.Form
import ResourceRouting.Proofs.Text
import ResourceRouting.Proofs.Uri.Decoding
import ResourceRouting.Proofs.Uri.Substitution

/-!
# Values in queries

A value that is put into a query is encoded for the query of a URI, and a query is read as a form.
The marks of a form may stand in a query, so they are written as they are: what is read is what the
text itself says as a form.  The value of a parameter comes back exactly if neither an ampersand nor
a plus sign is in it.
-/

namespace ResourceRouting

theorem Utf8.decodeLossy_encode (text : Text) : decodeLossy (encode text) = text := by
  rw [decodeLossy, pieces_encode, List.map_map]
  exact List.map_id text

namespace Form

open Uri

/-- A text with a space for each plus sign. -/
def spaced (text : Text) : Text :=
  text.map fun character => if character = '+' then ' ' else character

/-- What a text without escapes says as a pair. -/
def plainPair (text : Text) : Text × Text :=
  match Text.cut '=' text with
  | none => (spaced text, [])
  | some (name, value) => (spaced name, spaced value)

/-- What a text without escapes says as a form. -/
def plainPairs (text : Text) : List (Text × Text) :=
  ((Text.pieces '&' text).filter (!·.isEmpty)).map plainPair

theorem spaced_append (first second : Text) :
    spaced (first ++ second) = spaced first ++ spaced second :=
  List.map_append

/-- A text stays as it is exactly if there is no plus sign in it. -/
theorem spaced_eq_iff {text : Text} : spaced text = text ↔ '+' ∉ text := by
  induction text with
  | nil => simp [spaced]
  | cons character text ih =>
      have whole : spaced (character :: text) =
          (if character = '+' then ' ' else character) :: spaced text := rfl
      rw [whole, List.cons.injEq, ih, List.mem_cons, not_or, eq_comm (a := '+')]
      refine and_congr_left fun _ => ⟨?_, fun other => if_neg other⟩
      rintro same rfl
      exact absurd same (by decide)

/-- A plus sign that is written stands for itself. -/
theorem spaced_encodeChar (character : Char) :
    spaced (Component.query.encodeChar character) =
      if character = '+' then [' '] else Component.query.encodeChar character := by
  split
  · rename_i plus
    rw [plus]
    decide
  · rename_i other
    exact spaced_eq_iff.mpr (Component.not_mem_encodeChar (by decide) (by decide) other)

/-- A value is read back from what is written for it, but for its plus signs. -/
theorem decode_encode (value : Text) : decode (Component.query.encode value) = spaced value := by
  have read : Percent.decode (spaced (Component.query.encode value)) =
      Utf8.encode (spaced value) := by
    induction value with
    | nil => rfl
    | cons character value ih =>
        have whole : spaced (character :: value) =
            (if character = '+' then ' ' else character) :: spaced value := rfl
        rw [Component.encode_cons, spaced_append, spaced_encodeChar, whole, Utf8.encode_cons,
          ← ih]
        split
        · exact Percent.decode_cons (.inl (by decide))
        · exact Component.decode_encodeChar_append .query character _
  have unfolded : decode (Component.query.encode value) =
      Utf8.decodeLossy (Percent.decode (spaced (Component.query.encode value))) := rfl
  rw [unfolded, read, Utf8.decodeLossy_encode]

/-- What is written for a text is divided at the ampersands of the text. -/
theorem pieces_encode (text : Text) :
    Text.pieces '&' (Component.query.encode text) =
      (Text.pieces '&' text).map Component.query.encode := by
  induction text with
  | nil => rfl
  | cons character text ih =>
      rw [Component.encode_cons]
      by_cases mark : character = '&'
      · have itself : Component.query.encodeChar '&' = ['&'] := by decide
        rw [mark, itself, List.cons_append, List.nil_append, Text.pieces, if_pos rfl, ih,
          Text.pieces, if_pos rfl]
        rfl
      · rw [Text.pieces_append (Component.not_mem_encodeChar (by decide) (by decide) mark), ih,
          Text.pieces_cons_of_ne mark]
        cases Text.pieces '&' text <;> rfl

/-- What is written for a text is cut at the first equals sign of the text. -/
theorem cut_encode (text : Text) :
    Text.cut '=' (Component.query.encode text) =
      (Text.cut '=' text).map (Prod.map Component.query.encode Component.query.encode) := by
  induction text with
  | nil => rfl
  | cons character text ih =>
      rw [Component.encode_cons]
      by_cases mark : character = '='
      · have itself : Component.query.encodeChar '=' = ['='] := by decide
        rw [mark, itself, List.cons_append, List.nil_append, Text.cut, if_pos rfl, Text.cut,
          if_pos rfl]
        rfl
      · rw [Text.cut_append_of_not_mem (Component.not_mem_encodeChar (by decide) (by decide) mark),
          ih, Text.cut, if_neg mark, Option.map_map, Option.map_map]
        rfl

theorem readPair_encode (text : Text) :
    readPair (Component.query.encode text) = plainPair text := by
  rw [readPair, plainPair, cut_encode]
  cases Text.cut '=' text with
  | none => rw [Option.map_none, decode_encode]
  | some parted => simp only [Option.map_some, Prod.map, decode_encode]

/-- A query that is written for a text is read as what the text says as a form. -/
theorem read_encode (text : Text) : read (Component.query.encode text) = plainPairs text := by
  have kept : ∀ piece : Text,
      (!(Component.query.encode piece).isEmpty) = !piece.isEmpty := by
    intro piece
    cases piece with
    | nil => rfl
    | cons character piece =>
        have filled := @Component.encode_ne_nil .query (character :: piece) (List.cons_ne_nil _ _)
        rw [List.isEmpty_eq_false_iff.mpr filled]
        rfl
  rw [read, pieces_encode, List.filter_map, List.map_map, plainPairs]
  have sameFilter : ((fun piece : Text => !piece.isEmpty) ∘ Component.query.encode) =
      fun piece => !piece.isEmpty := funext kept
  have sameRead : readPair ∘ Component.query.encode = plainPair := funext readPair_encode
  rw [sameFilter, sameRead]

section Parameter

variable {name value : Text}

/-- A URI that is a query with one parameter, whose value is to be put in. -/
def parameter (name : Text) : Parts where
  query := some (name ++ '=' :: placeholder ['v'])

theorem not_mem_of_isUnreserved
    (mark : Char)
    (unreserved : ∀ character ∈ name, Component.isUnreserved character = true)
    (reserved : Component.isUnreserved mark = false) :
    mark ∉ name := by
  intro present
  rw [unreserved mark present] at reserved
  cases reserved

theorem encode_of_isUnreserved
    (unreserved : ∀ character ∈ name, Component.isUnreserved character = true) :
    Component.query.encode name = name := by
  induction name with
  | nil => rfl
  | cons character name ih =>
      have allowed : Component.query.allows character = true := by
        rw [Component.allows, unreserved character (List.mem_cons_self ..)]
        rfl
      rw [Component.encode_cons, Component.encodeChar, if_pos allowed,
        ih fun other present => unreserved other (List.mem_cons_of_mem _ present)]
      rfl

/-- The query of a URI is what is substituted for its placeholders, behind a question mark. -/
theorem build_query
    {part query : Text}
    {values final : Values}
    {mode : BuildMode}
    (nonempty : part ≠ [])
    (substituted : substitute part .query mode values part = .ok (query, final)) :
    ({ query := some part } : Parts).build values mode = .ok ('?' :: query) := by
  cases part with
  | nil => exact absurd rfl nonempty
  | cons first part =>
      simp [Parts.build, Draft.fillScheme, Draft.fillAuthority, Draft.fillPath, Draft.fillQuery,
        Draft.fillFragment, Draft.fill, Draft.write, substituted, Except.map, bind, Except.bind,
        pure, Except.pure]

/-- A parameter is built with its encoded value. -/
theorem build_parameter
    (unreserved : ∀ character ∈ name, Component.isUnreserved character = true)
    (value : Text) :
    (parameter name).build (.ofList [value]) {} =
      .ok ('?' :: Component.query.encode (name ++ '=' :: value)) := by
  have plain : ∀ character ∈ name ++ ['='], isPlain character = true := by
    intro character present
    have other : character ≠ '{' := by
      rintro rfl
      rcases List.mem_append.mp present with inName | mark
      · exact not_mem_of_isUnreserved '{' unreserved (by decide) inName
      · exact absurd (List.mem_singleton.mp mark) (by decide)
    simpa [isPlain] using other
  have closed : Template.closeBrace 0 ['v', '}'] = some (['v'], []) := by decide
  have resolved : (Values.ofList [value]).resolve (Template.splitVariable ['v']).1 .query true =
      .ok (some (Component.query.encode value),
        .positional [] [((Template.splitVariable ['v']).1, Component.query.encode value)]) := rfl
  have nothing : ∀ whole values, substitute whole .query {} values [] = .ok ([], values) := by
    intro whole values
    exact substitute_plain (fun _ present => absurd present List.not_mem_nil) whole .query {} values
  have mark : Component.query.encodeChar '=' = ['='] := by decide
  have substituted : substitute (name ++ '=' :: placeholder ['v']) .query {} (.ofList [value])
      (name ++ '=' :: placeholder ['v']) =
        .ok (Component.query.encode (name ++ '=' :: value),
          .positional [] [((Template.splitVariable ['v']).1, Component.query.encode value)]) := by
    have braced : name ++ '=' :: placeholder ['v'] = (name ++ ['=']) ++ '{' :: ['v', '}'] := by
      simp [placeholder]
    have written : Component.query.encode (name ++ '=' :: value) =
        (name ++ ['=']) ++ Component.query.encode value := by
      rw [Component.encode_append, Component.encode_cons, encode_of_isUnreserved unreserved, mark]
      simp
    rw [written]
    simp only [braced]
    rw [@substitute_append_braced _ _ _ _ _ _ _ {} _ _ plain closed resolved, nothing]
    simp [Except.map]
  exact build_query (by simp) substituted

/-- The first pair of a form with a parameter in front is the parameter up to an ampersand. -/
theorem exists_plainPairs_eq_cons
    (unreserved : ∀ character ∈ name, Component.isUnreserved character = true)
    (value : Text) :
    ∃ first others, plainPairs (name ++ '=' :: value) = (name, spaced first) :: others ∧
      ('&' ∉ value → first = value ∧ others = []) ∧
        ('&' ∈ value → first.length < value.length) := by
  have noAmpersand : '&' ∉ name ++ ['='] := by
    rw [List.mem_append, List.mem_singleton, not_or]
    exact ⟨not_mem_of_isUnreserved '&' unreserved (by decide), by decide⟩
  have noEquals := not_mem_of_isUnreserved '=' unreserved (by decide)
  have noPlus := not_mem_of_isUnreserved '+' unreserved (by decide)
  have pair : ∀ first, plainPair (name ++ '=' :: first) = (name, spaced first) := by
    intro first
    rw [plainPair, Text.cut_append_of_not_mem noEquals, Text.cut, if_pos rfl, Option.map_some]
    simp only [Prod.map, List.append_nil, id_eq, spaced_eq_iff.mpr noPlus]
  have unmarked : ∀ {first : Text}, '&' ∉ first → '&' ∉ name ++ '=' :: first := by
    intro first absent
    rw [List.append_cons, List.mem_append, not_or]
    exact ⟨noAmpersand, absent⟩
  have filled : ∀ (first : Text) (rest : List Text),
      ((name ++ '=' :: first) :: rest).filter (!·.isEmpty) =
        (name ++ '=' :: first) :: rest.filter (!·.isEmpty) := by
    simp
  by_cases ampersand : '&' ∈ value
  · obtain ⟨first, rest, rfl, absent⟩ := List.eq_append_cons_of_mem ampersand
    refine ⟨first, plainPairs rest, ?_, fun missing => absurd ampersand missing, fun _ => ?_⟩
    · rw [plainPairs, ← List.cons_append, ← List.append_assoc,
        Text.pieces_append_cons (unmarked absent), filled, List.map_cons, pair]
      rfl
    · rw [List.length_append, List.length_cons]
      omega
  · refine ⟨value, [], ?_, fun _ => ⟨rfl, rfl⟩, fun present => absurd present ampersand⟩
    rw [plainPairs, Text.pieces_of_not_mem (unmarked ampersand), filled, List.filter_nil,
      List.map_singleton, pair]

/--
A parameter is read back from the query that is built with its value as what name and value say as a
form.  It is the one pair of the name and the value exactly if the value holds neither an ampersand,
which divides pairs, nor a plus sign, which stands for a space.
-/
theorem read_build_parameter
    (unreserved : ∀ character ∈ name, Component.isUnreserved character = true)
    (value : Text) :
    ∃ query, (parameter name).build (.ofList [value]) {} = .ok ('?' :: query) ∧
      read query = plainPairs (name ++ '=' :: value) ∧
        (read query = [(name, value)] ↔ '&' ∉ value ∧ '+' ∉ value) := by
  refine ⟨_, build_parameter unreserved value, read_encode _, ?_⟩
  obtain ⟨first, others, pairs, whole, shorter⟩ := exists_plainPairs_eq_cons unreserved value
  rw [read_encode, pairs, List.cons.injEq, Prod.mk.injEq]
  constructor
  · rintro ⟨⟨_, same⟩, _⟩
    have noAmpersand : '&' ∉ value := by
      intro ampersand
      have length := congrArg List.length same
      rw [spaced, List.length_map] at length
      exact Nat.ne_of_lt (shorter ampersand) length
    rw [(whole noAmpersand).1] at same
    exact ⟨noAmpersand, spaced_eq_iff.mp same⟩
  · rintro ⟨noAmpersand, noPlus⟩
    obtain ⟨rfl, rfl⟩ := whole noAmpersand
    exact ⟨⟨rfl, spaced_eq_iff.mpr noPlus⟩, rfl⟩

/-- A value with marks of other kinds comes back. -/
theorem read_build_parameter_marks :
    (∀ character ∈ "q".toList, Component.isUnreserved character = true) ∧
      ∃ query,
        (parameter "q".toList).build (.ofList ["50% =é;#".toList]) {} = .ok ('?' :: query) ∧
          read query = [("q".toList, "50% =é;#".toList)] := by
  have unreserved : ∀ character ∈ "q".toList, Component.isUnreserved character = true :=
    List.all_eq_true.mp rfl
  obtain ⟨query, built, _, same⟩ := read_build_parameter unreserved "50% =é;#".toList
  exact ⟨unreserved, query, built, same.mpr ⟨by decide, by decide⟩⟩

/-- A plus sign comes back as a space, and an ampersand adds a parameter. -/
theorem read_build_parameter_ne :
    (∀ character ∈ "q".toList, Component.isUnreserved character = true) ∧
      (parameter "q".toList).build (.ofList ["a+b".toList]) {} = .ok "?q=a+b".toList ∧
      read "q=a+b".toList ≠ [("q".toList, "a+b".toList)] ∧
      (parameter "q".toList).build (.ofList ["1&admin=2".toList]) {} =
        .ok "?q=1&admin=2".toList ∧
      read "q=1&admin=2".toList =
        [("q".toList, "1".toList), ("admin".toList, "2".toList)] := by
  refine ⟨List.all_eq_true.mp rfl, ?_, ?_, ?_, ?_⟩ <;> decide +kernel

end Parameter

end Form
end ResourceRouting
