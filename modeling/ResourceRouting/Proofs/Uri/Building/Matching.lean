import ResourceRouting.Proofs.Uri.Building
import ResourceRouting.Proofs.Uri.Decoding
import ResourceRouting.Proofs.Uri.Segments.Ending
import ResourceRouting.Proofs.Uri.Segments.Matching
import ResourceRouting.Proofs.Uri.Writing

/-!
# Matching what was built

A path that was built from a template is matched by the pattern of the template, and the values that
are captured are the encoded ones that were put in.  This takes variables that end their segments,
so that a path is read along the template in one way only, and literal text that is written in a
path as it stands.
-/

namespace ResourceRouting
namespace Uri

namespace Part

/-- Whether literal text is written in a path as it stands in a template. -/
def IsKept : Part → Prop
  | literal text => Component.path.encodeLiteral text = text
  | «variable» _ _ _ => True

instance : DecidablePred IsKept
  | literal text => inferInstanceAs (Decidable (Component.path.encodeLiteral text = text))
  | «variable» _ _ _ => isTrue trivial

end Part

namespace Template

/-- Every variable of a template ends its segment, as one does that is all of the segment. -/
def EndsSegments (text : Text) : Prop :=
  ∀ parts, readParts text 0 text = .ok parts → Shape.EndsSegments (parts.flatMap Part.shape)

instance (text : Text) : Decidable (EndsSegments text) :=
  match read : readParts text 0 text with
  | .error _ => isTrue (by simp [EndsSegments, read])
  | .ok parts =>
      decidable_of_iff (Shape.EndsSegments (parts.flatMap Part.shape)) (by simp [EndsSegments, read])

/-- The literal text of a template is written in a path as it stands. -/
def KeepsLiterals (text : Text) : Prop :=
  ∀ parts, readParts text 0 text = .ok parts → ∀ part ∈ parts, part.IsKept

instance (text : Text) : Decidable (KeepsLiterals text) :=
  match read : readParts text 0 text with
  | .error _ => isTrue (by simp [KeepsLiterals, read])
  | .ok parts => decidable_of_iff (∀ part ∈ parts, part.IsKept) (by simp [KeepsLiterals, read])

/--
What is substituted for the variables of a text with some parts is read along the shape of the
parts, with the encoded values of the names.
-/
def ReadsBack (value : Text → Text) (text : Text) (parts : List Part) : Prop :=
  ∀ (whole : Text) (values : Values), values.Supplies .path value (partNames parts) →
    ∃ path final, substitute whole .path {} values text = .ok (path, final) ∧
      Shape.Reading (parts.flatMap Part.shape) path
        ((partNames parts).map fun name => Component.path.encode (value name)) []

section ReadsBack

variable
  {value : Text → Text}
  {rest inside body after : Text}
  {parts : List Part}

theorem isPlain_takeWhile (text : Text) :
    ∀ character ∈ text.takeWhile (!isBrace ·), isPlain character = true :=
  fun character present => Segment.isPlain_of_isBrace (plain_takeWhile text character present)

theorem readsBack_literal
    (dropped : rest.dropWhile (!isBrace ·) = [])
    (kept : (Part.literal rest).IsKept) :
    ReadsBack value rest [.literal rest] := by
  intro whole values _
  have text := List.takeWhile_append_dropWhile (p := (!isBrace ·)) (l := rest)
  rw [dropped, List.append_nil] at text
  have plain := isPlain_takeWhile rest
  rw [text] at plain
  have same : Component.path.encodeLiteral rest = rest := kept
  refine ⟨rest, values, substitute_plain plain whole .path {} values, ?_⟩
  rw [List.flatMap_singleton, Part.shape, same, ← List.append_nil (rest.map Atom.char)]
  exact Segment.reading_map_char_append_iff.mpr ⟨[], by simp, .done []⟩

/-- A variable with a value that is a segment is read back in front of what is. -/
theorem ReadsBack.braced
    {expression : Text}
    {groups : Nat}
    (others : ReadsBack value after parts)
    (dropped : rest.dropWhile (!isBrace ·) = '{' :: inside)
    (closed : closeBrace 0 inside = some (body, after))
    (kept : (Part.literal (rest.takeWhile (!isBrace ·))).IsKept)
    (nonempty : value (splitVariable body).1 ≠ [])
    (segment : '/' ∉ value (splitVariable body).1) :
    ReadsBack value rest
      (.literal (rest.takeWhile (!isBrace ·)) ::
        .variable (splitVariable body).1 expression groups :: parts) := by
  intro whole values supplies
  have text := List.takeWhile_append_dropWhile (p := (!isBrace ·)) (l := rest)
  rw [dropped] at text
  have same : Component.path.encodeLiteral (rest.takeWhile (!isBrace ·)) =
      rest.takeWhile (!isBrace ·) := kept
  obtain ⟨remaining, found, further⟩ := supplies.resolve
  obtain ⟨path, final, substituted, reading⟩ := others whole remaining further
  have replaced := @substitute_append_braced _ _ _ _ _ whole .path {} _ _
    (isPlain_takeWhile rest) closed found
  rw [text, substituted] at replaced
  refine ⟨_, final, replaced, ?_⟩
  rw [List.flatMap_cons, Part.shape, same, List.append_assoc]
  refine Segment.reading_map_char_append_iff.mpr ⟨_, rfl, ?_⟩
  exact .value (Component.encode_ne_nil nonempty) (Component.slash_not_mem_encode segment) reading

/-- The parts of a template are read back if literal text is kept and all values are segments. -/
theorem readsBack_of_readParts
    {template text : Text}
    {position : Nat}
    (read : readParts template position text = .ok parts)
    (kept : ∀ part ∈ parts, part.IsKept)
    (proper : ∀ name ∈ partNames parts, value name ≠ [] ∧ '/' ∉ value name) :
    ReadsBack value text parts := by
  revert kept proper
  refine readParts_induction (motive := fun text parts =>
    (∀ part ∈ parts, part.IsKept) →
      (∀ name ∈ partNames parts, value name ≠ [] ∧ '/' ∉ value name) →
        ReadsBack value text parts) ?_ ?_ read
  · intro rest dropped kept _
    exact readsBack_literal dropped (kept _ (List.mem_singleton_self _))
  · intro rest inside body after regex others dropped closed _ _ ih kept proper
    have own := proper _ (List.mem_cons_self ..)
    have further := ih
      (fun part present => kept part (List.mem_cons_of_mem _ (List.mem_cons_of_mem _ present)))
      (fun name present => proper name (List.mem_cons_of_mem _ present))
    exact further.braced dropped closed (kept _ (List.mem_cons_self ..)) own.1 own.2

end ReadsBack

/--
A path that is read along the shape of a template is matched by the pattern of the template, if the
engine admits what is read from the expression of the template.
-/
theorem HasShape.exists_match?
    {text path : Text}
    {template : Template}
    {shape : Shape}
    {values names : List Text}
    (nonempty : text ≠ [])
    (compiled : Template.compile text = .ok template)
    (shaped : HasShape (normalize text) shape names)
    (reading : Shape.Reading shape path values [])
    (ends : shape.EndsSegments) :
    ∃ whole, Regex.Reader.read (Pattern.anchored template.expression) = some whole ∧
      ∀ admits : Regex.Expr → Bool,
        (admits whole = false →
          Pattern.compileWithin admits text = .error (.invalidExpression (normalize text) [])) ∧
        (admits whole = true →
          ∃ (pattern : Pattern) (remainder : Option Text),
            Pattern.compileWithin admits text = .ok pattern ∧ pattern.template = template ∧
            pattern.match? path = some ⟨values.map some, remainder⟩ ∧
            PathMatch.isTerminal remainder = true) := by
  obtain ⟨rest, normal⟩ := exists_normalize nonempty
  have again := compile_normalize text
  have patternAgain := fun admits => Pattern.compileWithin_normalize admits text
  rw [normal] at shaped again patternAgain ⊢
  obtain ⟨_, compiledAgain, _, _, _, read, results⟩ := shaped.compile
  rw [again, compiled] at compiledAgain
  obtain rfl := Except.ok.inj compiledAgain
  refine ⟨_, read, fun admits => ?_⟩
  obtain ⟨small, large⟩ := results admits
  rw [patternAgain] at small large
  refine ⟨large, fun admitted => ?_⟩
  obtain ⟨pattern, patternCompiled, own, matches'⟩ := small admitted
  have begins : path ≠ [] := by
    rintro rfl
    obtain ⟨others, split⟩ := List.head?_eq_some_iff.mp shaped.head?_shape
    rw [split] at reading
    cases reading
  obtain ⟨remainder, matched, terminal⟩ := reading.exists_match?_dropSlash ends
  exact ⟨pattern, remainder, patternCompiled, own, (matches' path begins).trans matched, terminal⟩

end Template

/-- A template without a slash in front gives the path of its normal form without this slash. -/
theorem Parts.exists_build_ofPath
    {text written : Text}
    {values final : Values}
    (nonempty : text ≠ [])
    (substituted : substitute text .path {} values (Template.normalize text) =
      .ok (written, final)) :
    ∃ path, (Parts.ofPath text).build values {} = .ok path ∧
      (if text.head? = some '/' then path else '/' :: path) = written := by
  by_cases slash : text.head? = some '/'
  · obtain ⟨rest, rfl⟩ := List.head?_eq_some_iff.mp slash
    exact ⟨written, Parts.build_ofPath substituted, if_pos slash⟩
  · have normal : Template.normalize text = '/' :: text := by
      unfold Template.normalize
      split
      · exact absurd rfl nonempty
      · exact absurd rfl slash
      · rfl
    -- The normal form has one more slash, in front of the text before the first variable.
    have longer := @Step.substitute_cons '/' (by decide) text .path {} values text
    change substitute text .path {} values ('/' :: text) =
      (substitute text .path {} values text).map _ at longer
    rw [normal, longer] at substituted
    cases without : substitute text .path {} values text with
    | error fault =>
        rw [without] at substituted
        cases substituted
    | ok result =>
        rw [without] at substituted
        cases substituted
        exact ⟨_, Parts.build_ofPath without, if_neg slash⟩

/--
A path that was built from a template is matched by the pattern of the template, which exists exactly
if the engine admits what is read from the expression of the template, whatever the limit of the
engine is.  The template is not empty, its variables have the default expression and end their
segments, and its literal text is written in a path as it stands.  There are as many values as there
are different names, each of them a segment.  Where the template has no slash in front, neither has
the path, and the slash that is put before the template has to be put before the path.  Nothing but
a slash may be left, and what is captured for each variable decodes to the value of its name.
-/
theorem Pattern.match?_build
    {text : Text}
    {template : Template}
    {values : List Text}
    (nonempty : text ≠ [])
    (compiled : Template.compile text = .ok template)
    (defaults : Template.UsesDefaults template.text)
    (ends : Template.EndsSegments template.text)
    (kept : Template.KeepsLiterals template.text)
    (counts : template.names.eraseDups.length = values.length)
    (proper : ∀ value ∈ values, value ≠ [] ∧ '/' ∉ value) :
    ∃ path whole, (Parts.ofPath text).build (.ofList values) {} = .ok path ∧
      Regex.Reader.read (anchored template.expression) = some whole ∧
      ∀ admits : Regex.Expr → Bool,
        (admits whole = false →
          Pattern.compileWithin admits text = .error (.invalidExpression template.text [])) ∧
        (admits whole = true →
          ∃ (pattern : Pattern) (captured : List Text) (remainder : Option Text),
            Pattern.compileWithin admits text = .ok pattern ∧ pattern.names = template.names ∧
            pattern.match? (if text.head? = some '/' then path else '/' :: path) =
              some ⟨captured.map some, remainder⟩ ∧
            PathMatch.isTerminal remainder = true ∧
            captured.map (fun value => Utf8.decode? (Percent.decode value)) =
              template.names.map fun name =>
                (template.names.eraseDups.zip values).lookup name) := by
  obtain ⟨parts, read, rfl⟩ := Template.exists_readParts_of_compile nonempty compiled
  rw [Template.names_ofParts] at counts ⊢
  rw [Template.text_ofParts] at defaults ends kept ⊢
  have known := fun name present => @Values.lookup_eq_valueOf _ values counts name present
  have back := Template.readsBack_of_readParts read (kept parts read)
    fun name present => proper _ (known name present).2
  obtain ⟨written, final, substituted, reading⟩ :=
    back text (.ofList values) (Values.supplies_ofList counts .path)
  obtain ⟨path, built, joined⟩ := Parts.exists_build_ofPath nonempty substituted
  have shaped := Template.hasShape_of_readParts read (defaults parts read)
  obtain ⟨whole, wholeRead, results⟩ :=
    shaped.exists_match? nonempty compiled reading (ends parts read)
  refine ⟨path, whole, built, wholeRead, fun admits => ?_⟩
  obtain ⟨large, small⟩ := results admits
  refine ⟨large, fun admitted => ?_⟩
  obtain ⟨pattern, remainder, patternCompiled, own, matched, terminal⟩ := small admitted
  refine ⟨pattern, _, remainder, patternCompiled, ?_, by rw [joined, matched], terminal, ?_⟩
  · rw [Pattern.names, own, Template.names_ofParts]
  · rw [List.map_map]
    apply List.map_congr_left
    intro name present
    rw [(known name present).1, Function.comp_apply, Component.decode_encode,
      Utf8.decode?_encode]

/-- A template without a slash in front and with one at its end, and a name that comes back. -/
theorem Pattern.match?_build_books :
    ∃ (template : Template) (pattern : Pattern) (captured : List Text) (remainder : Option Text),
      Template.compile "books/{x}/{y}/{x}/".toList = .ok template ∧
        (Parts.ofPath "books/{x}/{y}/{x}/".toList).build
            (.ofList ["ü b".toList, "1".toList]) {} =
          .ok "books/%C3%BC%20b/1/%C3%BC%20b/".toList ∧
        Pattern.compile "books/{x}/{y}/{x}/".toList = .ok pattern ∧
        pattern.match? "/books/%C3%BC%20b/1/%C3%BC%20b/".toList =
          some ⟨captured.map some, remainder⟩ ∧
        PathMatch.isTerminal remainder = true ∧
        captured.map (fun value => Utf8.decode? (Percent.decode value)) =
          [some "ü b".toList, some "1".toList, some "ü b".toList] := by
  let template : Template :=
    ⟨"/books/{x}/{y}/{x}/".toList, "/books/([^/]+)/([^/]+)/([^/]+)(/.*)?".toList, 9,
      ["x".toList, "y".toList, "x".toList], [1, 2, 3, 4]⟩
  have compiled : Template.compile "books/{x}/{y}/{x}/".toList = .ok template := by
    decide +kernel
  have computed : (Parts.ofPath "books/{x}/{y}/{x}/".toList).build
      (.ofList ["ü b".toList, "1".toList]) {} = .ok "books/%C3%BC%20b/1/%C3%BC%20b/".toList := by
    decide +kernel
  obtain ⟨path, whole, built, read, results⟩ :=
    @Pattern.match?_build "books/{x}/{y}/{x}/".toList template
      ["ü b".toList, "1".toList] (by decide +kernel) compiled (by decide +kernel)
      (by decide +kernel) (by decide +kernel) (by decide +kernel) (by decide +kernel)
  obtain rfl := Except.ok.inj (built.symm.trans computed)
  have fits : whole.fits = true := Template.fits_of_read compiled read (by decide +kernel)
  obtain ⟨pattern, captured, remainder, patternCompiled, _, matched, terminal, decoded⟩ :=
    (results Regex.Expr.fits).2 fits
  have expected : (template.names.map fun name =>
      (template.names.eraseDups.zip ["ü b".toList, "1".toList]).lookup name) =
        [some "ü b".toList, some "1".toList, some "ü b".toList] := by
    decide +kernel
  exact ⟨template, pattern, captured, remainder, compiled, computed, patternCompiled, matched,
    terminal, decoded.trans expected⟩

/--
A path of a template without a slash in front has none either, and is not matched as it is.  Nor is
a path with a blank that the template has, because the pattern expects it encoded.  A template of
10000 variables has no pattern.
-/
theorem Pattern.match?_build_eq_none :
    (∃ pattern, Pattern.compile "books/{x}".toList = .ok pattern ∧
      (Parts.ofPath "books/{x}".toList).build (.ofList ["1".toList]) {} =
          .ok "books/1".toList ∧
        pattern.match? "books/1".toList = none) ∧
      (∃ pattern, Pattern.compile "/a b/{x}".toList = .ok pattern ∧
        (Parts.ofPath "/a b/{x}".toList).build (.ofList ["1".toList]) {} =
            .ok "/a b/1".toList ∧
          pattern.match? "/a b/1".toList = none) ∧
      (∃ template,
        Template.compile (Segment.template (List.replicate 10000 (.braced ['a'])) false) =
          .ok template) ∧
      ∀ pattern,
        Pattern.compile (Segment.template (List.replicate 10000 (.braced ['a'])) false) ≠
          .ok pattern := by
  obtain ⟨rootless, rootlessCompiled⟩ :=
    @Pattern.exists_compile "books/{x}".toList (by decide +kernel)
  obtain ⟨blank, blankCompiled⟩ := @Pattern.exists_compile "/a b/{x}".toList (by decide +kernel)
  have nonempty : List.replicate 10000 (Segment.braced ['a']) ≠ [] := by
    rw [ne_eq, List.replicate_eq_nil_iff]
    decide
  obtain ⟨large, largeCompiled, _⟩ :=
    @Segment.compile_template _ Segment.isValid_of_mem_replicate false (.inl nonempty)
  refine ⟨⟨rootless, rootlessCompiled, by decide +kernel, ?_⟩,
    ⟨blank, blankCompiled, by decide +kernel, ?_⟩, ⟨large, largeCompiled⟩, ?_⟩
  · exact Pattern.view_eq_of_compile rootlessCompiled (·.match? "books/1".toList)
      (by decide +kernel)
  · exact Pattern.view_eq_of_compile blankCompiled (·.match? "/a b/1".toList) (by decide +kernel)
  · intro pattern found
    rw [@Segment.compile_template_replicate 10000 (by decide)] at found
    cases found

end Uri
end ResourceRouting
