import ResourceRouting.Proofs.Uri.Braces
import ResourceRouting.Proofs.Uri.Compile
import ResourceRouting.Proofs.Uri.Encoding
import ResourceRouting.Proofs.Uri.Shape.Matching

/-!
# Templates with a shape

A template whose variables all have the default expression has a shape.  Templates put together
at a slash have the shapes of both, one after the other.
-/

namespace ResourceRouting
namespace Uri

namespace Part

/-- Whether a part is literal text or a variable with the default expression. -/
def IsDefault : Part → Prop
  | literal _ => True
  | «variable» _ expression _ => expression = Template.defaultExpression

instance : DecidablePred IsDefault
  | literal _ => isTrue trivial
  | «variable» _ expression _ =>
      inferInstanceAs (Decidable (expression = Template.defaultExpression))

/-- What stands for a part in a shape. -/
def shape : Part → Shape
  | literal text => (Component.path.encodeLiteral text).map .char
  | «variable» _ _ _ => [.value]

end Part

namespace Template

/-- All variables of a template have the default expression. -/
def UsesDefaults (text : Text) : Prop :=
  ∀ parts, readParts text 0 text = .ok parts → ∀ part ∈ parts, part.IsDefault

instance (text : Text) : Decidable (UsesDefaults text) :=
  match read : readParts text 0 text with
  | .error _ => isTrue (by simp [UsesDefaults, read])
  | .ok parts => decidable_of_iff (∀ part ∈ parts, part.IsDefault) (by simp [UsesDefaults, read])

/-- A template text consists of literal text and variables with the default expression. -/
inductive HasShape : Text → Shape → List Text → Prop
  /-- Text without braces stands for itself. -/
  | literal
      {text : Text}
      (plain : ∀ character ∈ text, isBrace character = false) :
      HasShape text ((Component.path.encodeLiteral text).map .char) []
  /-- Text without braces is followed by a variable. -/
  | braced
      {text inside body after : Text}
      {shape : Shape}
      {names : List Text}
      (plain : ∀ character ∈ text, isBrace character = false)
      (closed : closeBrace 0 inside = some (body, after))
      (named : (splitVariable body).1 ≠ [])
      (default : (splitVariable body).2.getD defaultExpression = defaultExpression)
      (others : HasShape after shape names) :
      HasShape (text ++ '{' :: inside)
        ((Component.path.encodeLiteral text).map .char ++ .value :: shape)
        ((splitVariable body).1 :: names)

theorem HasShape.eq_nil
    {shape : Shape}
    {names : List Text}
    (shaped : HasShape [] shape names) :
    shape = [] ∧ names = [] := by
  generalize empty : ([] : Text) = text at shaped
  cases shaped with
  | literal _ =>
      subst empty
      exact ⟨rfl, rfl⟩
  | braced _ _ _ _ _ => exact absurd empty.symm (by simp)

/-- The default expression is valid and has no groups. -/
theorem exists_ofText?_defaultExpression :
    ∃ regex, Regex.ofText? defaultExpression = some regex ∧ regex.groupCount = 0 := by
  have counted : (Regex.ofText? defaultExpression).map Regex.groupCount = some 0 := by
    decide +kernel
  exact Option.map_eq_some_iff.mp counted

/-- The parts of a template with a shape. -/
theorem HasShape.exists_readParts
    {text : Text}
    {shape : Shape}
    {names : List Text}
    (shaped : HasShape text shape names)
    (template : Text)
    (position : Nat) :
    ∃ parts, readParts template position text = .ok parts ∧
      (∀ part ∈ parts, part.IsDefault) ∧ parts.flatMap Part.shape = shape ∧
        partNames parts = names ∧
          ∀ next, partGroups next parts = List.range' next (names.length + 1) := by
  induction shaped generalizing position with
  | @literal text plain =>
      obtain ⟨taken, dropped⟩ := takeWhile_plain plain endsPlain_nil
      rw [List.append_nil] at taken dropped
      refine ⟨[.literal text], ?_, by simp [Part.IsDefault], by simp [Part.shape], rfl, ?_⟩
      · rw [readParts_of_nil dropped, taken]
      · exact fun next => rfl
  | @braced text inside body after shape names plain closed named default others ih =>
      obtain ⟨taken, dropped⟩ := takeWhile_plain plain (endsPlain_open inside)
      obtain ⟨regex, valid, groups⟩ := exists_ofText?_defaultExpression
      obtain ⟨parts, read, defaults, shapes, names', groups'⟩ :=
        ih (position + Text.byteCount text + Text.byteCount body + 2)
      refine ⟨.literal text :: .variable (splitVariable body).1 defaultExpression 0 :: parts,
        ?_, ?_, ?_, ?_, ?_⟩
      · rw [readParts_of_brace dropped closed named (by rw [default, valid]), taken, read, default,
          groups]
        rfl
      · simp only [List.mem_cons, forall_eq_or_imp]
        exact ⟨trivial, rfl, defaults⟩
      · simp [Part.shape, shapes]
      · simp [partNames, names']
      · intro next
        rw [partGroups, partGroups, groups', List.length_cons]
        rfl

theorem HasShape.usesDefaults
    {text : Text}
    {shape : Shape}
    {names : List Text}
    (shaped : HasShape text shape names) :
    UsesDefaults text := by
  intro parts read
  obtain ⟨others, otherRead, defaults, _⟩ := shaped.exists_readParts text 0
  rw [read] at otherRead
  cases otherRead
  exact defaults

/-- A template that has parts with the default expression only has a shape. -/
theorem hasShape_of_readParts
    {template text : Text}
    {position : Nat}
    {parts : List Part}
    (read : readParts template position text = .ok parts)
    (defaults : ∀ part ∈ parts, part.IsDefault) :
    HasShape text (parts.flatMap Part.shape) (partNames parts) := by
  revert defaults
  refine readParts_induction (motive := fun text parts =>
    (∀ part ∈ parts, part.IsDefault) → HasShape text (parts.flatMap Part.shape) (partNames parts))
    ?_ ?_ read
  · intro rest dropped _
    have whole := List.takeWhile_append_dropWhile (p := (!isBrace ·)) (l := rest)
    have plain := plain_takeWhile rest
    rw [dropped, List.append_nil] at whole
    rw [whole] at plain
    simpa [Part.shape, partNames] using HasShape.literal plain
  · intro rest inside body after regex others dropped closed named _ ih defaults
    simp only [List.mem_cons, forall_eq_or_imp] at defaults
    obtain ⟨_, default, otherDefaults⟩ := defaults
    have whole := List.takeWhile_append_dropWhile (p := (!isBrace ·)) (l := rest)
    rw [dropped] at whole
    have shaped := HasShape.braced (plain_takeWhile rest) closed named default (ih otherDefaults)
    rw [whole] at shaped
    simpa [Part.shape, partNames] using shaped

/-- What a brace encloses does not depend on the text behind its closing brace. -/
theorem closeBrace_append
    {depth : Nat}
    {text body after : Text}
    (closed : closeBrace depth text = some (body, after))
    (rest : Text) :
    closeBrace depth (text ++ rest) = some (body, after ++ rest) := by
  obtain ⟨rfl, balances⟩ := append_of_closeBrace closed
  rw [List.append_assoc, List.cons_append]
  exact closeBrace_of_balances balances _

/-- A shape ends with a slash only if the template does. -/
theorem HasShape.getLast?
    {text : Text}
    {shape : Shape}
    {names : List Text}
    (shaped : HasShape text shape names)
    (ends : shape.getLast? = some (.char '/')) :
    text.getLast? = some '/' := by
  induction shaped with
  | literal _ =>
      rw [List.getLast?_map, Option.map_eq_some_iff] at ends
      obtain ⟨character, last, same⟩ := ends
      cases same
      exact Component.getLast?_of_encodeLiteral last
  | @braced text inside body after shape names _ closed _ _ _ ih =>
      rw [List.getLast?_append, List.getLast?_cons] at ends
      rw [(append_of_closeBrace closed).1, List.getLast?_append, List.getLast?_cons,
        List.getLast?_append, List.getLast?_cons]
      cases last : shape.getLast? with
      | none =>
          rw [last] at ends
          cases ends
      | some atom =>
          rw [last] at ends ih
          rw [ih ends]
          rfl

/-- Literal text may stand before a template with a shape that begins with a slash. -/
theorem HasShape.prepend
    {text rest : Text}
    {shape : Shape}
    {names : List Text}
    (plain : ∀ character ∈ text, isBrace character = false)
    (shaped : HasShape ('/' :: rest) shape names) :
    HasShape (text ++ '/' :: rest) ((Component.path.encodeLiteral text).map .char ++ shape)
      names := by
  generalize whole : '/' :: rest = template at shaped
  cases shaped with
  | literal others =>
      subst whole
      have joined : ∀ character ∈ text ++ '/' :: rest, isBrace character = false := by
        simpa [or_imp, forall_and] using ⟨plain, by simpa using others⟩
      have shaped := HasShape.literal joined
      rw [Component.encodeLiteral_append_slash, List.map_append] at shaped
      rw [Component.encodeLiteral_slash_cons]
      exact shaped
  | @braced literal inside body after shape names others closed named default further =>
      cases literal with
      | nil => cases whole
      | cons slash literal =>
          injection whole with same behind
          subst same
          subst behind
          have joined : ∀ character ∈ text ++ '/' :: literal, isBrace character = false := by
            simpa [or_imp, forall_and] using ⟨plain, by simpa using others⟩
          have shaped := HasShape.braced joined closed named default further
          rw [Component.encodeLiteral_append_slash, List.map_append, List.append_assoc,
            List.append_assoc] at shaped
          rw [Component.encodeLiteral_slash_cons]
          exact shaped

/-- Templates put together at a slash have the shapes and names of both. -/
theorem HasShape.append
    {first rest : Text}
    {firstShape shape : Shape}
    {firstNames names : List Text}
    (firstShaped : HasShape first firstShape firstNames)
    (shaped : HasShape ('/' :: rest) shape names) :
    HasShape (first ++ '/' :: rest) (firstShape ++ shape) (firstNames ++ names) := by
  induction firstShaped with
  | literal plain => exact shaped.prepend plain
  | braced plain closed named default _ ih =>
      rw [List.append_assoc, List.append_assoc, List.cons_append, List.cons_append]
      exact .braced plain (closeBrace_append closed _) named default ih

/-- The shape of a template that begins with a slash begins with one. -/
theorem HasShape.head?_shape
    {rest : Text}
    {shape : Shape}
    {names : List Text}
    (shaped : HasShape ('/' :: rest) shape names) :
    shape.head? = some (.char '/') := by
  generalize whole : '/' :: rest = text at shaped
  cases shaped with
  | literal _ =>
      subst whole
      rw [Component.encodeLiteral_slash_cons]
      rfl
  | @braced literal _ _ _ _ _ _ _ _ _ _ =>
      cases literal with
      | nil => cases whole
      | cons first others =>
          injection whole with same _
          subst same
          rw [Component.encodeLiteral_slash_cons]
          rfl

end Template
end Uri
end ResourceRouting
