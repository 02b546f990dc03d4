import ResourceRouting.Proofs.Uri.Substitution

/-!
# Writing a URI step by step

A URI is written from left to right: marks between its parts, literal text of the parts, and values
in the places of the placeholders.  The steps are read off the parts alone; what each of them
writes then depends on the values that remain.
-/

namespace ResourceRouting
namespace Uri

/-- A step in writing a URI. -/
inductive Step
  /-- A mark between the parts. -/
  | mark (text : Text)
  /-- Text of a part that stays as it is. -/
  | literal (component : Component) (text : Text)
  /-- A placeholder of a part. -/
  | value (component : Component) (name : Text)
  /-- A placeholder that is not closed, in the given part. -/
  | unclosed (part : Text)
  deriving DecidableEq, Repr

/-- What a step has written. -/
inductive Written
  /-- A mark between the parts. -/
  | mark (text : Text)
  /-- Text of a part that stays as it is. -/
  | literal (component : Component) (text : Text)
  /-- The text of a value for a placeholder. -/
  | value (component : Component) (name text : Text)
  /-- A placeholder without a value, which is kept. -/
  | kept (component : Component) (name : Text)
  deriving DecidableEq, Repr

namespace Written

/-- The text that was written. -/
def text : Written → Text
  | mark text => text
  | literal _ text => text
  | value _ _ text => text
  | kept _ name => placeholder name

/-- The component that was written in, unless it is a mark. -/
def component? : Written → Option Component
  | mark _ => none
  | literal component _ => some component
  | value component _ _ => some component
  | kept component _ => some component

/-- All the text that was written. -/
def join (written : List Written) : Text :=
  written.flatMap text

/-- The text that was written in a component. -/
def textOf (component : Component) (written : List Written) : Text :=
  join (written.filter fun one => one.component? = some component)

@[simp]
theorem join_nil : join [] = [] := rfl

@[simp]
theorem join_cons (first : Written) (written : List Written) :
    join (first :: written) = first.text ++ join written := rfl

@[simp]
theorem join_append (first second : List Written) :
    join (first ++ second) = join first ++ join second := by
  simp [join]

@[simp]
theorem textOf_append (component : Component) (first second : List Written) :
    textOf component (first ++ second) = textOf component first ++ textOf component second := by
  simp [textOf]

section TextOf

variable {component : Component} {written : List Written}

theorem textOf_eq_join (own : ∀ one ∈ written, one.component? = some component) :
    textOf component written = join written := by
  rw [textOf, List.filter_eq_self.mpr fun one present => decide_eq_true (own one present)]

theorem textOf_eq_nil (others : ∀ one ∈ written, one.component? ≠ some component) :
    textOf component written = [] := by
  rw [textOf, List.filter_eq_nil_iff.mpr fun one present => by simpa using others one present]
  rfl

@[simp]
theorem textOf_nil : textOf component [] = [] := rfl

@[simp]
theorem textOf_mark_cons (text : Text) :
    textOf component (mark text :: written) = textOf component written := by
  rw [textOf, List.filter_cons_of_neg (by simp [component?])]
  rfl

theorem textOf_literal_cons (text : Text) :
    textOf component (literal component text :: written) = text ++ textOf component written := by
  rw [textOf, List.filter_cons_of_pos (by simp [component?])]
  rfl

end TextOf

end Written

/-- The mode in a component: a scheme is never encoded. -/
def BuildMode.within (mode : BuildMode) : Component → BuildMode
  | .scheme => { mode with encode := false }
  | _ => mode

@[simp]
theorem BuildMode.asTemplate_within (mode : BuildMode) (component : Component) :
    (mode.within component).asTemplate = mode.asTemplate := by
  cases component <;> rfl

theorem BuildMode.encode_within
    {mode : BuildMode}
    (verbatim : mode.encode = false)
    (component : Component) :
    (mode.within component).encode = false := by
  cases component <;> first | rfl | exact verbatim

namespace Step

/-- Takes a step with the values that remain. -/
def write (mode : BuildMode) (values : Values) : Step → Except BuildError (Written × Values)
  | mark text => .ok (.mark text, values)
  | literal component text => .ok (.literal component text, values)
  | value component name =>
      match values.resolve name component (mode.within component).encode with
      | .error error => .error error
      | .ok (some text, remaining) => .ok (.value component name text, remaining)
      | .ok (none, remaining) =>
          if mode.asTemplate then .ok (.kept component name, remaining) else .error (.missing name)
  | unclosed part => .error (.malformed part)

/-- Takes steps one after the other. -/
def writeAll
    (mode : BuildMode)
    (values : Values) :
    List Step → Except BuildError (List Written × Values)
  | [] => .ok ([], values)
  | step :: steps =>
      match step.write mode values with
      | .error error => .error error
      | .ok (first, remaining) =>
          match writeAll mode remaining steps with
          | .error error => .error error
          | .ok (more, final) => .ok (first :: more, final)

/-- The steps that write what is left of a part; `whole` is the part. -/
def ofPart (component : Component) (whole rest : Text) : List Step :=
  let literal := rest.takeWhile isPlain
  match _next : rest.dropWhile isPlain with
  | [] => [.literal component literal]
  | _ :: inside =>
      match _closed : Template.closeBrace 0 inside with
      | none => [.literal component literal, .unclosed whole]
      | some (body, after) =>
          .literal component literal :: .value component (Template.splitVariable body).1 ::
            ofPart component whole after
termination_by rest.length
decreasing_by
  have inner := Template.length_closeBrace _closed
  have outer : (rest.dropWhile isPlain).length ≤ rest.length :=
    List.IsSuffix.length_le (List.dropWhile_suffix _)
  rw [_next] at outer
  simp only [List.length_cons] at outer
  omega

section Equations

variable {rest inside body after : Text} {brace : Char}

/-- A text without a placeholder is one step. -/
theorem ofPart_of_nil
    (dropped : rest.dropWhile isPlain = [])
    (component : Component)
    (whole : Text) :
    ofPart component whole rest = [.literal component (rest.takeWhile isPlain)] := by
  rw [ofPart.eq_def]
  split
  · rfl
  · rename_i next
    rw [dropped] at next
    cases next

/-- Behind a placeholder that is not closed nothing is read. -/
theorem ofPart_of_unclosed
    (dropped : rest.dropWhile isPlain = brace :: inside)
    (unclosed : Template.closeBrace 0 inside = none)
    (component : Component)
    (whole : Text) :
    ofPart component whole rest =
      [.literal component (rest.takeWhile isPlain), .unclosed whole] := by
  rw [ofPart.eq_def]
  split
  · rename_i next
    rw [dropped] at next
    cases next
  · rename_i next
    rw [dropped] at next
    cases next
    split
    · rfl
    · rename_i closed
      rw [unclosed] at closed
      cases closed

/-- A placeholder is a step between the text before it and what follows it. -/
theorem ofPart_of_closed
    (dropped : rest.dropWhile isPlain = brace :: inside)
    (closed : Template.closeBrace 0 inside = some (body, after))
    (component : Component)
    (whole : Text) :
    ofPart component whole rest =
      .literal component (rest.takeWhile isPlain) ::
        .value component (Template.splitVariable body).1 :: ofPart component whole after := by
  rw [ofPart.eq_def]
  split
  · rename_i next
    rw [dropped] at next
    cases next
  · rename_i next
    rw [dropped] at next
    cases next
    split
    · rename_i unclosed
      rw [closed] at unclosed
      cases unclosed
    · rename_i other
      rw [closed] at other
      cases other
      rfl

/-- A character that opens no brace belongs to the text before the first placeholder. -/
theorem exists_ofPart_cons
    {first : Char}
    (plain : isPlain first = true)
    (component : Component)
    (whole rest : Text) :
    ∃ steps,
      ofPart component whole rest = .literal component (rest.takeWhile isPlain) :: steps ∧
        ofPart component whole (first :: rest) =
          .literal component (first :: rest.takeWhile isPlain) :: steps := by
  have front := List.takeWhile_cons_of_pos (l := rest) plain
  have behind := List.dropWhile_cons_of_pos (l := rest) plain
  cases dropped : rest.dropWhile isPlain with
  | nil =>
      rw [dropped] at behind
      rw [ofPart_of_nil dropped, ofPart_of_nil behind, front]
      exact ⟨_, rfl, rfl⟩
  | cons brace inside =>
      rw [dropped] at behind
      cases closed : Template.closeBrace 0 inside with
      | none =>
          rw [ofPart_of_unclosed dropped closed, ofPart_of_unclosed behind closed, front]
          exact ⟨_, rfl, rfl⟩
      | some found =>
          rw [ofPart_of_closed dropped closed, ofPart_of_closed behind closed, front]
          exact ⟨_, rfl, rfl⟩

end Equations

/-- A part is written by its steps: what they write is what is substituted. -/
theorem substitute_eq_writeAll
    (whole : Text)
    (component : Component)
    (mode : BuildMode)
    (values : Values)
    (rest : Text) :
    substitute whole component (mode.within component) values rest =
      (writeAll mode values (ofPart component whole rest)).map fun result =>
        (Written.join result.1, result.2) := by
  induction rest using ofPart.induct generalizing values with
  | case1 rest dropped =>
      rw [ofPart_of_nil dropped, substitute_of_nil dropped]
      simp [writeAll, write, Except.map, Written.text]
  | case2 rest head inside dropped unclosed =>
      rw [ofPart_of_unclosed dropped unclosed, substitute_of_unclosed dropped unclosed]
      rfl
  | case3 rest head inside dropped body after closed ih =>
      rw [ofPart_of_closed dropped closed, substitute_of_closed dropped closed]
      simp only [writeAll, write]
      cases values.resolve (Template.splitVariable body).1 component
          (mode.within component).encode with
      | error fault => rfl
      | ok result =>
          obtain ⟨_ | text, remaining⟩ := result
          · cases kept : mode.asTemplate with
            | false => simp [kept, Except.map]
            | true =>
                simp only [BuildMode.asTemplate_within, kept, ih remaining, if_true]
                cases writeAll mode remaining (ofPart component whole after) <;>
                  simp [Except.map, Written.text]
          · simp only [ih remaining]
            cases writeAll mode remaining (ofPart component whole after) <;>
              simp [Except.map, Written.text]

/-- A character that opens no brace stays in front of what is substituted. -/
theorem substitute_cons
    {first : Char}
    (plain : isPlain first = true)
    (whole : Text)
    (component : Component)
    (mode : BuildMode)
    (values : Values)
    (rest : Text) :
    substitute whole component (mode.within component) values (first :: rest) =
      (substitute whole component (mode.within component) values rest).map fun result =>
        (first :: result.1, result.2) := by
  obtain ⟨steps, begins, longer⟩ := exists_ofPart_cons plain component whole rest
  rw [substitute_eq_writeAll, substitute_eq_writeAll, begins, longer]
  simp only [writeAll, write]
  cases writeAll mode values steps <;> rfl

/-- Steps one after the other are taken with the values that remain. -/
theorem writeAll_append
    (mode : BuildMode)
    (values : Values)
    (first second : List Step) :
    writeAll mode values (first ++ second) =
      (writeAll mode values first).bind fun before =>
        (writeAll mode before.2 second).map fun behind => (before.1 ++ behind.1, behind.2) := by
  induction first generalizing values with
  | nil =>
      simp only [writeAll, List.nil_append, Except.bind]
      cases writeAll mode values second <;> rfl
  | cons step first ih =>
      simp only [writeAll, List.cons_append]
      cases step.write mode values with
      | error fault => rfl
      | ok result =>
          simp only [ih result.2]
          cases writeAll mode result.2 first with
          | error fault => rfl
          | ok before =>
              simp only [Except.bind]
              cases writeAll mode before.2 second <;> rfl

/-- The steps for a part that is there, between two marks. -/
def ofSection (before : Text) (component : Component) (after : Text) : Option Text → List Step
  | none => []
  | some part => .mark before :: (ofPart component part part ++ [.mark after])

end Step

namespace Parts

/-- Whether the URI has an authority. -/
def hasAuthority (parts : Parts) : Bool :=
  parts.userInfo.isSome || parts.host.isSome || parts.port.isSome

/-- A part that counts as absent when it is empty. -/
def present (part : Option Text) : Option Text :=
  part.filter (· ≠ [])

@[simp]
theorem present_none : present none = none := rfl

@[simp]
theorem present_nil : present (some []) = none := rfl

@[simp]
theorem present_cons (character : Char) (part : Text) :
    present (some (character :: part)) = some (character :: part) := by
  simp [present]

/-- What stands before the path: a slash, if something precedes it and it has none itself. -/
def pathMark (parts : Parts) : Text :=
  if (parts.scheme.isNone && !parts.hasAuthority) || (parts.path.getD []).head? = some '/' then []
  else ['/']

/-- The steps that write the authority. -/
def authoritySteps (parts : Parts) : List Step :=
  if parts.hasAuthority then
    .mark ['/', '/'] ::
      (Step.ofSection [] .userInfo ['@'] (present parts.userInfo) ++
        (Step.ofSection [] .host [] parts.host ++ Step.ofSection [':'] .port [] parts.port))
  else
    []

/-- The steps that write a URI. -/
def steps (parts : Parts) : List Step :=
  Step.ofSection [] .scheme [':'] parts.scheme ++
    (parts.authoritySteps ++
      (Step.ofSection parts.pathMark .path [] (present parts.path) ++
        (Step.ofSection ['?'] .query [] (present parts.query) ++
          Step.ofSection ['#'] .fragment [] (present parts.fragment))))

end Parts

end Uri
end ResourceRouting
