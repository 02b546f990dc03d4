import ResourceRouting.Proofs.Uri.Writing.Drafting

/-!
# Empty parts

A part without text writes nothing of its own, but the colon behind a scheme, the colon before a
port and the slashes before an authority are written wherever the part is set.  Leaving the empty
parts out never changes whether a URI can be built, and it changes the URI exactly if one of these
marks disappears with them.
-/

namespace ResourceRouting
namespace Uri

namespace Step

/--
Some steps without marks and literal text that others hold, and how many characters less they write.
-/
inductive Shortens : Nat → List Step → List Step → Prop
  /-- Nothing is left out of nothing. -/
  | nil : Shortens 0 [] []
  /-- A step is taken on both sides. -/
  | keep
      {count : Nat}
      {long short : List Step}
      (step : Step)
      (further : Shortens count long short) :
      Shortens count (step :: long) (step :: short)
  /-- A mark is left out. -/
  | drop
      {count : Nat}
      {long short : List Step}
      (text : Text)
      (further : Shortens count long short) :
      Shortens (text.length + count) (.mark text :: long) short
  /-- A mark is written without its text. -/
  | clear
      {count : Nat}
      {long short : List Step}
      (text : Text)
      (further : Shortens count long short) :
      Shortens (text.length + count) (.mark text :: long) (.mark [] :: short)
  /-- A literal without text is left out. -/
  | blank
      {count : Nat}
      {long short : List Step}
      (component : Component)
      (further : Shortens count long short) :
      Shortens count (.literal component [] :: long) short

/--
Two results that agree but for some characters: the errors and the values that remain are the same,
and the shorter text is the longer one without these characters.
-/
inductive Accords (count : Nat) :
    Except BuildError (List Written × Values) → Except BuildError (List Written × Values) → Prop
  /-- Both are the same error. -/
  | failed (error : BuildError) : Accords count (.error error) (.error error)
  /-- Both have written, one of them more. -/
  | written
      {more fewer : List Written}
      {final : Values}
      (within : (Written.join fewer).Sublist (Written.join more))
      (counted : (Written.join more).length = count + (Written.join fewer).length) :
      Accords count (.ok (more, final)) (.ok (fewer, final))

section Accords

variable
  {count : Nat}
  {longer shorter : Except BuildError (List Written × Values)}

/-- What is written in front on both sides changes nothing. -/
theorem Accords.both (accords : Accords count longer shorter) (one : Written) :
    Accords count (longer.map (Prod.map (one :: ·) id)) (shorter.map (Prod.map (one :: ·) id)) := by
  cases accords with
  | failed error => exact .failed error
  | written within counted =>
      refine .written ((List.Sublist.refl _).append within) ?_
      simp only [Written.join_cons, List.length_append]
      omega

/-- What is written in front on the longer side counts. -/
theorem Accords.more (accords : Accords count longer shorter) (one : Written) :
    Accords (one.text.length + count) (longer.map (Prod.map (one :: ·) id)) shorter := by
  cases accords with
  | failed error => exact .failed error
  | written within counted =>
      refine .written (within.trans (List.sublist_append_right _ _)) ?_
      simp only [Written.join_cons, List.length_append]
      omega

/-- A mark without text on the shorter side does not count. -/
theorem Accords.blank (accords : Accords count longer shorter) :
    Accords count longer (shorter.map (Prod.map (Written.mark [] :: ·) id)) := by
  cases accords with
  | failed error => exact .failed error
  | written within counted => exact .written within counted

end Accords

/-- A step is taken, and then the others with the values that remain. -/
theorem writeAll_cons (mode : BuildMode) (values : Values) (step : Step) (steps : List Step) :
    writeAll mode values (step :: steps) =
      (step.write mode values).bind fun first =>
        (writeAll mode first.2 steps).map (Prod.map (first.1 :: ·) id) := by
  rw [writeAll]
  cases step.write mode values with
  | error fault => rfl
  | ok first =>
      dsimp only [Except.bind]
      cases writeAll mode first.2 steps <;> rfl

namespace Shortens

variable {count less : Nat} {long short first second : List Step}

/-- All steps may be taken. -/
theorem refl (steps : List Step) : Shortens 0 steps steps := by
  induction steps with
  | nil => exact .nil
  | cons step steps ih => exact .keep step ih

/-- What is left out one after the other adds up. -/
theorem append (front : Shortens count long short) (behind : Shortens less first second) :
    Shortens (count + less) (long ++ first) (short ++ second) := by
  induction front with
  | nil =>
      rw [Nat.zero_add]
      exact behind
  | keep step _ ih => exact .keep step ih
  | drop text _ ih =>
      rw [Nat.add_assoc]
      exact .drop text ih
  | clear text _ ih =>
      rw [Nat.add_assoc]
      exact .clear text ih
  | blank component _ ih => exact .blank component ih

/-- Steps use values and fail alike whether or not marks and literals without text are left out. -/
theorem accords_writeAll
    (shortens : Shortens count long short)
    (mode : BuildMode)
    (values : Values) :
    Accords count (writeAll mode values long) (writeAll mode values short) := by
  induction shortens generalizing values with
  | nil => exact .written (List.Sublist.refl _) rfl
  | keep step _ ih =>
      rw [writeAll_cons, writeAll_cons]
      cases step.write mode values with
      | error fault => exact .failed fault
      | ok first => exact (ih first.2).both first.1
  | drop text _ ih =>
      rw [writeAll_cons]
      exact (ih values).more (.mark text)
  | clear text _ ih =>
      rw [writeAll_cons, writeAll_cons]
      exact ((ih values).more (.mark text)).blank
  | blank component _ ih =>
      have same := (ih values).more (.literal component [])
      rw [writeAll_cons]
      rwa [Written.text, List.length_nil, Nat.zero_add] at same

/-- A part between its marks shortens to nothing if it is empty. -/
theorem ofSection (before : Text) (component : Component) (after : Text) (part : Option Text) :
    Shortens (if part = some [] then before.length + after.length else 0)
      (Step.ofSection before component after part)
      (Step.ofSection before component after (Parts.present part)) := by
  rcases part with _ | _ | ⟨character, part⟩
  · exact .nil
  · rw [Step.ofSection, ofPart_of_nil rfl, if_pos rfl]
    exact .drop before (.blank component (.drop after .nil))
  · rw [Parts.present_cons, if_neg (by simp)]
    exact refl _

end Shortens
end Step

namespace Parts

/-- The parts without those that are empty. -/
def withoutEmpty (parts : Parts) : Parts where
  scheme := present parts.scheme
  userInfo := present parts.userInfo
  host := present parts.host
  port := present parts.port
  path := present parts.path
  query := present parts.query
  fragment := present parts.fragment

/-- No empty part leaves a mark behind. -/
structure LeavesNoMark (parts : Parts) : Prop where
  /-- There is no colon of an empty scheme. -/
  scheme : parts.scheme ≠ some []
  /-- There are no slashes of an authority whose parts are all empty. -/
  authority : parts.hasAuthority = true → parts.withoutEmpty.hasAuthority = true
  /-- There is no colon of an empty port. -/
  port : parts.port ≠ some []

@[simp]
theorem present_present (part : Option Text) : present (present part) = present part := by
  simp [present, Option.filter_filter]

@[simp]
theorem getD_present (part : Option Text) : (present part).getD [] = part.getD [] := by
  rcases part with _ | _ | ⟨character, part⟩ <;> simp

theorem present_of_ne {part : Option Text} (nonempty : part ≠ some []) : present part = part := by
  rcases part with _ | _ | ⟨character, part⟩
  · rfl
  · exact absurd rfl nonempty
  · exact present_cons character part

theorem isSome_of_present {part : Option Text} (nonempty : (present part).isSome = true) :
    part.isSome = true := by
  cases part with
  | none => exact nonempty
  | some part => rfl

/-- An authority that is left was there before. -/
theorem hasAuthority_of_withoutEmpty
    {parts : Parts}
    (left : parts.withoutEmpty.hasAuthority = true) :
    parts.hasAuthority = true := by
  simp only [hasAuthority, Bool.or_eq_true] at left ⊢
  exact left.imp (Or.imp isSome_of_present isSome_of_present) isSome_of_present

/-- Where no mark is left behind, there is an authority exactly if one is left. -/
theorem LeavesNoMark.hasAuthority_eq {parts : Parts} (clean : parts.LeavesNoMark) :
    parts.withoutEmpty.hasAuthority = parts.hasAuthority := by
  rw [Bool.eq_iff_iff]
  exact ⟨hasAuthority_of_withoutEmpty, clean.authority⟩

/-- Where no mark is left behind, the path has the same slash in front. -/
theorem LeavesNoMark.pathMark_eq {parts : Parts} (clean : parts.LeavesNoMark) :
    parts.withoutEmpty.pathMark = parts.pathMark := by
  rw [pathMark, pathMark, clean.hasAuthority_eq]
  simp only [withoutEmpty, present_of_ne clean.scheme, getD_present]

/-- Without empty parts the path has the same slash in front, or none. -/
theorem pathMark_withoutEmpty (parts : Parts) :
    parts.withoutEmpty.pathMark = parts.pathMark ∨ parts.withoutEmpty.pathMark = [] := by
  by_cases plain : ((parts.withoutEmpty.scheme.isNone && !parts.withoutEmpty.hasAuthority) ||
      (parts.withoutEmpty.path.getD []).head? = some '/') = true
  · right
    rw [pathMark, if_pos plain]
  · left
    have marked : ¬((parts.scheme.isNone && !parts.hasAuthority) ||
        (parts.path.getD []).head? = some '/') = true := by
      refine mt (fun bare => ?_) plain
      simp only [Bool.or_eq_true, Bool.and_eq_true, Bool.not_eq_true', Option.isNone_iff_eq_none]
        at bare ⊢
      rcases bare with ⟨unnamed, apart⟩ | slash
      · refine .inl ⟨?_, ?_⟩
        · rw [withoutEmpty, unnamed, present_none]
        · rw [Bool.eq_false_iff] at apart ⊢
          exact mt hasAuthority_of_withoutEmpty apart
      · right
        rwa [withoutEmpty, getD_present]
    rw [pathMark, pathMark, if_neg plain, if_neg marked]

/-- Without its empty parts the URI lacks the colon of an empty scheme. -/
theorem shortens_scheme (parts : Parts) :
    Step.Shortens (if parts.scheme = some [] then 1 else 0)
      (Step.ofSection [] .scheme [':'] parts.scheme)
      (Step.ofSection [] .scheme [':'] parts.withoutEmpty.scheme) :=
  Step.Shortens.ofSection [] .scheme [':'] parts.scheme

/-- The parts of the authority lack the colon of an empty port. -/
theorem shortens_authority (parts : Parts) :
    Step.Shortens (if parts.port = some [] then 1 else 0)
      (Step.ofSection [] .userInfo ['@'] (present parts.userInfo) ++
        (Step.ofSection [] .host [] parts.host ++ Step.ofSection [':'] .port [] parts.port))
      (Step.ofSection [] .userInfo ['@'] (present parts.withoutEmpty.userInfo) ++
        (Step.ofSection [] .host [] parts.withoutEmpty.host ++
          Step.ofSection [':'] .port [] parts.withoutEmpty.port)) := by
  have user := Step.Shortens.refl (Step.ofSection [] .userInfo ['@'] (present parts.userInfo))
  have host := Step.Shortens.ofSection [] .host [] parts.host
  have port := Step.Shortens.ofSection [':'] .port [] parts.port
  simpa [withoutEmpty] using user.append (host.append port)

/-- The authority lacks its slashes as well, if nothing is left of it. -/
theorem exists_shortens_authoritySteps (parts : Parts) :
    ∃ count,
      Step.Shortens count parts.authoritySteps parts.withoutEmpty.authoritySteps ∧
      (count = 0 ↔ parts.port ≠ some [] ∧
        (parts.hasAuthority = true → parts.withoutEmpty.hasAuthority = true)) := by
  have sections := parts.shortens_authority
  by_cases set : parts.hasAuthority = true
  · rw [authoritySteps, if_pos set]
    by_cases left : parts.withoutEmpty.hasAuthority = true
    · rw [authoritySteps, if_pos left]
      exact ⟨_, .keep (.mark ['/', '/']) sections, by simp [left]⟩
    · have gone := left
      simp only [hasAuthority, Bool.or_eq_true, not_or, Option.not_isSome_iff_eq_none] at gone
      rw [gone.1.1, gone.1.2, gone.2] at sections
      rw [authoritySteps, if_neg left]
      exact ⟨_, .drop ['/', '/'] sections, by simp [set, left]⟩
  · have unset := set
    simp only [hasAuthority, Bool.or_eq_true, not_or, Option.not_isSome_iff_eq_none] at unset
    rw [authoritySteps, if_neg set, authoritySteps, if_neg (mt hasAuthority_of_withoutEmpty set)]
    exact ⟨0, .nil, by simp [unset.2, set]⟩

/-- The path may lack the slash in front of it. -/
theorem exists_shortens_path (parts : Parts) :
    ∃ count,
      Step.Shortens count (Step.ofSection parts.pathMark .path [] (present parts.path))
        (Step.ofSection parts.withoutEmpty.pathMark .path [] (present parts.withoutEmpty.path)) ∧
      (parts.LeavesNoMark → count = 0) := by
  rw [show present parts.withoutEmpty.path = present parts.path from present_present parts.path]
  by_cases same : parts.withoutEmpty.pathMark = parts.pathMark
  · rw [same]
    exact ⟨0, .refl _, fun _ => rfl⟩
  · rw [parts.pathMark_withoutEmpty.resolve_left same]
    cases present parts.path with
    | none => exact ⟨0, .nil, fun _ => rfl⟩
    | some path =>
        exact ⟨_, .clear parts.pathMark (.refl _), fun clean => absurd clean.pathMark_eq same⟩

/-- Leaving the empty parts out makes a URI shorter, unless they leave no mark behind. -/
theorem exists_shortens_steps (parts : Parts) :
    ∃ count,
      Step.Shortens count parts.steps parts.withoutEmpty.steps ∧
      (count = 0 ↔ parts.LeavesNoMark) := by
  obtain ⟨authority, authorityShortens, authorityKept⟩ := parts.exists_shortens_authoritySteps
  obtain ⟨path, pathShortens, pathKept⟩ := parts.exists_shortens_path
  have query := Step.Shortens.refl (Step.ofSection ['?'] .query [] (present parts.query))
  have fragment := Step.Shortens.refl (Step.ofSection ['#'] .fragment [] (present parts.fragment))
  have all := parts.shortens_scheme.append
    (authorityShortens.append (pathShortens.append (query.append fragment)))
  refine ⟨_, by simpa [steps, withoutEmpty] using all, ?_⟩
  constructor
  · intro unchanged
    have named : parts.scheme ≠ some [] := by
      intro empty
      rw [if_pos empty] at unchanged
      omega
    have kept := authorityKept.mp (by omega)
    exact ⟨named, kept.2, kept.1⟩
  · intro clean
    rw [if_neg clean.scheme, authorityKept.mpr ⟨clean.port, clean.authority⟩, pathKept clean]

/--
Leaving empty parts out makes no error and hides none.  It gives the same URI exactly if no empty
part leaves a mark behind.
-/
theorem build_withoutEmpty (parts : Parts) (values : Values) (mode : BuildMode) :
    (∀ error, parts.build values mode = .error error ↔
        parts.withoutEmpty.build values mode = .error error) ∧
      (parts.build values mode = parts.withoutEmpty.build values mode ↔
        parts.LeavesNoMark ∨ ∃ error, parts.build values mode = .error error) := by
  obtain ⟨count, shortens, clean⟩ := parts.exists_shortens_steps
  rw [build_eq_writeAll, build_eq_writeAll]
  have same := shortens.accords_writeAll mode values
  generalize Step.writeAll mode values parts.steps = longer at same ⊢
  generalize Step.writeAll mode values parts.withoutEmpty.steps = shorter at same ⊢
  cases same with
  | failed error => exact ⟨fun _ => Iff.rfl, iff_of_true rfl (.inr ⟨error, rfl⟩)⟩
  | @written more fewer final within counted =>
      refine ⟨fun error => by simp [Except.map], ?_⟩
      rw [← clean]
      constructor
      · intro equal
        have texts : Written.join more = Written.join fewer := Except.ok.inj equal
        left
        rw [texts] at counted
        omega
      · rintro (unchanged | ⟨error, failed⟩)
        · rw [unchanged, Nat.zero_add] at counted
          exact congrArg Except.ok (within.eq_of_length counted.symm).symm
        · cases failed

/-- An empty scheme or authority leaves its marks behind. -/
theorem build_withoutEmpty_ne :
    ([{ scheme := some [] }, { userInfo := some [] }, { host := some [] }, { port := some [] }] :
        List Parts).map
        (fun parts => (parts.build (.ofList []) {}, parts.withoutEmpty.build (.ofList []) {})) =
      [(.ok ":".toList, .ok []), (.ok "//".toList, .ok []), (.ok "//".toList, .ok []),
        (.ok "//:".toList, .ok [])] := by
  decide +kernel

end Parts

end Uri
end ResourceRouting
