import ResourceRouting.Proofs.Uri.Writing

/-!
# Drafts of a URI

A URI is assembled by adding one part after the other to a draft.  Each of these additions takes the
steps of its part, and all together they are the steps of the URI.
-/

namespace ResourceRouting
namespace Uri

namespace Draft

/-- Takes steps in writing a draft. -/
def follow (draft : Draft) (mode : BuildMode) (steps : List Step) : Except BuildError Draft :=
  (Step.writeAll mode draft.values steps).map fun result =>
    ⟨draft.text ++ Written.join result.1, result.2⟩

theorem follow_nil (draft : Draft) (mode : BuildMode) : draft.follow mode [] = .ok draft := by
  simp [follow, Step.writeAll, Except.map]

theorem follow_append (draft : Draft) (mode : BuildMode) (first second : List Step) :
    draft.follow mode (first ++ second) =
      (draft.follow mode first).bind (·.follow mode second) := by
  simp only [follow, Step.writeAll_append]
  cases Step.writeAll mode draft.values first with
  | error fault => rfl
  | ok before =>
      simp only [Except.bind, Except.map]
      cases Step.writeAll mode before.2 second <;> simp

theorem follow_mark_cons (draft : Draft) (mode : BuildMode) (text : Text) (steps : List Step) :
    draft.follow mode (.mark text :: steps) = (draft.write text).follow mode steps := by
  simp only [follow, Step.writeAll, Step.write, write]
  cases Step.writeAll mode draft.values steps <;> simp [Except.map, Written.text]

/-- A part is filled by its steps. -/
theorem fill_eq_follow (draft : Draft) (mode : BuildMode) (component : Component) (part : Text) :
    draft.fill component (mode.within component) part =
      draft.follow mode (Step.ofPart component part part) := by
  rw [fill, follow, Step.substitute_eq_writeAll]
  cases Step.writeAll mode draft.values (Step.ofPart component part part) <;> rfl

/-- A part between two marks is written by its steps. -/
theorem follow_ofSection
    (draft : Draft)
    (mode : BuildMode)
    (before after : Text)
    (component : Component)
    (part : Option Text) :
    draft.follow mode (Step.ofSection before component after part) =
      match part with
      | none => .ok draft
      | some part =>
          ((draft.write before).fill component (mode.within component) part).map
            (·.write after) := by
  cases part with
  | none => exact draft.follow_nil mode
  | some part =>
      rw [Step.ofSection, follow_mark_cons, follow_append, ← fill_eq_follow]
      dsimp only
      cases (draft.write before).fill component (mode.within component) part with
      | error fault => rfl
      | ok filled => exact (follow_mark_cons filled mode after []).trans (follow_nil _ mode)

/-- An empty part is not written. -/
theorem follow_ofSection_present
    (draft : Draft)
    (mode : BuildMode)
    (before after : Text)
    (component : Component)
    (part : Option Text) :
    draft.follow mode (Step.ofSection before component after (Parts.present part)) =
      match part with
      | none => .ok draft
      | some [] => .ok draft
      | some part =>
          ((draft.write before).fill component (mode.within component) part).map
            (·.write after) := by
  rw [follow_ofSection]
  rcases part with _ | _ | ⟨character, part⟩
  · rfl
  · rfl
  · rw [Parts.present_cons]

/-- What is written stands behind what was there. -/
theorem exists_text_of_follow
    {draft final : Draft}
    {mode : BuildMode}
    {steps : List Step}
    (followed : draft.follow mode steps = .ok final) :
    ∃ more, final.text = draft.text ++ more := by
  rw [follow] at followed
  cases written : Step.writeAll mode draft.values steps with
  | error fault =>
      rw [written] at followed
      cases followed
  | ok result =>
      rw [written] at followed
      cases followed
      exact ⟨_, rfl⟩

@[simp]
theorem write_nil (draft : Draft) : draft.write [] = draft := by
  simp [write]

@[simp]
theorem map_write_nil (result : Except BuildError Draft) : result.map (·.write []) = result := by
  cases result with
  | error fault => rfl
  | ok draft => exact congrArg Except.ok draft.write_nil

theorem fillScheme_eq_follow (draft : Draft) (mode : BuildMode) (parts : Parts) :
    draft.fillScheme mode parts =
      draft.follow mode (Step.ofSection [] .scheme [':'] parts.scheme) := by
  rw [follow_ofSection, write_nil]
  rfl

theorem fillUserInfo_eq_follow (draft : Draft) (mode : BuildMode) (parts : Parts) :
    draft.fillUserInfo mode parts =
      draft.follow mode (Step.ofSection [] .userInfo ['@'] (Parts.present parts.userInfo)) := by
  rw [follow_ofSection_present, write_nil]
  rfl

theorem fillHost_eq_follow (draft : Draft) (mode : BuildMode) (parts : Parts) :
    draft.fillHost mode parts = draft.follow mode (Step.ofSection [] .host [] parts.host) := by
  rw [follow_ofSection, write_nil]
  simp only [map_write_nil]
  rfl

theorem fillPort_eq_follow (draft : Draft) (mode : BuildMode) (parts : Parts) :
    draft.fillPort mode parts = draft.follow mode (Step.ofSection [':'] .port [] parts.port) := by
  simp only [follow_ofSection, map_write_nil]
  rfl

theorem fillAuthority_eq_follow (draft : Draft) (mode : BuildMode) (parts : Parts) :
    draft.fillAuthority mode parts = draft.follow mode parts.authoritySteps := by
  unfold fillAuthority Parts.authoritySteps Parts.hasAuthority
  split
  · rw [follow_mark_cons, follow_append, fillUserInfo_eq_follow]
    cases (draft.write ['/', '/']).follow mode
        (Step.ofSection [] .userInfo ['@'] (Parts.present parts.userInfo)) with
    | error fault => rfl
    | ok named =>
        simp only [Except.bind]
        rw [follow_append, fillHost_eq_follow]
        cases named.follow mode (Step.ofSection [] .host [] parts.host) with
        | error fault => rfl
        | ok hosted => exact hosted.fillPort_eq_follow mode parts
  · exact (draft.follow_nil mode).symm

theorem fillPath_eq_follow
    {draft : Draft}
    {parts : Parts}
    (begins : draft.text = [] ↔ parts.scheme = none ∧ parts.hasAuthority = false)
    (mode : BuildMode) :
    draft.fillPath mode parts =
      draft.follow mode (Step.ofSection parts.pathMark .path [] (Parts.present parts.path)) := by
  have empty : (parts.scheme.isNone && !parts.hasAuthority) = draft.text.isEmpty := by
    rw [Bool.eq_iff_iff, List.isEmpty_iff, begins]
    simp
  rw [follow_ofSection_present]
  unfold fillPath
  simp only [Parts.pathMark, empty, map_write_nil]
  rcases parts.path with _ | _ | ⟨character, path⟩
  · rfl
  · rfl
  · simp only [Option.getD_some]
    split
    · rw [write_nil]
      rfl
    · rfl

theorem fillQuery_eq_follow (draft : Draft) (mode : BuildMode) (parts : Parts) :
    draft.fillQuery mode parts =
      draft.follow mode (Step.ofSection ['?'] .query [] (Parts.present parts.query)) := by
  simp only [follow_ofSection_present, map_write_nil]
  rfl

theorem fillFragment_eq_follow (draft : Draft) (mode : BuildMode) (parts : Parts) :
    draft.fillFragment mode parts =
      draft.follow mode (Step.ofSection ['#'] .fragment [] (Parts.present parts.fragment)) := by
  simp only [follow_ofSection_present, map_write_nil]
  rfl

/-- Nothing stands before the path exactly if there is neither a scheme nor an authority. -/
theorem text_eq_nil_iff
    {parts : Parts}
    {values : Values}
    {mode : BuildMode}
    {named hosted : Draft}
    (first : (⟨[], values⟩ : Draft).follow mode (Step.ofSection [] .scheme [':'] parts.scheme) =
      .ok named)
    (second : named.follow mode parts.authoritySteps = .ok hosted) :
    hosted.text = [] ↔ parts.scheme = none ∧ parts.hasAuthority = false := by
  have start : named.text = [] ↔ parts.scheme = none := by
    rw [follow_ofSection] at first
    cases set : parts.scheme with
    | none =>
        rw [set] at first
        cases first
        simp
    | some scheme =>
        rw [set, write_nil] at first
        dsimp only at first
        cases filled : (⟨[], values⟩ : Draft).fill .scheme (mode.within .scheme) scheme with
        | error fault =>
            rw [filled] at first
            cases first
        | ok draft =>
            rw [filled] at first
            cases first
            simp [write]
  rw [Parts.authoritySteps] at second
  split at second
  · rename_i authority
    rw [follow_mark_cons] at second
    obtain ⟨more, text⟩ := exists_text_of_follow second
    simp [text, write, authority]
  · rename_i authority
    rw [follow_nil] at second
    cases second
    simp [start, authority]

end Draft

namespace Parts

/-- A URI is built by its steps. -/
theorem build_eq_writeAll (parts : Parts) (values : Values) (mode : BuildMode) :
    parts.build values mode =
      (Step.writeAll mode values parts.steps).map fun result => Written.join result.1 := by
  have followed : parts.build values mode =
      ((⟨[], values⟩ : Draft).follow mode parts.steps).map Draft.text := by
    rw [build, steps, Draft.fillScheme_eq_follow, Draft.follow_append]
    cases first : (⟨[], values⟩ : Draft).follow mode
        (Step.ofSection [] .scheme [':'] parts.scheme) with
    | error fault => rfl
    | ok named =>
        simp only [bind, Except.bind]
        rw [named.fillAuthority_eq_follow, Draft.follow_append]
        cases second : named.follow mode parts.authoritySteps with
        | error fault => rfl
        | ok hosted =>
            simp only [Except.bind]
            rw [Draft.fillPath_eq_follow (Draft.text_eq_nil_iff first second),
              Draft.follow_append]
            cases hosted.follow mode
                (Step.ofSection parts.pathMark .path [] (present parts.path)) with
            | error fault => rfl
            | ok routed =>
                simp only [Except.bind]
                rw [routed.fillQuery_eq_follow, Draft.follow_append]
                cases routed.follow mode
                    (Step.ofSection ['?'] .query [] (present parts.query)) with
                | error fault => rfl
                | ok asked =>
                    simp only [Except.bind]
                    rw [asked.fillFragment_eq_follow]
                    cases asked.follow mode
                      (Step.ofSection ['#'] .fragment [] (present parts.fragment)) <;> rfl
  rw [followed, Draft.follow]
  cases Step.writeAll mode values parts.steps <;> rfl

end Parts

end Uri
end ResourceRouting
