import ResourceRouting.Proofs.Uri.Compile
import ResourceRouting.Resource.Declaration

/-!
# Declared resources

Resources come from declarations only, so all patterns of a resource have been compiled.
-/

namespace ResourceRouting
namespace Resource

variable {σ : Type}

/-- A resource that some declaration makes. -/
def IsDeclared (resource : Resource σ) : Prop :=
  ∃ name template members, declare name template members = .ok resource

/-- All members of a resource have compiled patterns. -/
structure HasCompiledMembers (resource : Resource σ) : Prop where
  /-- Operations below the resource have compiled patterns. -/
  subOperations : ∀ sub ∈ resource.subOperations, sub.pattern.IsCompiled
  /-- Locators have compiled patterns. -/
  locators : ∀ sub ∈ resource.locators, sub.pattern.IsCompiled

/-- A member is added with a compiled pattern. -/
theorem HasCompiledMembers.addMember
    {resource added : Resource σ}
    {member : Member σ}
    (compiled : resource.HasCompiledMembers)
    (result : resource.addMember member = .ok added) :
    added.HasCompiledMembers := by
  cases member with
  | operation operation =>
      cases result
      exact ⟨compiled.subOperations, compiled.locators⟩
  | subOperation template operation =>
      cases pattern : Uri.Pattern.compile template with
      | error fault => simp [Resource.addMember, pattern] at result
      | ok found =>
          simp only [Resource.addMember, pattern, Except.ok.injEq] at result
          subst result
          refine ⟨?_, compiled.locators⟩
          intro sub present
          rcases List.mem_append.mp present with before | last
          · exact compiled.subOperations sub before
          · rw [List.mem_singleton.mp last]
            exact ⟨template, pattern⟩
  | locator template locate =>
      cases pattern : Uri.Pattern.compile template with
      | error fault => simp [Resource.addMember, pattern] at result
      | ok found =>
          simp only [Resource.addMember, pattern, Except.ok.injEq] at result
          subst result
          refine ⟨compiled.subOperations, ?_⟩
          intro sub present
          rcases List.mem_append.mp present with before | last
          · exact compiled.locators sub before
          · rw [List.mem_singleton.mp last]
            exact ⟨template, pattern⟩

/-- Members are added one after the other, each with a compiled pattern. -/
theorem HasCompiledMembers.foldlM_addMember
    {resource added : Resource σ}
    {members : List (Member σ)}
    (compiled : resource.HasCompiledMembers)
    (result : members.foldlM Resource.addMember resource = .ok added) :
    added.HasCompiledMembers := by
  induction members generalizing resource with
  | nil =>
      cases result
      exact compiled
  | cons member rest ih =>
      cases next : resource.addMember member with
      | error fault => simp [List.foldlM_cons, next, bind, Except.bind] at result
      | ok found =>
          simp only [List.foldlM_cons, next, bind, Except.bind] at result
          exact ih (compiled.addMember next) result

theorem eq_of_checkConflicts
    {resource checked : Resource σ}
    (result : resource.checkConflicts = .ok checked) :
    checked = resource := by
  unfold checkConflicts at result
  split at result
  · cases result
  · split at result
    · cases result
    · exact (Except.ok.inj result).symm

/-- A declaration adds the members to a resource that has the pattern of the template. -/
theorem exists_foldlM_of_declare
    {name : Text}
    {template : Option Text}
    {members : List (Member σ)}
    {resource : Resource σ}
    (declares : declare name template members = .ok resource) :
    ∃ built,
      members.foldlM addMember (⟨name, .empty, [], [], []⟩ : Resource σ) = .ok built ∧
        ownPattern template = .ok resource.pattern ∧
        resource = { built with pattern := resource.pattern } := by
  unfold declare at declares
  cases folded : members.foldlM addMember (⟨name, .empty, [], [], []⟩ : Resource σ) with
  | error fault => simp [folded, bind, Except.bind] at declares
  | ok built =>
      cases own : ownPattern template with
      | error fault => simp [folded, own, bind, Except.bind] at declares
      | ok pattern =>
          simp only [folded, own, bind, Except.bind] at declares
          obtain rfl := eq_of_checkConflicts declares
          exact ⟨built, rfl, rfl, rfl⟩

/-- A resource that is declared with a template has the pattern of the template. -/
theorem compile_of_ownPattern
    {template : Text}
    {pattern : Uri.Pattern}
    (own : ownPattern (some template) = .ok pattern) :
    Uri.Pattern.compile template = .ok pattern := by
  rw [ownPattern] at own
  cases compiled : Uri.Pattern.compile template with
  | error fault =>
      rw [compiled] at own
      cases own
  | ok found =>
      rw [compiled] at own
      exact congrArg Except.ok (Except.ok.inj own)

/-- What a declared resource is made of. -/
theorem IsDeclared.compiled
    {resource : Resource σ}
    (declared : resource.IsDeclared) :
    resource.pattern.IsCompiled ∧ resource.HasCompiledMembers := by
  obtain ⟨name, template, members, declares⟩ := declared
  obtain ⟨built, folded, own, made⟩ := exists_foldlM_of_declare declares
  have empty : (⟨name, .empty, [], [], []⟩ : Resource σ).HasCompiledMembers :=
    ⟨by simp, by simp⟩
  have members := empty.foldlM_addMember folded
  constructor
  · cases template with
    | none =>
        rw [← Except.ok.inj own]
        exact ⟨[], rfl⟩
    | some text => exact ⟨text, compile_of_ownPattern own⟩
  · rw [made]
    exact ⟨members.subOperations, members.locators⟩

/-- Operations on a resource can be declared one after the other. -/
theorem foldlM_addMember_operations (operations : List (Operation σ)) (resource : Resource σ) :
    (operations.map Member.operation).foldlM addMember resource =
      .ok { resource with operations := resource.operations ++ operations } := by
  induction operations generalizing resource with
  | nil => simp [pure, Except.pure]
  | cons operation operations ih =>
      simp only [List.map_cons, List.foldlM_cons, addMember, bind, Except.bind, ih]
      simp

/-- Operations below a resource whose patterns are compiled have a declaration. -/
theorem exists_foldlM_addMember_subOperations
    {subOperations : List (SubOperation σ)}
    (compiled : ∀ sub ∈ subOperations, sub.pattern.IsCompiled) :
    ∃ members : List (Member σ), ∀ resource : Resource σ,
      members.foldlM addMember resource =
        .ok { resource with subOperations := resource.subOperations ++ subOperations } := by
  induction subOperations with
  | nil => exact ⟨[], fun resource => by simp [pure, Except.pure]⟩
  | cons sub subOperations ih =>
      obtain ⟨members, declares⟩ := ih fun other present =>
        compiled other (List.mem_cons_of_mem _ present)
      obtain ⟨template, pattern⟩ := compiled sub (List.mem_cons_self ..)
      refine ⟨.subOperation template sub.operation :: members, fun resource => ?_⟩
      simp only [List.foldlM_cons, addMember, pattern, bind, Except.bind, declares]
      simp

/-- Locators whose patterns are compiled have a declaration. -/
theorem exists_foldlM_addMember_locators
    {locators : List (Locator σ)}
    (compiled : ∀ sub ∈ locators, sub.pattern.IsCompiled) :
    ∃ members : List (Member σ), ∀ resource : Resource σ,
      members.foldlM addMember resource =
        .ok { resource with locators := resource.locators ++ locators } := by
  induction locators with
  | nil => exact ⟨[], fun resource => by simp [pure, Except.pure]⟩
  | cons sub locators ih =>
      obtain ⟨members, declares⟩ := ih fun other present =>
        compiled other (List.mem_cons_of_mem _ present)
      obtain ⟨template, pattern⟩ := compiled sub (List.mem_cons_self ..)
      refine ⟨.locator template sub.locate :: members, fun resource => ?_⟩
      simp only [List.foldlM_cons, addMember, pattern, bind, Except.bind, declares]
      simp

/-- A resource with compiled patterns is declared if its operations are not in conflict. -/
theorem isDeclared_of_compiled
    {resource : Resource σ}
    (own : resource.pattern.IsCompiled)
    (members : resource.HasCompiledMembers)
    (consistent : resource.checkConflicts = .ok resource) :
    resource.IsDeclared := by
  obtain ⟨template, pattern⟩ := own
  obtain ⟨subs, subsDeclare⟩ := exists_foldlM_addMember_subOperations members.subOperations
  obtain ⟨locators, locatorsDeclare⟩ := exists_foldlM_addMember_locators members.locators
  refine ⟨resource.name, some template,
    resource.operations.map .operation ++ (subs ++ locators), ?_⟩
  have own : ownPattern (some template) = .ok resource.pattern := by
    rw [ownPattern, pattern]
    rfl
  simp only [declare, List.foldlM_append, foldlM_addMember_operations, subsDeclare,
    locatorsDeclare, own, bind, Except.bind, List.nil_append]
  exact consistent

/-- A template that has a pattern makes a resource without members. -/
theorem exists_isDeclared
    {template : Text}
    (valid : (Uri.Pattern.compile template).toBool = true) :
    ∃ resource : Resource σ,
      resource.IsDeclared ∧ Uri.Pattern.compile template = .ok resource.pattern ∧
        resource.subOperations = [] ∧ resource.locators = [] := by
  obtain ⟨pattern, compiled⟩ := Uri.Pattern.exists_compile valid
  exact ⟨⟨template, pattern, [], [], []⟩,
    isDeclared_of_compiled ⟨template, compiled⟩ ⟨by simp, by simp⟩ rfl, compiled, rfl, rfl⟩

/-- Two templates that have patterns make a resource with one operation below it. -/
theorem isDeclared_of_compile
    {name template below : Text}
    {own pattern : Uri.Pattern}
    (ownCompiled : Uri.Pattern.compile template = .ok own)
    (compiled : Uri.Pattern.compile below = .ok pattern)
    (operation : Operation σ) :
    (⟨name, own, [], [⟨pattern, operation⟩], []⟩ : Resource σ).IsDeclared :=
  isDeclared_of_compiled ⟨template, ownCompiled⟩ ⟨by simpa using ⟨below, compiled⟩, by simp⟩ rfl

end Resource
end ResourceRouting
