import Mathlib.Data.List.Perm.Subperm
import ResourceRouting.Proofs.Resource.Declared

/-!
# Conflicts between operations

A resource is declared if all templates have patterns and no operation is in conflict with an
earlier one.  Media types are compared in one direction only: where some are listed twice, another
list that is as long may hold them and others, and then it matters which one comes first.  Otherwise
the order of the members does not decide whether they are declared.
-/

namespace ResourceRouting

variable {σ : Type}

namespace Operation

/-- What is compared of media types: kind, subtype and suffix; none stand for all. -/
def essences (types : List MediaType) : List Text :=
  (orWildcard types).map MediaType.essence

/--
Media types are taken to be the same if they are equally many and the first ones are found among
the second ones.
-/
theorem sameTypes_iff {first second : List MediaType} :
    sameTypes first second = true ↔
      (essences first).length = (essences second).length ∧ essences first ⊆ essences second := by
  have among : essences first ⊆ essences second ↔
      ∀ media ∈ orWildcard first, ∃ other ∈ orWildcard second,
        media.essence = other.essence := by
    constructor
    · intro subset media present
      obtain ⟨other, listed, same⟩ := List.mem_map.mp (subset (List.mem_map_of_mem present))
      exact ⟨other, listed, same.symm⟩
    · intro others essence present
      obtain ⟨media, listed, rfl⟩ := List.mem_map.mp present
      obtain ⟨other, found, same⟩ := others media listed
      rw [same]
      exact List.mem_map_of_mem found
  rw [among]
  simp [sameTypes, essences]

/--
Media types that are compared differently in the two directions: they are equally many, and the
first ones are found among the second ones, but not the other way round.
-/
def IsLopsided (first second : List MediaType) : Prop :=
  (essences first).length = (essences second).length ∧
    essences first ⊆ essences second ∧ ¬essences second ⊆ essences first

instance (first second : List MediaType) : Decidable (IsLopsided first second) :=
  inferInstanceAs (Decidable (_ ∧ _ ∧ _))

/-- The direction of a comparison matters for lopsided media types only. -/
theorem sameTypes_comm_iff {first second : List MediaType} :
    sameTypes first second = sameTypes second first ↔
      ¬IsLopsided first second ∧ ¬IsLopsided second first := by
  rw [Bool.eq_iff_iff, sameTypes_iff, sameTypes_iff, IsLopsided, IsLopsided,
    @eq_comm _ (essences second).length]
  tauto

/-- Media types of which none is listed twice are not lopsided. -/
theorem not_isLopsided_of_nodup
    {first second : List MediaType}
    (distinct : (first.map MediaType.essence).Nodup) :
    ¬IsLopsided first second := by
  rintro ⟨length, subset, notBack⟩
  have nodup : (essences first).Nodup := by
    cases first with
    | nil => exact List.pairwise_singleton _ _
    | cons => exact distinct
  have contained := List.subperm_of_subset nodup subset
  exact notBack (contained.perm_of_length_le (Nat.le_of_eq length.symm)).symm.subset

/-- Two operations whose media types are not lopsided, if they have the same method. -/
structure AreEven (first second : Operation σ) : Prop where
  /-- The media types that are read are not lopsided. -/
  consumes : first.method = second.method → ¬IsLopsided first.consumes second.consumes
  /-- The media types that are written are not lopsided. -/
  produces : first.method = second.method → ¬IsLopsided first.produces second.produces

/-- Which of two operations is declared first does not decide whether they are in conflict. -/
theorem conflictsWith_comm
    {first second : Operation σ}
    (even : first.AreEven second)
    (otherEven : second.AreEven first) :
    first.conflictsWith second = second.conflictsWith first := by
  rw [conflictsWith, conflictsWith]
  by_cases same : first.method = second.method
  · rw [sameTypes_comm_iff.mpr ⟨even.consumes same, otherEven.consumes same.symm⟩,
      sameTypes_comm_iff.mpr ⟨even.produces same, otherEven.produces same.symm⟩]
    simp only [same]
  · simp only [same, Ne.symm same, decide_false, Bool.false_and]

end Operation

theorem SubOperation.conflictsWith_comm
    {first second : SubOperation σ}
    (even : first.operation.AreEven second.operation)
    (otherEven : second.operation.AreEven first.operation) :
    first.conflictsWith second = second.conflictsWith first := by
  rw [conflictsWith, conflictsWith, Operation.conflictsWith_comm even otherEven]
  simp only [Uri.Pattern.same, eq_comm]

namespace Member

/-- The template of a member, if it has one. -/
def template? : Member σ → Option Text
  | .operation _ => none
  | .subOperation template _ => some template
  | .locator template _ => some template

/-- The operation that a member declares, on the resource or below it. -/
def declared? : Member σ → Option (Operation σ)
  | .operation own => some own
  | .subOperation _ below => some below
  | .locator _ _ => none

/-- The operation that a member adds to the resource itself. -/
def own? : Member σ → Option (Operation σ)
  | .operation own => some own
  | _ => none

/-- The operation that a member adds below the resource. -/
def below? : Member σ → Option (SubOperation σ)
  | .subOperation template below =>
      (Uri.Pattern.compile template).toOption.map fun pattern => ⟨pattern, below⟩
  | _ => none

/-- If a member has a template there is a pattern for it. -/
def HasPattern (member : Member σ) : Prop :=
  ∀ template ∈ member.template?, ∃ pattern, Uri.Pattern.compile template = .ok pattern

end Member

namespace Resource

/-- No member is in conflict with one that has been seen exactly if no two are in conflict. -/
theorem firstConflict_eq_none_iff
    {α : Type}
    {conflict : α → α → Bool}
    {seen list : List α} :
    firstConflict conflict seen list = none ↔
      (∀ earlier ∈ seen, ∀ later ∈ list, conflict earlier later = false) ∧
        list.Pairwise fun earlier later => conflict earlier later = false := by
  -- What has been seen grows at its end, so it is generalized.
  induction list generalizing seen with
  | nil => simp [firstConflict]
  | cons member rest ih =>
      rw [firstConflict]
      by_cases conflicting : seen.any (conflict · member) = true
      · rw [if_pos conflicting]
        obtain ⟨earlier, present, refused⟩ := List.any_eq_true.mp conflicting
        constructor
        · intro impossible
          cases impossible
        · rintro ⟨apart, _⟩
          rw [apart earlier present member (List.mem_cons_self ..)] at refused
          cases refused
      · rw [if_neg conflicting, ih, List.pairwise_cons]
        have apart : ∀ earlier ∈ seen, conflict earlier member = false := by
          simpa using conflicting
        constructor
        · rintro ⟨others, distinct⟩
          refine ⟨fun earlier present later listed => ?_, fun later listed => ?_, distinct⟩
          · rcases List.mem_cons.mp listed with rfl | behind
            · exact apart earlier present
            · exact others earlier (List.mem_append_left _ present) later behind
          · exact others member (by simp) later listed
        · rintro ⟨others, own, distinct⟩
          refine ⟨fun earlier present later listed => ?_, distinct⟩
          rcases List.mem_append.mp present with before | last
          · exact others earlier before later (List.mem_cons_of_mem _ listed)
          · rw [List.mem_singleton.mp last]
            exact own later listed

/-- A member is added exactly if there is a pattern for its template. -/
theorem exists_addMember_iff {resource : Resource σ} {member : Member σ} :
    (∃ added, resource.addMember member = .ok added) ↔ member.HasPattern := by
  cases member with
  | operation own => simp [addMember, Member.HasPattern, Member.template?]
  | subOperation template below =>
      cases compiled : Uri.Pattern.compile template <;>
        simp [addMember, compiled, Member.HasPattern, Member.template?]
  | locator template locate =>
      cases compiled : Uri.Pattern.compile template <;>
        simp [addMember, compiled, Member.HasPattern, Member.template?]

/-- A member that is added stands behind the others. -/
theorem operations_of_addMember
    {resource added : Resource σ}
    {member : Member σ}
    (result : resource.addMember member = .ok added) :
    added.operations = resource.operations ++ member.own?.toList ∧
      added.subOperations = resource.subOperations ++ member.below?.toList := by
  cases member with
  | operation own =>
      cases result
      simp [Member.own?, Member.below?]
  | subOperation template below =>
      cases compiled : Uri.Pattern.compile template with
      | error fault => simp [addMember, compiled] at result
      | ok pattern =>
          simp only [addMember, compiled, Except.ok.injEq] at result
          subst result
          simp [Member.own?, Member.below?, compiled, Except.toOption]
  | locator template locate =>
      cases compiled : Uri.Pattern.compile template with
      | error fault => simp [addMember, compiled] at result
      | ok pattern =>
          simp only [addMember, compiled, Except.ok.injEq] at result
          subst result
          simp [Member.own?, Member.below?]

/-- All members are added exactly if there are patterns for their templates. -/
theorem exists_foldlM_addMember_iff {resource : Resource σ} {members : List (Member σ)} :
    (∃ built, members.foldlM addMember resource = .ok built) ↔
      ∀ member ∈ members, member.HasPattern := by
  induction members generalizing resource with
  | nil => simp [pure, Except.pure]
  | cons member rest ih =>
      rw [List.forall_mem_cons, ← exists_addMember_iff, List.foldlM_cons]
      cases result : resource.addMember member with
      | error fault => simp [bind, Except.bind]
      | ok added => simpa [bind, Except.bind] using ih

/-- Members that are added stand behind the others, in their order. -/
theorem operations_of_foldlM_addMember
    {resource built : Resource σ}
    {members : List (Member σ)}
    (result : members.foldlM addMember resource = .ok built) :
    built.operations = resource.operations ++ members.filterMap Member.own? ∧
      built.subOperations = resource.subOperations ++ members.filterMap Member.below? := by
  induction members generalizing resource with
  | nil =>
      cases result
      simp
  | cons member rest ih =>
      cases next : resource.addMember member with
      | error fault => simp [List.foldlM_cons, next, bind, Except.bind] at result
      | ok added =>
          simp only [List.foldlM_cons, next, bind, Except.bind] at result
          obtain ⟨operations, subOperations⟩ := operations_of_addMember next
          obtain ⟨others, subOthers⟩ := ih result
          rw [others, subOthers, operations, subOperations]
          constructor
          · cases own : member.own? <;> simp [own]
          · cases below : member.below? <;> simp [below]

/-- A resource passes exactly if no two operations of one path are in conflict. -/
theorem exists_checkConflicts_iff {resource : Resource σ} :
    (∃ checked, resource.checkConflicts = .ok checked) ↔
      (resource.operations.Pairwise fun earlier later => earlier.conflictsWith later = false) ∧
        resource.subOperations.Pairwise fun earlier later =>
          earlier.conflictsWith later = false := by
  have own := @firstConflict_eq_none_iff _ Operation.conflictsWith [] resource.operations
  have below := @firstConflict_eq_none_iff _ SubOperation.conflictsWith [] resource.subOperations
  simp only [List.not_mem_nil, false_imp_iff, implies_true, true_and] at own below
  rw [← own, ← below, checkConflicts]
  cases firstConflict Operation.conflictsWith [] resource.operations with
  | some operation => simp
  | none => cases firstConflict SubOperation.conflictsWith [] resource.subOperations <;> simp

/--
A declaration makes a resource exactly if there are patterns for all templates and no operation is
in conflict with an earlier one of its path.
-/
theorem exists_declare_iff
    {name : Text}
    {template : Option Text}
    {members : List (Member σ)} :
    (∃ resource, declare name template members = .ok resource) ↔
      (∀ member ∈ members, member.HasPattern) ∧
        (∃ pattern, ownPattern template = .ok pattern) ∧
        ((members.filterMap Member.own?).Pairwise fun earlier later =>
          earlier.conflictsWith later = false) ∧
        (members.filterMap Member.below?).Pairwise fun earlier later =>
          earlier.conflictsWith later = false := by
  rw [← @exists_foldlM_addMember_iff _ ⟨name, .empty, [], [], []⟩]
  cases folded : members.foldlM addMember (⟨name, .empty, [], [], []⟩ : Resource σ) with
  | error fault => simp [declare, folded, bind, Except.bind]
  | ok built =>
      obtain ⟨operations, subOperations⟩ := operations_of_foldlM_addMember folded
      rw [List.nil_append] at operations subOperations
      rw [← operations, ← subOperations]
      cases own : ownPattern template with
      | error fault => simp [declare, folded, own, bind, Except.bind]
      | ok pattern =>
          have checked := @exists_checkConflicts_iff _ { built with pattern }
          simpa [declare, folded, own, bind, Except.bind] using checked

/-- Where conflicts are mutual, a permutation of a list is without them if the list is. -/
theorem pairwise_perm_of_comm
    {α : Type}
    {conflict : α → α → Bool}
    {list others : List α}
    (permuted : others.Perm list)
    (comm : ∀ first ∈ list, ∀ second ∈ list, conflict first second = conflict second first) :
    (others.Pairwise fun earlier later => conflict earlier later = false) ↔
      list.Pairwise fun earlier later => conflict earlier later = false := by
  -- The conflict is mutual between members of the list only.
  let apart : α → α → Prop := fun first second =>
    first ∈ list → second ∈ list → conflict first second = false
  have symmetric : ∀ {first second}, apart first second → apart second first := by
    intro first second differ present secondPresent
    rw [comm second present first secondPresent]
    exact differ secondPresent present
  have restricted : ∀ {part : List α}, part ⊆ list →
      ((part.Pairwise fun earlier later => conflict earlier later = false) ↔
        part.Pairwise apart) := by
    intro part among
    apply List.Pairwise.iff_of_mem
    intro first second present secondPresent
    exact ⟨fun differ _ _ => differ, fun differ => differ (among present) (among secondPresent)⟩
  rw [restricted permuted.subset, restricted (List.Subset.refl _), permuted.pairwise_iff symmetric]

/-- The operations on a resource are among those that its members declare. -/
theorem mem_declared_of_own
    {members : List (Member σ)}
    {operation : Operation σ}
    (present : operation ∈ members.filterMap Member.own?) :
    operation ∈ members.filterMap Member.declared? := by
  obtain ⟨member, listed, adds⟩ := List.mem_filterMap.mp present
  refine List.mem_filterMap.mpr ⟨member, listed, ?_⟩
  cases member with
  | operation => exact adds
  | subOperation => cases adds
  | locator => cases adds

/-- The operations below a resource are among those that its members declare. -/
theorem mem_declared_of_below
    {members : List (Member σ)}
    {sub : SubOperation σ}
    (present : sub ∈ members.filterMap Member.below?) :
    sub.operation ∈ members.filterMap Member.declared? := by
  obtain ⟨member, listed, adds⟩ := List.mem_filterMap.mp present
  refine List.mem_filterMap.mpr ⟨member, listed, ?_⟩
  cases member with
  | operation => cases adds
  | subOperation =>
      obtain ⟨pattern, _, rfl⟩ := Option.map_eq_some_iff.mp adds
      rfl
  | locator => cases adds

/--
Whether a declaration makes a resource does not depend on the order of the members, unless the media
types of two operations with the same method are lopsided.  Just these are compared differently in
the two directions; media types of which none is listed twice are never found to be the fewer ones.
-/
theorem declare_perm
    {members others : List (Member σ)}
    (permuted : others.Perm members)
    (even : ∀ first ∈ members.filterMap Member.declared?,
      ∀ second ∈ members.filterMap Member.declared?, first.AreEven second)
    (name : Text)
    (template : Option Text) :
    ((∃ resource, declare name template others = .ok resource) ↔
        ∃ resource, declare name template members = .ok resource) ∧
      (∀ first second : List MediaType,
        Operation.sameTypes first second = Operation.sameTypes second first ↔
          ¬Operation.IsLopsided first second ∧ ¬Operation.IsLopsided second first) ∧
      ∀ first second : List MediaType,
        (first.map MediaType.essence).Nodup → ¬Operation.IsLopsided first second := by
  have own : ∀ first ∈ members.filterMap Member.own?, ∀ second ∈ members.filterMap Member.own?,
      first.conflictsWith second = second.conflictsWith first := by
    intro first present second secondPresent
    have declared := mem_declared_of_own present
    have secondDeclared := mem_declared_of_own secondPresent
    exact Operation.conflictsWith_comm (even _ declared _ secondDeclared)
      (even _ secondDeclared _ declared)
  have below : ∀ first ∈ members.filterMap Member.below?,
      ∀ second ∈ members.filterMap Member.below?,
        first.conflictsWith second = second.conflictsWith first := by
    intro first present second secondPresent
    have declared := mem_declared_of_below present
    have secondDeclared := mem_declared_of_below secondPresent
    exact SubOperation.conflictsWith_comm (even _ declared _ secondDeclared)
      (even _ secondDeclared _ declared)
  refine ⟨?_, fun _ _ => Operation.sameTypes_comm_iff,
    fun _ _ => Operation.not_isLopsided_of_nodup⟩
  rw [exists_declare_iff, exists_declare_iff,
    pairwise_perm_of_comm (permuted.filterMap _) own,
    pairwise_perm_of_comm (permuted.filterMap _) below]
  simp only [permuted.mem_iff]

/-- An operation that reads media types. -/
def reader (types : List MediaType) : Operation Unit where
  method := .post
  consumes := types
  handler _ state := (.error (.notFound []), state)

/-- Operations change places of which one reads a media type that is listed twice. -/
theorem declare_perm_readers :
    (∃ resource, declare [] none
        [.operation (reader [.json, .json]), .operation (reader [.octetStream, .plainText])] =
          .ok resource) ↔
      ∃ resource, declare [] none
        [.operation (reader [.octetStream, .plainText]), .operation (reader [.json, .json])] =
          .ok resource := by
  refine (declare_perm (.swap _ _ _) ?_ _ _).1
  intro first present second secondPresent
  rcases List.mem_pair.mp present with rfl | rfl <;>
    rcases List.mem_pair.mp secondPresent with rfl | rfl <;>
      exact ⟨by decide, by decide⟩

/--
An operation that lists a media type twice is taken to read the same as one that lists another one
with it, but not the other way round: which one is declared first decides.
-/
theorem declare_repeated :
    declare [] none
        [.operation (reader [.json, .json]), .operation (reader [.json, .plainText])] =
      .error (.duplicateOperation [] .post []) ∧
    (∃ resource, declare [] none
        [.operation (reader [.json, .plainText]), .operation (reader [.json, .json])] =
      .ok resource) ∧
    Operation.sameTypes [.json, .json] [.json, .plainText] = true ∧
    Operation.sameTypes [.json, .plainText] [.json, .json] = false :=
  ⟨rfl, ⟨_, rfl⟩, by decide, by decide⟩

end Resource
end ResourceRouting
