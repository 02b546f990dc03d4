import ResourceRouting.Proofs.Registry
import ResourceRouting.Proofs.Resolution.Chain
import ResourceRouting.Proofs.Resolution.Root
import ResourceRouting.Proofs.Uri.Shape.Literal

/-!
# Literal routes

A resource that is registered at a path without variables answers this path, whatever other
resources match the path or a part of it.
-/

namespace ResourceRouting
namespace Resolution

variable {σ : Type}

/--
A literal route is never shadowed.  In a reachable registry whose templates use default
expressions only, the resource at the pattern of a path that needs no escapes and does not end
with a slash is the one that is chosen for this path, and nothing of the path is left.
-/
theorem rootInto_literal_route
    {registry : Registry σ}
    {path : Text}
    {pattern : Uri.Pattern}
    {resource : Resource σ}
    (reachable : registry.Reachable)
    (defaults : ∀ other ∈ registry.resources, Uri.Template.UsesDefaults other.pattern.text)
    (slash : path.head? = some '/')
    (unslashed : path.getLast? ≠ some '/')
    (unescaped : Uri.Component.path.encodeLiteral path = path)
    (compiled : Uri.Pattern.compile path = .ok pattern)
    (present : resource ∈ registry.resources)
    (same : resource.pattern.same pattern = true)
    (buffer : List (Option Text)) :
    rootInto registry.resources path buffer = (some resource, [none]) := by
  have nonempty : path ≠ [] := by
    rintro rfl
    cases slash
  have ownCompiled := (reachable.declared resource present).compiled.1
  have follows : resource.pattern.Follows (path.map .char) :=
    ownCompiled.follows_of_same (defaults resource present) same
      (Uri.Pattern.follows_of_encodeLiteral slash unslashed unescaped compiled)
  have matched : resource.pattern.match? path = some ⟨[], none⟩ := by
    rw [follows.match? path nonempty, Uri.Shape.match?_map_char]
  have admits : rootSearch.admitted? path resource = some (resource, ⟨[], none⟩) :=
    admitted?_rootSearch_iff.mpr ⟨rfl, matched, .inl rfl⟩
  have others : ∀ other ∈ registry.resources, rootSearch.admitted? path other ≠ none →
      other = resource ∨ rootSearch.better resource other = true := by
    intro other otherPresent admitted
    obtain ⟨entry, otherAdmits⟩ := Option.ne_none_iff_exists'.mp admitted
    have otherMatched := (admitted?_rootSearch_iff.mp otherAdmits).2.matched
    have otherCompiled := (reachable.declared other otherPresent).compiled.1
    obtain ⟨_, _, otherFollows⟩ := otherCompiled.exists_follows (defaults other otherPresent)
      (Uri.Pattern.ne_empty_of_match? nonempty otherMatched)
    cases patterns : other.pattern.same resource.pattern with
    | true => exact .inl (reachable.eq_of_same otherPresent present patterns)
    | false =>
        exact .inr (Uri.Pattern.precedes_of_follows nonempty ownCompiled follows otherCompiled
          otherFollows otherMatched patterns)
  have found := Uri.Search.find?_eq_some_of_better (fun _ _ => better_rootSearch_iff) present
    admits others
  rw [rootInto, Uri.Search.findInto_eq, found]
  rfl

/-- A literal route is chosen before one with a variable and one that goes on below its path. -/
theorem rootInto_literal_route_among_others :
    ∃ (registry : Registry Unit) (broad named literal : Resource Unit) (pattern : Uri.Pattern),
      registry.Reachable ∧ registry.resources = [broad, named, literal] ∧
        Eligible "/a/b".toList broad ⟨[], some "/b".toList⟩ ∧
        Eligible "/a/b".toList named ⟨[some ['b']], none⟩ ∧
        (∀ other ∈ registry.resources, Uri.Template.UsesDefaults other.pattern.text) ∧
        Uri.Component.path.encodeLiteral "/a/b".toList = "/a/b".toList ∧
        Uri.Pattern.compile "/a/b".toList = .ok pattern ∧ literal.pattern.same pattern = true ∧
        rootInto registry.resources "/a/b".toList [] = (some literal, [none]) := by
  obtain ⟨mount, _, mountPattern, _⟩ :=
    Resource.exists_isDeclared (σ := Unit) (by decide +kernel :
      (Uri.Pattern.compile "/a".toList).toBool = true)
  obtain ⟨named, namedDeclared, namedPattern, _⟩ :=
    Resource.exists_isDeclared (σ := Unit) (by decide +kernel :
      (Uri.Pattern.compile "/a/{x}".toList).toBool = true)
  obtain ⟨literal, literalDeclared, literalPattern, _⟩ :=
    Resource.exists_isDeclared (σ := Unit) (by decide +kernel :
      (Uri.Pattern.compile "/a/b".toList).toBool = true)
  let broad : Resource Unit := ⟨"a".toList, mount.pattern, [], [⟨literal.pattern, idle⟩], []⟩
  have broadDeclared : broad.IsDeclared :=
    Resource.isDeclared_of_compile mountPattern literalPattern idle
  have broadText : broad.pattern.text = "/a".toList :=
    Uri.Pattern.view_eq_of_compile mountPattern (·.text) (by decide +kernel)
  have namedText : named.pattern.text = "/a/{x}".toList :=
    Uri.Pattern.view_eq_of_compile namedPattern (·.text) (by decide +kernel)
  have literalText : literal.pattern.text = "/a/b".toList :=
    Uri.Pattern.view_eq_of_compile literalPattern (·.text) (by decide +kernel)
  have broadExpression : broad.pattern.expression = "/a(/.*)?".toList :=
    Uri.Pattern.view_eq_of_compile mountPattern (·.expression) (by decide +kernel)
  have namedExpression : named.pattern.expression = "/a/([^/]+)(/.*)?".toList :=
    Uri.Pattern.view_eq_of_compile namedPattern (·.expression) (by decide +kernel)
  have literalExpression : literal.pattern.expression = "/a/b(/.*)?".toList :=
    Uri.Pattern.view_eq_of_compile literalPattern (·.expression) (by decide +kernel)
  have broadMatch : broad.pattern.match? "/a/b".toList = some ⟨[], some "/b".toList⟩ :=
    Uri.Pattern.view_eq_of_compile mountPattern (·.match? "/a/b".toList) (by decide +kernel)
  have namedMatch : named.pattern.match? "/a/b".toList = some ⟨[some ['b']], none⟩ :=
    Uri.Pattern.view_eq_of_compile namedPattern (·.match? "/a/b".toList) (by decide +kernel)
  have reachable : Registry.Reachable ⟨[broad, named, literal]⟩ :=
    Registry.reachable_of_distinct (by simp [broadDeclared, namedDeclared, literalDeclared])
      (by simp [Uri.Pattern.same, broadExpression, namedExpression, literalExpression])
  have defaults : ∀ other ∈ [broad, named, literal],
      Uri.Template.UsesDefaults other.pattern.text := by
    simp only [List.mem_cons, List.not_mem_nil, or_false, forall_eq_or_imp, forall_eq]
    rw [broadText, namedText, literalText]
    decide +kernel
  have unescaped : Uri.Component.path.encodeLiteral "/a/b".toList = "/a/b".toList := by decide
  refine ⟨⟨[broad, named, literal]⟩, broad, named, literal, literal.pattern, reachable, rfl,
    ⟨broadMatch, .inr (.inr (.inl (List.cons_ne_nil _ _)))⟩, ⟨namedMatch, .inl rfl⟩, defaults,
    unescaped, literalPattern, decide_eq_true rfl, ?_⟩
  exact rootInto_literal_route reachable defaults (by decide) (by decide) unescaped literalPattern
    (by simp) (decide_eq_true rfl) []

end Resolution
end ResourceRouting
