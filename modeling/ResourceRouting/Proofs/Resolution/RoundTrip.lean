import ResourceRouting.Proofs.Resolution.Chain
import ResourceRouting.Proofs.Uri.Building
import ResourceRouting.Proofs.Uri.Decoding
import ResourceRouting.Proofs.Uri.Legal

/-!
# From a route to a path and back

A path that is built from the template of a chain of resources is resolved to the end of the chain,
and every variable is bound to the value that its name was given.
-/

namespace ResourceRouting
namespace Uri
namespace Segment

/-- Whether a segment is written in a path as it stands in a template. -/
def IsKept : Segment → Prop
  | literal text => Component.path.encodeLiteral text = text
  | braced _ => True

instance : DecidablePred IsKept
  | literal text => inferInstanceAs (Decidable (Component.path.encodeLiteral text = text))
  | braced _ => inferInstanceAs (Decidable True)

/-- What a segment is filled with in a path is read back as the value of its name. -/
theorem isWritten_fill
    {value : Text → Text}
    {segment : Segment}
    (kept : segment.IsKept)
    (proper : ∀ name, segment.name? = some name → value name ≠ [] ∧ '/' ∉ value name) :
    segment.IsWritten true (fill .path value) value := by
  cases segment with
  | literal text =>
      have same : Component.path.encodeLiteral text = text := kept
      refine ⟨same.symm, ?_, fun name named => by cases named⟩
      rw [fill, ← same]
      exact Component.newline_not_mem_encodeLiteral_path text
  | braced body =>
      obtain ⟨nonempty, single⟩ := proper _ rfl
      refine ⟨⟨Component.encode_ne_nil nonempty, Component.slash_not_mem_encode single⟩,
        Component.newline_not_mem_encode_path _, ?_⟩
      rintro name ⟨⟩
      rw [Resolution.decodeValue, if_pos rfl, fill, Component.decode_encode,
        Utf8.decode?_encode]

end Segment
end Uri

namespace Resolution

open Uri (Segment)

variable {σ : Type}

/-- All segments along a chain are valid. -/
theorem Chain.valid
    {directory : Directory σ}
    {state : σ}
    {resource last : Resource σ}
    {routes : List (List Segment)}
    {operations : List (Operation σ)}
    (chain : Chain directory state resource routes last operations) :
    ∀ segment ∈ routes.flatten, segment.IsValid := by
  induction chain with
  | arrived _ _ _ => simp
  | operation _ _ route =>
      rw [List.flatten_cons, List.flatten_nil, List.append_nil]
      exact route.valid
  | locator _ _ route _ _ ih =>
      intro segment present
      rw [List.flatten_cons] at present
      rcases List.mem_append.mp present with own | further
      · exact route.valid segment own
      · exact ih segment further

/--
A path built from the template of a chain leads back.  As many values as there are different
names, each of them a segment, give a path.  It is resolved to the end of the chain with the
template of the chain, and the names are bound in order, each occurrence to the value of its name.
-/
theorem resolve?_build
    {directory : Directory σ}
    {state : σ}
    {root last : Resource σ}
    {segments : List Segment}
    {routes : List (List Segment)}
    {operations : List (Operation σ)}
    {values : List Text}
    (route : IsRoute root.pattern segments)
    (chain : Chain directory state root routes last operations)
    (kept : ∀ segment ∈ (segments :: routes).flatten, segment.IsKept)
    (counts : (routeNames (segments :: routes)).eraseDups.length = values.length)
    (proper : ∀ value ∈ values, value ≠ [] ∧ '/' ∉ value) :
    ∃ path,
      (Uri.Parts.ofPath (routeTemplate (segments :: routes))).build (.ofList values) {} =
          .ok path ∧
        ∀ request : Request, request.path = path → ∀ limit, routes.length ≤ limit →
          ∃ bindings,
            resolve? [root] directory true state limit request =
                some
                  ({ request with parameters := ⟨request.parameters.bindings ++ bindings⟩ },
                    .ok ⟨last, operations, routeTemplate (segments :: routes)⟩) ∧
              bindings.map (fun (name, value) => (name, some value)) =
                (routeNames (segments :: routes)).map fun name =>
                  (name, ((routeNames (segments :: routes)).eraseDups.zip values).lookup name) := by
  have valid : ∀ segment ∈ (segments :: routes).flatten, segment.IsValid := by
    intro segment present
    rw [List.flatten_cons] at present
    rcases List.mem_append.mp present with own | further
    · exact route.valid segment own
    · exact chain.valid segment further
  let value := Uri.Values.valueOf (routeNames (segments :: routes)) values
  have written : ∀ segment ∈ (segments :: routes).flatten,
      segment.IsWritten true (Segment.fill .path value) value := by
    intro segment present
    apply Segment.isWritten_fill (kept segment present)
    intro name named
    have known := Segment.mem_names present named
    exact proper _ (Uri.Values.lookup_eq_valueOf counts known).2
  refine ⟨_, Segment.build_template valid counts, ?_⟩
  intro request path limit enough
  refine ⟨(routeNames (segments :: routes)).map fun name => (name, value name),
    chain.resolve? route written enough path, ?_⟩
  rw [List.map_map]
  apply List.map_congr_left
  intro name present
  rw [(Uri.Values.lookup_eq_valueOf counts present).1]
  rfl

/-- A name that occurs on two levels, with a value that has to be encoded. -/
theorem resolve?_build_nest :
    ∃ own between below bindings,
      Uri.Pattern.compile "/a/{x}".toList = .ok own ∧
        Uri.Pattern.compile "/{y}".toList = .ok between ∧
          Uri.Pattern.compile "/{x}".toList = .ok below ∧
            (Uri.Parts.ofPath "/a/{x}/{y}/{x}".toList).build
                (.ofList ["ü b".toList, "1".toList]) {} =
              .ok "/a/%C3%BC%20b/1/%C3%BC%20b".toList ∧
              resolve? [⟨[], own, [], [], [⟨between, fun _ _ => some []⟩]⟩]
                  (fun _ => some (nest .empty below)) true () 2
                  { method := .get, path := "/a/%C3%BC%20b/1/%C3%BC%20b".toList } =
                some (⟨.get, "/a/%C3%BC%20b/1/%C3%BC%20b".toList, [], {}, [], ⟨bindings⟩, none⟩,
                  .ok ⟨nest .empty below, [idle], "/a/{x}/{y}/{x}".toList⟩) ∧
                bindings.map (fun (name, value) => (name, some value)) =
                  [("x".toList, some "ü b".toList), ("y".toList, some "1".toList),
                    ("x".toList, some "ü b".toList)] := by
  let first := [Segment.literal "a".toList, .braced "x".toList]
  let second := [Segment.braced "y".toList]
  let third := [Segment.braced "x".toList]
  obtain ⟨own, route⟩ := @exists_isRoute first (by decide) (by decide +kernel) (by decide +kernel)
  obtain ⟨between, further⟩ :=
    @exists_isRoute second (by decide) (by decide +kernel) (by decide +kernel)
  obtain ⟨below, lowest⟩ :=
    @exists_isRoute third (by decide) (by decide +kernel) (by decide +kernel)
  have chain : Chain (fun _ => some (nest .empty below)) ()
      ⟨[], own, [], [], [⟨between, fun _ _ => some []⟩]⟩ [second, third] (nest .empty below)
      [idle] :=
    @Chain.locator Unit _ _ _ (nest .empty below) _ ⟨between, fun _ _ => some []⟩ second _ _ rfl
      rfl further (fun _ => rfl) (chain_nest lowest _)
  have kept : ∀ segment ∈ [first, second, third].flatten, segment.IsKept := by
    decide +kernel
  obtain ⟨path, built, back⟩ := resolve?_build route chain kept
    (show _ = ["ü b".toList, "1".toList].length by decide +kernel) (by decide +kernel)
  have template : routeTemplate [first, second, third] = "/a/{x}/{y}/{x}".toList := by decide
  have computed : (Uri.Parts.ofPath "/a/{x}/{y}/{x}".toList).build
      (.ofList ["ü b".toList, "1".toList]) {} = .ok "/a/%C3%BC%20b/1/%C3%BC%20b".toList := by
    decide +kernel
  rw [template] at built back
  obtain rfl := Except.ok.inj (built.symm.trans computed)
  obtain ⟨bindings, resolved, bound⟩ := back
    { method := .get, path := "/a/%C3%BC%20b/1/%C3%BC%20b".toList } rfl 2 (Nat.le_refl 2)
  have expected : (routeNames [first, second, third]).map (fun name =>
      (name, ((routeNames [first, second, third]).eraseDups.zip
        ["ü b".toList, "1".toList]).lookup name)) =
      [("x".toList, some "ü b".toList), ("y".toList, some "1".toList),
        ("x".toList, some "ü b".toList)] := by
    decide +kernel
  exact ⟨own, between, below, bindings, route.compiled, further.compiled, lowest.compiled,
    computed, resolved, bound.trans expected⟩

end Resolution
end ResourceRouting
