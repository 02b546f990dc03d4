import ResourceRouting.Proofs.Distinct
import ResourceRouting.Proofs.Uri.Segments
import ResourceRouting.Proofs.Uri.Substitution

/-!
# Building paths from templates of segments

Values given in the order in which names first occur are the values of the names.  A template of
segments is filled with them: literal segments stay, and every variable is replaced by the encoded
value of its name.
-/

namespace ResourceRouting
namespace Uri

namespace Values

/-- The names that have no text yet, in order of first occurrence. -/
def fresh (bound : List (Text × Text)) (names : List Text) : List Text :=
  (names.filter fun name => (bound.lookup name).isNone).eraseDups

/-- A name that has a text is not fresh. -/
theorem fresh_cons_of_bound
    {bound : List (Text × Text)}
    {name text : Text}
    (found : bound.lookup name = some text)
    (names : List Text) :
    fresh bound (name :: names) = fresh bound names := by
  simp [fresh, found]

/-- A name without a text is fresh, and no longer so once it has one. -/
theorem fresh_cons_of_unbound
    {bound : List (Text × Text)}
    {name : Text}
    (unbound : bound.lookup name = none)
    (names : List Text)
    (text : Text) :
    fresh bound (name :: names) = name :: fresh ((name, text) :: bound) names := by
  rw [fresh, List.filter_cons_of_pos (by rw [unbound]; rfl), List.eraseDups_cons,
    List.filter_filter, fresh]
  congr 2
  apply List.filter_congr
  intro other _
  by_cases same : other = name
  · rw [same, List.lookup_cons_self, beq_self_eq_true]
    rfl
  · rw [List.lookup_cons, beq_false_of_ne same]
    rfl

/--
Some values are what a component needs for names: those not yet used belong to the fresh names in
order, and the texts of the other names are their encoded values.
-/
def Supplies (component : Component) (value : Text → Text) (names : List Text) : Values → Prop
  | named _ => False
  | positional unused bound =>
      unused = (fresh bound names).map value ∧
        ∀ name text, bound.lookup name = some text → text = component.encode (value name)

/-- The next name gets its encoded value, and the values that remain are for the others. -/
theorem Supplies.resolve
    {component : Component}
    {value : Text → Text}
    {name : Text}
    {names : List Text}
    {values : Values}
    (supplies : Supplies component value (name :: names) values) :
    ∃ remaining,
      values.resolve name component true = .ok (some (component.encode (value name)), remaining) ∧
        Supplies component value names remaining := by
  cases values with
  | named bindings => cases supplies
  | positional unused bound =>
      obtain ⟨rfl, encoded⟩ := supplies
      cases found : bound.lookup name with
      | some text =>
          refine ⟨positional ((fresh bound (name :: names)).map value) bound, ?_, ?_, encoded⟩
          · simp only [Values.resolve, found]
            rw [encoded name text found]
          · rw [fresh_cons_of_bound found]
      | none =>
          have first := fresh_cons_of_unbound found names (component.encode (value name))
          refine ⟨positional
            ((fresh ((name, component.encode (value name)) :: bound) names).map value)
            ((name, component.encode (value name)) :: bound), ?_, rfl, ?_⟩
          · rw [first]
            simp only [Values.resolve, found]
            rfl
          · intro other text known
            rw [List.lookup_cons] at known
            split at known
            · rename_i same
              rw [eq_of_beq same]
              exact (Option.some.inj known).symm
            · exact encoded other text known

/-- The value of a name, of values given in order of first occurrence. -/
def valueOf (names values : List Text) (name : Text) : Text :=
  ((names.eraseDups.zip values).lookup name).getD []

/-- Distinct keys are looked up among their own values. -/
theorem map_lookup_zip
    {keys values : List Text}
    (distinct : keys.Nodup)
    (counts : keys.length = values.length) :
    keys.map (fun key => (keys.zip values).lookup key) = values.map some := by
  induction keys generalizing values with
  | nil =>
      cases values with
      | nil => rfl
      | cons value values => cases counts
  | cons key keys ih =>
      cases values with
      | nil => cases counts
      | cons value values =>
          rw [List.nodup_cons] at distinct
          have others : ∀ other ∈ keys,
              ((key, value) :: keys.zip values).lookup other = (keys.zip values).lookup other := by
            intro other present
            have different : other ≠ key := by
              rintro rfl
              exact distinct.1 present
            rw [List.lookup_cons, beq_false_of_ne different]
          rw [List.zip_cons_cons, List.map_cons, List.map_cons, List.lookup_cons_self,
            List.map_congr_left others, ih distinct.2 (Nat.succ.inj counts)]

/-- The value of a name is the one that is looked up among the values given. -/
theorem lookup_eq_valueOf
    {names values : List Text}
    (counts : names.eraseDups.length = values.length)
    {name : Text}
    (present : name ∈ names) :
    (names.eraseDups.zip values).lookup name = some (valueOf names values name) ∧
      valueOf names values name ∈ values := by
  have found : (names.eraseDups.zip values).lookup name ∈ values.map some := by
    rw [← map_lookup_zip (Distinct.nodup_eraseDups names) counts]
    exact List.mem_map_of_mem (List.mem_eraseDups.mpr present)
  obtain ⟨value, given, same⟩ := List.mem_map.mp found
  rw [valueOf, ← same]
  exact ⟨rfl, given⟩

/-- As many values as there are different names are what is needed for the names. -/
theorem supplies_ofList
    {names values : List Text}
    (counts : names.eraseDups.length = values.length)
    (component : Component) :
    Supplies component (valueOf names values) names (ofList values) := by
  have all : fresh [] names = names.eraseDups := by
    rw [fresh, List.filter_eq_self.mpr]
    exact fun _ _ => rfl
  refine ⟨?_, fun name text found => by cases found⟩
  have inOrder : (names.eraseDups.map (valueOf names values)).map some = values.map some := by
    rw [← map_lookup_zip (Distinct.nodup_eraseDups names) counts, List.map_map]
    apply List.map_congr_left
    intro name present
    exact (lookup_eq_valueOf counts (List.mem_eraseDups.mp present)).1.symm
  rw [all]
  exact (List.map_inj_right fun _ _ => Option.some.inj).mp inOrder.symm

end Values

/-- The path of a text is what is substituted for its placeholders. -/
theorem Parts.build_ofPath_eq (part : Text) (values : Values) (mode : BuildMode) :
    (Parts.ofPath part).build values mode =
      (substitute part .path mode values part).map Prod.fst := by
  cases part with
  | nil =>
      rw [substitute_plain (by simp)]
      rfl
  | cons first part =>
      cases substituted : substitute (first :: part) .path mode values (first :: part) <;>
        simp [build, ofPath, Draft.fillScheme, Draft.fillAuthority, Draft.fillPath, Draft.fillQuery,
          Draft.fillFragment, Draft.fill, substituted, Except.map, bind, Except.bind, pure,
          Except.pure]

/-- A path is built where its placeholders have been substituted. -/
theorem Parts.build_ofPath
    {part path : Text}
    {values final : Values}
    {mode : BuildMode}
    (substituted : substitute part .path mode values part = .ok (path, final)) :
    (Parts.ofPath part).build values mode = .ok path := by
  rw [build_ofPath_eq, substituted]
  rfl

namespace Segment

/-- What a segment becomes when its variable is replaced by the encoded value of its name. -/
def fill (component : Component) (value : Text → Text) : Segment → Text
  | literal text => text
  | braced body => component.encode (value (Template.splitVariable body).1)

/-- A slash or a character of a literal segment opens no brace. -/
theorem isPlain_of_isBrace {character : Char} (plain : Template.isBrace character = false) :
    isPlain character = true := by
  simp only [Template.isBrace, Bool.or_eq_false_iff, decide_eq_false_iff_not] at plain
  simp [isPlain, plain.1]

/-- A template of valid segments is filled segment by segment. -/
theorem substitute_append_join
    {segments : List Segment}
    (valid : ∀ segment ∈ segments, segment.IsValid)
    {component : Component}
    {value : Text → Text}
    {values : Values}
    (supplies : values.Supplies component value (names segments))
    {literal : Text}
    (plain : ∀ character ∈ literal, isPlain character = true)
    (whole : Text) :
    ∃ final,
      substitute whole component {} values (literal ++ join (segments.map text)) =
        .ok (literal ++ join (segments.map (fill component value)), final) := by
  induction segments generalizing values literal with
  | nil =>
      refine ⟨values, ?_⟩
      rw [List.map_nil, List.map_nil, join_nil, List.append_nil]
      exact substitute_plain plain whole component {} values
  | cons segment segments ih =>
      have own := valid segment (List.mem_cons_self ..)
      have others := fun other present => valid other (List.mem_cons_of_mem _ present)
      cases segment with
      | literal written =>
          have longer : ∀ character ∈ literal ++ '/' :: written, isPlain character = true := by
            intro character present
            rcases List.mem_append.mp present with before | here
            · exact plain character before
            · rcases List.mem_cons.mp here with rfl | inText
              · decide
              · exact isPlain_of_isBrace (own.2.2 character inText)
          obtain ⟨final, filled⟩ := ih others supplies longer
          refine ⟨final, ?_⟩
          simpa [text, fill] using filled
      | braced body =>
          obtain ⟨closed, _, _⟩ := own
          obtain ⟨remaining, found, further⟩ := supplies.resolve
          have longer : ∀ character ∈ literal ++ ['/'], isPlain character = true := by
            intro character present
            rcases List.mem_append.mp present with before | slash
            · exact plain character before
            · rw [List.mem_singleton.mp slash]
              decide
          obtain ⟨final, filled⟩ := @ih others remaining further [] (by simp)
          have behind := Template.closeBrace_append closed (join (segments.map text))
          refine ⟨final, ?_⟩
          have replaced := @substitute_append_braced _ _ _ _ _ whole _ {} _ _ longer behind found
          rw [List.nil_append] at replaced filled
          rw [filled, Except.map] at replaced
          simpa [text, fill] using replaced

/--
A path is built from a template of valid segments and as many values as there are different
names: the encoded values stand in the places of the variables.
-/
theorem build_template
    {segments : List Segment}
    (valid : ∀ segment ∈ segments, segment.IsValid)
    {values : List Text}
    (counts : (names segments).eraseDups.length = values.length) :
    (Parts.ofPath (template segments false)).build (.ofList values) {} =
      .ok (join (segments.map (fill .path (Values.valueOf (names segments) values)))) := by
  have supplies := Values.supplies_ofList counts .path
  obtain ⟨final, filled⟩ := @substitute_append_join segments valid _ _ _ supplies [] (by simp)
    (template segments false)
  apply @Parts.build_ofPath _ _ _ final
  simpa [template] using filled

end Segment

end Uri
end ResourceRouting
